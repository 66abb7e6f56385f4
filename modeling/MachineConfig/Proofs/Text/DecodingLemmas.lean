import Mathlib.Tactic.IntervalCases
import MachineConfig.Text.Utf8

/-!
Decoding any bytes. Where the bytes are those of a text, no replacement character comes up: the
text is read as it is (`decodeLossy_toUTF8`).
-/

namespace MachineConfig.Text

theorem toList_loop (bytes : ByteArray) (i : Nat) (read : List UInt8) :
    ByteArray.toList.loop bytes i read = read.reverse ++ bytes.data.toList.drop i := by
  fun_induction ByteArray.toList.loop bytes i read with
  | case1 i read hlt ih =>
    have hlength : i < bytes.data.toList.length := by simpa using hlt
    have hget : bytes.get! i = bytes.data.toList[i] := by
      rw [Array.getElem_toList]
      exact getElem!_pos bytes.data i hlt
    rw [ih, List.drop_eq_getElem_cons hlength, hget, List.reverse_cons, List.append_assoc]
    rfl
  | case2 i read hle =>
    rw [List.drop_eq_nil_of_le (by simpa using Nat.le_of_not_lt hle), List.append_nil]

theorem toList_toUTF8 (s : String) : s.toUTF8.toList = s.toList.flatMap String.utf8EncodeChar := by
  rw [ByteArray.toList, toList_loop, String.toUTF8_eq_toByteArray, ← String.utf8Encode_toList,
    List.utf8Encode, List.toList_data_toByteArray]
  rfl

/-! ## The bytes of a character -/

theorem startSequence?_one {n : Nat} (h : n < 0x80) :
    startSequence? (UInt8.ofNat n) = some (.inl (Char.ofNat n)) := by
  interval_cases n <;> rfl

theorem startSequence?_two {n : Nat} (h : 2 ≤ n) (h' : n < 0x20) :
    startSequence? (UInt8.ofNat (n + 0xC0)) = some (.inr ⟨1, 0x80, 0xBF, n⟩) := by
  interval_cases n <;> rfl

theorem startSequence?_three {n : Nat} (h : n < 0x10) : startSequence? (UInt8.ofNat (n + 0xE0)) =
    some (.inr ⟨2, if n = 0 then 0xA0 else 0x80, if n = 13 then 0x9F else 0xBF, n⟩) := by
  interval_cases n <;> rfl

theorem startSequence?_four {n : Nat} (h : n < 5) : startSequence? (UInt8.ofNat (n + 0xF0)) =
    some (.inr ⟨3, if n = 0 then 0x90 else 0x80, if n = 4 then 0x8F else 0xBF, n⟩) := by
  interval_cases n <;> rfl

/-- A byte after the lead byte holds six bits. -/
theorem Pending.extend?_tail {p : Pending} {n : Nat} (hn : n < 0x40)
    (hlow : p.low.toNat ≤ n + 0x80) (hhigh : n + 0x80 ≤ p.high.toNat) :
    p.extend? (UInt8.ofNat (n + 0x80)) = some (if p.missing = 1 then
      .inl (Char.ofNat (p.code * 0x40 + n))
    else .inr ⟨p.missing - 1, 0x80, 0xBF, p.code * 0x40 + n⟩) := by
  have hbyte : (UInt8.ofNat (n + 0x80)).toNat = n + 0x80 := by
    rw [UInt8.toNat_ofNat']
    omega
  have hbits : (n + 0x80) % 0x40 = n := by omega
  have hrange : (p.low ≤ UInt8.ofNat (n + 0x80) && UInt8.ofNat (n + 0x80) ≤ p.high) = true := by
    rw [Bool.and_eq_true, decide_eq_true_iff, decide_eq_true_iff, UInt8.le_iff_toNat_le,
      UInt8.le_iff_toNat_le, hbyte]
    exact ⟨hlow, hhigh⟩
  rw [Pending.extend?, if_pos hrange, hbyte, hbits]

theorem decodeFrom_lead {b : UInt8} {bs : List UInt8} {p : Pending}
    (h : startSequence? b = some (.inr p)) :
    decodeFrom none (b :: bs) = decodeFrom (some p) bs := by
  simp [decodeFrom, decodeByte, decodeByte.startAt, h]

theorem decodeFrom_tail {n : Nat} {bs : List UInt8} {p : Pending} (hn : n < 0x40)
    (hlow : p.low.toNat ≤ n + 0x80) (hhigh : n + 0x80 ≤ p.high.toNat) (hmissing : p.missing ≠ 1) :
    decodeFrom (some p) (UInt8.ofNat (n + 0x80) :: bs) =
      decodeFrom (some ⟨p.missing - 1, 0x80, 0xBF, p.code * 0x40 + n⟩) bs := by
  simp only [decodeFrom, decodeByte, Pending.extend?_tail hn hlow hhigh, if_neg hmissing,
    List.nil_append]

theorem decodeFrom_last {n : Nat} {bs : List UInt8} {p : Pending} (hn : n < 0x40)
    (hlow : p.low.toNat ≤ n + 0x80) (hhigh : n + 0x80 ≤ p.high.toNat) (hmissing : p.missing = 1) :
    decodeFrom (some p) (UInt8.ofNat (n + 0x80) :: bs) =
      Char.ofNat (p.code * 0x40 + n) :: decodeFrom none bs := by
  simp only [decodeFrom, decodeByte, Pending.extend?_tail hn hlow hhigh, if_pos hmissing]
  rfl

/-- The bytes of a character are read as the character. -/
theorem decodeFrom_utf8EncodeChar (c : Char) (bs : List UInt8) :
    decodeFrom none (String.utf8EncodeChar c ++ bs) = c :: decodeFrom none bs := by
  obtain ⟨v, hv⟩ : ∃ v, v = c.val.toNat := ⟨_, rfl⟩
  have hchar : Char.ofNat v = c := by
    rw [hv]
    exact Char.ofNat_toNat c
  have hvalid : v < 0xD800 ∨ 0xDFFF < v ∧ v < 0x110000 := hv ▸ c.valid
  simp only [String.utf8EncodeChar, ← hv]
  split
  · next hone =>
    have hlead := startSequence?_one (Nat.lt_succ_of_le hone)
    rw [hchar] at hlead
    simp [decodeFrom, decodeByte, decodeByte.startAt, hlead]
  next hone =>
  split
  · next htwo =>
    have hcode : v / 64 % 32 * 64 + v % 64 = v := by omega
    rw [List.cons_append, List.singleton_append,
      decodeFrom_lead (startSequence?_two (by omega) (by omega)),
      decodeFrom_last (by omega) (Nat.le_add_left ..) (by simp; omega) rfl, hcode, hchar]
  next htwo =>
  -- From here on the lead byte may bound the byte after it: what fits in fewer bytes, halves of
  -- pairs and what is beyond the last character are not text.
  split
  · next hthree =>
    have hcode : (v / 4096 % 16 * 64 + v / 64 % 64) * 64 + v % 64 = v := by omega
    have hlow : (if v / 4096 % 16 = 0 then 0xA0 else 0x80 : UInt8).toNat ≤ v / 64 % 64 + 128 := by
      split <;> simp
      omega
    have hhigh : v / 64 % 64 + 128 ≤ (if v / 4096 % 16 = 13 then 0x9F else 0xBF : UInt8).toNat := by
      split <;> simp <;> omega
    rw [List.cons_append, List.cons_append, List.singleton_append,
      decodeFrom_lead (startSequence?_three (by omega)),
      decodeFrom_tail (by omega) hlow hhigh (by simp),
      decodeFrom_last (by omega) (Nat.le_add_left ..) (by simp; omega) rfl, hcode, hchar]
  · next hthree =>
    have hcode : ((v / 262144 % 8 * 64 + v / 4096 % 64) * 64 + v / 64 % 64) * 64 + v % 64 = v := by
      omega
    have hlow :
        (if v / 262144 % 8 = 0 then 0x90 else 0x80 : UInt8).toNat ≤ v / 4096 % 64 + 128 := by
      split <;> simp
      omega
    have hhigh :
        v / 4096 % 64 + 128 ≤ (if v / 262144 % 8 = 4 then 0x8F else 0xBF : UInt8).toNat := by
      split <;> simp <;> omega
    rw [List.cons_append, List.cons_append, List.cons_append, List.singleton_append,
      decodeFrom_lead (startSequence?_four (by omega)),
      decodeFrom_tail (by omega) hlow hhigh (by simp),
      decodeFrom_tail (by omega) (Nat.le_add_left ..) (by simp; omega) (by simp),
      decodeFrom_last (by omega) (Nat.le_add_left ..) (by simp; omega) rfl, hcode, hchar]

theorem decodeLossy_toUTF8 (s : String) : decodeLossy s.toUTF8 = s.toList := by
  rw [decodeLossy, toList_toUTF8]
  induction s.toList with
  | nil => rfl
  | cons c cs ih => rw [List.flatMap_cons, decodeFrom_utf8EncodeChar, ih]

end MachineConfig.Text
