import Mathlib.Data.List.Basic
import MachineConfig.Text.CodePoint

/-!
Code points and their spelling. A text is found again from its code points (`ofCodes_codes`) and
code points from their text (`codes_ofCodes`); so a text that can be encoded is the text of its
characters (`eq_ofChars_of_isEncodable`), and every sequence of characters has a text, which can be
encoded (`isEncodable_ofChars`).
-/

namespace MachineConfig.Text

variable {c d : Char} {cs ds : List Char} {s t : String} {code : Nat} {ns : List Nat}

/-! ## Ranges -/

theorem isHalfCode_iff : isHalfCode code ↔ 0xD800 ≤ code ∧ code ≤ 0xDFFF := by
  simp only [isHalfCode, Bool.and_eq_true, decide_eq_true_eq]

theorem isReserved_iff : isReserved code ↔ 0x10D800 ≤ code ∧ code < 0x10E080 := by
  simp only [isReserved, Bool.and_eq_true, decide_eq_true_eq]
  rfl

theorem isLead_iff : isLead c ↔ 0x10E000 ≤ c.toNat ∧ c.toNat < 0x10E040 := by
  simp only [isLead, Bool.and_eq_true, decide_eq_true_eq]
  rfl

theorem isTrail_iff : isTrail c ↔ 0x10E040 ≤ c.toNat ∧ c.toNat < 0x10E080 := by
  simp only [isTrail, Bool.and_eq_true, decide_eq_true_eq]
  rfl

theorem isCharacter_iff : isCharacter code ↔ code.isValidChar := by
  rw [isCharacter, Bool.and_eq_true, decide_eq_true_eq, Bool.not_eq_true', Bool.eq_false_iff, ne_eq,
    isHalfCode_iff, Nat.isValidChar]
  omega

theorem isCharacter_toNat (c : Char) : isCharacter c.toNat := isCharacter_iff.2 c.valid

theorem toNat_ofNat (h : isCharacter code) : (Char.ofNat code).toNat = code := by
  rw [Char.ofNat, dif_pos (isCharacter_iff.1 h)]
  rfl

theorem toNat_ofNat_of_lt (h : 0xDFFF < code) (h' : code < 0x110000) :
    (Char.ofNat code).toNat = code :=
  toNat_ofNat (isCharacter_iff.2 (.inr ⟨h, h'⟩))

/-! ## Spelling -/

theorem spell_half (h : isHalfCode code) : spell code = [Char.ofNat (0x100000 + code)] := by
  rw [spell, if_pos h]
  rfl

theorem spell_reserved (h : isReserved code) :
    spell code = [Char.ofNat (0x10E000 + (code - 0x10D800) / 64),
      Char.ofNat (0x10E040 + (code - 0x10D800) % 64)] := by
  have hhalf : ¬isHalfCode code := by
    rw [isReserved_iff] at h
    rw [isHalfCode_iff]
    omega
  rw [spell, if_neg hhalf, if_pos h]
  rfl

theorem spell_plain (hcharacter : isCharacter code) (hfree : ¬isReserved code) :
    spell code = [Char.ofNat code] := by
  have hnear : ¬strayOffset ≤ code := by
    have hvalid := isCharacter_iff.1 hcharacter
    simp only [Nat.isValidChar] at hvalid
    simp only [strayOffset]
    omega
  have hhalf : ¬isHalfCode code := by simpa using (Bool.and_eq_true_iff.1 hcharacter).2
  rw [spell, if_neg hhalf, if_neg hfree, if_neg hnear]

/-- What a character counts as by itself is told from where it lies. -/
theorem codeOf_eq (c : Char) : codeOf c =
    if 0x10D800 ≤ c.toNat ∧ c.toNat < 0x10E000 then c.toNat - 0x100000
    else if isReserved c.toNat then 0x110000 + c.toNat else c.toNat := by
  by_cases hhalf : 0x10D800 ≤ c.toNat ∧ c.toNat < 0x10E000
  · have h : halfCode? c = some (c.toNat - 0x100000) := by
      rw [halfCode?, firstReserved, firstLead, halfOffset, if_pos hhalf]
    rw [codeOf, h, if_pos hhalf, Option.getD_some]
  · have h : halfCode? c = none := by
      rw [halfCode?, firstReserved, firstLead, if_neg hhalf]
    have hpair : (isLead c || isTrail c) = isReserved c.toNat := by
      rw [Bool.eq_iff_iff, Bool.or_eq_true, isLead_iff, isTrail_iff, isReserved_iff]
      omega
    rw [codeOf, h, if_neg hhalf, Option.getD_none, hpair, strayOffset]

theorem spell_codeOf (c : Char) : spell (codeOf c) = [c] := by
  have hcharacter := isCharacter_toNat c
  have hvalid := isCharacter_iff.1 hcharacter
  simp only [Nat.isValidChar] at hvalid
  rw [codeOf_eq]
  split
  · next hhalf =>
    rw [spell_half (isHalfCode_iff.2 (by omega)), Nat.add_sub_cancel' (by omega), Char.ofNat_toNat]
  split
  · next hreserved =>
    have hhalf : ¬isHalfCode (0x110000 + c.toNat) := by
      rw [isHalfCode_iff]
      omega
    have hfar : ¬isReserved (0x110000 + c.toNat) := by
      rw [isReserved_iff]
      omega
    rw [spell, if_neg hhalf, if_neg hfar, strayOffset, if_pos (Nat.le_add_right ..),
      Nat.add_sub_cancel_left, Char.ofNat_toNat]
  · next hfree => rw [spell_plain hcharacter hfree, Char.ofNat_toNat]

theorem pairCode?_eq_some_iff : pairCode? c d = some code ↔ isLead c ∧ isTrail d ∧
    code = 0x10D800 + (c.toNat - 0x10E000) * 64 + (d.toNat - 0x10E040) ∧ code < 0x10E080 := by
  rw [pairCode?, Option.ite_none_right_eq_some, Bool.and_eq_true, Bool.and_eq_true,
    decide_eq_true_eq, Option.some.injEq, and_assoc, and_assoc, firstReserved, firstLead,
    firstTrail, endReserved]
  refine and_congr_right fun _ => and_congr_right fun _ => ⟨fun h => ?_, fun h => ?_⟩
  · exact ⟨h.2.symm, h.2 ▸ h.1⟩
  · exact ⟨h.1 ▸ h.2, h.1.symm⟩

theorem spell_of_pairCode? (h : pairCode? c d = some code) : spell code = [c, d] := by
  obtain ⟨hlead, htrail, hcode, hend⟩ := pairCode?_eq_some_iff.1 h
  rw [isLead_iff] at hlead
  rw [isTrail_iff] at htrail
  have hopen : 0x10E000 + (code - 0x10D800) / 64 = c.toNat := by omega
  have hclose : 0x10E040 + (code - 0x10D800) % 64 = d.toNat := by omega
  rw [spell_reserved (isReserved_iff.2 (by omega)), hopen, hclose, Char.ofNat_toNat,
    Char.ofNat_toNat]

/-- A text is found again from its code points. -/
theorem ofCodes_codes (cs : List Char) : ofCodes (codes cs) = cs := by
  fun_induction codes cs with
  | case1 => rfl
  | case2 c => simp [ofCodes, spell_codeOf]
  | case3 c d cs code h ih =>
    rw [ofCodes, List.flatMap_cons, spell_of_pairCode? h, ← ofCodes, ih]
    rfl
  | case4 c d cs h ih =>
    rw [ofCodes, List.flatMap_cons, spell_codeOf, ← ofCodes, ih]
    rfl

theorem codes_injective (h : codes cs = codes ds) : cs = ds := by
  rw [← ofCodes_codes cs, h, ofCodes_codes]

/-- A character that opens no pair counts by itself. -/
theorem codes_cons (h : isLead c = false) (cs : List Char) :
    codes (c :: cs) = codeOf c :: codes cs := by
  cases cs with
  | nil => rfl
  | cons d cs => simp [codes, pairCode?, h]

theorem codes_pair (h : pairCode? c d = some code) (cs : List Char) :
    codes (c :: d :: cs) = code :: codes cs := by
  rw [codes, h]

theorem codes_spell_append (h : code < 0x110000) (cs : List Char) :
    codes (spell code ++ cs) = code :: codes cs := by
  by_cases hhalf : isHalfCode code
  · have hrange := isHalfCode_iff.1 hhalf
    have hnat := @toNat_ofNat_of_lt (0x100000 + code) (by omega) (by omega)
    have hlead : isLead (Char.ofNat (0x100000 + code)) = false := by
      rw [Bool.eq_false_iff, ne_eq, isLead_iff, hnat]
      omega
    rw [spell_half hhalf, List.singleton_append, codes_cons hlead, codeOf_eq, hnat,
      if_pos (by omega), Nat.add_sub_cancel_left]
  have hcharacter : isCharacter code := by simp [isCharacter, hhalf, h]
  by_cases hreserved : isReserved code
  · have hrange := isReserved_iff.1 hreserved
    have hopen := @toNat_ofNat_of_lt (0x10E000 + (code - 0x10D800) / 64) (by omega) (by omega)
    have hclose := @toNat_ofNat_of_lt (0x10E040 + (code - 0x10D800) % 64) (by omega) (by omega)
    rw [spell_reserved hreserved, List.cons_append, List.singleton_append]
    refine codes_pair (pairCode?_eq_some_iff.2 ⟨isLead_iff.2 ?_, isTrail_iff.2 ?_, ?_⟩) cs
    all_goals omega
  · have hnat := toNat_ofNat hcharacter
    rw [isReserved_iff] at hreserved
    have hlead : isLead (Char.ofNat code) = false := by
      rw [Bool.eq_false_iff, ne_eq, isLead_iff, hnat]
      omega
    rw [spell_plain hcharacter (by rwa [isReserved_iff]), List.singleton_append, codes_cons hlead,
      codeOf_eq, hnat, if_neg (by omega), if_neg (by rwa [isReserved_iff])]

/-- Code points are found again from their text. -/
theorem codes_ofCodes (h : ∀ code ∈ ns, code < 0x110000) : codes (ofCodes ns) = ns := by
  induction ns with
  | nil => rfl
  | cons code ns ih =>
    rw [ofCodes, List.flatMap_cons, codes_spell_append (h code List.mem_cons_self), ← ofCodes,
      ih fun n hn => h n (List.mem_cons_of_mem _ hn)]

/-- The code points of two texts one after the other, unless they part a pair. -/
theorem codes_append
    (h : (∀ c ∈ cs.getLast?, isLead c = false) ∨ ∀ d ∈ ds.head?, isTrail d = false) :
    codes (cs ++ ds) = codes cs ++ codes ds := by
  fun_induction codes cs with
  | case1 => rfl
  | case2 c =>
    cases ds with
    | nil => rfl
    | cons d ds =>
      have hnone : pairCode? c d = none := by
        rcases h with hlead | htrail
        · simp [pairCode?, hlead c rfl]
        · simp [pairCode?, htrail d rfl]
      change codes (c :: d :: ds) = _
      rw [codes, hnone]
      rfl
  | case3 c d cs code hpair ih =>
    rw [List.cons_append, List.cons_append, codes_pair hpair, ih, List.cons_append]
    refine h.imp_left fun hlast e he => hlast e ?_
    rw [List.getLast?_cons_cons, List.getLast?_cons]
    simp [Option.mem_def.1 he]
  | case4 c d cs hnone ih =>
    have hcons : codes (c :: (d :: cs ++ ds)) = codeOf c :: codes (d :: cs ++ ds) := by
      rw [List.cons_append, codes, hnone]
    rw [List.cons_append, hcons, ih, List.cons_append]
    exact h.imp_left fun hlast e he => hlast e (by rwa [List.getLast?_cons_cons])

/-! ## Characters -/

theorem ofChars_cons (c : Char) (cs : List Char) :
    ofChars (c :: cs) = spell c.toNat ++ ofChars cs :=
  rfl

/-- A character is spelled by itself or by two reserved ones. -/
theorem spell_toNat (c : Char) : spell c.toNat = [c] ∨
    ∃ x y, spell c.toNat = [x, y] ∧ 0x10E000 ≤ x.toNat ∧ 0x10E000 ≤ y.toNat := by
  by_cases hreserved : isReserved c.toNat
  · have hrange := isReserved_iff.1 hreserved
    refine .inr ⟨_, _, spell_reserved hreserved, ?_, ?_⟩
    · rw [toNat_ofNat_of_lt (by omega) (by omega)]
      omega
    · rw [toNat_ofNat_of_lt (by omega) (by omega)]
      omega
  · rw [spell_plain (isCharacter_toNat c) hreserved, Char.ofNat_toNat]
    exact .inl rfl

theorem codes_ofChars (cs : List Char) : codes (ofChars cs) = cs.map Char.toNat := by
  refine codes_ofCodes fun code hcode => ?_
  obtain ⟨c, -, rfl⟩ := List.mem_map.1 hcode
  have h := isCharacter_toNat c
  simp only [isCharacter, Bool.and_eq_true, decide_eq_true_eq] at h
  exact h.1

theorem chars_ofChars (cs : List Char) : chars (String.ofList (ofChars cs)) = cs := by
  rw [chars, String.toList_ofList, codes_ofChars, List.map_map]
  exact (List.map_congr_left fun c _ => Char.ofNat_toNat c).trans (List.map_id cs)

theorem isEncodable_ofChars (cs : List Char) : isEncodable (String.ofList (ofChars cs)) := by
  rw [isEncodable, String.toList_ofList, codes_ofChars, List.all_map, List.all_eq_true]
  exact fun c _ => isCharacter_toNat c

/-- A text that can be encoded is the text of its characters. -/
theorem ofChars_chars (h : isEncodable s) : ofChars (chars s) = s.toList := by
  rw [isEncodable, List.all_eq_true] at h
  rw [ofChars, chars, List.map_map]
  have hsame : (codes s.toList).map (Char.toNat ∘ Char.ofNat) = codes s.toList :=
    (List.map_congr_left fun code hcode => toNat_ofNat (h code hcode)).trans (List.map_id _)
  rw [hsame, ofCodes_codes]

/-! ## Lengths -/

theorem byteTotal_append (cs ds : List Char) :
    byteTotal (cs ++ ds) = byteTotal cs + byteTotal ds := by
  induction cs with
  | nil => rw [List.nil_append, byteTotal, Nat.zero_add]
  | cons c cs ih => rw [List.cons_append, byteTotal, byteTotal, ih, Nat.add_assoc]

@[simp] theorem byteLength_append (s t : String) :
    byteLength (s ++ t) = byteLength s + byteLength t := by
  rw [byteLength, String.toList_append, byteTotal_append]
  rfl

end MachineConfig.Text
