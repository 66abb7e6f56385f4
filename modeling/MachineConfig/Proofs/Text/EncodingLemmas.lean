import MachineConfig.Proofs.Text.CodePointLemmas
import MachineConfig.Text.Utf8

/-!
Writing texts and reading them back. Every text that was read can be encoded, and it is found again
from its bytes (`decode?_eq_some_iff`); one that was read from a file has no carriage return
(`noReturn_of_readText?`), and one without carriage returns that was written is read as it is
(`readText?_utf8`).
-/

namespace MachineConfig.Text

variable {s t : String} {bytes : ByteArray} {cs : List Char}

theorem isEncodable_append (h : (∀ c ∈ s.toList.getLast?, isLead c = false) ∨
    ∀ d ∈ t.toList.head?, isTrail d = false) :
    isEncodable (s ++ t) = (isEncodable s && isEncodable t) := by
  rw [isEncodable, String.toList_append, codes_append h, List.all_append]
  rfl

/-- A line end keeps apart what stands before and behind it. -/
theorem isEncodable_append_newline (s t : String) :
    isEncodable (s ++ "\n" ++ t) = (isEncodable s && isEncodable t) := by
  have hlast : ∀ c ∈ (s ++ "\n").toList.getLast?, isLead c = false := by
    rw [String.toList_append]
    simp [isLead, firstLead]
  have hfirst : ∀ d ∈ "\n".toList.head?, isTrail d = false := by
    rintro d ⟨rfl⟩
    rfl
  have hnewline : isEncodable "\n" = true := by decide +kernel
  rw [isEncodable_append (.inl hlast), isEncodable_append (.inr hfirst), hnewline, Bool.and_true]

theorem noReturn_unifyNewlines (cs : List Char) : '\r' ∉ unifyNewlines cs := by
  fun_induction unifyNewlines cs with
  | case1 => exact List.not_mem_nil
  | case2 cs ih => simp [ih]
  | case3 c cs _ ih =>
    rw [List.mem_cons, not_or]
    refine ⟨?_, ih⟩
    split
    · decide
    · next hne => exact Ne.symm hne

theorem unifyNewlines_of_noReturn {cs : List Char} (h : '\r' ∉ cs) : unifyNewlines cs = cs := by
  fun_induction unifyNewlines cs with
  | case1 => rfl
  | case2 cs ih => simp at h
  | case3 c cs _ ih =>
    rw [List.mem_cons, not_or] at h
    rw [if_neg (Ne.symm h.1), ih h.2]

theorem unifyNewlines_eq_self_iff {cs : List Char} : unifyNewlines cs = cs ↔ '\r' ∉ cs :=
  ⟨fun h => h ▸ noReturn_unifyNewlines cs, unifyNewlines_of_noReturn⟩

theorem unifyNewlines_eq_nil_iff {cs : List Char} : unifyNewlines cs = [] ↔ cs = [] := by
  fun_cases unifyNewlines cs <;> simp

theorem mem_unifyNewlines {c : Char} {cs : List Char} (hc : c ≠ '\r') (h : c ∈ cs) :
    c ∈ unifyNewlines cs := by
  fun_induction unifyNewlines cs with
  | case1 => exact h
  | case2 cs ih =>
    rcases List.mem_cons.1 h with rfl | h
    · exact (hc rfl).elim
    · exact (List.mem_cons.1 h).elim (fun heq => heq ▸ List.mem_cons_self ..) fun h =>
        List.mem_cons_of_mem _ (ih h)
  | case3 d cs _ ih =>
    rcases List.mem_cons.1 h with rfl | h
    · rw [if_neg hc]
      exact List.mem_cons_self ..
    · exact List.mem_cons_of_mem _ (ih h)

theorem unifyNewlines_cons {c : Char} (h : c ≠ '\r') (cs : List Char) :
    unifyNewlines (c :: cs) = c :: unifyNewlines cs := by
  rw [unifyNewlines.eq_3 c cs fun _ hreturn => (h hreturn).elim, if_neg h]

theorem toNat_ne_of_reserved {c d : Char} (h : 0x10E000 ≤ c.toNat) (hd : d.toNat < 0x10E000) :
    c ≠ d := by
  rintro rfl
  omega

/-- Line ends may be unified in a text or in its characters. -/
theorem unifyNewlines_ofChars (cs : List Char) :
    unifyNewlines (ofChars cs) = ofChars (unifyNewlines cs) := by
  fun_induction unifyNewlines cs with
  | case1 => rfl
  | case2 cs ih =>
    have hpair : ofChars ('\r' :: '\n' :: cs) = '\r' :: '\n' :: ofChars cs := rfl
    rw [hpair, unifyNewlines, ih]
    rfl
  | case3 c cs hpair ih =>
    by_cases hc : c = '\r'
    · subst hc
      have hfeed : ∀ rest, '\r' = '\r' → ofChars cs ≠ '\n' :: rest := by
        intro rest _ hstart
        cases cs with
        | nil => cases hstart
        | cons d cs =>
          rw [ofChars_cons] at hstart
          rcases spell_toNat d with hplain | ⟨x, y, hspell, hx, -⟩
          · rw [hplain] at hstart
            exact hpair cs rfl (by rw [(List.cons.inj hstart).1])
          · rw [hspell] at hstart
            exact toNat_ne_of_reserved hx (by decide) (List.cons.inj hstart).1
      have hreturn : ofChars ('\r' :: cs) = '\r' :: ofChars cs := rfl
      rw [hreturn, unifyNewlines.eq_3 _ _ hfeed, ih, if_pos rfl]
      rfl
    · rw [if_neg hc, ofChars_cons, ofChars_cons]
      rcases spell_toNat c with hplain | ⟨x, y, hspell, hx, hy⟩
      · rw [hplain, List.singleton_append, List.singleton_append, unifyNewlines_cons hc, ih]
      · have hx' : x ≠ '\r' := toNat_ne_of_reserved hx (by decide)
        have hy' : y ≠ '\r' := toNat_ne_of_reserved hy (by decide)
        rw [hspell, List.cons_append, List.singleton_append, unifyNewlines_cons hx',
          unifyNewlines_cons hy', ih]
        rfl

/-- A character that ends no line comes from the same character. -/
theorem exists_of_unifyNewlines_eq_append {cs before after : List Char} {c : Char} (hc : c ≠ '\n')
    (h : unifyNewlines cs = before ++ c :: after) : ∃ front back, cs = front ++ c :: back ∧
      unifyNewlines front = before ∧ unifyNewlines back = after := by
  fun_induction unifyNewlines cs generalizing before with
  | case1 => simp at h
  | case2 cs ih =>
    cases before with
    | nil => exact (hc (List.cons.inj h).1.symm).elim
    | cons b before =>
      obtain ⟨hb, h⟩ := List.cons.inj h
      obtain ⟨front, back, rfl, hfront, hback⟩ := ih h
      exact ⟨'\r' :: '\n' :: front, back, rfl, by rw [unifyNewlines, hb, hfront], hback⟩
  | case3 d cs hpair ih =>
    cases before with
    | nil =>
      obtain ⟨hd, rfl⟩ := List.cons.inj h
      split at hd
      · exact (hc hd.symm).elim
      · exact ⟨[], cs, by rw [hd]; rfl, rfl, rfl⟩
    | cons b before =>
      obtain ⟨hb, h⟩ := List.cons.inj h
      obtain ⟨front, back, rfl, hfront, hback⟩ := ih h
      refine ⟨d :: front, back, rfl, ?_, hback⟩
      have hfront' : ∀ rest, d = '\r' → front ≠ '\n' :: rest := by
        rintro rest hd rfl
        exact hpair (rest ++ c :: back) hd rfl
      rw [unifyNewlines.eq_3 d front hfront', hb, hfront]

theorem exists_of_unifyNewlines_eq_cons {cs after : List Char} {c : Char} (hc : c ≠ '\n')
    (h : unifyNewlines cs = c :: after) : ∃ back, cs = c :: back ∧ unifyNewlines back = after := by
  obtain ⟨front, back, rfl, hfront, hback⟩ :=
    exists_of_unifyNewlines_eq_append hc (h.trans (List.nil_append _).symm)
  rw [unifyNewlines_eq_nil_iff.1 hfront]
  exact ⟨back, rfl, hback⟩

theorem noReturn_of_readText? (h : readText? bytes = some s) : '\r' ∉ s.toList := by
  obtain ⟨text, -, rfl⟩ := Option.map_eq_some_iff.1 h
  rw [String.toList_ofList]
  exact noReturn_unifyNewlines _

theorem fromUTF8?_toUTF8 (s : String) : String.fromUTF8? s.toUTF8 = some s := by
  rw [String.toUTF8_eq_toByteArray, String.fromUTF8?, dif_pos s.isValidUTF8]
  rfl

theorem fromUTF8?_eq_some_iff : String.fromUTF8? bytes = some s ↔ bytes = s.toUTF8 := by
  constructor
  · intro h
    rw [String.fromUTF8?] at h
    split at h
    · obtain rfl := Option.some.inj h
      rfl
    · cases h
  · rintro rfl
    exact fromUTF8?_toUTF8 s

theorem isEncodable_ofString (s : String) : isEncodable (ofString s) := isEncodable_ofChars s.toList

theorem utf8_ofString (s : String) : utf8 (ofString s) = s.toUTF8 := by
  rw [utf8, ofString, chars_ofChars, String.ofList_toList]

/-- A text is the one that its bytes hold exactly if it can be encoded. -/
theorem decode?_eq_some_iff : decode? bytes = some s ↔ isEncodable s ∧ bytes = utf8 s := by
  rw [decode?, Option.map_eq_some_iff]
  constructor
  · rintro ⟨text, htext, rfl⟩
    rw [fromUTF8?_eq_some_iff.1 htext]
    exact ⟨isEncodable_ofString text, (utf8_ofString text).symm⟩
  · rintro ⟨hencodable, rfl⟩
    refine ⟨String.ofList (chars s), fromUTF8?_toUTF8 _, ?_⟩
    rw [ofString, String.toList_ofList, ofChars_chars hencodable, String.ofList_toList]

theorem decode?_utf8 (h : isEncodable s) : decode? (utf8 s) = some s :=
  decode?_eq_some_iff.2 ⟨h, rfl⟩

theorem utf8_inj (hs : isEncodable s) (ht : isEncodable t) : utf8 s = utf8 t ↔ s = t := by
  refine ⟨fun h => ?_, congrArg utf8⟩
  have hsame := decode?_utf8 hs
  rw [h, decode?_utf8 ht] at hsame
  exact (Option.some.inj hsame).symm

theorem isEncodable_unifyNewlines (h : isEncodable s) :
    isEncodable (String.ofList (unifyNewlines s.toList)) := by
  rw [← ofChars_chars h, unifyNewlines_ofChars]
  exact isEncodable_ofChars _

theorem isEncodable_of_readText? (h : readText? bytes = some s) : isEncodable s := by
  obtain ⟨text, htext, rfl⟩ := Option.map_eq_some_iff.1 h
  exact isEncodable_unifyNewlines (decode?_eq_some_iff.1 htext).1

/-- What is written without carriage returns is read. -/
theorem readText?_utf8 (hencodable : isEncodable s) (h : '\r' ∉ s.toList) :
    readText? (utf8 s) = some s := by
  rw [readText?, decode?_utf8 hencodable, Option.map_some, unifyNewlines_of_noReturn h,
    String.ofList_toList]

end MachineConfig.Text
