import MachineConfig.Proofs.Template.FormLemmas
import MachineConfig.Template.Condition

/-!
How conditions read. A comparison as authors write it reads as one, unless there is a quote of
either kind in its literal (`Comparison.ofString_text`); it then asks, like any other condition that
is no comparison, for the name that its word characters spell.
-/

namespace MachineConfig.Template

variable {c q q' : Char} {cs name left right rest : List Char}

theorem isBlank_of_isWordChar (h : isWordChar c) : Text.isBlank c = false :=
  isBlank_eq_false (toNat_of_isNameChar (by simp [isNameChar, h]))

theorem isWordChar_of_isNameStart (h : isNameStart c) : isWordChar c := by
  simp [isWordChar, h]

theorem isBlank_of_isQuote (h : isQuote c) : Text.isBlank c = false := by
  rw [isQuote, Bool.or_eq_true, beq_iff_eq, beq_iff_eq] at h
  rcases h with rfl | rfl <;> decide

theorem isWordChar_of_isQuote (h : isQuote c) : isWordChar c = false := by
  rw [isQuote, Bool.or_eq_true, beq_iff_eq, beq_iff_eq] at h
  rcases h with rfl | rfl <;> decide

/-- A text in quotes is a literal if there is no quote in it. -/
theorem quotedLiteral?_quoted (hq : isQuote q) (hq' : isQuote q') (literal : List Char) :
    quotedLiteral? (q :: literal ++ [q']) =
      if literal.any isQuote then none else some literal := by
  rw [List.cons_append, quotedLiteral?, List.span_eq_takeWhile_dropWhile]
  by_cases hplain : ∀ c ∈ literal, isQuote c = false
  · have hfree : ∀ c ∈ literal, (!isQuote c) = true := by simpa using hplain
    have hany : literal.any isQuote = false := by simpa using hplain
    rw [List.takeWhile_append_of_pos hfree, List.dropWhile_append_of_pos hfree, hany]
    simp [hq, hq']
  · have hany : literal.any isQuote = true := by simpa using hplain
    -- The quote inside is left over with the one at the end.
    obtain ⟨d, ds, hdrop⟩ : ∃ d ds, literal.dropWhile (!isQuote ·) = d :: ds := by
      refine List.exists_cons_of_ne_nil fun hnil => hplain ?_
      simpa using List.dropWhile_eq_nil_iff.1 hnil
    rw [List.dropWhile_append, hdrop, hany]
    simp

/-! ## Comparisons -/

inductive Operator where
  | equals
  | differs
  deriving DecidableEq

namespace Operator

def text : Operator → String
  | equals => "=="
  | differs => "!="

/-- The condition that an operator makes of a name and a literal. -/
def compare : Operator → String → String → Condition
  | equals => .equals
  | differs => .differs

theorem filter_isWordChar_text (op : Operator) : op.text.toList.filter isWordChar = [] := by
  cases op <;> decide

end Operator

theorem span_isWordChar (hname : ∀ d ∈ name, isWordChar d)
    (hrest : ∀ d ∈ rest.head?, isWordChar d = false) :
    (name ++ rest).span isWordChar = (name, rest) := by
  rw [List.span_eq_takeWhile_dropWhile, List.takeWhile_append_of_pos hname,
    List.dropWhile_append_of_pos hname]
  cases rest with
  | nil => simp
  | cons d rest => simp [hrest d rfl]

theorem not_isWordChar_head?_append (hleft : ∀ d ∈ left, Text.isBlank d) (op : Operator) :
    ∀ d ∈ (left ++ op.text.toList ++ rest).head?, isWordChar d = false := by
  intro d hd
  cases left with
  | nil => cases op <;> cases hd <;> decide
  | cons e left =>
    obtain rfl : e = d := Option.some.inj hd
    have hblank := hleft e List.mem_cons_self
    by_contra hword
    rw [isBlank_of_isWordChar (by simpa using hword)] at hblank
    cases hblank

/-- What stands before the literal of a comparison is always understood. -/
theorem comparison?_append (hc : isNameStart c) (hname : ∀ d ∈ name, isWordChar d)
    (hleft : ∀ d ∈ left, Text.isBlank d) (op : Operator) (hright : ∀ d ∈ right, Text.isBlank d)
    (hrest : ∀ d ∈ rest.head?, Text.isBlank d = false) :
    comparison? (c :: name ++ (left ++ op.text.toList ++ (right ++ rest))) =
      (quotedLiteral? rest).map fun literal =>
        op.compare (Text.lower (String.ofList (c :: name))) (String.ofList literal) := by
  have hspan : (c :: name ++ (left ++ op.text.toList ++ (right ++ rest))).span isWordChar =
      (c :: name, left ++ op.text.toList ++ (right ++ rest)) :=
    span_isWordChar (List.forall_mem_cons.2 ⟨isWordChar_of_isNameStart hc, hname⟩)
      (not_isWordChar_head?_append hleft op)
  have hliteral : (right ++ rest).dropWhile Text.isBlank = rest := by
    rw [List.dropWhile_append_of_pos hright]
    cases rest with
    | nil => rfl
    | cons d rest => rw [List.dropWhile_cons_of_neg (by simp [hrest d rfl])]
  have hoperator : (left ++ op.text.toList ++ (right ++ rest)).dropWhile Text.isBlank =
      op.text.toList ++ (right ++ rest) := by
    rw [List.append_assoc, List.dropWhile_append_of_pos hleft]
    cases op <;> rfl
  rw [comparison?, hspan]
  simp only [if_pos hc, hoperator]
  cases op with
  | equals =>
    change ((quotedLiteral? ((right ++ rest).dropWhile Text.isBlank)).map String.ofList).map _ = _
    rw [hliteral, Option.map_map]
    rfl
  | differs =>
    change ((quotedLiteral? ((right ++ rest).dropWhile Text.isBlank)).map String.ofList).map _ = _
    rw [hliteral, Option.map_map]
    rfl

theorem comparison?_of_not_mem (h : '=' ∉ cs) : comparison? cs = none := by
  unfold comparison?
  split
  · next c name rest hspan =>
    have hrest : ∀ d ∈ rest.dropWhile Text.isBlank, d ∈ cs := by
      intro d hd
      rw [List.span_eq_takeWhile_dropWhile, Prod.mk.injEq] at hspan
      rw [← hspan.2] at hd
      exact (List.dropWhile_sublist _).mem ((List.dropWhile_sublist _).mem hd)
    split
    · dsimp only
      split
      · next heq => exact (h (hrest '=' (by simp [heq]))).elim
      · next heq => exact (h (hrest '=' (by simp [heq]))).elim
      · rfl
    · rfl
  · rfl

/-- A condition without a comparison sign asks for a name. -/
theorem Condition.ofString_of_not_mem {condition : String} (h : '=' ∉ condition.toList) :
    ofString condition = truthy (Text.lower (String.ofList
      ((Text.trim condition.toList).filter isWordChar))) := by
  have htrim : '=' ∉ Text.trim condition.toList := fun hmem =>
    h ((Text.trim_sublist _).mem hmem)
  rw [ofString, comparison?_of_not_mem htrim]
  rfl

/-- Letters, digits and underscores, no digit first. -/
def isIdentifier : List Char → Bool
  | [] => false
  | c :: cs => isNameStart c && cs.all isWordChar

/-- What a comparison compares, and the blanks in it. -/
structure Comparison where
  name : String
  quote : Char
  literal : String
  before : String := ""
  left : String := ""
  right : String := ""
  after : String := ""
  isIdentifier_name : isIdentifier name.toList := by decide
  isQuote_quote : isQuote quote := by decide
  areBlank : [before, left, right, after].all (·.toList.all Text.isBlank) := by decide

namespace Comparison

/-- How authors write it. -/
def text (c : Comparison) (op : Operator) : String :=
  c.before ++ c.name ++ c.left ++ op.text ++ c.right ++ String.singleton c.quote ++ c.literal ++
    String.singleton c.quote ++ c.after

variable (c : Comparison) (op : Operator)

/-- There is a quote of either kind in the literal. -/
def hasQuote : Bool := c.literal.toList.any isQuote

/-- The name that the word characters of a comparison spell. -/
def spelledName : String := c.name ++ String.ofList (c.literal.toList.filter isWordChar)

theorem isBlank_of_mem {s : String} (h : s ∈ [c.before, c.left, c.right, c.after]) :
    ∀ d ∈ s.toList, Text.isBlank d :=
  List.all_eq_true.1 (List.all_eq_true.1 c.areBlank s h)

theorem exists_name : ∃ d name, c.name.toList = d :: name ∧ isNameStart d ∧
    ∀ e ∈ name, isWordChar e := by
  have hname := c.isIdentifier_name
  cases hcs : c.name.toList with
  | nil => simp [hcs, isIdentifier] at hname
  | cons d name =>
    rw [hcs, isIdentifier, Bool.and_eq_true, List.all_eq_true] at hname
    exact ⟨d, name, rfl, hname⟩

theorem trim_text : Text.trim (c.text op).toList =
    c.name.toList ++ (c.left.toList ++ op.text.toList ++
      (c.right.toList ++ (c.quote :: c.literal.toList ++ [c.quote]))) := by
  obtain ⟨d, name, hname, hd, -⟩ := c.exists_name
  have hfirst := isBlank_of_isWordChar (isWordChar_of_isNameStart hd)
  have htext : (c.text op).toList = c.before.toList ++ (d :: (name ++ (c.left.toList ++
      op.text.toList ++ (c.right.toList ++ c.quote :: c.literal.toList))) ++ [c.quote]) ++
        c.after.toList := by
    simp [text, hname]
  rw [htext, Text.trim_append_append (c.isBlank_of_mem (by simp)) (c.isBlank_of_mem (by simp)),
    Text.trim_cons_append_of_not_isBlank hfirst (isBlank_of_isQuote c.isQuote_quote), hname]
  simp

theorem filter_isWordChar_blanks {s : String} (h : ∀ d ∈ s.toList, Text.isBlank d) :
    s.toList.filter isWordChar = [] := by
  refine List.filter_eq_nil_iff.2 fun d hd hword => ?_
  simpa [isBlank_of_isWordChar hword] using h d hd

theorem filter_isWordChar_trim_text :
    (Text.trim (c.text op).toList).filter isWordChar = c.spelledName.toList := by
  have hname : c.name.toList.filter isWordChar = c.name.toList := by
    obtain ⟨d, name, hname, hd, hrest⟩ := c.exists_name
    rw [hname]
    exact List.filter_eq_self.2
      (List.forall_mem_cons.2 ⟨isWordChar_of_isNameStart hd, hrest⟩)
  have hquote : ¬isWordChar c.quote := by simp [isWordChar_of_isQuote c.isQuote_quote]
  rw [trim_text]
  simp [hname, hquote, spelledName, filter_isWordChar_blanks (c.isBlank_of_mem (s := c.left) (by simp)),
    filter_isWordChar_blanks (c.isBlank_of_mem (s := c.right) (by simp)), Operator.filter_isWordChar_text]

/-- A comparison reads as one unless there is a quote in its literal. -/
theorem ofString_text :
    Condition.ofString (c.text op) =
      if c.hasQuote then .truthy (Text.lower c.spelledName)
      else op.compare (Text.lower c.name) c.literal := by
  have hcomparison : comparison? (Text.trim (c.text op).toList) =
      if c.hasQuote then none else some (op.compare (Text.lower c.name) c.literal) := by
    obtain ⟨d, name, hname, hd, hrest⟩ := c.exists_name
    have hquote : ∀ e ∈ (c.quote :: c.literal.toList ++ [c.quote]).head?, Text.isBlank e = false := by
      simp [isBlank_of_isQuote c.isQuote_quote]
    rw [trim_text, hname, comparison?_append hd hrest (c.isBlank_of_mem (by simp)) op
      (c.isBlank_of_mem (by simp)) hquote, quotedLiteral?_quoted c.isQuote_quote c.isQuote_quote,
      ← hname, String.ofList_toList]
    change Option.map _ (if c.hasQuote then _ else _) = _
    split <;> simp
  rw [Condition.ofString]
  simp only [hcomparison, filter_isWordChar_trim_text, String.ofList_toList]
  split <;> rfl

end Comparison

end MachineConfig.Template
