import MachineConfig.Proofs.Template.ConditionLemmas
import MachineConfig.Proofs.Template.Meaning
import MachineConfig.Proofs.Template.RoundTrip

/-!
What conditions mean. A comparison compares the value of its name with its literal as long as there
is no quote in the literal (`Comparison.conditionHolds_text`). A condition that is the name of a
scalar asks for the value that the scalar has, if there is neither a point nor a hyphen in the name;
else it asks for the name without them (`Renderer.render_choice`).
-/

namespace MachineConfig.Template

namespace Comparison

variable (c : Comparison) (vars : Vars)

/-- A comparison compares, and its two operators are opposites, where no quote is in the literal.
Where one is, the comparison asks for the name that its word characters spell, whichever operator
it has. -/
theorem conditionHolds_text :
    (¬c.hasQuote →
      (conditionHolds vars (c.text .equals) ↔ vars.getD (Text.lower c.name) "" = c.literal) ∧
      conditionHolds vars (c.text .differs) = !conditionHolds vars (c.text .equals)) ∧
    (c.hasQuote → ∀ op, conditionHolds vars (c.text op) =
      Condition.isTruthy (vars.getD (Text.lower c.spelledName) "")) := by
  constructor
  · intro hplain
    have hholds (op : Operator) : conditionHolds vars (c.text op) =
        (op.compare (Text.lower c.name) c.literal).holds vars := by
      rw [conditionHolds, ofString_text, if_neg hplain]
    rw [hholds, hholds]
    simp [Operator.compare, Condition.holds]
  · intro hquote op
    rw [conditionHolds, ofString_text, if_pos hquote]
    rfl

/-- Blanks around the operator, and a name in another case. -/
theorem conditionHolds_spaced :
    let vars : Vars := .ofList [("os", "linux")]
    conditionHolds vars " OS\t==  'linux' " ∧ ¬conditionHolds vars " OS\t!=  'linux' " := by
  intro vars
  let c : Comparison :=
    { name := "OS", quote := '\'', literal := "linux"
      before := " ", left := "\t", right := "  ", after := " " }
  obtain ⟨hequals, hdiffers⟩ := (c.conditionHolds_text vars).1 (by decide)
  have hholds : conditionHolds vars (c.text .equals) := hequals.2 (by decide)
  rw [hholds] at hdiffers
  have hequal : c.text .equals = " OS\t==  'linux' " := by decide
  have hdiffer : c.text .differs = " OS\t!=  'linux' " := by decide
  rw [← hequal, ← hdiffer, hdiffers]
  exact ⟨hholds, by decide⟩

/-- An apostrophe between double quotes: the value is the literal, and the comparison asks for
`nameits`. -/
theorem not_conditionHolds_apostrophe :
    let c : Comparison := { name := "name", quote := '"', literal := "it's" }
    let vars : Vars := .ofList [("name", "it's")]
    c.quote ∉ c.literal.toList ∧ vars.getD (Text.lower c.name) "" = c.literal ∧
      ¬conditionHolds vars (c.text .equals) ∧ ¬conditionHolds vars (c.text .differs) := by
  decide +kernel

end Comparison

/-! ## Names as conditions -/

section name

variable {name : String}

theorem isNameChar_of_mem {cs : List Char} (h : isScalarName cs) (hmark : '@' ∉ cs) :
    ∀ c ∈ cs, isNameChar c := by
  obtain ⟨c, rest, hc, hrest, rfl | rfl⟩ := isScalarName_cases h
  · exact List.forall_mem_cons.2 ⟨by simp [isNameChar, isWordChar_of_isNameStart hc], hrest⟩
  · exact (hmark List.mem_cons_self).elim

/-- What is left of a name without blanks around it, points and hyphens. -/
def bareName (name : String) : String :=
  String.ofList ((Text.trim name.toList).filter fun c => c ≠ '.' ∧ c ≠ '-')

theorem bareName_eq_strip (hpoint : '.' ∉ name.toList) (hhyphen : '-' ∉ name.toList) :
    bareName name = Text.strip name := by
  have hkept : ∀ c ∈ Text.trim name.toList, decide (c ≠ '.' ∧ c ≠ '-') = true := by
    intro c hc
    have hmem := (Text.trim_sublist _).mem hc
    refine decide_eq_true ⟨?_, ?_⟩ <;> rintro rfl <;> contradiction
  rw [bareName, List.filter_eq_self.2 hkept, Text.strip]

section

variable (hname : isScalarName (Text.trim name.toList)) (hmark : '@' ∉ name.toList)
include hname hmark

theorem isNameChar_of_mem_trim : ∀ c ∈ Text.trim name.toList, isNameChar c :=
  isNameChar_of_mem hname fun hmem => hmark ((Text.trim_sublist _).mem hmem)

theorem filter_isWordChar_trim :
    String.ofList ((Text.trim name.toList).filter isWordChar) = bareName name := by
  refine congrArg String.ofList (List.filter_congr fun c hc => ?_)
  have hchar := isNameChar_of_mem_trim hname hmark c hc
  rw [isNameChar, Bool.or_eq_true, Bool.or_eq_true, beq_iff_eq, beq_iff_eq] at hchar
  rcases hchar with (hword | rfl) | rfl
  · have hpoint : c ≠ '.' := by
      rintro rfl
      revert hword
      decide
    have hhyphen : c ≠ '-' := by
      rintro rfl
      revert hword
      decide
    simp [hword, hpoint, hhyphen]
  · decide
  · decide

theorem isScalarName_bareName : isScalarName (bareName name).toList := by
  rw [← filter_isWordChar_trim hname hmark, String.toList_ofList]
  obtain ⟨c, rest, hc, -, hcs | hcs⟩ := isScalarName_cases hname
  · have hstart : c ≠ '@' := by
      rintro rfl
      revert hc
      decide
    have hkept : ∀ d ∈ rest.filter isWordChar, isNameChar d := fun d hd => by
      simp [isNameChar, (List.mem_filter.1 hd).2]
    rw [hcs, List.filter_cons_of_pos (isWordChar_of_isNameStart hc), isScalarName]
    · rw [Bool.and_eq_true, List.all_eq_true]
      exact ⟨hc, hkept⟩
    · intro more heq
      exact hstart (List.cons.inj heq).1
  · exact (hmark ((Text.trim_sublist _).mem (hcs ▸ List.mem_cons_self))).elim

/-- As a condition a name asks for what is left of it without points and hyphens. -/
theorem conditionHolds_name (vars : Vars) :
    conditionHolds vars (Text.strip name) =
      Condition.isTruthy (vars.getD (Text.lower (bareName name)) "") := by
  have hequals : '=' ∉ (Text.strip name).toList := by
    rw [Text.strip, String.toList_ofList]
    intro hmem
    exact absurd (isNameChar_of_mem_trim hname hmark _ hmem) (by decide)
  rw [conditionHolds, Condition.ofString_of_not_mem hequals, Text.strip, String.toList_ofList,
    trim_of_isScalarName hname, filter_isWordChar_trim hname hmark]
  rfl

end

theorem isTruthy_getD_iff {vars : Vars} {key : String} :
    Condition.isTruthy (vars.getD key "") ↔
      ∃ value, vars.get? key = some value ∧ value ∉ ["", "false", "0"] := by
  rw [Table.getD]
  cases vars.get? key <;> simp [Condition.isTruthy]

/-- A document that asks for a name. -/
def choice (name : String) : String :=
  Form.tag ("#if " ++ name) ++ "A" ++ Form.tag "#else" ++ "B" ++ Form.tag "/if"

def choicePieces (name : String) : List Piece :=
  .tag ("#if ".toList ++ name.toList) :: [.run "A".toList] ++ Form.elsePiece :: [.run "B".toList] ++
    [Form.closePiece .ifBlock]

theorem isBrace_of_mem_name (hname : isScalarName (Text.trim name.toList)) :
    ∀ c ∈ name.toList, isBrace c = false := by
  intro c hc
  cases hblank : Text.isBlank c with
  | true =>
    by_contra hbrace
    rw [Bool.not_eq_false, isBrace, Bool.or_eq_true, beq_iff_eq, beq_iff_eq] at hbrace
    rcases hbrace with rfl | rfl <;> revert hblank <;> decide
  | false => exact isBrace_of_mem_scalarName hname c (Text.mem_trim hc hblank)

theorem split_choice (hname : isScalarName (Text.trim name.toList)) :
    Piece.split (choice name).toList = choicePieces name := by
  have hspelled : (choice name).toList = Piece.spelled (choicePieces name) := by
    simp [choice, choicePieces, Form.tag, Piece.chars, Form.elsePiece, Form.closePiece,
      Block.keyword]
  have hopener : ∀ c ∈ "#if ".toList ++ name.toList, isBrace c = false := by
    rw [List.forall_mem_append]
    exact ⟨Form.isBrace_of_all (by decide), isBrace_of_mem_name hname⟩
  have hclose : Piece.Separated [Form.closePiece .ifBlock] :=
    Form.separated_closePiece_cons .ifBlock .nil
  have helse : Piece.Separated (Form.elsePiece :: .run "B".toList :: [Form.closePiece .ifBlock]) :=
    Form.separated_elsePiece_cons (.run (by decide) (by decide) (by simp [Form.closePiece]) hclose)
  rw [hspelled, Piece.split_spelled]
  exact .tag hopener (.run (by decide) (by decide) (by simp [Form.elsePiece]) helse)

/-- The document reads as a conditional. -/
theorem Tree.ofDocument_choice (hname : isScalarName (Text.trim name.toList)) :
    Tree.ofDocument (choice name) =
      ⟨[.conditional (Text.strip name) false [.text "A"] [.text "B"] (choice name)], []⟩ := by
  have hopener : Role.ofPiece (.tag ("#if ".toList ++ name.toList)) =
      .opener .ifBlock (Text.strip name) := by
    have hne : Text.trim name.toList ≠ [] := fun hnil => by
      rw [hnil] at hname
      cases hname
    exact Role.ofInner_keyword .ifBlock hne
  have hspelled : String.ofList (Piece.spelled (choicePieces name)) = choice name := by
    rw [← split_choice hname, Piece.spelled_split, String.ofList_toList]
  have hadds : Adds (choice name) _ (choicePieces name) _ :=
    .ifElse hopener (.text "A") (.text "B")
  rw [ofDocument_of_adds (split_choice hname) hadds]
  change (⟨[.conditional _ _ _ _ (String.ofList (Piece.spelled (choicePieces name)))], _⟩ : Tree) = _
  rw [hspelled]

theorem Tree.ofDocument_tag (hname : isScalarName name.toList) :
    Tree.ofDocument (Form.tag name) = ⟨[.scalar name (Form.tag name)], []⟩ := by
  have hsplit : Piece.split (Form.tag name).toList = [.tag name.toList] := by
    have hsep : Piece.Separated [.tag name.toList] :=
      .tag (Form.isBrace_of_mem_scalarInner hname false) .nil
    rw [Form.toList_tag, ← Piece.split_spelled hsep]
    simp
  have hsource : String.ofList (Piece.tag name.toList).chars = Form.tag name := by
    rw [← Form.toList_tag, String.ofList_toList]
  rw [ofDocument_of_adds hsplit (Adds.scalar hname false)]
  change (⟨[.scalar name (String.ofList (Piece.tag name.toList).chars)], []⟩ : Tree) = _
  rw [hsource]

namespace Renderer

variable (r : Renderer)

theorem text_render_tag (hname : isScalarName name.toList) :
    (r.render (Form.tag name)).text =
      (r.vars.get? (Text.lower name)).getD (Form.tag name) := by
  rw [r.render_of_ofDocument (Tree.ofDocument_tag hname)]
  simp only [meanings, meaning_scalar, Meaning.andThen, Meaning.const, String.append_empty, lookup]
  rfl

theorem text_render_choice (hname : isScalarName (Text.trim name.toList))
    (hlimit : 0 < r.maxBlocks) :
    (r.render (choice name)).text =
      if conditionHolds r.vars (Text.strip name) then "A" else "B" := by
  rw [r.render_of_ofDocument (Tree.ofDocument_choice hname), meanings]
  simp only [Meaning.andThen]
  rw [meaning_conditional_of_lt _ _ _ _ _ _ _ hlimit, branch]
  cases conditionHolds r.vars (Text.strip name) <;> rfl

/-- A name chooses the first branch exactly if what is left of it without points and hyphens has a
value that is no kind of no; and a tag of that name stands for this value. -/
theorem render_choice (hname : isScalarName (Text.trim name.toList)) (hmark : '@' ∉ name.toList)
    (hlimit : 0 < r.maxBlocks) :
    ((r.render (choice name)).text = "A" ↔
      ∃ value, r.vars.get? (Text.lower (bareName name)) = some value ∧
        value ∉ ["", "false", "0"]) ∧
    ((r.render (choice name)).text = "A" ∨ (r.render (choice name)).text = "B") ∧
    (r.render (Form.tag (bareName name))).text =
      (r.vars.get? (Text.lower (bareName name))).getD (Form.tag (bareName name)) ∧
    ('.' ∉ name.toList → '-' ∉ name.toList → bareName name = Text.strip name) := by
  refine ⟨?_, ?_, r.text_render_tag (isScalarName_bareName hname hmark), bareName_eq_strip⟩
  · rw [r.text_render_choice hname hlimit, conditionHolds_name hname hmark, ← isTruthy_getD_iff]
    split <;> simp [*]
  · rw [r.text_render_choice hname hlimit]
    split <;> simp

/-- A name with a point and blanks around it: the name without them decides. -/
theorem render_choice_pointed :
    let r : Renderer := { vars := .ofList [("a.b", "0"), ("ab", "no")] }
    isScalarName (Text.trim "A.b\n".toList) ∧ '@' ∉ "A.b\n".toList ∧ 0 < r.maxBlocks ∧
      (r.render (choice "A.b\n")).text = "A" ∧ (r.render (Form.tag "Ab")).text = "no" := by
  intro r
  have hname : isScalarName (Text.trim "A.b\n".toList) := by decide
  have hbare : bareName "A.b\n" = "Ab" := by decide
  obtain ⟨hchoice, -, htag, -⟩ := r.render_choice hname (by decide) (by decide)
  rw [hbare] at hchoice htag
  refine ⟨hname, by decide, by decide, hchoice.2 ⟨"no", by decide, by decide⟩, ?_⟩
  rw [htag]
  decide

/-- A name with a point has a value that is no kind of no, and does not choose the first branch. -/
theorem render_choice_hidden :
    let r : Renderer := { vars := .ofList [("a.b", "1")] }
    isScalarName "a.b".toList ∧ '@' ∉ "a.b".toList ∧
      choice "a.b" = "\x7b\x7b#if a.b\x7d\x7dA\x7b\x7b#else\x7d\x7dB\x7b\x7b/if\x7d\x7d" ∧
      (r.render "\x7b\x7ba.b\x7d\x7d").text = "1" ∧ "1" ∉ ["", "false", "0"] ∧
      (r.render (choice "a.b")).text = "B" := by
  intro r
  have htag : (r.render (Form.tag "a.b")).text = "1" := by
    rw [r.text_render_tag (by decide)]
    decide
  refine ⟨by decide, by decide, by decide, htag, by decide, ?_⟩
  rw [r.text_render_choice (by decide) (by decide)]
  decide

end Renderer

end name

end MachineConfig.Template
