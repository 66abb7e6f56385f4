import MachineConfig.Proofs.Template.Form
import MachineConfig.Proofs.Text.BlankLemmas

/-!
The pieces of printed forms. Each tag of a well-formed form reads as what it was printed for
(`Role.ofInner_opener` and its like), and its text is cut into the pieces that it was put together
from (`Form.split_prints`).
-/

namespace MachineConfig.Template

theorem toNat_of_isNameStart {c : Char} (h : isNameStart c) :
    0x40 ≤ c.toNat ∧ c.toNat ≤ 0x7A := by
  have halpha : c.isAlpha =
      (decide ('A'.val ≤ c.val ∧ c.val ≤ 'Z'.val) ||
        (decide ('a'.val ≤ c.val) && decide (c.val ≤ 'z'.val))) := rfl
  simp only [isNameStart, halpha, Bool.or_eq_true, Bool.and_eq_true, decide_eq_true_eq,
    beq_iff_eq, UInt32.le_iff_toNat_le] at h
  rcases h with (h | h) | rfl
  · exact ⟨Nat.le_trans (by decide) h.1, Nat.le_trans h.2 (by decide)⟩
  · exact ⟨Nat.le_trans (by decide) h.1, Nat.le_trans h.2 (by decide)⟩
  · decide

theorem toNat_of_isNameChar {c : Char} (h : isNameChar c) :
    0x2D ≤ c.toNat ∧ c.toNat ≤ 0x7A := by
  simp only [isNameChar, isWordChar, Bool.or_eq_true, beq_iff_eq] at h
  rcases h with ((h | h) | rfl) | rfl
  · have := toNat_of_isNameStart h
    omega
  · simp only [Char.isDigit, Bool.and_eq_true, decide_eq_true_eq, UInt32.le_iff_toNat_le,
      ge_iff_le] at h
    exact ⟨Nat.le_trans (by decide) h.1, Nat.le_trans h.2 (by decide)⟩
  · decide
  · decide

/-- The name of a scalar, after an `@` or not, starts like a name and goes on like one. -/
theorem isScalarName_cases {cs : List Char} (h : isScalarName cs) :
    ∃ c rest, isNameStart c ∧ (∀ d ∈ rest, isNameChar d) ∧
      (cs = c :: rest ∨ cs = '@' :: c :: rest) := by
  unfold isScalarName at h
  split at h
  · cases h
  · rename_i c rest hname
    simp only [Bool.and_eq_true, List.all_eq_true] at h
    refine ⟨c, rest, h.1, h.2, ?_⟩
    split at hname
    · exact .inr (by rw [hname])
    · exact .inl hname

theorem toNat_of_mem_scalarName {cs : List Char} (h : isScalarName cs) :
    ∀ c ∈ cs, 0x2D ≤ c.toNat ∧ c.toNat ≤ 0x7A := by
  obtain ⟨c, rest, hc, hrest, hcs⟩ := isScalarName_cases h
  have hmem : ∀ d ∈ c :: rest, 0x2D ≤ d.toNat ∧ d.toNat ≤ 0x7A := by
    intro d hd
    rcases List.mem_cons.mp hd with rfl | hd
    · have := toNat_of_isNameStart hc
      omega
    · exact toNat_of_isNameChar (hrest d hd)
  rcases hcs with rfl | rfl
  · exact hmem
  · exact List.forall_mem_cons.mpr ⟨by decide, hmem⟩

/-- The name of a scalar starts with a letter, an underscore or `@`. -/
theorem exists_cons_of_isScalarName {cs : List Char} (h : isScalarName cs) :
    ∃ c rest, cs = c :: rest ∧ 0x40 ≤ c.toNat := by
  obtain ⟨c, rest, hc, -, rfl | rfl⟩ := isScalarName_cases h
  · exact ⟨c, rest, rfl, (toNat_of_isNameStart hc).1⟩
  · exact ⟨'@', c :: rest, rfl, by decide⟩

theorem isBrace_of_mem_scalarName {cs : List Char} (h : isScalarName cs) :
    ∀ c ∈ cs, isBrace c = false := by
  intro c hc
  have hrange := toNat_of_mem_scalarName h c hc
  simp only [isBrace, Bool.or_eq_false_iff, beq_eq_false_iff_ne]
  constructor <;> rintro rfl <;> revert hrange <;> decide

theorem isBlank_eq_false {c : Char} (h : 0x2D ≤ c.toNat ∧ c.toNat ≤ 0x7A) :
    Text.isBlank c = false := by
  simp only [Text.isBlank, Text.blankRanges, List.any_cons, List.any_nil, Bool.or_eq_false_iff,
    Bool.and_eq_false_iff, decide_eq_false_iff_not, and_true]
  omega

theorem trim_of_isScalarName {cs : List Char} (h : isScalarName cs) : Text.trim cs = cs :=
  Text.trim_of_forall fun c hc => isBlank_eq_false (toNat_of_mem_scalarName h c hc)

/-- Blanks around the argument of an opening tag count for nothing. -/
theorem openerArg?_keyword (kind : Block) {cs : List Char} (h : Text.trim cs ≠ []) :
    openerArg? kind (kind.keyword.toList ++ ' ' :: cs) = some (String.ofList (Text.trim cs)) := by
  have hblank : Text.isBlank ' ' = true := by decide
  have hnonempty : (Text.trim cs).isEmpty = false := by simpa using h
  rw [openerArg?, if_pos (by simp), List.drop_left]
  simp [hblank, hnonempty]

/-- No keyword starts like another one. -/
theorem openerArg?_of_ne {kind other : Block} (h : other ≠ kind) (cs : List Char) :
    openerArg? other (kind.keyword.toList ++ cs) = none := by
  have hprefix : other.keyword.toList.isPrefixOf (kind.keyword.toList ++ cs) = false := by
    cases kind <;> cases other <;> first | contradiction | rfl
  rw [openerArg?, hprefix]
  rfl

theorem openerOf?_keyword (kind : Block) {cs : List Char} (h : Text.trim cs ≠ []) :
    openerOf? ('#' :: kind.keyword.toList ++ ' ' :: cs) =
      some (.opener kind (String.ofList (Text.trim cs))) := by
  have hself := openerArg?_keyword kind h
  rw [List.cons_append, openerOf?]
  cases kind with
  | ifBlock => simp [blocks, hself]
  | unlessBlock => simp [blocks, hself, openerArg?_of_ne]
  | eachBlock => simp [blocks, hself, openerArg?_of_ne]

theorem Role.ofInner_keyword (kind : Block) {cs : List Char} (h : Text.trim cs ≠ []) :
    Role.ofInner ('#' :: kind.keyword.toList ++ ' ' :: cs) =
      .opener kind (String.ofList (Text.trim cs)) := by
  rw [Role.ofInner, openerOf?_keyword kind h]
  rfl

theorem Role.ofInner_opener (kind : Block) {arg : String} (h : Form.isArgument arg) :
    Role.ofInner ('#' :: kind.keyword.toList ++ ' ' :: arg.toList) = .opener kind arg := by
  simp only [Form.isArgument, Bool.and_eq_true, decide_eq_true_eq] at h
  obtain ⟨⟨hne, -⟩, htrim⟩ := h
  rw [ofInner_keyword kind (by simpa [htrim] using hne), htrim, String.ofList_toList]

theorem Role.ofInner_closer (kind : Block) :
    Role.ofInner ('/' :: kind.keyword.toList) = .closer kind := by
  cases kind <;> decide

theorem Role.ofInner_else : Role.ofInner "#else".toList = .otherwise := by
  decide

/-- A tag that starts neither like an opening nor like a closing one is judged by its trimmed
text. -/
theorem Role.ofInner_cons {c : Char} {cs : List Char} (hopener : c ≠ '#') (hcloser : c ≠ '/') :
    Role.ofInner (c :: cs) =
      if Text.trim (c :: cs) = "#else".toList then .otherwise
      else if isScalarName (Text.trim (c :: cs)) then
        .scalar (String.ofList (Text.trim (c :: cs)))
      else .text := by
  have hopenerOf : openerOf? (c :: cs) = none := by
    unfold openerOf?
    split
    · rename_i heq
      exact (hopener (List.cons.inj heq).1).elim
    · rfl
  have hcloserOf : closerOf? (c :: cs) = none := by
    simp [closerOf?, hcloser]
  simp only [Role.ofInner, hopenerOf, hcloserOf]
  rfl

/-- The inner text of a printed scalar. -/
def scalarInner (name : String) (spaced : Bool) : List Char :=
  if spaced then ' ' :: name.toList ++ [' '] else name.toList

theorem trim_scalarInner {name : String} (h : isScalarName name.toList) (spaced : Bool) :
    Text.trim (scalarInner name spaced) = name.toList := by
  have hname : Text.trim name.toList = name.toList := trim_of_isScalarName h
  cases spaced with
  | false => exact hname
  | true =>
    have hblank : ∀ c ∈ [' '], Text.isBlank c := List.forall_mem_singleton.2 (by decide)
    have hspaced : Text.trim ([' '] ++ name.toList ++ [' ']) = Text.trim name.toList :=
      Text.trim_append_append hblank hblank
    exact hspaced.trans hname

theorem Role.ofInner_scalar {name : String} (h : isScalarName name.toList) (spaced : Bool) :
    Role.ofInner (scalarInner name spaced) = .scalar name := by
  obtain ⟨c, rest, hname, hc⟩ := exists_cons_of_isScalarName h
  obtain ⟨d, ds, hinner, hopener, hcloser⟩ :
      ∃ d ds, scalarInner name spaced = d :: ds ∧ d ≠ '#' ∧ d ≠ '/' := by
    cases spaced with
    | false =>
      refine ⟨c, rest, hname, ?_, ?_⟩ <;> rintro rfl <;> revert hc <;> decide
    | true => exact ⟨' ', _, rfl, by decide, by decide⟩
  have htrim := trim_scalarInner h spaced
  have helse : name.toList ≠ "#else".toList := by
    intro heq
    rw [hname] at heq
    have : c = '#' := (List.cons.inj heq).1
    subst this
    revert hc
    decide
  rw [hinner] at htrim ⊢
  rw [Role.ofInner_cons hopener hcloser, htrim, if_neg helse, if_pos h, String.ofList_toList]

/-! ## The pieces of a printed form -/

namespace Form

def openPiece (kind : Block) (arg : String) : Piece :=
  .tag ('#' :: kind.keyword.toList ++ ' ' :: arg.toList)

def elsePiece : Piece := .tag "#else".toList

def closePiece (kind : Block) : Piece := .tag ('/' :: kind.keyword.toList)

mutual

/-- The pieces that a form is put together from. -/
def pieces : Form → List Piece
  | text value => [.run value.toList]
  | scalar name spaced => [.tag (scalarInner name spaced)]
  | block kind arg body => openPiece kind arg :: allPieces body ++ [closePiece kind]
  | ifElse condition whenTrue whenFalse =>
    openPiece .ifBlock condition :: allPieces whenTrue ++ elsePiece :: allPieces whenFalse ++
      [closePiece .ifBlock]

def allPieces : List Form → List Piece
  | [] => []
  | f :: fs => f.pieces ++ allPieces fs

end

theorem toList_tag (inner : String) : (tag inner).toList = (Piece.tag inner.toList).chars := by
  simp [tag, Piece.chars]

mutual

theorem toList_print : (f : Form) → f.print.toList = Piece.spelled f.pieces
  | text value => by simp [print, pieces, Piece.chars]
  | scalar name spaced => by
    rw [print, toList_tag, pieces]
    cases spaced <;> simp [scalarInner]
  | block kind arg body => by
    have hbody := toList_prints body
    simp [print, pieces, openTag, closeTag, openPiece, closePiece, toList_tag, hbody]
  | ifElse condition whenTrue whenFalse => by
    have htrue := toList_prints whenTrue
    have hfalse := toList_prints whenFalse
    simp [print, pieces, openTag, closeTag, openPiece, elsePiece, closePiece, toList_tag, htrue,
      hfalse]

theorem toList_prints : (fs : List Form) → (prints fs).toList = Piece.spelled (allPieces fs)
  | [] => rfl
  | f :: fs => by
    have hf := toList_print f
    have hfs := toList_prints fs
    simp [prints, allPieces, hf, hfs]

end

/-! ## Cutting a printed form -/

theorem isBrace_of_all {cs : List Char} (h : cs.all (!isBrace ·)) :
    ∀ c ∈ cs, isBrace c = false := by
  simpa only [List.all_eq_true, Bool.not_eq_true'] using h

theorem isBrace_of_mem_argument {arg : String} (h : isArgument arg) :
    ∀ c ∈ arg.toList, isBrace c = false := by
  simp only [isArgument, Bool.and_eq_true, List.all_eq_true, Bool.not_eq_true'] at h
  exact h.1.2

theorem separated_openPiece_cons (kind : Block) {arg : String} (h : isArgument arg)
    {ps : List Piece} (hps : Piece.Separated ps) :
    Piece.Separated (openPiece kind arg :: ps) := by
  have hkeyword : ∀ c ∈ '#' :: kind.keyword.toList, isBrace c = false :=
    isBrace_of_all (by cases kind <;> decide)
  refine .tag (fun c hc => ?_) hps
  rcases List.mem_append.mp hc with hc | hc
  · exact hkeyword c hc
  · rcases List.mem_cons.mp hc with rfl | hc
    · decide
    · exact isBrace_of_mem_argument h c hc

theorem separated_elsePiece_cons {ps : List Piece} (hps : Piece.Separated ps) :
    Piece.Separated (elsePiece :: ps) :=
  .tag (isBrace_of_all (by decide)) hps

theorem separated_closePiece_cons (kind : Block) {ps : List Piece} (hps : Piece.Separated ps) :
    Piece.Separated (closePiece kind :: ps) :=
  .tag (isBrace_of_all (by cases kind <;> decide)) hps

theorem isBrace_of_mem_scalarInner {name : String} (h : isScalarName name.toList)
    (spaced : Bool) : ∀ c ∈ scalarInner name spaced, isBrace c = false := by
  have hname := isBrace_of_mem_scalarName h
  intro c hc
  cases spaced with
  | false => exact hname c hc
  | true =>
    simp only [scalarInner, if_true, List.cons_append, List.mem_cons, List.mem_append,
      List.not_mem_nil, or_false] at hc
    rcases hc with rfl | hc | rfl
    · decide
    · exact hname c hc
    · decide

/-- Only a text begins with a run. -/
theorem head?_pieces {f : Form} (h : f.isText = false) (rest : List Piece) :
    ∀ ds, (f.pieces ++ rest).head? ≠ some (.run ds) := by
  cases f with
  | text value => cases h
  | scalar | block | ifElse => intro ds; simp [pieces, openPiece]

mutual

/-- What comes after a form must not begin with a run if the form is a text. -/
theorem separated_pieces_append : (f : Form) → f.isWellFormed → {rest : List Piece} →
    Piece.Separated rest → (f.isText → ∀ ds, rest.head? ≠ some (.run ds)) →
    Piece.Separated (f.pieces ++ rest)
  | text value, hf, rest, hrest, hhead => by
    simp only [isWellFormed, Bool.and_eq_true, decide_eq_true_eq, Bool.not_eq_true'] at hf
    exact .run (by simpa using hf.1) hf.2 (hhead rfl) hrest
  | scalar name spaced, hf, rest, hrest, _ => .tag (isBrace_of_mem_scalarInner hf spaced) hrest
  | block kind arg body, hf, rest, hrest, _ => by
    simp only [isWellFormed, Bool.and_eq_true] at hf
    obtain ⟨⟨harg, hbody⟩, -⟩ := hf
    have hinner := separated_allPieces_append body hbody (separated_closePiece_cons kind hrest)
      (by simp [closePiece])
    simpa [pieces] using separated_openPiece_cons kind harg hinner
  | ifElse condition whenTrue whenFalse, hf, rest, hrest, _ => by
    simp only [isWellFormed, Bool.and_eq_true] at hf
    obtain ⟨⟨harg, htrue⟩, hfalse⟩ := hf
    have hsecond := separated_allPieces_append whenFalse hfalse
      (separated_closePiece_cons .ifBlock hrest) (by simp [closePiece])
    have hfirst := separated_allPieces_append whenTrue htrue (separated_elsePiece_cons hsecond)
      (by simp [elsePiece])
    simpa [pieces] using separated_openPiece_cons .ifBlock harg hfirst

theorem separated_allPieces_append : (fs : List Form) → allWellFormed fs → {rest : List Piece} →
    Piece.Separated rest → (∀ ds, rest.head? ≠ some (.run ds)) →
    Piece.Separated (allPieces fs ++ rest)
  | [], _, rest, hrest, _ => hrest
  | f :: fs, hfs, rest, hrest, hhead => by
    simp only [allWellFormed, Bool.and_eq_true, Bool.not_eq_true', Bool.and_eq_false_iff] at hfs
    obtain ⟨⟨hf, hfs⟩, hapart⟩ := hfs
    have hnext := separated_allPieces_append fs hfs hrest hhead
    rw [allPieces, List.append_assoc]
    refine separated_pieces_append f hf hnext fun htext => ?_
    cases fs with
    | nil => exact hhead
    | cons g gs =>
      have hg : g.isText = false := by simpa [htext] using hapart
      rw [allPieces, List.append_assoc]
      exact head?_pieces hg _

end

/-- A printed form is cut into the pieces that it was put together from. -/
theorem split_prints {fs : List Form} (h : allWellFormed fs) :
    Piece.split (prints fs).toList = allPieces fs := by
  have hsep := separated_allPieces_append fs h .nil (by simp)
  rw [List.append_nil] at hsep
  rw [toList_prints, Piece.split_spelled hsep]

end Form

end MachineConfig.Template
