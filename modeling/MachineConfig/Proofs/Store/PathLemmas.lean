import MachineConfig.Path
import MachineConfig.Proofs.Text.CodePointLemmas
import MachineConfig.Proofs.Text.SplitLemmas

/-!
Paths below a path. Looking for a name in a directory is going one name further (`child_eq_below`),
and a name without a slash stands for itself or for no step at all (`ofText_of_noSlash`).
-/

namespace MachineConfig

/-- A name that an entry of a directory can have. -/
structure IsName (name : String) : Prop where
  ne_empty : name ≠ ""
  ne_here : name ≠ "."
  ne_above : name ≠ ".."
  noSlash : '/' ∉ name.toList

instance (name : String) : Decidable (IsName name) :=
  decidable_of_iff (name ≠ "" ∧ name ≠ "." ∧ name ≠ ".." ∧ '/' ∉ name.toList)
    ⟨fun h => ⟨h.1, h.2.1, h.2.2.1, h.2.2.2⟩, fun h => ⟨h.1, h.2, h.3, h.4⟩⟩

theorem isName_of_length {name : String} (hlength : 2 < name.toList.length)
    (hslash : '/' ∉ name.toList) : IsName name := by
  refine ⟨?_, ?_, ?_, hslash⟩ <;> rintro rfl <;> revert hlength <;> decide

namespace Path

/-- The path from `p` on along these names. -/
def below (p : Path) (names : List String) : Path := { p with names := p.names ++ names }

variable {p q : Path} {name : String} {names : List String}

@[simp] theorem names_below : (p.below names).names = p.names ++ names := rfl

@[simp] theorem anchor_below : (p.below names).anchor = p.anchor := rfl

@[simp] theorem isAbsolute_below : (p.below names).isAbsolute = p.isAbsolute := rfl

@[simp] theorem below_nil : p.below [] = p := by simp [below]

@[simp] theorem below_below (more : List String) :
    (p.below names).below more = p.below (names ++ more) := by
  simp [below]

@[simp] theorem below_inj {more : List String} : p.below names = p.below more ↔ names = more := by
  simp [below]

theorem parent_below_append : (p.below (names ++ [name])).parent = p.below names := by
  simp [parent, below, ← List.append_assoc]

theorem name_below_append : (p.below (names ++ [name])).name = name := by
  simp [Path.name]

@[simp] theorem parent_below_singleton : (p.below [name]).parent = p :=
  parent_below_append.trans below_nil

@[simp] theorem name_below_singleton : (p.below [name]).name = name :=
  @name_below_append p name []

/-- A path that has a name is its parent and that name. -/
theorem below_parent_name (h : p.names ≠ []) : p.parent.below [p.name] = p := by
  have hnames : p.names.dropLast ++ [p.name] = p.names := by
    rw [Path.name, List.getLastD_eq_getLast?, List.getLast?_eq_some_getLast h, Option.getD_some,
      List.dropLast_concat_getLast]
  rw [below, parent, hnames]

theorem ne_below_of_ne_nil (h : names ≠ []) : p.below names ≠ p := by
  intro heq
  exact h (List.append_right_eq_self.1 (congrArg Path.names heq))

theorem anchorOf_of_noSlash {cs : List Char} (h : '/' ∉ cs) : anchorOf cs = .relative := by
  unfold anchorOf
  split <;> simp_all

/-- A name without a slash is one step, or none if it is empty or the name of the place itself. -/
theorem ofText_of_noSlash (h : '/' ∉ name.toList) :
    ofText name = ⟨.relative, if name = "" ∨ name = "." then [] else [name]⟩ := by
  rw [ofText, anchorOf_of_noSlash h, Text.splitAt_of_not_mem h]
  by_cases hname : name = "" ∨ name = "."
  · rcases hname with rfl | rfl <;> rfl
  · rw [not_or] at hname
    simp [hname]

theorem ofText_of_isName (h : IsName name) : ofText name = ⟨.relative, [name]⟩ := by
  rw [ofText_of_noSlash h.noSlash, if_neg (not_or.2 ⟨h.ne_empty, h.ne_here⟩)]

theorem child_of_noSlash (h : '/' ∉ name.toList) :
    p.child name = p.below (if name = "" ∨ name = "." then [] else [name]) := by
  rw [child, ofText_of_noSlash h]
  rfl

theorem child_eq_below (h : IsName name) : p.child name = p.below [name] := by
  rw [child_of_noSlash h.noSlash, if_neg (not_or.2 ⟨h.ne_empty, h.ne_here⟩)]

theorem name_below (h : names ≠ []) : (p.below names).name = names.getLastD "" := by
  rw [Path.name, names_below, List.getLastD_eq_getLast?, List.getLastD_eq_getLast?,
    List.getLast?_append, List.getLast?_eq_some_getLast h, Option.some_or]

/-- The names of a path that was read have no slashes. -/
theorem noSlash_name_ofText (s : String) : '/' ∉ (ofText s).name.toList := by
  have hname : (ofText s).name ∈ "" :: (ofText s).names := List.getLastD_mem_cons
  rcases List.mem_cons.1 hname with hempty | hmem
  · rw [hempty]
    exact List.not_mem_nil
  · exact Text.not_mem_of_mem_splitAt (List.mem_filter.1 hmem).1

theorem noSlash_name_child (h : '/' ∉ p.name.toList) (s : String) :
    '/' ∉ (p.child s).name.toList := by
  rw [child, join]
  split
  · exact noSlash_name_ofText s
  · change '/' ∉ (p.below (ofText s).names).name.toList
    by_cases hnames : (ofText s).names = []
    · rwa [hnames, below_nil]
    · rw [name_below hnames]
      exact noSlash_name_ofText s

/-- Going on makes the text of a path no shorter, but for the path of no names. -/
theorem byteLength_text_le_below (h : p.names ≠ []) (more : List String) :
    Text.byteLength p.text ≤ Text.byteLength (p.below more).text := by
  have hjoined : Text.byteLength ("/".intercalate p.names) ≤
      Text.byteLength ("/".intercalate (p.names ++ more)) := by
    by_cases hmore : more = []
    · exact Nat.le_of_eq (by rw [hmore, List.append_nil])
    · rw [String.intercalate_append_of_ne_nil h hmore, Text.byteLength_append,
        Text.byteLength_append]
      omega
  have hfirst : p.names.isEmpty = false := by simpa using h
  have hboth : (p.names ++ more).isEmpty = false := by simp [h]
  cases hanchor : p.anchor with
  | relative => simpa [text, hanchor, hfirst, hboth] using hjoined
  | root => simpa [text, hanchor, Text.byteLength_append] using hjoined
  | doubleRoot => simpa [text, hanchor, Text.byteLength_append] using hjoined

end Path

end MachineConfig
