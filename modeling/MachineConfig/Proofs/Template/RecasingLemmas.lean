import MachineConfig.Proofs.Template.Form
import MachineConfig.Proofs.Text.RecasingLemmas
import MachineConfig.Template.Condition

/-!
Templates that differ in the case of the letters of names. A condition does not show the case of the
name in it, as far as the text that it compares with is the same (`Condition.ofString_eq`), and
forms stay well formed (`Form.Recased.allWellFormed`).
-/

namespace MachineConfig.Template

open Text

theorem isBrace_toLower (c : Char) : isBrace c.toLower = isBrace c :=
  eq_toLower_of_capitals (by decide) c

theorem isQuote_toLower (c : Char) : isQuote c.toLower = isQuote c :=
  eq_toLower_of_capitals (by decide) c

theorem isNameStart_toLower (c : Char) : isNameStart c.toLower = isNameStart c :=
  eq_toLower_of_capitals (by decide) c

theorem isWordChar_toLower (c : Char) : isWordChar c.toLower = isWordChar c :=
  eq_toLower_of_capitals (by decide) c

theorem isNameChar_toLower (c : Char) : isNameChar c.toLower = isNameChar c :=
  eq_toLower_of_capitals (by decide) c

theorem isScalarName_cons {c : Char} (h : c ≠ '@') (cs : List Char) :
    isScalarName (c :: cs) = (isNameStart c && cs.all isNameChar) := by
  unfold isScalarName
  split
  · next hname => split at hname <;> simp_all
  · next hname => split at hname <;> simp_all

theorem isScalarName_map_toLower (cs : List Char) :
    isScalarName (cs.map Char.toLower) = isScalarName cs := by
  cases cs with
  | nil => rfl
  | cons c cs =>
    by_cases hmark : c = '@'
    · subst hmark
      cases cs with
      | nil => rfl
      | cons d ds =>
        change (isNameStart d.toLower && (ds.map Char.toLower).all isNameChar) =
          (isNameStart d && ds.all isNameChar)
        rw [List.all_map, isNameStart_toLower, comp_toLower isNameChar_toLower]
    · have hlow : c.toLower ≠ '@' := fun h => hmark ((toLower_eq_iff (by decide) c).1 h)
      rw [List.map_cons, isScalarName_cons hlow, isScalarName_cons hmark, List.all_map,
        isNameStart_toLower, comp_toLower isNameChar_toLower]

/-! ## Conditions -/

namespace Condition

/-- The text that a condition compares with. -/
def literal? : Condition → Option String
  | equals _ literal | differs _ literal => some literal
  | truthy _ => none

/-- The condition with the text that it compares with in lower case. -/
def lowerLiteral : Condition → Condition
  | equals name literal => equals name (String.ofList (literal.toList.map Char.toLower))
  | differs name literal => differs name (String.ofList (literal.toList.map Char.toLower))
  | truthy name => truthy name

/-- What is compared and how can be told from the condition in lower case and its text. -/
theorem eq_of_lowerLiteral {c d : Condition} (h : c.lowerLiteral = d.lowerLiteral)
    (hliteral : c.literal? = d.literal?) : c = d := by
  cases c <;> cases d <;> simp_all [lowerLiteral, literal?]

end Condition

theorem quotedLiteral?_map_toLower (cs : List Char) :
    quotedLiteral? (cs.map Char.toLower) = (quotedLiteral? cs).map (·.map Char.toLower) := by
  cases cs with
  | nil => rfl
  | cons q cs =>
    have hquote : (fun c => !isQuote c) ∘ Char.toLower = fun c => !isQuote c :=
      comp_toLower fun c => by rw [isQuote_toLower]
    simp only [quotedLiteral?, List.map_cons, List.span_eq_takeWhile_dropWhile, List.takeWhile_map,
      List.dropWhile_map, hquote, isQuote_toLower]
    rcases cs.dropWhile (!isQuote ·) with _ | ⟨last, _ | ⟨more, rest⟩⟩
    · rfl
    · by_cases hq : isQuote q <;> simp [hq]
    · rfl

theorem comparison?_map_toLower (cs : List Char) :
    comparison? (cs.map Char.toLower) = (comparison? cs).map Condition.lowerLiteral := by
  simp only [comparison?, List.span_eq_takeWhile_dropWhile, List.takeWhile_map, List.dropWhile_map,
    comp_toLower isWordChar_toLower]
  generalize cs.dropWhile isWordChar = rest
  cases cs.takeWhile isWordChar with
  | nil => rfl
  | cons c name =>
    have hname : lower (String.ofList (c.toLower :: name.map Char.toLower)) =
        lower (String.ofList (c :: name)) := by
      rw [← List.map_cons, lower_ofList_map_toLower]
    simp only [List.map_cons, isNameStart_toLower, hname]
    by_cases hstart : isNameStart c
    · simp only [hstart, if_true, List.dropWhile_map, comp_toLower isBlank_toLower]
      generalize rest.dropWhile isBlank = ops
      have hliteral (more : List Char) :
          (quotedLiteral? ((more.map Char.toLower).dropWhile isBlank)).map String.ofList =
            ((quotedLiteral? (more.dropWhile isBlank)).map (·.map Char.toLower)).map
              String.ofList := by
        rw [List.dropWhile_map, comp_toLower isBlank_toLower, quotedLiteral?_map_toLower]
      split
      · next heq =>
        obtain ⟨first, rfl, hfirst⟩ := (map_toLower_eq_cons_iff (by decide)).1 heq
        obtain ⟨more, rfl, rfl⟩ := (map_toLower_eq_cons_iff (by decide)).1 hfirst
        rw [hliteral]
        simp [Function.comp_def, Condition.lowerLiteral]
      · next heq =>
        obtain ⟨first, rfl, hfirst⟩ := (map_toLower_eq_cons_iff (by decide)).1 heq
        obtain ⟨more, rfl, rfl⟩ := (map_toLower_eq_cons_iff (by decide)).1 hfirst
        rw [hliteral]
        simp [Function.comp_def, Condition.lowerLiteral]
      · next hequals hdiffers =>
        split
        · exact (hequals _ rfl).elim
        · exact (hdiffers _ rfl).elim
        · rfl
    · simp [hstart]

/-- Two conditions differ in the case of the name only. -/
def Condition.IsRecasing (c d : String) : Prop :=
  Text.IsRecasing c d ∧ (ofString c).literal? = (ofString d).literal?

instance (c d : String) : Decidable (Condition.IsRecasing c d) :=
  inferInstanceAs (Decidable (_ ∧ _))

theorem Condition.lowerLiteral_ofString {c d : String} (h : Text.IsRecasing c d) :
    (ofString c).lowerLiteral = (ofString d).lowerLiteral := by
  have htrim : (trim c.toList).map Char.toLower = (trim d.toList).map Char.toLower := by
    rw [← trim_map_toLower, h, trim_map_toLower]
  have hcompared := congrArg comparison? htrim
  rw [comparison?_map_toLower, comparison?_map_toLower] at hcompared
  have hspelled : lower (String.ofList ((trim c.toList).filter isWordChar)) =
      lower (String.ofList ((trim d.toList).filter isWordChar)) := by
    refine eq_of_map_toLower (fun cs => lower (String.ofList (cs.filter isWordChar)))
      (fun cs => ?_) htrim
    rw [List.filter_map, comp_toLower isWordChar_toLower, lower_ofList_map_toLower]
  rw [ofString, ofString, hspelled]
  cases hc : comparison? (trim c.toList) <;> cases hd : comparison? (trim d.toList) <;>
    simp_all

/-- A condition does not show the case of its name. -/
theorem Condition.IsRecasing.ofString_eq {c d : String} (h : Condition.IsRecasing c d) :
    ofString c = ofString d :=
  eq_of_lowerLiteral (lowerLiteral_ofString h.1) h.2

/-! ## Forms -/

namespace Form

/-- Forms that differ in the case of the names of scalars, of the names in conditions and of the
names of arrays. -/
inductive Recased : List Form → List Form → Prop where
  | nil : Recased [] []
  | text {value : String} {fs gs : List Form} : Recased fs gs →
      Recased (text value :: fs) (text value :: gs)
  | scalar {name other : String} {spaced : Bool} {fs gs : List Form} : IsRecasing name other →
      Recased fs gs → Recased (scalar name spaced :: fs) (scalar other spaced :: gs)
  /-- An if or unless block without an else tag. -/
  | conditional {kind : Block} {condition other : String} {body body' fs gs : List Form} :
      kind ≠ .eachBlock → Condition.IsRecasing condition other → Recased body body' →
      Recased fs gs → Recased (block kind condition body :: fs) (block kind other body' :: gs)
  | ifElse {condition other : String} {yes yes' no no' fs gs : List Form} :
      Condition.IsRecasing condition other → Recased yes yes' → Recased no no' → Recased fs gs →
      Recased (ifElse condition yes no :: fs) (ifElse other yes' no' :: gs)
  | loop {array other : String} {body body' fs gs : List Form} : IsRecasing array other →
      Recased body body' → Recased fs gs →
      Recased (block .eachBlock array body :: fs) (block .eachBlock other body' :: gs)

theorem isArgument_of_isRecasing {arg other : String} (h : IsRecasing arg other)
    (harg : isArgument arg) : isArgument other := by
  simp only [isArgument, Bool.and_eq_true, decide_eq_true_eq] at harg ⊢
  obtain ⟨⟨hne, hbraces⟩, htrim⟩ := harg
  refine ⟨⟨fun hempty => hne ?_, ?_⟩, trim_eq_self_of_map_toLower h htrim⟩
  · subst hempty
    exact String.toList_inj.1 (List.map_eq_nil_iff.1 h)
  · rw [← hbraces]
    refine (eq_of_map_toLower (List.all · (!isBrace ·)) (fun cs => ?_) h).symm
    rw [List.all_map, comp_toLower fun c => by rw [isBrace_toLower]]

namespace Recased

variable {fs gs : List Form}

theorem anyHasLoop_eq (h : Recased fs gs) : anyHasLoop fs = anyHasLoop gs := by
  induction h with
  | nil => rfl
  | text _ ih | scalar _ _ ih => simp only [anyHasLoop, hasLoop, ih]
  | conditional _ _ _ _ ihBody ih | loop _ _ _ ihBody ih =>
    simp only [anyHasLoop, hasLoop, ihBody, ih]
  | ifElse _ _ _ _ ihYes ihNo ih => simp only [anyHasLoop, hasLoop, ihYes, ihNo, ih]

theorem any_isText_eq (h : Recased fs gs) : fs.head?.any isText = gs.head?.any isText := by
  cases h <;> rfl

/-- Recased forms are well formed. -/
theorem allWellFormed (h : Recased fs gs) (hfs : Form.allWellFormed fs) :
    Form.allWellFormed gs := by
  induction h with
  | nil => rfl
  | text hrest ih =>
    simp only [Form.allWellFormed, isWellFormed, isText, hrest.any_isText_eq,
      Bool.and_eq_true] at hfs ⊢
    exact ⟨⟨hfs.1.1, ih hfs.1.2⟩, hfs.2⟩
  | scalar hname hrest ih =>
    simp only [Form.allWellFormed, isWellFormed, isText, Bool.and_eq_true] at hfs ⊢
    refine ⟨⟨?_, ih hfs.1.2⟩, hfs.2⟩
    rw [← eq_of_map_toLower isScalarName isScalarName_map_toLower hname]
    exact hfs.1.1
  | conditional hkind hcondition hbody hrest ihBody ih =>
    simp only [Form.allWellFormed, isWellFormed, isText, hbody.anyHasLoop_eq,
      Bool.and_eq_true] at hfs ⊢
    obtain ⟨⟨⟨⟨harg, hinner⟩, hloop⟩, hafter⟩, hapart⟩ := hfs
    exact ⟨⟨⟨⟨isArgument_of_isRecasing hcondition.1 harg, ihBody hinner⟩, hloop⟩, ih hafter⟩,
      hapart⟩
  | ifElse hcondition hyes hno hrest ihYes ihNo ih =>
    simp only [Form.allWellFormed, isWellFormed, isText, Bool.and_eq_true] at hfs ⊢
    obtain ⟨⟨⟨⟨harg, hfirst⟩, hsecond⟩, hafter⟩, hapart⟩ := hfs
    exact ⟨⟨⟨⟨isArgument_of_isRecasing hcondition.1 harg, ihYes hfirst⟩, ihNo hsecond⟩,
      ih hafter⟩, hapart⟩
  | loop harray hbody hrest ihBody ih =>
    simp only [Form.allWellFormed, isWellFormed, isText, hbody.anyHasLoop_eq,
      Bool.and_eq_true] at hfs ⊢
    obtain ⟨⟨⟨⟨harg, hinner⟩, hloop⟩, hafter⟩, hapart⟩ := hfs
    exact ⟨⟨⟨⟨isArgument_of_isRecasing harray harg, ihBody hinner⟩, hloop⟩, ih hafter⟩, hapart⟩

end Recased

end Form

end MachineConfig.Template
