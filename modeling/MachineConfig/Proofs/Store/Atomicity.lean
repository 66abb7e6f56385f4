import Mathlib.Logic.Relation
import MachineConfig.Proofs.Store.FootprintLemmas

/-!
Replacing a file where any step may be refused. A run goes through stages (`Stage`, `Replaces`), and
at each of them the host may refuse to go on; `replaceUnder` is such a run
(`replacesMany_replaceUnder`). A run that ends with a refusal leaves nothing behind but directories
on the way to the file, of which the last may have been written in, and another one puts the file
where the path leads (`replaceUnder_atomic`).
Those directories may hide the target itself: the path `a/../a` leads to a directory once `a` is
made.
-/

namespace MachineConfig.Store

open Relation

variable {s t u : Store} {p done location temporary : Path} {names : List String} {now : Int}
  {text : String}

/-! ## Directories on the way -/

/-- The path comes by this place: a first part of it, or all of it, leads there. -/
def ComesBy (p : Path) (s : Store) (location : Path) : Prop :=
  ∃ done names, done.names ≠ [] ∧ done.below names = p ∧ s.locate done = .ok location

/-- `t` is `s` with more directories, all of them at places that the path comes by. -/
structure Paves (p : Path) (s t : Store) : Prop where
  gains : Extends s t
  comesBy : ∀ {location}, t.at? location ≠ s.at? location → ComesBy p t location

theorem ComesBy.of_extends (h : ComesBy p s location) (hextends : Extends s t) :
    ComesBy p t location := by
  obtain ⟨done, names, hdone, hpath, hlocate⟩ := h
  exact ⟨done, names, hdone, hpath, hextends.locate_eq hlocate⟩

/-- Proper names lead down. -/
theorem ComesBy.exists_front (h : ComesBy p s location) (hnames : ".." ∉ p.names) :
    ∃ front, front ≠ [] ∧ front <+: p.names ∧ location = (s.start p).below front := by
  obtain ⟨done, names, hdone, rfl, hlocate⟩ := h
  have hfront : ".." ∉ done.names := fun hdots => hnames (List.mem_append_left _ hdots)
  exact ⟨done.names, hdone, List.prefix_append _ _,
    eq_below_of_foldlM_step hfront (locate_eq_ok_iff.1 hlocate).2⟩

namespace Paves

theorem refl (p : Path) (s : Store) : Paves p s s := ⟨.refl s, fun hne => (hne rfl).elim⟩

theorem trans (h : Paves p s t) (h' : Paves p t u) : Paves p s u := by
  refine ⟨h.gains.trans h'.gains, fun {location} hne => ?_⟩
  by_cases hlater : u.at? location = t.at? location
  · exact (h.comesBy (hlater ▸ hne)).of_extends h'.gains
  · exact h'.comesBy hlater

theorem at?_eq_of_ne_directory (h : Paves p s t) (hplace : t.at? location ≠ some .directory) :
    t.at? location = s.at? location :=
  (h.gains.entry location).resolve_right fun hnew => hplace hnew.2

/-- A path of proper names does not come by the place that it leads to. -/
theorem at?_eq (h : Paves p.parent s t) (hnames : ".." ∉ p.names)
    (hlocate : t.locate p = .ok location) : t.at? location = s.at? location := by
  refine Classical.not_not.1 fun hne => ?_
  have hparent : ".." ∉ p.parent.names := fun hdots => hnames (List.dropLast_subset _ hdots)
  obtain ⟨front, hfront, hpart, hcomes⟩ := (h.comesBy hne).exists_front hparent
  have hplace := eq_below_of_foldlM_step hnames (locate_eq_ok_iff.1 hlocate).2
  obtain rfl : front = p.names := Path.below_inj.1 (hcomes.symm.trans hplace)
  -- The path to the parent would be as long as the whole path.
  have hlength : p.names.length ≤ p.names.length - 1 := by simpa [Path.parent] using hpart.length_le
  have hpos := List.length_pos_iff.2 hfront
  omega

end Paves

/-- What was there before was there at the end of the same path. -/
theorem IsTree.walk_eq_of_at? (hs : s.IsTree) (hextends : Extends s t) (hnames : ".." ∉ p.names)
    (hwalk : t.walk p = .ok location) (hthere : s.at? location ≠ none) :
    s.walk p = .ok location := by
  by_cases hnil : p.names = []
  · have hstart : s.start p = t.start p := by rw [start, start, hextends.workingDirectory]
    rw [walk, hnil, List.foldlM_nil] at hwalk ⊢
    rwa [hstart]
  · rw [← Path.below_parent_name hnil, walk_below_eq_ok_iff] at hwalk ⊢
    obtain ⟨above, habove, hstep⟩ := hwalk
    have hname : p.name ≠ ".." := by
      intro hdots
      refine hnames ?_
      rw [← Path.below_parent_name hnil, Path.names_below, hdots]
      exact List.mem_append_right _ (List.mem_singleton_self _)
    have hdirectory : s.at? above = some .directory := by
      obtain rfl := eq_below_of_step_eq_ok hstep hname
      simpa using hs.parent hthere
    have hfront : ".." ∉ p.parent.names := fun hdots => hnames (List.dropLast_subset _ hdots)
    refine ⟨above, hs.walk_eq_of_directory hextends hfront habove hdirectory, ?_⟩
    rw [step_eq_ok_iff] at hstep ⊢
    exact ⟨hdirectory, hstep.2⟩

/-- At a path of proper names lies what lay there before its parents were made. -/
theorem Paves.entry?_eq (h : Paves p.parent s t) (hs : s.IsTree) (hnames : ".." ∉ p.names) :
    t.entry? p = s.entry? p := by
  cases hlocate : t.locate p with
  | error obstacle =>
    have hbefore : ∀ location, s.locate p ≠ .ok location := fun location hbefore => by
      simp [h.gains.locate_eq hbefore] at hlocate
    rw [ entry?, entry?, hlocate]
    cases hthen : s.locate p with
    | error obstacle => rfl
    | ok location => exact (hbefore location hthen).elim
  | ok location =>
    rw [entry?_eq_of_locate hlocate, h.at?_eq hnames hlocate]
    by_cases hthere : s.at? location = none
    · rw [hthere, entry?]
      cases hthen : s.locate p with
      | error obstacle => rfl
      | ok other =>
        obtain rfl := Except.ok.inj ((h.gains.locate_eq hthen).symm.trans hlocate)
        exact hthere.symm
    · have hpath := locate_eq_ok_iff.1 hlocate
      have hwalk := hs.walk_eq_of_at? h.gains hnames hpath.2 hthere
      exact (entry?_eq_of_locate (locate_eq_ok_iff.2 ⟨hpath.1, hwalk⟩)).symm

theorem paves_makeDirectory (hdone : done.names ≠ []) (hpath : done.below names = p) (s : Store)
    (now : Int) : Paves p s (s.makeDirectory now done).1 := by
  rcases makeDirectory_cases s now done with hsame | ⟨location, hlocate, hnone, hmade⟩
  · rw [hsame]
    exact .refl p s
  · rw [hmade]
    refine ⟨(extends_put_directory hnone).touchAll .., fun {other} hne => ?_⟩
    by_cases hother : other = location
    · rw [hother]
      exact ⟨done, names, hdone, hpath, (extends_put_directory hnone).locate_eq hlocate⟩
    · exact (hne (at?_put_of_ne hother)).elim

/-! ## The stages of a run -/

/-- How far replacing a file has come. -/
inductive Stage where
  /-- Of the directories above the file those along `names`, from `done` on, are still to be made.
  -/
  | making (done : Path) (names : List String)
  | inspecting
  | creating (mode : Nat)
  | filling (mode : Nat) (temporary : Path)
  | permitting (mode : Nat) (temporary : Path)
  | moving (temporary : Path)
  /-- A step was refused while the temporary file was there. -/
  | clearing (temporary : Path) (fault : HostFault)
  | ended (result : Except HostFault Unit)

namespace Stage

def first (p : Path) : Stage := making { p.parent with names := [] } p.parent.names

/-- The stage comes before the one at which the temporary file is there. -/
def isEarly : Stage → Bool
  | making .. | inspecting | creating _ => true
  | _ => false

/-- The temporary file that will take the place of the old one. -/
def temporary? : Stage → Option Path
  | filling _ temporary | permitting _ temporary | moving temporary => some temporary
  | _ => none

end Stage

/-- One step of replacing a file, or its refusal, with which any stage may end. -/
inductive Replaces (now : Int) (p : Path) (text : String) :
    Store × Stage → Store × Stage → Prop where
  | made {s t : Store} {done : Path} {name : String} {names : List String}
      (h : s.makeDirectory now (done.below [name]) = (t, .ok ())) :
    Replaces now p text (s, .making done (name :: names)) (t, .making (done.below [name]) names)
  | allMade {s : Store} {done : Path} : Replaces now p text (s, .making done []) (s, .inspecting)
  | inspected {s : Store} {mode : Nat} (h : s.modeFor p = .ok mode) :
    Replaces now p text (s, .inspecting) (s, .creating mode)
  /-- The temporary file is given any name that is free in the directory of the old one. -/
  | created {s : Store} {mode : Nat} {directory : Path} {name : String}
      (hparent : s.locate p.parent = .ok directory)
      (hdirectory : s.at? directory = some .directory)
      (hfree : s.at? (directory.below [name]) = none) :
    Replaces now p text (s, .creating mode)
      (s.create now (directory.below [name]) (.file ⟨.empty, 0o600, now⟩),
        .filling mode (directory.below [name]))
  | partlyFilled {s : Store} {mode : Nat} {temporary : Path} (content : ByteArray) :
    Replaces now p text (s, .filling mode temporary)
      (s.put temporary (.file ⟨content, 0o600, now⟩), .filling mode temporary)
  | filled {s : Store} {mode : Nat} {temporary : Path} (h : Text.isEncodable text) :
    Replaces now p text (s, .filling mode temporary)
      (s.put temporary (.file ⟨Text.utf8 text, 0o600, now⟩), .permitting mode temporary)
  | permitted {s : Store} {mode : Nat} {temporary : Path} :
    Replaces now p text (s, .permitting mode temporary)
      (s.put temporary (.file ⟨Text.utf8 text, mode, now⟩), .moving temporary)
  | renamed {s t : Store} {temporary : Path} (h : s.renameTo now temporary p = (t, .ok ())) :
    Replaces now p text (s, .moving temporary) (t, .ended (.ok ()))
  | refused {s : Store} {stage : Stage} (h : stage.isEarly) (fault : HostFault) :
    Replaces now p text (s, stage) (s, .ended (.error fault))
  | abandoned {s : Store} {temporary : Path} {stage : Stage}
      (h : stage.temporary? = some temporary) (fault : HostFault) :
    Replaces now p text (s, stage) (s, .clearing temporary fault)
  | cleared {s : Store} {temporary : Path} {fault : HostFault} :
    Replaces now p text (s, .clearing temporary fault)
      (s.discard now temporary, .ended (.error fault))

/-- Any number of steps. -/
abbrev ReplacesMany (now : Int) (p : Path) (text : String) : Store × Stage → Store × Stage → Prop :=
  ReflTransGen (Replaces now p text)

/-- The text lies where the path leads, in a file that has the permissions of the old one. -/
def IsReplaced (now : Int) (p : Path) (text : String) (s t : Store) : Prop :=
  Text.isEncodable text ∧ ∃ location directory, s.locate p = .ok location ∧
    s.at? location ≠ some .directory ∧ s.locate p.parent = .ok directory ∧
      t =
        (s.put location (.file ⟨Text.utf8 text, modeOver (s.at? location), now⟩)).touch now directory

/-- Nothing has changed but that the directory of the file may have been written in. -/
def IsSpared (now : Int) (p : Path) (s t : Store) : Prop :=
  t = s ∨ ∃ directory, s.locate p.parent = .ok directory ∧ t = s.touch now directory

/-- The temporary file lies in the directory of the file, where nothing lay. -/
structure IsTemporary (p : Path) (base : Store) (temporary : Path) : Prop where
  parent : base.locate p.parent = .ok temporary.parent
  free : base.at? temporary = none

/-- What holds at a stage, if the directories that have been made so far make the tree `base`. -/
def Stage.Holds (now : Int) (p : Path) (text : String) (base s : Store) : Stage → Prop
  | making done names => s = base ∧ done.below names = p.parent
  | inspecting => s = base
  | creating mode => s = base ∧ base.modeFor p = .ok mode
  | filling mode temporary =>
    base.modeFor p = .ok mode ∧ IsTemporary p base temporary ∧
      ∃ file, s = base.create now temporary (.file file)
  | permitting mode temporary =>
    base.modeFor p = .ok mode ∧ IsTemporary p base temporary ∧ Text.isEncodable text ∧
      ∃ file, s = base.create now temporary (.file file)
  | moving temporary =>
    IsTemporary p base temporary ∧ Text.isEncodable text ∧
      ∃ mode, base.modeFor p = .ok mode ∧
        s = base.create now temporary (.file ⟨Text.utf8 text, mode, now⟩)
  | clearing temporary _ =>
    IsTemporary p base temporary ∧ ∃ file, s = base.create now temporary (.file file)
  | ended (.ok ()) => IsReplaced now p text base s
  | ended (.error _) => IsSpared now p base s

namespace Stage

variable {base : Store} {stage : Stage}

theorem Holds.eq_of_isEarly (h : stage.Holds now p text base s) (hearly : stage.isEarly) :
    s = base := by
  cases stage with
  | making => exact h.1
  | inspecting => exact h
  | creating => exact h.1
  | _ => cases hearly

theorem Holds.of_temporary? (h : stage.Holds now p text base s)
    (htemporary : stage.temporary? = some temporary) :
    IsTemporary p base temporary ∧ ∃ file, s = base.create now temporary (.file file) := by
  cases stage with
  | filling =>
    obtain rfl := Option.some.inj htemporary
    exact h.2
  | permitting =>
    obtain rfl := Option.some.inj htemporary
    exact ⟨h.2.1, h.2.2.2⟩
  | moving =>
    obtain rfl := Option.some.inj htemporary
    obtain ⟨hfree, -, mode, -, hput⟩ := h
    exact ⟨hfree, _, hput⟩
  | _ => cases htemporary

end Stage

/-- The temporary file takes the place that the path leads to. -/
theorem isReplaced_of_renameTo {base : Store} {mode : Nat}
    (htemporary : IsTemporary p base temporary)
    (hencodable : Text.isEncodable text) (hmode : base.modeFor p = .ok mode)
    (h : (base.create now temporary (.file ⟨Text.utf8 text, mode, now⟩)).renameTo now temporary p =
      (t, .ok ())) :
    IsReplaced now p text base t := by
  rw [renameTo_create htemporary.free] at h
  cases hlocate : base.locate p with
  | error obstacle => simp [hlocate] at h
  | ok location =>
    simp only [hlocate] at h
    split at h
    · cases (Prod.mk.inj h).2
    · next hplace =>
      obtain rfl : modeOver (base.at? location) = mode := by
        rw [modeFor_eq, look_of_locate hlocate] at hmode
        exact Except.ok.inj hmode
      exact ⟨hencodable, location, temporary.parent, hlocate, hplace, htemporary.parent,
        (Prod.mk.inj h).1.symm⟩

/-- One step keeps what holds at its stage; only the making of directories adds some. -/
theorem Replaces.holds {base : Store} {stage stage' : Stage}
    (h : Replaces now p text (s, stage) (t, stage')) (hs : stage.Holds now p text base s) :
    ∃ base', Paves p.parent base base' ∧ stage'.Holds now p text base' t := by
  cases h with
  | @made _ _ done name names hmade =>
    obtain ⟨rfl, hpath⟩ := hs
    have hbelow : (done.below [name]).below names = p.parent := by simpa using hpath
    have hpaves := paves_makeDirectory (by simp) hbelow s now
    rw [hmade] at hpaves
    exact ⟨t, hpaves, rfl, hbelow⟩
  | allMade => exact ⟨base, .refl _ _, hs.1⟩
  | inspected hmode =>
    obtain rfl : s = base := hs
    exact ⟨s, .refl _ _, rfl, hmode⟩
  | created hparent hdirectory hfree =>
    obtain ⟨rfl, hmode⟩ := hs
    exact ⟨s, .refl _ _, hmode, ⟨by rwa [Path.parent_below_singleton], hfree⟩, _, rfl⟩
  | partlyFilled content =>
    obtain ⟨hmode, htemporary, file, rfl⟩ := hs
    exact ⟨base, .refl _ _, hmode, htemporary, _, put_create ..⟩
  | filled hencodable =>
    obtain ⟨hmode, htemporary, file, rfl⟩ := hs
    exact ⟨base, .refl _ _, hmode, htemporary, hencodable, _, put_create ..⟩
  | permitted =>
    obtain ⟨hmode, htemporary, hencodable, file, rfl⟩ := hs
    exact ⟨base, .refl _ _, htemporary, hencodable, _, hmode, put_create ..⟩
  | renamed hrename =>
    obtain ⟨htemporary, hencodable, mode, hmode, rfl⟩ := hs
    exact ⟨base, .refl _ _, isReplaced_of_renameTo htemporary hencodable hmode hrename⟩
  | refused hearly fault => exact ⟨base, .refl _ _, .inl (hs.eq_of_isEarly hearly)⟩
  | abandoned htemporary fault => exact ⟨base, .refl _ _, hs.of_temporary? htemporary⟩
  | @cleared _ temporary =>
    obtain ⟨htemporary, file, rfl⟩ := hs
    exact ⟨base, .refl _ _, .inr ⟨temporary.parent, htemporary.parent,
      discard_create htemporary.free ..⟩⟩

/-- A run keeps what holds at its stage. -/
theorem ReplacesMany.holds {stage : Stage}
    (h : ReplacesMany now p text (s, .first p) (t, stage)) :
    ∃ base, Paves p.parent s base ∧ stage.Holds now p text base t := by
  generalize hend : (t, stage) = last at h
  induction h generalizing t stage with
  | refl =>
    obtain ⟨rfl, rfl⟩ := Prod.mk.inj hend
    exact ⟨t, .refl _ _, rfl, by simp [Path.below]⟩
  | @tail middle _ _ hstep ih =>
    subst hend
    obtain ⟨base, hpaves, hholds⟩ := ih rfl
    obtain ⟨base', hpaves', hholds'⟩ := hstep.holds hholds
    exact ⟨base', hpaves.trans hpaves', hholds'⟩

/-! ## Runs of the program -/

theorem replacesMany_makeDirectoriesFrom (s : Store) (done : Path) (names : List String) :
    ReplacesMany now p text (s, .making done names)
      ((s.makeDirectoriesFrom now done names).1,
        match (s.makeDirectoriesFrom now done names).2 with
        | .ok () => .inspecting
        | .error fault => .ended (.error fault)) := by
  induction names generalizing s done with
  | nil => exact .single .allMade
  | cons name names ih =>
    rw [makeDirectoriesFrom_cons]
    split
    · next made hmade => exact (ih made _).head (.made hmade)
    · next made fault hmade =>
      -- Where a directory cannot be made, the tree is as before.
      have hsame : made = s := by
        obtain hsame | ⟨location, -, -, hother⟩ := makeDirectory_cases s now (done.below [name])
        · rwa [hmade] at hsame
        · cases (Prod.mk.inj (hmade.symm.trans hother)).2
      exact .single (hsame ▸ .refused rfl fault)

theorem replacesMany_makeDirectories (s : Store) (p : Path) :
    ReplacesMany now p text (s, .first p)
      ((s.makeDirectories now p.parent).1,
        match (s.makeDirectories now p.parent).2 with
        | .ok () => .inspecting
        | .error fault => .ended (.error fault)) := by
  rw [makeDirectories]
  split
  · exact .single (.refused rfl _)
  · exact replacesMany_makeDirectoriesFrom s _ _

theorem eq_of_renameTo_eq_error {fault : HostFault}
    (h : s.renameTo now temporary p = (t, .error fault)) : t = s := by
  rw [renameTo] at h
  split at h
  · split at h
    · exact (Prod.mk.inj h).1.symm
    · cases (Prod.mk.inj h).2
  · exact (Prod.mk.inj h).1.symm

/-- Whichever steps are refused, the program goes through the stages to the end. -/
theorem replacesMany_replaceUnder (fails : ReplaceStep → Bool) (s : Store) (now : Int) (p : Path)
    (text : String) :
    ReplacesMany now p text (s, .first p)
      ((s.replaceUnder fails now p text).1, .ended (s.replaceUnder fails now p text).2) := by
  have hway : ReplacesMany now p text (s, .first p) _ := replacesMany_makeDirectories s p
  rw [replaceUnder]
  split
  · exact .single (.refused rfl _)
  split
  · next t fault hmade =>
    rwa [hmade] at hway
  next t hmade =>
  rw [hmade] at hway
  split
  · exact hway.tail (.refused rfl _)
  split
  · exact hway.tail (.refused rfl _)
  next mode hmode =>
  have hmoded := hway.tail (.inspected hmode)
  split
  · exact hmoded.tail (.refused rfl _)
  split
  · exact hmoded.tail (.refused rfl _)
  next temporary htemporary =>
  have hfree := at?_of_temporaryLocation htemporary
  obtain ⟨directory, hparent, hdirectory, rfl⟩ := of_temporaryLocation_eq_ok htemporary
  have hcreated := hmoded.tail (.created hparent hdirectory hfree)
  split
  · exact (hcreated.tail (.abandoned rfl _)).tail .cleared
  split
  · exact (hcreated.tail (.abandoned rfl _)).tail .cleared
  next hencodable =>
  have hfilled := hcreated.tail (.filled (by simpa using hencodable))
  split
  · exact (hfilled.tail (.abandoned rfl _)).tail .cleared
  have hpermitted := hfilled.tail .permitted
  split
  · exact (hpermitted.tail (.abandoned rfl _)).tail .cleared
  dsimp only
  split
  · next moved hmoved => exact hpermitted.tail (.renamed hmoved)
  · next moved fault hmoved =>
    obtain rfl := eq_of_renameTo_eq_error hmoved
    exact (hpermitted.tail (.abandoned rfl fault)).tail .cleared

/-- Replacing a file is atomic. Whatever steps are refused, it is a run; and at the end of a run,
whatever was refused and when, either nothing has changed but for directories that the path to the
parent comes by, the last of which may have been written in, or the text lies at the place that the
path leads to, with the permissions that the file there had. What lay at a path of proper names is
not touched before. -/
theorem replaceUnder_atomic (hs : s.IsTree) (now : Int) (p : Path) (text : String) :
    (∀ fails, ReplacesMany now p text (s, .first p)
      ((s.replaceUnder fails now p text).1, .ended (s.replaceUnder fails now p text).2)) ∧
    ∀ t result, ReplacesMany now p text (s, .first p) (t, .ended result) →
      ∃ made, Paves p.parent s made ∧ (".." ∉ p.names → made.entry? p = s.entry? p) ∧
        match result with
        | .error _ =>
          t = made ∨
            ∃ directory, made.locate p.parent = .ok directory ∧ t = made.touch now directory
        | .ok () => Text.isEncodable text ∧ ∃ location directory,
          made.locate p = .ok location ∧ made.at? location = s.at? location ∧
            s.at? location ≠ some .directory ∧ made.locate p.parent = .ok directory ∧
              t = (made.put location
                (.file ⟨Text.utf8 text, modeOver (s.at? location), now⟩)).touch now directory := by
  refine ⟨fun fails => replacesMany_replaceUnder fails s now p text, fun t result hrun => ?_⟩
  obtain ⟨made, hpaves, hholds⟩ := hrun.holds
  refine ⟨made, hpaves, hpaves.entry?_eq hs, ?_⟩
  cases result with
  | error fault => exact hholds
  | ok =>
    obtain ⟨hencodable, location, directory, hlocate, hplace, hparent, hput⟩ := hholds
    have hold := hpaves.at?_eq_of_ne_directory hplace
    rw [hold] at hplace hput
    exact ⟨hencodable, location, directory, hlocate, hold, hplace, hparent, hput⟩

/-- The permissions of the temporary file cannot be set. -/
theorem replaceUnder_atomic_unpermitted :
    let s : Store :=
      { entries := .ofList [(⟨.relative, ["a"]⟩, .directory),
          (⟨.relative, ["a", "b"]⟩, .file ⟨.empty, 0o640, 1⟩)] }
    let p : Path := ⟨.relative, ["a", "b"]⟩
    let fails (step : ReplaceStep) : Bool := step = .setMode
    let t := (s.replaceUnder fails 2 p "x").1
    s.IsTree ∧ (s.replaceUnder fails 2 p "x").2 = .error .inaccessible ∧
      t.entry? p = s.entry? p := by
  intro s p fails t
  have hs : s.IsTree := isTree_of_forall_entries (by decide)
  have hrefused : (s.replaceUnder fails 2 p "x").2 = .error .inaccessible := by decide
  obtain ⟨hruns, hends⟩ := replaceUnder_atomic hs 2 p "x"
  have hrun := hruns fails
  rw [hrefused] at hrun
  obtain ⟨made, -, hentry, hmade⟩ := hends _ _ hrun
  refine ⟨hs, hrefused, ?_⟩
  obtain hsame | ⟨directory, -, htouched⟩ : t = made ∨
      ∃ directory, made.locate p.parent = .ok directory ∧ t = made.touch 2 directory := hmade
  · rw [hsame]
    exact hentry (by decide)
  · rw [htouched]
    exact hentry (by decide)

/-- The target itself is one of the directories that are made. -/
theorem replace_paves_target :
    let s : Store := {}
    let p := Path.ofText "a/../a"
    let t := (s.replace 0 p "x").1
    (s.replace 0 p "x").2 = .error .inaccessible ∧ s.entry? p = none ∧
      t.entry? p = some .directory := by
  decide

end MachineConfig.Store
