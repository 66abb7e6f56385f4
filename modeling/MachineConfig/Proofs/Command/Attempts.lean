import MachineConfig.Proofs.Command.PrintingLemmas

/-!
Rendering named templates one after the other. Each name is attempted in the tree that the names
before it have left (`Attempts`), and the status tells whether all attempts have come to something;
or the command ends at a name, for one of three reasons (`Breaks`).
-/

namespace MachineConfig.Command

open Console Generated Store
open Template (Renderer Rendering)

variable {s : Session} {l : Layout} {r : Renderer} {target : Target} {alone : Bool} {name : String}
  {names : List String} {before : Store} {template : Path} {x : Rendering}

/-- The status for what some attempts have come to. -/
def statusOf (verdicts : List Bool) : Nat := if verdicts.all id then 0 else 1

theorem statusOf_cons (verdict : Bool) (verdicts : List Bool) :
    statusOf (verdict :: verdicts) = max (if verdict then 0 else 1) (statusOf verdicts) := by
  unfold statusOf
  cases verdict <;> cases h : verdicts.all id <;> simp [h]

/-- What the attempt to render what a name means comes to: the tree after it, whether there is a
rendering, which is written if it is to be, and what is told of it. An attempt that fails changes no
file. -/
inductive Attempted (s : Session) (l : Layout) (r : Renderer) (target : Target) (alone : Bool)
    (name : String) (before : Store) : Store → Bool → List Piece → Prop
  | shown {template : Path} {x : Rendering}
      (find : { s with store := before }.findTemplate l name = .ok template)
      (render : rendering r before template = .ok x) (other : target ≠ .write)
      (sized : target = .dryRun → Text.isEncodable x.text) :
      Attempted s l r target alone name before before true
        (shown s.console target alone template (l.output template) x)
  | written {after : Store} {template : Path} {x : Rendering} {file : RegularFile}
      (find : { s with store := before }.findTemplate l name = .ok template)
      (render : rendering r before template = .ok x) (write : target = .write)
      (replace : before.replace s.now (l.output template) x.text = (after, .ok ()))
      (output : after.regularFile? (l.output template) = some file)
      (content : file.content = Text.utf8 x.text) :
      Attempted s l r target alone name before after true
        (shown s.console target alone template (l.output template) x)
  | unrendered {template : Path} {cause : Failure}
      (find : { s with store := before }.findTemplate l name = .ok template)
      (render : rendering r before template = .error cause) :
      Attempted s l r target alone name before before false [faultLine s name cause]
  | unwritten {after : Store} {template : Path} {x : Rendering} {fault : HostFault}
      (find : { s with store := before }.findTemplate l name = .ok template)
      (render : rendering r before template = .ok x) (write : target = .write)
      (replace : before.replace s.now (l.output template) x.text = (after, .error fault))
      (unchanged : Extends before after) :
      Attempted s l r target alone name before after false [faultLine s name (.host fault)]

/-- Names are attempted one after the other, whatever the attempts before come to. -/
inductive Attempts (s : Session) (l : Layout) (r : Renderer) (target : Target) (alone : Bool) :
    List String → Store → Store → List Bool → List Piece → Prop
  | nil {store : Store} : Attempts s l r target alone [] store store [] []
  | cons {name : String} {names : List String} {before next after : Store} {verdict : Bool}
      {verdicts : List Bool} {told more : List Piece} :
      Attempted s l r target alone name before next verdict told →
      Attempts s l r target alone names next after verdicts more →
      Attempts s l r target alone (name :: names) before after (verdict :: verdicts) (told ++ more)

/-- What ends the command at a name. -/
inductive Breaks (s : Session) (l : Layout) (r : Renderer) (target : Target) (alone : Bool)
    (name : String) (before : Store) : Failure → Prop
  /-- A path that the name could mean is too long to be asked for. -/
  | overlong {p : Path} (meant : IsMeant l [name] p) (long : before.locate p = .error .tooLong) :
      Breaks s l r target alone name before (.host .inaccessible)
  /-- The rendering cannot be encoded. -/
  | unencodable {template : Path} {x : Rendering}
      (find : { s with store := before }.findTemplate l name = .ok template)
      (render : rendering r before template = .ok x) (other : target ≠ .print)
      (half : Text.isEncodable x.text = false) :
      Breaks s l r target alone name before (.host .unencodable)
  /-- What is told of the attempt cannot be shown. -/
  | unshowable {after : Store} {verdict : Bool} {told : List Piece} {fault : Console.Fault}
      (attempt : Attempted s l r target alone name before after verdict told)
      (refused : s.console.writeAll told = .error fault) :
      Breaks s l r target alone name before (.display fault)

/-- A command that has gone past a name has attempted it, or ends there. -/
def Settles (s : Session) (l : Layout) (r : Renderer) (target : Target) (alone : Bool)
    (name : String) (before : Store) (o : Result) : Prop :=
  (∃ verdict told output, Attempted s l r target alone name before o.store verdict told ∧
      s.console.writeAll told = .ok output ∧
      o.result = .ok { exitCode := if verdict then 0 else 1, output }) ∨
    ∃ cause, Breaks s l r target alone name before cause ∧ o.result = .error cause

section

variable {o : Outcome Rendering}
  (hfind : { s with store := before }.findTemplate l name = .ok template)
  (ho : renderFile r before s.now (target = .dryRun) template
    (if target = .print then none else some (l.output template)) = o)
include hfind ho

/-- What is told of an attempt is shown, or ends the command. -/
theorem settles_of_verdict {good : Bool} {told : List Piece}
    (hverdict : verdict s target alone name template (l.output template) o.result =
      .ok (if good then 0 else 1, told))
    (hattempt : Attempted s l r target alone name before o.store good told) :
    Settles s l r target alone name before (renderOne s l r target alone name before) := by
  have hone : renderOne s l r target alone name before =
      { (s.say told o.store).map (Response.ofOutput (if good then 0 else 1)) with
        events := o.events } := by
    simp only [renderOne, hfind, ho, hverdict]
  rw [hone]
  cases hwrite : s.console.writeAll told with
  | ok output =>
    refine .inl ⟨good, told, output, hattempt, hwrite, ?_⟩
    exact (result_say ..).trans (result_answer_of_ok hwrite)
  | error fault =>
    refine .inr ⟨_, .unshowable hattempt hwrite, ?_⟩
    rw [Session.say, hwrite]
    rfl

/-- A failure of this template only is told. -/
theorem settles_of_error {cause : Failure} (hresult : o.result = .error cause)
    (hisolated : cause.isIsolated)
    (hattempt : Attempted s l r target alone name before o.store false [faultLine s name cause]) :
    Settles s l r target alone name before (renderOne s l r target alone name before) := by
  refine settles_of_verdict hfind ho ?_ hattempt
  rw [hresult]
  exact if_pos hisolated

/-- What is rendered, and written where it is to be, is shown. -/
theorem settles_of_ok (hresult : o.result = .ok x)
    (hencodable : target = .dryRun → Text.isEncodable x.text)
    (hattempt : Attempted s l r target alone name before o.store true
      (shown s.console target alone template (l.output template) x)) :
    Settles s l r target alone name before (renderOne s l r target alone name before) := by
  have hsize : (target = .dryRun && !Text.isEncodable x.text) = false := by
    cases target <;> simp_all
  refine settles_of_verdict hfind ho ?_ hattempt
  rw [hresult, verdict, hsize]
  rfl

/-- A rendering that cannot be encoded ends the command. -/
theorem settles_of_unencodable (hrender : rendering r before template = .ok x)
    (hother : target ≠ .print) (hhalf : Text.isEncodable x.text = false)
    (hresult : o.result = .error (.host .unencodable) ∨ target = .dryRun ∧ o.result = .ok x) :
    Settles s l r target alone name before (renderOne s l r target alone name before) := by
  have hverdict : verdict s target alone name template (l.output template) o.result =
      .error (.host .unencodable) := by
    rcases hresult with herror | ⟨hdry, hok⟩
    · rw [herror]
      rfl
    · rw [hok, verdict, hdry, hhalf]
      rfl
  refine .inr ⟨_, .unencodable hfind hrender hother hhalf, ?_⟩
  simp only [renderOne, hfind, ho, hverdict]

end

/-- The output of a template that a name means can be asked for, if it has a rendering. -/
theorem isNameable_output_of_rendering (hgenerated : IsNameable l.generatedDir)
    (hfind : { s with store := before }.findTemplate l name = .ok template)
    (hrender : rendering r before template = .ok x) : IsNameable (l.output template) := by
  obtain ⟨file, hfile⟩ := exists_file_of_rendering hrender
  obtain ⟨location, hlocate, -⟩ := regularFile?_eq_some_iff.1 hfile
  have hslash := (isMeant_of_findTemplate hfind (List.mem_singleton_self name)).noSlash
  exact Layout.isNameable_output hgenerated hslash (isNameable_of_locate hlocate).all_name

/-- One name is attempted, or ends the command. -/
theorem settles_renderOne (hgenerated : IsNameable l.generatedDir) (target : Target) (alone : Bool)
    (name : String) (before : Store) :
    Settles s l r target alone name before (renderOne s l r target alone name before) := by
  cases hfind : { s with store := before }.findTemplate l name with
  | error fault =>
    obtain ⟨rfl, p, hmeant, hlong⟩ := of_findTemplate_eq_error hfind
    refine .inr ⟨_, .overlong hmeant hlong, ?_⟩
    simp only [renderOne, hfind]
  | ok template =>
  cases hrender : rendering r before template with
  | error cause =>
    exact settles_of_error hfind (renderFile_of_error hrender ..) rfl
      (isIsolated_of_rendering hrender) (.unrendered hfind hrender)
  | ok x =>
  cases target with
  | print =>
    exact settles_of_ok hfind (renderFile_none hrender ..) rfl (by simp)
      (.shown hfind hrender (by decide) (by simp))
  | dryRun =>
    have hdry := renderFile_dryRun hrender s.now (l.output template)
    cases hencodable : Text.isEncodable x.text with
    | true =>
      exact settles_of_ok hfind hdry rfl (fun _ => hencodable)
        (.shown hfind hrender (by decide) fun _ => hencodable)
    | false =>
      exact settles_of_unencodable hfind hdry hrender (by decide) hencodable (.inr ⟨rfl, rfl⟩)
  | write =>
    have houtput := isNameable_output_of_rendering hgenerated hfind hrender
    rcases before.replace_cases s.now (l.output template) x.text with
      ⟨hencodable, made, location, hadmits⟩ | ⟨after, fault, hextends, hreplace, hfault⟩
    · obtain ⟨file, directory, hcontent, hreplace⟩ := hadmits.replace_eq hencodable
      have hplace : Store.regularFile? ((made.put location (.file file)).touchAll s.now [directory])
          (l.output template) = some file :=
        regularFile?_put hadmits.locate hadmits.place file
      exact settles_of_ok hfind (renderFile_of_replace_eq_ok hrender hreplace) rfl (by simp)
        (.written hfind hrender rfl hreplace hplace hcontent)
    obtain rfl | ⟨hhalf, rfl⟩ := hfault houtput
    · exact settles_of_error hfind (renderFile_of_replace_eq_error hrender hreplace) rfl rfl
        (.unwritten hfind hrender rfl hreplace hextends)
    · exact settles_of_unencodable hfind (renderFile_of_replace_eq_error hrender hreplace) hrender
        (by decide) hhalf (.inl rfl)

/-- A command that has gone through names has attempted them all and shown what is told of them, and
its status tells whether all attempts have come to something; or it ends at one of them. -/
def SettlesAll (s : Session) (l : Layout) (r : Renderer) (target : Target) (alone : Bool)
    (names : List String) (before : Store) (o : Result) : Prop :=
  (∃ verdicts told output, Attempts s l r target alone names before o.store verdicts told ∧
      s.console.writeAll told = .ok output ∧
      o.result = .ok { exitCode := statusOf verdicts, output }) ∨
    ∃ front name rest verdicts told next cause, names = front ++ name :: rest ∧
      Attempts s l r target alone front before next verdicts told ∧
      Breaks s l r target alone name next cause ∧ o.result = .error cause

/-- The names are gone through one by one, whatever the attempts come to. -/
theorem settlesAll_renderNamed (hgenerated : IsNameable l.generatedDir) (target : Target)
    (alone : Bool) (names : List String) (before : Store) :
    SettlesAll s l r target alone names before (renderNamed s l r target alone names before) := by
  induction names generalizing before with
  | nil => exact .inl ⟨[], [], _, .nil, rfl, rfl⟩
  | cons name names ih =>
    rw [renderNamed]
    rcases settles_renderOne (r := r) hgenerated target alone name before with
      ⟨verdict, told, output, hattempted, hwrite, hfirst⟩ | ⟨cause, hbreaks, hfirst⟩
    · rw [Outcome.andThen_of_ok hfirst]
      rcases ih (renderOne s l r target alone name before).store with
        ⟨verdicts, tellings, more, hattempts, hwrites, hrest⟩ |
        ⟨front, other, rest, verdicts, tellings, next, cause, rfl, hattempts, hbreaks, hrest⟩
      · have hall : s.console.writeAll (told ++ tellings) = .ok (output ++ more) := by
          rw [Console.writeAll_append, hwrite, hwrites]
          rfl
        refine .inl ⟨verdict :: verdicts, _, _, .cons hattempted hattempts, hall, ?_⟩
        simp only [Outcome.map, hrest, statusOf_cons]
        rfl
      · refine .inr ⟨name :: front, other, rest, verdict :: verdicts, _, next, cause, rfl,
          .cons hattempted hattempts, hbreaks, ?_⟩
        simp only [Outcome.map, hrest]
        rfl
    · refine .inr ⟨[], name, names, [], [], before, cause, rfl, .nil, hbreaks, ?_⟩
      rw [Outcome.andThen, hfirst]

end MachineConfig.Command
