import MachineConfig.Proofs.Command.FootprintLemmas
import MachineConfig.Proofs.Generated.RenderingLemmas

/-!
Printing the listed templates. Each is looked for again by its name, from the working directory
first (`Session.taken`), and what is found is printed, or why it cannot be rendered
(`runRender_print`). What the console makes of it is left to the console.
-/

namespace MachineConfig

/-- What is written for pieces is written for the first of them and then for the others. -/
theorem Console.writeAll_append (c : Console) (first more : List Piece) :
    c.writeAll (first ++ more) =
      (c.writeAll first).bind fun text => (c.writeAll more).map (text ++ ·) := by
  simp only [writeAll, List.mapM_append, bind, pure]
  cases first.mapM c.write with
  | error fault => rfl
  | ok texts =>
    cases more.mapM c.write with
    | error fault => rfl
    | ok rest =>
      simp only [Except.bind, Except.pure, Except.map, String.join_append]

theorem Outcome.result_andThen {α β : Type} (o : Outcome α) (next : α → Store → Outcome β) :
    (o.andThen next).result = o.result.bind fun a => (next a o.store).result := by
  rw [andThen]
  split
  · next h => rw [h]; rfl
  · next h => rw [h]; rfl

namespace Command

open Console Generated Store
open Template (Renderer Rendering)

variable {s : Session} {l : Layout} {r : Renderer} {name : String} {template : Path}
  {sources : Sources} {ts : List Path}

/-! ## What a listed name is taken for -/

/-- What printing takes the name of a listed template for: what it leads to from the working
directory or, if that is nothing, the template. -/
def Session.taken (s : Session) (template : Path) : Path :=
  let given := Path.ofText template.name
  if (s.store.entry? given).isSome then given else template

/-- A path of one name leads somewhere or nowhere, but is not too long, if the name is that of a
template that can be looked at. -/
theorem locate_name_ne_tooLong {store : Store} {file : RegularFile} (hname : IsName name)
    (hfile : store.regularFile? (l.template name) = some file) :
    store.locate ⟨.relative, [name]⟩ ≠ .error .tooLong := by
  obtain ⟨location, hlocate, -⟩ := regularFile?_eq_some_iff.1 hfile
  have hbelow : l.template name = l.templatesDir.below [name] := Path.child_eq_below hname
  rw [hbelow] at hlocate
  have hnameable : name.toList.all Text.isNameable :=
    isNameable_of_locate hlocate name (by rw [Path.names_below]; simp)
  rw [locate_eq_ok_iff, walk_below_eq_ok_iff] at hlocate
  obtain ⟨-, directory, -, hstep⟩ := hlocate
  have hsize : Text.byteLength name ≤ nameLimit := (step_eq_ok_iff.1 hstep).2.1
  rw [locate_of_obstacle?_eq_none (obstacle?_name hnameable (Nat.le_trans hsize (by decide))), walk,
    List.foldlM_cons]
  intro hlong
  cases hfirst : store.step (store.start ⟨.relative, [name]⟩) name with
  | ok next =>
    rw [hfirst] at hlong
    cases hlong
  | error obstacle =>
    rw [hfirst] at hlong
    exact step_ne_tooLong hsize (hfirst.trans hlong)

/-- A listed template's name is taken for one path or the other. -/
theorem findTemplate_name {file : RegularFile} (hname : IsName name)
    (hfile : s.store.regularFile? (l.template name) = some file) :
    s.findTemplate l name = .ok (s.taken (l.template name)) := by
  have hgiven := contains_eq (locate_name_ne_tooLong hname hfile)
  obtain ⟨location, hlocate, hentry⟩ := regularFile?_eq_some_iff.1 hfile
  have hlook : s.store.look (l.templatesDir.child name) = .ok (some (.file file)) :=
    (look_of_locate hlocate).trans (congrArg Except.ok hentry)
  have hplain : s.store.contains (l.templatesDir.child name) = .ok true := by
    rw [contains, hlook]
    rfl
  rw [Session.taken, Layout.name_template hname, Path.ofText_of_isName hname,
    Session.findTemplate, Path.ofText_of_isName hname]
  simp only [hgiven, hplain, bind, Except.bind, pure, Except.pure]
  cases (s.store.entry? ⟨.relative, [name]⟩).isSome <;> rfl

/-! ## What is printed -/

/-- The line above what is printed of a template, unless it is printed alone. -/
def heading (c : Console) (alone : Bool) (template : Path) : List Piece :=
  if alone then [] else [.marked s!"[dim]=== {c.escape template.name} ===[/dim]"]

/-- The line that tells why something of this name is not rendered. -/
def faultLine (s : Session) (name : String) (cause : Failure) : Piece :=
  .marked s!"[red]✗[/red] {s.console.escape name}: {s.console.escape (cause.message s.hostText)}"

/-- What is printed of a listed template: the rendering of what its name is taken for, or why there
is none. -/
def printed (s : Session) (r : Renderer) (alone : Bool) (template : Path) : List Piece :=
  match rendering r s.store (s.taken template) with
  | .ok x => heading s.console alone template ++ [.verbatim x.text]
  | .error cause => [faultLine s template.name cause]

/-- There is a rendering of what the name of a listed template is taken for. -/
def isPrinted (s : Session) (r : Renderer) (template : Path) : Bool :=
  (rendering r s.store (s.taken template)).isOk

theorem name_taken (s : Session) (hname : IsName name) :
    (s.taken (l.template name)).name = name := by
  rw [Session.taken, Layout.name_template hname, Path.ofText_of_isName hname]
  split
  · rfl
  · exact Layout.name_template hname

theorem printed_of_ok {x : Rendering} (h : rendering r s.store (s.taken template) = .ok x)
    (alone : Bool) :
    printed s r alone template = heading s.console alone template ++ [.verbatim x.text] := by
  unfold printed
  simp only [h]

theorem printed_of_error {cause : Failure}
    (h : rendering r s.store (s.taken template) = .error cause) (alone : Bool) :
    printed s r alone template = [faultLine s template.name cause] := by
  unfold printed
  simp only [h]

/-- The verdict on a listed template is what is printed of it. -/
theorem verdict_print (hname : IsName name) (alone : Bool) (output : Path) :
    verdict s .print alone name (s.taken (l.template name)) output
        (rendering r s.store (s.taken (l.template name))) =
      .ok (if isPrinted s r (l.template name) then 0 else 1,
        printed s r alone (l.template name)) := by
  cases hrendering : rendering r s.store (s.taken (l.template name)) with
  | error cause =>
    rw [printed_of_error hrendering, faultLine, Layout.name_template hname, isPrinted, hrendering]
    exact if_pos (isIsolated_of_rendering hrendering)
  | ok x =>
    rw [printed_of_ok hrendering, heading, Layout.name_template hname, isPrinted, hrendering,
      verdict, shown, name_taken s hname]
    rfl

theorem result_renderFile_print (r : Renderer) (store : Store) (now : Int) (dryRun : Bool)
    (template : Path) :
    (renderFile r store now dryRun template none).result = rendering r store template := by
  cases hrendering : rendering r store template with
  | error cause => rw [renderFile_of_error hrendering]
  | ok x => rw [renderFile_none hrendering]

/-- Whether some pieces can be shown does not depend on the tree. -/
theorem result_say (s : Session) (pieces : List Piece) (store : Store) (exitCode : Nat) :
    ((s.say pieces store).map (Response.ofOutput exitCode)).result =
      (s.answer pieces exitCode).result := rfl

theorem result_answer_of_ok {pieces : List Piece} {output : String}
    (h : s.console.writeAll pieces = .ok output) {exitCode : Nat} :
    (s.answer pieces exitCode).result = .ok { exitCode, output } := by
  rw [Session.answer, Session.say, h]
  rfl

/-- Pieces are shown one after the other, and nothing after one that cannot be shown. -/
theorem result_answer_append (s : Session) (first more : List Piece) (m n : Nat) :
    (s.answer (first ++ more) (max m n)).result =
      (s.answer first m).result.bind fun a => (s.answer more n).result.map fun b =>
        { exitCode := max a.exitCode b.exitCode, output := a.output ++ b.output } := by
  simp only [Session.answer, Session.say, Outcome.map, Console.writeAll_append]
  cases s.console.writeAll first with
  | error fault => rfl
  | ok text => cases s.console.writeAll more <;> rfl

theorem renderOne_print {file : RegularFile} (hname : IsName name)
    (hfile : s.store.regularFile? (l.template name) = some file) (alone : Bool) :
    (renderOne s l r .print alone name s.store).result =
      (s.answer (printed s r alone (l.template name))
        (if isPrinted s r (l.template name) then 0 else 1)).result := by
  have hfind : { s with store := s.store }.findTemplate l name = .ok (s.taken (l.template name)) :=
    findTemplate_name hname hfile
  simp only [renderOne, hfind, if_true, result_renderFile_print, verdict_print hname]
  exact result_say ..

/-- Printing listed templates one after the other. -/
theorem renderNamed_print (alone : Bool)
    (h : ∀ p ∈ ts, ∃ name file, IsName name ∧ p = l.template name ∧
      s.store.regularFile? p = some file) :
    (renderNamed s l r .print alone (ts.map Path.name) s.store).result =
      (s.answer (ts.flatMap (printed s r alone))
        (if ts.all (isPrinted s r) then 0 else 1)).result := by
  induction ts with
  | nil => rfl
  | cons p ts ih =>
    rw [List.forall_mem_cons] at h
    obtain ⟨name, file, hname, rfl, hfile⟩ := h.1
    have hstatus : (if (l.template name :: ts).all (isPrinted s r) then 0 else 1) =
        max (if isPrinted s r (l.template name) then 0 else 1)
          (if ts.all (isPrinted s r) then 0 else 1) := by
      rw [List.all_cons]
      cases isPrinted s r (l.template name) <;> cases ts.all (isPrinted s r) <;> rfl
    rw [hstatus, List.flatMap_cons, result_answer_append, List.map_cons, renderNamed,
      Layout.name_template hname, Outcome.result_andThen, renderOne_print hname hfile,
      store_renderOne_of_ne_write s l r (by decide) alone name s.store, ← ih h.2]
    rfl

/-! ## The command -/

/-- The variables and arrays of a root directory load. -/
def Session.Loads (s : Session) (l : Layout) (sources : Sources) : Prop :=
  ∃ auto events, autoVars s.host s.store l.root s.environ s.environ = .ok auto ∧
    Sources.load s.load s.store l auto s.environ = (events, .ok sources)

theorem withSources_of_loads (h : s.Loads l sources) (next : Sources → Result) :
    (s.withSources l next).result = (next sources).result ∧
      (s.withSources l next).store = (next sources).store := by
  obtain ⟨auto, events, hauto, hload⟩ := h
  simp only [Session.withSources, hauto, hload, and_self]

theorem isSome_regularFile?_of_mem {store : Store} (hs : store.IsTree)
    (hlist : templates l store = .ok ts) (hasked : ∀ p ∈ ts, (store.locate p).isOk) :
    ∀ p ∈ ts, (store.regularFile? p).isSome := by
  intro p hp
  cases hlocate : store.locate p with
  | error obstacle =>
    have hok := hasked p hp
    rw [hlocate] at hok
    cases hok
  | ok location =>
    obtain ⟨file, hfile⟩ := exists_file_of_mem hs hlist hp hlocate
    rw [Store.regularFile?_eq_some_iff.2 ⟨location, hlocate, hfile⟩]
    rfl

/-- Printing without names goes through the list of templates. What is printed of a template is the
rendering of what its name is taken for. -/
theorem runRender_print (hs : s.store.IsTree) (hloads : s.Loads l sources)
    (hlist : templates l s.store = .ok ts)
    (hasked : ∀ p ∈ ts, (s.store.locate p).isOk) (dryRun force : Bool) :
    (runRender s l [] dryRun force true).result =
      (s.answer (ts.flatMap (printed s (sources.renderer none) (ts.length ≤ 1)))
        (if ts.all (isPrinted s (sources.renderer none)) then 0 else 1)).result := by
  have hthere := isSome_regularFile?_of_mem hs hlist hasked
  have hfiles : ∀ p ∈ ts, ∃ name file, IsName name ∧ p = l.template name ∧
      s.store.regularFile? p = some file := by
    intro p hp
    obtain ⟨name, hname, -, rfl⟩ := (listed_templates hs hlist).template p hp
    obtain ⟨file, hfile⟩ := Option.isSome_iff_exists.1 (hthere _ hp)
    exact ⟨name, file, hname, rfl, hfile⟩
  rw [runRender, (withSources_of_loads hloads _).1]
  simp only [List.isEmpty_nil, Bool.not_true, Bool.false_eq_true, if_false, if_true,
    Session.withLook, hlist, List.length_map]
  exact renderNamed_print _ hfiles

end Command

end MachineConfig
