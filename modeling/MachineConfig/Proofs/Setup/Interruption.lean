import MachineConfig.Proofs.Setup.FileLemmas

/-!
Setting up that fails. It changes no file before it writes the local variables file, and from then
on that file stays in its new form, while the list of ignored files is as it was
(`scaffold_failed`); so setting up again is refused until the file is taken away, whatever has
become of the cause.
-/

namespace MachineConfig.Setup

open Store

variable {s t : Store} {l : Layout} {now : Int} {hostname : String} {force : Bool} {cause : Failure}

/-- Where the local variables file is there, only force sets up again. -/
theorem scaffold_of_regularFile? (hfile : (s.regularFile? l.localFile).isSome) (now : Int)
    (hostname : String) :
    scaffold s now l hostname false = (s, .error (.alreadyInitialized l.localFile)) := by
  obtain ⟨file, hfile⟩ := Option.isSome_iff_exists.1 hfile
  obtain ⟨location, hlocate, hentry⟩ := regularFile?_eq_some_iff.1 hfile
  have hthere : s.contains l.localFile = .ok true := by
    rw [contains, look_of_locate hlocate, hentry]
    rfl
  rw [scaffold, hthere]
  rfl

/-- The files that setting up writes have names of their own. -/
theorem not_leadsTo_localFile {location : Path} (h : LeadsTo l.ignoreFile s location) :
    ¬LeadsTo l.localFile t location := by
  intro hlocal
  have hname : location.name = ".gitignore" := h.name_eq (by decide)
  have hname' : location.name = Layout.localName := hlocal.name_eq (by decide)
  exact absurd (hname.symm.trans hname') (by decide)

/-- The local variables file is new, but setting up has not come to its end: the name of the machine
cannot be encoded, and the file is empty, or the list of ignored files could not be brought up to
date. -/
def StopsHalfway (now : Int) (l : Layout) (hostname : String) (t : Store) (fault : HostFault) :
    Prop :=
  ∃ file, t.regularFile? l.localFile = some file ∧
    (Text.isEncodable hostname = false ∧ file.content = .empty ∧ fault = .unencodable ∨
      file.content = Text.utf8 (starterText hostname) ∧
        ∃ written, Extends written t ∧ ensureIgnored written now l = (t, .error fault))

theorem of_scaffold_eq_error (h : scaffold s now l hostname force = (t, .error cause)) :
    Writes (LeadsTo l.localFile) s t ∧
      (Extends s t ∨ ∃ fault, cause = .host fault ∧ StopsHalfway now l hostname t fault) := by
  obtain ⟨made, found, hextends, hrun⟩ |
    ⟨made, location, file, first, directories, hextends, hlocate, hplace, hfirst, hrun⟩ :=
    scaffold_cases s now l hostname force
  · obtain ⟨rfl, -⟩ := Prod.mk.inj (h.symm.trans hrun)
    exact ⟨hextends.writes _, .inl hextends⟩
  have hput : Writes (LeadsTo l.localFile) s first := by
    rw [hfirst]
    exact (hextends.writes _).trans (stable_leadsTo _)
      (writes_put hlocate hplace file now directories)
  have hfile : first.regularFile? l.localFile = some file := by
    rw [hfirst]
    exact regularFile?_put hlocate hplace file
  obtain ⟨hencodable, hcontent, hrun⟩ | ⟨-, hcontent, hrun⟩ := hrun
  · obtain ⟨rfl, hcause⟩ := Prod.mk.inj (h.symm.trans hrun)
    exact ⟨hput, .inr ⟨_, Except.error.inj hcause, file, hfile, .inl ⟨hencodable, hcontent, rfl⟩⟩⟩
  obtain ⟨made', fault, hlater, hignored⟩ | ⟨text, -, -, hignored⟩ |
    ⟨text, made', location', file', directories', -, -, -, -, -, -, hignored⟩ :=
    ensureIgnored_cases first now l
  · rw [hignored, h] at hrun
    obtain ⟨rfl, hcause⟩ := Prod.mk.inj hrun
    exact ⟨hput.trans (stable_leadsTo _) (hlater.writes _), .inr ⟨fault, Except.error.inj hcause,
      file, hlater.regularFile?_eq hfile, .inr ⟨hcontent, _, hlater, hignored⟩⟩⟩
  all_goals
    rw [hignored, h] at hrun
    cases (Prod.mk.inj hrun).2

/-- Setting up that fails. The list of ignored files is as before, and so is every other file but
the local variables file. This one is as before too, or it is new and setting up stopped halfway;
then setting up again without force is refused in every tree that has it. -/
theorem scaffold_failed (h : scaffold s now l hostname force = (t, .error cause)) :
    Writes (LeadsTo l.localFile) s t ∧
    (∀ location, LeadsTo l.ignoreFile t location → t.fileAt? location = s.fileAt? location) ∧
    (Extends s t ∨ ∃ fault, cause = .host fault ∧ StopsHalfway now l hostname t fault) ∧
    ∀ u : Store, (u.regularFile? l.localFile).isSome → ∀ now' hostname',
      scaffold u now' l hostname' false = (u, .error (.alreadyInitialized l.localFile)) := by
  obtain ⟨hwrites, hcomes⟩ := of_scaffold_eq_error h
  exact ⟨hwrites, fun location hleads => hwrites.untouched (not_leadsTo_localFile hleads), hcomes,
    fun u hfile => scaffold_of_regularFile? hfile⟩

/-! ## A directory in the place of the list -/

/-- The layout of the tree below. -/
def blockedLayout : Layout := { root := ⟨.relative, ["root"]⟩ }

/-- A tree with a directory in the place of the list of ignored files. -/
def blockedTree : Store :=
  { entries := .ofList [(⟨.relative, ["root"]⟩, .directory),
      (⟨.relative, ["root", ".gitignore"]⟩, .directory)] }

/-- The same tree with a directory for the local variables file. -/
def blockedTreeMade : Store :=
  (blockedTree.create 2 ⟨.relative, ["root", "templates"]⟩ .directory).touch 2
    ⟨.relative, ["root", "templates"]⟩

/-- The same tree with a local variables file. -/
def blockedTreeWith (content : ByteArray) : Store :=
  blockedTreeMade.create 2 ⟨.relative, ["root", "templates", Layout.localName]⟩
    (.file { content, time := 2 })

theorem ensureIgnored_blockedTreeWith (content : ByteArray) :
    ensureIgnored (blockedTreeWith content) 2 blockedLayout =
      (blockedTreeWith content, .error .inaccessible) := rfl

theorem isSome_regularFile?_blockedTreeWith (content : ByteArray) :
    ((blockedTreeWith content).regularFile? blockedLayout.localFile).isSome ∧
      (((blockedTreeWith content).remove ⟨.relative, ["root", ".gitignore"]⟩).regularFile?
        blockedLayout.localFile).isSome := ⟨rfl, rfl⟩

theorem scaffold_blockedTree : scaffold blockedTree 2 blockedLayout "h" false =
    (blockedTreeWith (Text.utf8 (starterText "h")), .error (.host .inaccessible)) := by
  have hmade : blockedTree.makeDirectories 2 blockedLayout.localFile.parent =
      (blockedTreeMade, .ok ()) := rfl
  have hlocate : blockedTreeMade.locate blockedLayout.localFile =
      .ok ⟨.relative, ["root", "templates", Layout.localName]⟩ := by decide
  have hencodable : Text.isEncodable "h" := by decide
  have hrun := scaffold_of_absent (by decide) hmade hlocate (by decide) (by decide) hencodable false
  have hignored := ensureIgnored_blockedTreeWith (Text.utf8 (starterText "h"))
  rw [blockedTreeWith] at hignored ⊢
  rw [hrun, hignored]

/-- The local variables file is complete, and setting up stopped at the list of ignored files. -/
theorem scaffold_failed_blocked :
    let l := blockedLayout
    ∃ t, scaffold blockedTree 2 l "h" false = (t, .error (.host .inaccessible)) ∧
      Writes (LeadsTo l.localFile) blockedTree t ∧
      let u := t.remove ⟨.relative, ["root", ".gitignore"]⟩
      scaffold u 3 l "h" false = (u, .error (.alreadyInitialized l.localFile)) := by
  intro l
  obtain ⟨hwrites, -, -, hagain⟩ := scaffold_failed scaffold_blockedTree
  exact ⟨_, scaffold_blockedTree, hwrites,
    hagain _ (isSome_regularFile?_blockedTreeWith _).2 3 "h"⟩

/-- There was no local variables file, and now there is one; so setting up is refused when nothing
is in its way any more. -/
theorem scaffold_halfway :
    let l := blockedLayout
    let t := (scaffold blockedTree 2 l "h" false).1
    (scaffold blockedTree 2 l "h" false).2 = .error (.host .inaccessible) ∧
      blockedTree.regularFile? l.localFile = none ∧ (t.regularFile? l.localFile).isSome ∧
      (scaffold (t.remove ⟨.relative, ["root", ".gitignore"]⟩) 3 l "h" false).2 =
        .error (.alreadyInitialized l.localFile) := by
  intro l t
  have ht : t = blockedTreeWith (Text.utf8 (starterText "h")) :=
    congrArg Prod.fst scaffold_blockedTree
  obtain ⟨hwritten, hleft⟩ :=
    isSome_regularFile?_blockedTreeWith (Text.utf8 (starterText "h"))
  rw [ht, scaffold_of_regularFile? hleft]
  exact ⟨congrArg Prod.snd scaffold_blockedTree, by decide, hwritten, rfl⟩

end MachineConfig.Setup
