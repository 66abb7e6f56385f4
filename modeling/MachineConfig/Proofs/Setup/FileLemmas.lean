import MachineConfig.Proofs.Store.FootprintLemmas
import MachineConfig.Proofs.Store.ReadLemmas
import MachineConfig.Proofs.Text.EncodingLemmas
import MachineConfig.Setup.LocalFile

/-!
What setting up does to the file tree. Each of the two files is left as it is or written as a whole
(`ensureIgnored_cases`, `scaffold_cases`), and no other file is changed (`ensureIgnored_writes`,
`scaffold_writes`).
-/

namespace MachineConfig.Setup

open Store

variable {s t : Store} {now : Int} {l : Layout} {text : String}

/-! ## The list of ignored files -/

/-- What the list of ignored files says; nothing if there is none. -/
def listed (s : Store) (l : Layout) : Except HostFault String := do
  if ← s.contains l.ignoreFile then s.readText l.ignoreFile else return ""

theorem listed_eq_ok_iff : listed s l = .ok text ↔
    s.contains l.ignoreFile = .ok true ∧ s.readText l.ignoreFile = .ok text ∨
      s.contains l.ignoreFile = .ok false ∧ text = "" := by
  rw [listed]
  rcases s.contains l.ignoreFile with fault | _ | _
  · simp [bind, Except.bind]
  · simp [bind, Except.bind, pure, Except.pure, eq_comm]
  · simp [bind, Except.bind]

theorem ensureIgnored_eq (s : Store) (now : Int) (l : Layout) : ensureIgnored s now l =
    match listed s l with
    | .error fault => (s, .error fault)
    | .ok text =>
      if (uncovered text).isEmpty then (s, .ok ())
      else match s.makeDirectories now l.ignoreFile.parent with
      | (s, .error fault) => (s, .error fault)
      | (s, .ok ()) => s.overwriteBytes now l.ignoreFile (Text.utf8 (withEntries text)) := rfl

/-- The list is left alone if it cannot be brought up to date, or if it has all entries; otherwise
it is written as a whole. -/
theorem ensureIgnored_cases (s : Store) (now : Int) (l : Layout) :
    (∃ made fault, Extends s made ∧ ensureIgnored s now l = (made, .error fault)) ∨
    (∃ text, listed s l = .ok text ∧ uncovered text = [] ∧ ensureIgnored s now l = (s, .ok ())) ∨
    ∃ text made location file directories, listed s l = .ok text ∧ uncovered text ≠ [] ∧
      Extends s made ∧ made.locate l.ignoreFile = .ok location ∧
        made.at? location ≠ some .directory ∧ file.content = Text.utf8 (withEntries text) ∧
          ensureIgnored s now l =
            ((made.put location (.file file)).touchAll now directories, .ok ()) := by
  rw [ensureIgnored_eq]
  cases hlisted : listed s l with
  | error fault => exact .inl ⟨s, fault, .refl s, rfl⟩
  | ok text =>
    by_cases hmissing : uncovered text = []
    · exact .inr (.inl ⟨text, rfl, hmissing, by simp [hmissing]⟩)
    have hextends := makeDirectories_extends s now l.ignoreFile.parent
    simp only [List.isEmpty_iff, if_neg hmissing]
    split
    · next made fault hmade =>
      rw [hmade] at hextends
      exact .inl ⟨made, fault, hextends, rfl⟩
    · next made hmade =>
      rw [hmade] at hextends
      obtain ⟨fault, hsame⟩ | ⟨location, file, directories, hlocate, hplace, hcontent, hput⟩ :=
        overwriteBytes_cases made now l.ignoreFile (Text.utf8 (withEntries text))
      · exact .inl ⟨made, fault, hextends, hsame⟩
      · exact .inr (.inr ⟨text, made, location, file, directories, rfl, hmissing, hextends, hlocate,
          hplace, hcontent, hput⟩)

theorem ensureIgnored_writes (s : Store) (now : Int) (l : Layout) :
    Writes (LeadsTo l.ignoreFile) s (ensureIgnored s now l).1 := by
  obtain ⟨made, fault, hextends, hrun⟩ | ⟨text, -, -, hrun⟩ |
    ⟨text, made, location, file, directories, -, -, hextends, hlocate, hplace, -, hrun⟩ :=
    ensureIgnored_cases s now l
  · rw [hrun]
    exact hextends.writes _
  · rw [hrun]
    exact .refl _ s
  · rw [hrun]
    exact (hextends.writes _).trans (stable_leadsTo _)
      (writes_put hlocate hplace file now directories)

/-! ## The local variables file -/

theorem isEncodable_join {lines : List String} (h : lines.all Text.isEncodable) :
    Text.isEncodable (String.join (lines.map (· ++ "\n"))) := by
  induction lines with
  | nil => rfl
  | cons line lines ih =>
    rw [List.all_cons, Bool.and_eq_true] at h
    rw [List.map_cons, String.join_cons, Text.isEncodable_append_newline, h.1, ih h.2]
    rfl

/-- What follows the name of the machine in the starting text. -/
def starterRest : String := String.join (("." :: (starterText.lines "").tail).map (· ++ "\n"))

theorem starterText_eq (hostname : String) : starterText hostname =
    "# Machine-specific template variables for " ++ (hostname ++ starterRest) := by
  have hlines : starterText.lines hostname =
      ("# Machine-specific template variables for " ++ hostname ++ ".") ::
        (starterText.lines "").tail := rfl
  rw [starterText, hlines, List.map_cons, String.join_cons, starterRest, List.map_cons,
    String.join_cons]
  simp only [String.append_assoc]

theorem isEncodable_starterText (hostname : String) :
    Text.isEncodable (starterText hostname) = Text.isEncodable hostname := by
  have hstart : Text.isEncodable "# Machine-specific template variables for " = true := by
    decide +kernel
  have hrest : Text.isEncodable starterRest = true := isEncodable_join (by decide +kernel)
  have hspace : "# Machine-specific template variables for ".toList.getLast? = some ' ' := by
    decide +kernel
  have hbefore : ∀ c ∈ "# Machine-specific template variables for ".toList.getLast?,
      Text.isLead c = false := by
    rw [hspace]
    rintro c ⟨rfl⟩
    rfl
  have hstop : ∀ c ∈ starterRest.toList.head?, Text.isTrail c = false := by
    rw [starterRest, List.map_cons, String.join_cons, String.toList_append]
    rintro c ⟨rfl⟩
    decide
  rw [starterText_eq, Text.isEncodable_append (.inl hbefore),
    Text.isEncodable_append (.inr hstop), hstart, hrest, Bool.true_and, Bool.and_true]

/-- Setting up stops before the local variables file is written, or writes it first. It is empty
then if the name of the machine cannot be encoded, and otherwise the list of ignored files comes
next. -/
theorem scaffold_cases (s : Store) (now : Int) (l : Layout) (hostname : String) (force : Bool) :
    (∃ made cause, Extends s made ∧ scaffold s now l hostname force = (made, .error cause)) ∨
    ∃ made location file written directories, Extends s made ∧
      made.locate l.localFile = .ok location ∧ made.at? location ≠ some .directory ∧
      written = (made.put location (.file file)).touchAll now directories ∧
        (Text.isEncodable hostname = false ∧ file.content = .empty ∧
            scaffold s now l hostname force = (written, .error (.host .unencodable)) ∨
          Text.isEncodable hostname ∧ file.content = Text.utf8 (starterText hostname) ∧
            scaffold s now l hostname force =
              ((ensureIgnored written now l).1,
                match (ensureIgnored written now l).2 with
                | .error fault => .error (.host fault)
                | .ok () => .ok l.localFile)) := by
  simp only [scaffold]
  split
  · next fault _ => exact .inl ⟨s, _, .refl s, rfl⟩
  split
  · exact .inl ⟨s, _, .refl s, rfl⟩
  have hextends := makeDirectories_extends s now l.localFile.parent
  split
  · next made fault hmade =>
    rw [hmade] at hextends
    exact .inl ⟨made, _, hextends, rfl⟩
  next made hmade =>
  rw [hmade] at hextends
  obtain ⟨fault, hsame⟩ | ⟨location, file, directories, hlocate, hplace, hwritten⟩ :=
    overwrite_cases made now l.localFile (starterText hostname)
  · rw [hsame]
    exact .inl ⟨made, _, hextends, rfl⟩
  refine .inr ⟨made, location, file, _, directories, hextends, hlocate, hplace, rfl, ?_⟩
  obtain ⟨hencodable, hcontent, hput⟩ | ⟨hencodable, hcontent, hput⟩ := hwritten
  · rw [isEncodable_starterText] at hencodable
    rw [hput]
    refine .inr ⟨hencodable, hcontent, ?_⟩
    dsimp only
    split <;> next hlast => rw [hlast]
  · rw [isEncodable_starterText] at hencodable
    rw [hput]
    exact .inl ⟨hencodable, hcontent, rfl⟩

/-- Where there is no local variables file yet, it is written, and the list of ignored files comes
next. -/
theorem scaffold_of_absent {made : Store} {location : Path} {hostname : String}
    (habsent : s.contains l.localFile = .ok false)
    (hmade : s.makeDirectories now l.localFile.parent = (made, .ok ()))
    (hlocate : made.locate l.localFile = .ok location) (hfree : made.at? location = none)
    (hcreation : allowsCreation location) (hencodable : Text.isEncodable hostname) (force : Bool) :
    let written := made.create now location
      (.file { content := Text.utf8 (starterText hostname), time := now })
    scaffold s now l hostname force =
      ((ensureIgnored written now l).1,
        match (ensureIgnored written now l).2 with
        | .error fault => .error (.host fault)
        | .ok () => .ok l.localFile) := by
  intro written
  have hwritten : made.overwrite now l.localFile (starterText hostname) = (written, .ok ()) := by
    rw [← isEncodable_starterText] at hencodable
    rw [overwrite, if_pos hencodable, overwriteBytes, hlocate]
    simp only [hfree, if_pos hcreation, written]
  rw [scaffold, habsent]
  simp only [Bool.false_and, Bool.false_eq_true, if_false, hmade, hwritten]
  split <;> next hlast => rw [hlast]

/-- The place of a file that setting up writes. -/
def IsSetUp (l : Layout) (s : Store) (location : Path) : Prop :=
  LeadsTo l.localFile s location ∨ LeadsTo l.ignoreFile s location

theorem stable_isSetUp (l : Layout) : Stable (IsSetUp l) :=
  ⟨fun hwrites =>
    Or.imp ((stable_leadsTo _).place hwrites) ((stable_leadsTo _).place hwrites)⟩

theorem scaffold_writes (s : Store) (now : Int) (l : Layout) (hostname : String) (force : Bool) :
    Writes (IsSetUp l) s (scaffold s now l hostname force).1 := by
  obtain ⟨made, cause, hextends, hrun⟩ |
    ⟨made, location, file, written, directories, hextends, hlocate, hplace, rfl, hrun⟩ :=
    scaffold_cases s now l hostname force
  · rw [hrun]
    exact hextends.writes _
  have hput : Writes (IsSetUp l) s ((made.put location (.file file)).touchAll now directories) :=
    (hextends.writes _).trans (stable_isSetUp l)
      ((writes_put hlocate hplace file now directories).mono fun _ => Or.inl)
  obtain ⟨-, -, hrun⟩ | ⟨-, -, hrun⟩ := hrun
  · rw [hrun]
    exact hput
  · rw [hrun]
    exact hput.trans (stable_isSetUp l) ((ensureIgnored_writes _ now l).mono fun _ => Or.inr)

end MachineConfig.Setup
