import MachineConfig.Proofs.Generated.Preparation
import MachineConfig.Proofs.Store.RemovalLemmas

/-!
Trees without some of their templates. The list is as before but for those (`templates_removeAll`),
and nothing changes for the others (`agreeOn_removeAll`).
-/

namespace MachineConfig.Generated

open Store
open Template (Renderer)

variable {l : Layout} {r : Renderer} {now : Int} {mode : BatchMode} {skip : Path → Bool}
  {s t prepared : Store} {location directory p : Path} {name : String} {names : List String}
  {ts : List Path}

/-- Where the files of the templates with these names lie. -/
def sources (l : Layout) (s : Store) (names : List String) : List Path :=
  match s.locate l.templatesDir with
  | .ok directory => names.map fun name => directory.below [name]
  | .error _ => []

theorem mem_sources : location ∈ sources l s names ↔
    ∃ directory name, s.locate l.templatesDir = .ok directory ∧ name ∈ names ∧
      location = directory.below [name] := by
  rw [sources]
  cases s.locate l.templatesDir with
  | error obstacle => simp
  | ok directory => simp [eq_comm]

section

variable (hs : s.IsTree) (hlist : templates l s = .ok ts)
  (hnames : ∀ name ∈ names, ∃ p ∈ ts, p.name = name)
include hs hlist hnames

theorem areFiles_sources : s.AreFiles (sources l s names) := by
  intro location hlocation
  obtain ⟨directory, name, hdirectory, hname, rfl⟩ := mem_sources.1 hlocation
  obtain ⟨p, hp, rfl⟩ := hnames name hname
  obtain ⟨name, parent, file, -, rfl, hparent, -, hfile⟩ := (mem_templates hlist).1 hp
  obtain rfl := Except.ok.inj (hdirectory.symm.trans hparent)
  rw [Layout.name_template (by simpa using hs.isName hfile)]
  exact ⟨file, hfile⟩

/-- Without some of the templates the others are listed as before. -/
theorem templates_removeAll :
    templates l (s.removeAll (sources l s names)) = .ok (ts.filter fun p => p.name ∉ names) := by
  by_cases hnone : names = []
  · have hsources : sources l s names = [] := by
      rw [sources, hnone]
      split <;> rfl
    rw [hsources, removeAll_nil]
    simpa [hnone] using hlist
  · have hfiles := areFiles_sources hs hlist hnames
    obtain ⟨name, hname⟩ := List.exists_mem_of_ne_nil names hnone
    obtain ⟨p, hp, -⟩ := hnames name hname
    obtain ⟨directory, hlocate, hdirectory, rfl⟩ := directory_of_mem_templates hlist hp
    have hsame := hfiles.sameDirectories
    rw [templates_of_directory (hsame.locate_eq _ ▸ hlocate) ((hsame.directory _).1 hdirectory),
      namesIn_removeAll, List.filter_map, List.filter_filter, List.filter_filter]
    congr 2
    refine List.filter_congr fun n hn => ?_
    have hsource : directory.below [n] ∈ sources l s names ↔ n ∈ names := by
      rw [mem_sources]
      constructor
      · rintro ⟨parent, m, hparent, hm, heq⟩
        obtain rfl := Except.ok.inj (hlocate.symm.trans hparent)
        obtain rfl : n = m := by simpa using heq
        exact hm
      · intro hn
        exact ⟨directory, n, hlocate, hn, rfl⟩
    simp [hsource, Layout.name_template (isName_of_mem_namesIn hs hn), Bool.and_comm]

/-- The templates that are left do not see that others are gone. -/
theorem agreeOn_removeAll (hp : p ∈ ts) (hleft : p.name ∉ names) :
    AgreeOn l p s (s.removeAll (sources l s names)) := by
  have hfiles := areFiles_sources hs hlist hnames
  obtain ⟨name, hname, -, rfl⟩ := (listed_templates hs hlist).template p hp
  rw [Layout.name_template hname] at hleft
  refine ⟨hfiles.sameDirectories, fun location hlocate => ?_, fun location hlocate => ?_⟩
  · rw [at?_removeAll hfiles.names_ne_nil, if_neg]
    intro hlocation
    obtain ⟨directory, other, hdirectory, hother, rfl⟩ := mem_sources.1 hlocation
    have heq := eq_source_of_locate_template hname hlocate hdirectory
    obtain rfl : other = name := by simpa using heq
    exact hleft hother
  · rw [at?_removeAll hfiles.names_ne_nil, if_neg]
    intro hlocation
    obtain ⟨directory, other, hdirectory, -, heq⟩ := mem_sources.1 hlocation
    exact ne_source_of_locate_output hname hlocate hdirectory other heq

end

theorem areFiles_of_prepare {gone : List Path} (hfiles : prepared.AreFiles gone)
    (hprepare : prepare l now mode s = (prepared, .ok ())) : s.AreFiles gone := by
  intro location hlocation
  obtain ⟨file, hfile⟩ := hfiles location hlocation
  exact ⟨file, (extends_of_prepare hprepare).at?_eq_file_iff.1 hfile⟩

theorem prepare_removeAll {gone : List Path} (hfiles : prepared.AreFiles gone)
    (hprepare : prepare l now mode s = (prepared, .ok ())) :
    prepare l now mode (s.removeAll gone) = (prepared.removeAll gone, .ok ()) := by
  have hbefore := areFiles_of_prepare hfiles hprepare
  rw [prepare] at hprepare ⊢
  split at hprepare
  · next hdry =>
    obtain ⟨rfl, -⟩ := Prod.mk.inj hprepare
    exact if_pos hdry
  · next hdry => rw [if_neg hdry, hbefore.makeDirectories_removeAll hprepare]

/-- No file is written in the place of a template. -/
theorem not_mem_sources_of_mem_changesOf (hlisted : Listed l ts) :
    ∀ change ∈ changesOf l r now mode skip s ts, change.1 ∉ sources l s names := by
  intro change hchange hmem
  obtain ⟨p, hp, hchange⟩ := mem_changesOf.1 hchange
  obtain ⟨directory, name, hdirectory, -, heq⟩ := mem_sources.1 hmem
  obtain ⟨written, hwritten, -, rfl⟩ := hlisted.template p hp
  exact ne_source_of_locate_output hwritten (locate_of_change? hchange).1 hdirectory name heq

theorem removeAll_putFiles {gone : List Path} {changes : List (Path × RegularFile)}
    (h : ∀ change ∈ changes, change.1 ∉ gone) :
    (putFiles s changes).removeAll gone = putFiles (s.removeAll gone) changes := by
  induction changes generalizing s with
  | nil => rfl
  | cons change changes ih =>
    rw [List.forall_mem_cons] at h
    refine (ih h.2).trans ?_
    rw [removeAll_put h.1]
    rfl

end MachineConfig.Generated
