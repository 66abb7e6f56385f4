import MachineConfig.Proofs.Generated.Views
import MachineConfig.Proofs.Text.DecodingLemmas
import MachineConfig.Proofs.Text.EncodingLemmas
import MachineConfig.Proofs.Text.UnifiedDiffLemmas

/-!
What a comparison shows of a change. The diff of a generated file that has changed tells where it
has, unless the file reads like the rendering (`driftAll_visible`). Files that differ in the kinds
of their line ends read alike, so that such a change is reported and does not show
(`driftAll_hides_returns`).
-/

namespace MachineConfig.Generated

open Store
open Template (Renderer Rendering)

variable {l : Layout} {r : Renderer} {s : Store} {template output : Path} {content : ByteArray}
  {text : String} {entry : DriftEntry} {entries : List DriftEntry} {diff : List String}

theorem comparedLines_inj {a b : ByteArray} :
    comparedLines a = comparedLines b ↔ Text.readLossy a = Text.readLossy b := by
  have hinjective : Function.Injective String.ofList := fun cs ds h => by
    rw [← String.toList_ofList (l := cs), h, String.toList_ofList]
  rw [comparedLines, comparedLines, (List.map_injective_iff.2 hinjective).eq_iff, Text.lines_inj]

theorem readLossy_utf8 (h : Text.isEncodable text) :
    Text.readLossy (Text.utf8 text) = Text.unifyNewlines text.toList := by
  rw [Text.readLossy, Text.utf8, Text.decodeLossy_toUTF8, String.toList_ofList,
    Text.ofChars_chars h]

/-- A comparison shows nothing exactly where both files read alike. -/
theorem of_compare_eq_changed (hencodable : Text.isEncodable text)
    (h : compare output content text = .changed diff) :
    content ≠ Text.utf8 text ∧
      (diff = [] ↔ Text.readLossy content = Text.unifyNewlines text.toList) := by
  rw [compare] at h
  split at h
  · cases h
  · next hdiffers =>
    obtain rfl := Drift.changed.inj h
    refine ⟨fun heq => hdiffers (congrArg ByteArray.data heq), ?_⟩
    rw [Text.unifiedDiff_eq_nil_iff, comparedLines_inj, readLossy_utf8 hencodable]

theorem of_driftEntry_eq_changed (h : (driftEntry l r s template).2 = .ok entry)
    (hchanged : entry.drift = .changed diff) :
    entry.template = template ∧ entry.output = l.output template ∧
      ∃ x content, rendering r s template = .ok x ∧ Text.isEncodable x.text ∧
        s.read (l.output template) = .ok content ∧
        compare (l.output template) content x.text = .changed diff := by
  obtain ⟨htemplate, houtput, hcases⟩ := driftEntry_cases h
  refine ⟨htemplate, houtput, ?_⟩
  obtain ⟨hmissing, -⟩ | ⟨-, hfailed | ⟨x, content, hrendering, hencodable, hread, hcompare⟩⟩ :=
    hcases
  · cases hmissing.symm.trans hchanged
  · cases hfailed.symm.trans hchanged
  · exact ⟨x, content, hrendering, hencodable, hread, hcompare.symm.trans hchanged⟩

theorem exists_driftEntry_of_mem (h : (driftAll l r s).2 = .ok entries) (hentry : entry ∈ entries) :
    ∃ template, (driftEntry l r s template).2 = .ok entry := by
  cases hlist : templates l s with
  | error fault =>
    rw [driftAll, hlist] at h
    cases h
  | ok ts =>
    rw [driftAll_eq hlist] at h
    have hall := forall₂_of_driftOf_eq_ok h
    obtain ⟨i, hi, rfl⟩ := List.mem_iff_getElem.1 hentry
    exact ⟨_, hall.get (hall.length_eq ▸ hi) hi⟩

/-- A change that is reported is shown, unless the generated file reads like the rendering: it is
shown wherever the generated file is text and neither of them holds a carriage return. -/
theorem driftAll_visible (h : (driftAll l r s).2 = .ok entries) (hentry : entry ∈ entries)
    (hchanged : entry.drift = .changed diff) :
    ∃ x content, rendering r s entry.template = .ok x ∧ s.read entry.output = .ok content ∧
      content ≠ Text.utf8 x.text ∧
      (diff = [] ↔ Text.readLossy content = Text.unifyNewlines x.text.toList) ∧
      ∀ text, Text.decode? content = some text → '\r' ∉ text.toList →
        '\r' ∉ x.text.toList → diff ≠ [] := by
  obtain ⟨template, hdrift⟩ := exists_driftEntry_of_mem h hentry
  obtain ⟨htemplate, houtput, x, content, hrendering, hencodable, hread, hcompare⟩ :=
    of_driftEntry_eq_changed hdrift hchanged
  obtain ⟨hdiffers, hshown⟩ := of_compare_eq_changed hencodable hcompare
  rw [htemplate, houtput]
  refine ⟨x, content, hrendering, hread, hdiffers, hshown, fun text htext hplain hplain' hnil => ?_⟩
  obtain ⟨hread', rfl⟩ := Text.decode?_eq_some_iff.1 htext
  have hsame := hshown.1 hnil
  rw [readLossy_utf8 hread', Text.unifyNewlines_of_noReturn hplain,
    Text.unifyNewlines_of_noReturn hplain'] at hsame
  exact hdiffers (congrArg Text.utf8 (String.toList_inj.1 hsame))

/-- A template with a generated file. -/
def renderedTree (source content : String) : Store :=
  treeAt "root" [("a.tmpl", .file ⟨source.toUTF8, 0o644, 0⟩)]
    [("a", .file ⟨content.toUTF8, 0o644, 0⟩)]

/-- What is reported of such a template. -/
def renderedEntry (drift : Drift) : DriftEntry :=
  ⟨(layoutAt "root").template "a.tmpl",
    (layoutAt "root").output ((layoutAt "root").template "a.tmpl"),
    drift⟩

theorem driftAll_visible_edited :
    let s := renderedTree "a\nb\n" "a\nc\n"
    let diff := ["--- root/generated/a\n", "+++ root/generated/a (rendered)\n",
      "@@ -1,2 +1,2 @@\n", " a\n", "-c\n", "+b\n"]
    (driftAll (layoutAt "root") { vars := .empty } s).2 = .ok [renderedEntry (.changed diff)] ∧
      diff ≠ [] := by
  intro s diff
  have hreport : (driftAll (layoutAt "root") { vars := .empty } s).2 =
      .ok [renderedEntry (.changed diff)] := by decide +kernel
  have hrendering : rendering { vars := .empty } s (renderedEntry (.changed diff)).template =
      .ok ⟨"a\nb\n", [], []⟩ := by decide +kernel
  have hread : s.read (renderedEntry (.changed diff)).output = .ok "a\nc\n".toUTF8 := by
    decide +kernel
  obtain ⟨x, content, hx, hcontent, -, -, hvisible⟩ :=
    driftAll_visible hreport (List.mem_singleton_self _) rfl
  obtain rfl := Except.ok.inj (hrendering.symm.trans hx)
  obtain rfl := Except.ok.inj (hread.symm.trans hcontent)
  exact ⟨hreport, hvisible "a\nc\n" (by decide +kernel) (by decide) (by decide)⟩

/-- A generated file that has another kind of line ends has changed, and nothing shows. -/
theorem driftAll_hides_returns :
    (driftAll (layoutAt "root") { vars := .empty } (renderedTree "a\n" "a\r\n")).2 =
      .ok [renderedEntry (.changed [])] := by
  decide +kernel

end MachineConfig.Generated
