import MachineConfig.Proofs.Generated.RenderingLemmas
import MachineConfig.Proofs.Store.FootprintLemmas
import MachineConfig.Proofs.Template.Untagged

/-!
Templates without tags. Whatever stands in such a template goes to the generated file, with line
ends that are line feeds (`renderFile_untagged`); so the two files have the same bytes unless the
template holds a carriage return, which is lost (`renderFile_returns`).
-/

namespace MachineConfig.Generated

open Store
open Template (Renderer Rendering IsUntagged)

variable {r : Renderer} {s : Store} {now : Int} {template output : Path} {file : RegularFile}
  {text : String}

theorem rendering_untagged (hfile : s.regularFile? template = some file)
    (hreadable : file.isReadable)
    (htext : Text.decode? file.content = some text) (huntagged : IsUntagged text.toList) :
    rendering r s template = .ok ⟨String.ofList (Text.unifyNewlines text.toList), [], []⟩ := by
  have hread : file.text? = .ok (String.ofList (Text.unifyNewlines text.toList)) :=
    RegularFile.text?_eq_ok_iff.2 ⟨hreadable, by rw [Text.readText?, htext]; rfl⟩
  have hunified := Template.isUntagged_unifyNewlines huntagged
  rw [← String.toList_ofList (l := Text.unifyNewlines text.toList)] at hunified
  rw [rendering_of_file hfile, renderingOf, hread]
  exact congrArg Except.ok (r.render_of_isUntagged hunified)

/-- A text as it is written and as it is read again. -/
theorem utf8_unified_eq_iff (h : Text.isEncodable text) :
    Text.utf8 (String.ofList (Text.unifyNewlines text.toList)) = Text.utf8 text ↔
      '\r' ∉ text.toList := by
  rw [Text.utf8_inj (Text.isEncodable_unifyNewlines h) h, ← Text.unifyNewlines_eq_self_iff]
  exact ⟨fun hsame => by simpa using congrArg String.toList hsame,
    fun hsame => by rw [hsame, String.ofList_toList]⟩

/-- A template without tags is written as it is, but for its line ends, wherever a file can be put:
the generated file has the bytes of the template if and only if the template holds no carriage
return. -/
theorem renderFile_untagged (hfile : s.regularFile? template = some file)
    (hreadable : file.isReadable) (htext : Text.decode? file.content = some text)
    (huntagged : IsUntagged text.toList) :
    let outcome := renderFile r s now false template (some output)
    (outcome.result.isOk ↔ ∃ made location, s.Admits now output made location) ∧
    (outcome.result.isOk → ∃ written, outcome.store.regularFile? output = some written ∧
      written.content = Text.utf8 (String.ofList (Text.unifyNewlines text.toList)) ∧
      (written.content = file.content ↔ '\r' ∉ text.toList)) := by
  intro outcome
  set unified := String.ofList (Text.unifyNewlines text.toList) with hunified
  obtain ⟨hencodable, hbytes⟩ := Text.decode?_eq_some_iff.1 htext
  have hencodable' : Text.isEncodable unified := Text.isEncodable_unifyNewlines hencodable
  have hrendering : rendering r s template = .ok ⟨unified, [], []⟩ :=
    rendering_untagged hfile hreadable htext huntagged
  have houtcome : outcome.result.isOk = (s.replace now output unified).2.isOk ∧
      outcome.store = (s.replace now output unified).1 := by
    simp only [outcome, renderFile, hrendering, Bool.false_eq_true, if_false]
    rcases s.replace now output unified with ⟨t, fault | ⟨⟩⟩ <;> exact ⟨rfl, rfl⟩
  have hok : outcome.result.isOk ↔ ∃ made location, s.Admits now output made location := by
    have hreplace := replace_eq_ok_iff s now output unified
    rw [and_iff_right hencodable'] at hreplace
    rw [houtcome.1, ← hreplace]
    rcases (s.replace now output unified).2 with fault | ⟨⟩ <;> simp [Except.isOk, Except.toBool]
  refine ⟨hok, fun h => ?_⟩
  obtain ⟨made, location, hadmits⟩ := hok.1 h
  obtain ⟨written, directory, hcontent, hreplace⟩ := hadmits.replace_eq hencodable'
  refine ⟨written, ?_, hcontent, ?_⟩
  · rw [houtcome.2, hreplace]
    exact regularFile?_put hadmits.locate hadmits.place written
  · rw [hcontent, hbytes]
    exact utf8_unified_eq_iff hencodable

/-- Stray braces between a byte order mark and a character that does not stand for itself. -/
def straySource : String :=
  "\uFEFF\x7ba\x7d\x7d \x7b\x7bb" ++ String.ofList [Char.ofNat 0x10D800, '\n']

/-- A template that has one text. -/
def singleTree (source : String) : Store :=
  treeAt "root" [("a.tmpl", .file ⟨source.toUTF8, 0o644, 0⟩)] []

/-- The only template of such a tree. -/
def singleTemplate : Path := (layoutAt "root").template "a.tmpl"

/-- Where it is rendered to. -/
def singleOutput : Path := (layoutAt "root").output singleTemplate

theorem renderFile_untagged_stray :
    let outcome :=
      renderFile { vars := .empty } (singleTree straySource) 1 false singleTemplate
        (some singleOutput)
    outcome.result.isOk ∧ ∃ written, outcome.store.regularFile? singleOutput = some written ∧
      written.content = straySource.toUTF8 := by
  have hfile : (singleTree straySource).regularFile? singleTemplate =
      some ⟨straySource.toUTF8, 0o644, 0⟩ := by decide +kernel
  have htext : Text.decode? straySource.toUTF8 = some (Text.ofString straySource) := by
    decide +kernel
  have huntagged : IsUntagged (Text.ofString straySource).toList := by decide +kernel
  have hok : (renderFile { vars := .empty } (singleTree straySource) 1 false singleTemplate
      (some singleOutput)).result.isOk := by decide +kernel
  obtain ⟨written, hwritten, -, hsame⟩ :=
    (renderFile_untagged hfile (by decide) htext huntagged).2 hok
  exact ⟨hok, written, hwritten, hsame.2 (by decide +kernel)⟩

/-- A carriage return before a line feed is lost. -/
theorem renderFile_returns :
    let outcome :=
      renderFile { vars := .empty } (singleTree "a\r\n") 1 false singleTemplate (some singleOutput)
    IsUntagged "a\r\n".toList ∧ outcome.result.isOk ∧
      (outcome.store.regularFile? singleOutput).map (·.content) = some "a\n".toUTF8 := by
  decide +kernel

end MachineConfig.Generated
