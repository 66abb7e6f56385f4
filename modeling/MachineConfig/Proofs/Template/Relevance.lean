import MachineConfig.Proofs.Template.Meaning
import MachineConfig.Proofs.Template.Reading

/-!
What a rendering depends on. A document asks for the variables that its scalars and conditions name
and for the records and schemas of the arrays that its loops name. Renderers that agree on those
render it alike (`Renderer.render_eq_of_agreeOn`), whatever else they hold.
-/

namespace MachineConfig

namespace Arrays.Registry

/-- The rounds of a loop depend on the records of its array and on their schema. -/
theorem bind?_congr {r r' : Registry} {name : String} (hrecords : r.get name = r'.get name)
    (hschema : r.schemaFor name = r'.schemaFor name) (index : Int) :
    r.bind? name index = r'.bind? name index := by
  simp only [bind?, scope, hrecords, hschema]

end Arrays.Registry

namespace Template

namespace Condition

/-- The variable that a condition looks up. -/
def name : Condition → String
  | equals name _ | differs name _ | truthy name => name

theorem holds_congr {c : Condition} {vars vars' : Vars} (h : vars.get? c.name = vars'.get? c.name) :
    c.holds vars = c.holds vars' := by
  have hvalue : vars.getD c.name "" = vars'.getD c.name "" := by rw [Table.getD, h, Table.getD]
  cases c <;> rw [name] at hvalue <;> rw [holds, holds, hvalue]

end Condition

namespace Renderer

/-- Two renderers have the same to say on whatever these tokens ask for. -/
structure AgreeOn (r r' : Renderer) (ts : List Token) : Prop where
  scalar : ∀ t ∈ ts, ∀ name, t.role = .scalar name →
    r.vars.get? (Text.lower name) = r'.vars.get? (Text.lower name)
  condition : ∀ t ∈ ts, ∀ block condition, t.role = .opener block condition → block ≠ .eachBlock →
    r.vars.get? (Condition.ofString condition).name =
      r'.vars.get? (Condition.ofString condition).name
  records : ∀ t ∈ ts, ∀ array, t.role = .opener .eachBlock array →
    r.registry.get array = r'.registry.get array
  schema : ∀ t ∈ ts, ∀ array, t.role = .opener .eachBlock array →
    r.registry.schemaFor array = r'.registry.schemaFor array

variable {r r' : Renderer} {ts us : List Token} {ns : List Node}

theorem AgreeOn.mono (h : r.AgreeOn r' ts) (hsubset : ∀ t ∈ us, t ∈ ts) : r.AgreeOn r' us :=
  ⟨fun t ht => h.scalar t (hsubset t ht), fun t ht => h.condition t (hsubset t ht),
    fun t ht => h.records t (hsubset t ht), fun t ht => h.schema t (hsubset t ht)⟩

theorem lookup_congr {name : String}
    (h : r.vars.get? (Text.lower name) = r'.vars.get? (Text.lower name)) (scope : Scope) :
    r.lookup scope name = r'.lookup scope name := by
  simp only [lookup, h]

section blocks

variable (hlimit : r.maxBlocks = r'.maxBlocks)
include hlimit

theorem meaning_conditional_congr {scope : Scope} {condition : String}
    {whenTrue whenFalse : List Node}
    (hcondition : r.vars.get? (Condition.ofString condition).name =
      r'.vars.get? (Condition.ofString condition).name)
    (htrue : r.meanings scope whenTrue = r'.meanings scope whenTrue)
    (hfalse : r.meanings scope whenFalse = r'.meanings scope whenFalse) (negate : Bool)
    (source : String) :
    r.meaning scope (.conditional condition negate whenTrue whenFalse source) =
      r'.meaning scope (.conditional condition negate whenTrue whenFalse source) := by
  have hholds : conditionHolds r.vars condition = conditionHolds r'.vars condition :=
    Condition.holds_congr hcondition
  funext t
  simp only [meaning, hlimit, hholds, htrue, hfalse]

theorem meaning_loop_congr {scope : Scope} {array : String} {body : List Node}
    (hrecords : r.registry.get array = r'.registry.get array)
    (hschema : r.registry.schemaFor array = r'.registry.schemaFor array)
    (hbody : ∀ scope, r.meanings scope body = r'.meanings scope body) (source : String) :
    r.meaning scope (.loop array body source) = r'.meaning scope (.loop array body source) := by
  funext t
  simp only [meaning, hlimit, hrecords, Arrays.Registry.bind?_congr hrecords hschema, hbody]

/-- The two walks stay in step: whatever tokens are read as, they mean the same to both. -/
theorem meanings_congr (h : ReadsAs ts ns) (hagree : r.AgreeOn r' ts) (scope : Scope) :
    r.meanings scope ns = r'.meanings scope ns := by
  induction h generalizing scope with
  | nil => rfl
  | text _ _ ih =>
    have hrest := ih (hagree.mono (by simp +contextual)) scope
    simp only [meanings, meaning, hrest]
  | scalar hrole _ ih =>
    have hrest := ih (hagree.mono (by simp +contextual)) scope
    have hname := lookup_congr (hagree.scalar _ (List.mem_cons_self ..) _ hrole) scope
    simp only [meanings, meaning_scalar, hname, hrest]
  | @conditional opener closer condition negate inner body ts ns hopener _ _ _ ihBody ih =>
    have hbody := ihBody (hagree.mono (by simp +contextual)) scope
    have hrest := ih (hagree.mono (by simp +contextual)) scope
    have hcondition := hagree.condition _ (List.mem_cons_self ..) _ _ hopener
      (by cases negate <;> simp)
    rw [meanings, meanings, meaning_conditional_congr hlimit hcondition hbody rfl, hrest]
  | ifElse hopener _ _ _ _ _ ihTrue ihFalse ih =>
    have htrue := ihTrue (hagree.mono (by simp +contextual)) scope
    have hfalse := ihFalse (hagree.mono (by simp +contextual)) scope
    have hrest := ih (hagree.mono (by simp +contextual)) scope
    have hcondition := hagree.condition _ (List.mem_cons_self ..) _ _ hopener (by simp)
    rw [meanings, meanings, meaning_conditional_congr hlimit hcondition htrue hfalse, hrest]
  | loop hopener _ _ _ ihBody ih =>
    have hbody := ihBody (hagree.mono (by simp +contextual))
    have hrest := ih (hagree.mono (by simp +contextual)) scope
    have hrecords := hagree.records _ (List.mem_cons_self ..) _ hopener
    have hschema := hagree.schema _ (List.mem_cons_self ..) _ hopener
    rw [meanings, meanings, meaning_loop_congr hlimit hrecords hschema hbody, hrest]

end blocks

/-- Renderers with one limit that agree on what the tags of a document ask for render it alike. -/
theorem render_eq_of_agreeOn {document : String} (hlimit : r.maxBlocks = r'.maxBlocks)
    (hagree : r.AgreeOn r' (Token.scan document)) : r.render document = r'.render document := by
  have hmeanings := congrFun
    (meanings_congr hlimit (Tree.readsAs_ofDocument document) hagree none)
    { warnings := (Tree.ofDocument document).warnings }
  rw [← evaluate_eq_meanings, ← evaluate_eq_meanings, Prod.mk.injEq] at hmeanings
  obtain ⟨htext, htally⟩ := hmeanings
  have hwarnings := congrArg Tally.warnings htally
  simp only [Output.tally] at hwarnings
  simp only [render, htext, hwarnings]

/-- Two hosts under a heading that depends on the system. -/
def hostsDocument : String :=
  "\x7b\x7b#if OS == 'linux'\x7d\x7d\x7b\x7b Title \x7d\x7d\x7b\x7b/if\x7d\x7d" ++
    "\x7b\x7b#each Hosts\x7d\x7d\x7b\x7bname\x7d\x7d \x7b\x7b/each\x7d\x7d"

def hosts : String × List Arrays.Notation := ("hosts", [.joined "a|a.org", .joined "b|b.org"])

/-- Variables and arrays that the document does not ask for make no difference. -/
theorem render_eq_of_agreeOn_hosts :
    let r : Renderer :=
      { vars := Table.ofList [("os", "linux"), ("title", "T")]
        registry := .build [hosts] [] Arrays.hostSchema }
    let r' : Renderer :=
      { vars := Table.ofList [("token", "x"), ("title", "T"), ("os", "linux")]
        registry := .build [("keys", [.joined "k"]), hosts] [("keys", ["id"])] Arrays.hostSchema }
    r.AgreeOn r' (Token.scan hostsDocument) ∧
      r.render hostsDocument = r'.render hostsDocument ∧
      r.render hostsDocument = ⟨"Ta b ", [], []⟩ := by
  intro r r'
  have hroles : (Token.scan hostsDocument).map Token.role =
      [.opener .ifBlock "OS == 'linux'", .scalar "Title", .closer .ifBlock,
        .opener .eachBlock "Hosts", .scalar "name", .text, .closer .eachBlock] := by
    decide +kernel
  have hrole : ∀ t ∈ Token.scan hostsDocument, t.role ∈ _ := fun t ht =>
    hroles ▸ List.mem_map_of_mem ht
  have hagree : r.AgreeOn r' (Token.scan hostsDocument) := by
    constructor
    · intro t ht name h
      have hname : name = "Title" ∨ name = "name" := by simpa [h] using hrole t ht
      rcases hname with rfl | rfl <;> decide +kernel
    · intro t ht block condition h hblock
      obtain ⟨-, rfl⟩ : block = .ifBlock ∧ condition = "OS == 'linux'" := by
        simpa [h, hblock] using hrole t ht
      decide +kernel
    · intro t ht array h
      obtain rfl : array = "Hosts" := by simpa [h] using hrole t ht
      decide +kernel
    · intro t ht array h
      obtain rfl : array = "Hosts" := by simpa [h] using hrole t ht
      decide +kernel
  exact ⟨hagree, render_eq_of_agreeOn rfl hagree, by decide +kernel⟩

end Renderer

end Template

end MachineConfig
