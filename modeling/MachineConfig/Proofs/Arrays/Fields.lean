import MachineConfig.Proofs.Arrays.Notations
import MachineConfig.Proofs.Template.FormRendering
import MachineConfig.Proofs.Template.RecasingLemmas

/-!
The fields of records in loops. A record that was written as one text or as a list has its values
under the names of its schema (`Registry.get?_scope_field`), and a tag of such a name, in whatever
case it is written, is rendered as the value (`Renderer.render_field`). But names are looked up in
lower case: a name of the default schema that has a capital letter is found by no tag.
-/

namespace MachineConfig

open Text

namespace Arrays

/-- The values of the record have no names of their own. -/
def Record.IsPositional (record : Record) : Prop := record.named.isEmpty

instance (record : Record) : Decidable record.IsPositional :=
  inferInstanceAs (Decidable (_ = true))

theorem Record.isPositional_ofNotation {n : Notation} (h : ∀ fields, n ≠ .named fields) :
    (ofNotation n).IsPositional := by
  cases n with
  | joined text => rfl
  | list values => rfl
  | named fields => exact (h fields rfl).elim

/-- A field of a schema that tags can name: no other one has its name in another case, and neither
do the variables that every round of a loop has. -/
structure IsField (schema : List String) (i : Nat) (field : String) : Prop where
  getElem? : schema[i]? = some field
  isName : Template.isScalarName field.toList
  noMark : '@' ∉ field.toList
  ne_this : lower field ≠ "this"
  distinct : ∀ (j : Nat) (h : j < schema.length), lower schema[j] = lower field → j = i

namespace IsField

variable {schema : List String} {i : Nat} {field : String}

/-- The variables of a round but the record itself have a mark in their names. -/
theorem noMark_lower (h : IsField schema i field) : '@' ∉ (lower field).toList := by
  have hascii : ∀ c ∈ field.toList, c.toNat < 128 := fun c hc => by
    have := Template.toNat_of_mem_scalarName h.isName c hc
    omega
  rw [lower_of_ascii hascii, String.toList_ofList, List.mem_map]
  rintro ⟨c, hc, hmark⟩
  rw [(toLower_eq_iff (by decide) c).1 hmark] at hc
  exact h.noMark hc

/-- A record has its value under the name in lower case if the schema has it in lower case, and
nothing otherwise. -/
theorem get?_fields (h : IsField schema i field) {record : Record} (hrecord : record.IsPositional) :
    (record.fields schema).get? (lower field) =
      if lower field = field then some (record.values.getD i "") else none := by
  have hindex : ∀ e ∈ schema.zipIdx, e.1 = lower field → e.2 = i := by
    rintro ⟨other, j⟩ he rfl
    obtain ⟨hj, hother⟩ := List.getElem?_eq_some_iff.1 (List.mk_mem_zipIdx_iff_getElem?.1 he)
    exact h.distinct j hj (by rw [hother, lower_lower])
  have hunnamed : record.named.isEmpty = true := hrecord
  rw [Record.fields, if_pos hunnamed, Table.get?_ofList]
  split
  · next hlower =>
    have hmem : (field, i) ∈ schema.zipIdx := List.mk_mem_zipIdx_iff_getElem?.2 h.getElem?
    refine lookup_eq_some_of_unique ?_ ?_
    · rw [List.mem_reverse, List.mem_map]
      exact ⟨_, hmem, by rw [hlower]⟩
    · simp only [List.mem_reverse, List.forall_mem_map]
      intro e he hname
      rw [hindex e he hname]
  · next hlower =>
    rw [lookup_eq_none_iff_not_mem, List.map_reverse, List.mem_reverse, List.map_map, List.mem_map]
    rintro ⟨⟨other, j⟩, he, rfl⟩
    obtain rfl := hindex _ he rfl
    -- The field at this position is not the one with that name in lower case.
    have hother := (List.mk_mem_zipIdx_iff_getElem?.1 he).symm.trans h.getElem?
    exact hlower (Option.some.inj hother)

end IsField

namespace Registry

variable (r : Registry) {array field : String} {i : Nat}

/-- A round adds to the fields of its record no more than four names. -/
theorem get?_scope {key : String} (hthis : key ≠ "this") (hmark : '@' ∉ key.toList)
    (record : Record) (label : Int) (last : Bool) :
    (r.scope array record label last).get? key =
      (record.fields (r.schemaFor array)).get? key := by
  have hne (marked : String) (h : '@' ∈ marked.toList) : key ≠ marked := by
    rintro rfl
    exact hmark h
  have hindex := hne "@index" (by decide)
  have hfirst := hne "@first" (by decide)
  have hlast := hne "@last" (by decide)
  rw [scope, Table.get?_insertAll]
  simp [List.lookup_cons, beq_false_of_ne, hthis, hindex, hfirst, hlast]

theorem get?_scope_field (h : IsField (r.schemaFor array) i field) {record : Record}
    (hrecord : record.IsPositional) (label : Int) (last : Bool) :
    (r.scope array record label last).get? (lower field) =
      if lower field = field then some (record.values.getD i "") else none := by
  rw [r.get?_scope h.ne_this h.noMark_lower, h.get?_fields hrecord]

/-- The fields of a schema that was declared are filed in lower case. -/
theorem lower_of_hasSchema {arrays : List (String × List Notation)}
    {schemas : List (String × List String)} {defaultSchema : List String}
    (h : (build arrays schemas defaultSchema).hasSchema array) :
    ∀ field ∈ (build arrays schemas defaultSchema).schemaFor array, lower field = field := by
  rw [hasSchema, Table.contains, Option.isSome_iff_exists] at h
  obtain ⟨fields, hfields⟩ := h
  have hmem := Table.mem_of_mem_ofList (Table.mem_of_get?_eq_some hfields)
  obtain ⟨s, -, hs⟩ := List.mem_map.1 hmem
  obtain ⟨-, rfl⟩ := Prod.mk.inj hs
  rw [schemaFor, Table.getD, hfields, Option.getD_some, List.forall_mem_map]
  exact fun field _ => lower_lower field

end Registry

end Arrays

namespace Template

namespace Node

mutual

/-- A node with a text in the place of every scalar whose name is `key` in lower case, or with the
source of the scalar if there is no text. -/
def filled (key : String) (value : Option String) : Node → Node
  | .text content => .text content
  | .scalar name source =>
    if lower name = key then .text (value.getD source) else .scalar name source
  | .conditional condition negate whenTrue whenFalse source =>
    .conditional condition negate (allFilled key value whenTrue) (allFilled key value whenFalse)
      source
  | .loop array body source => .loop array body source

def allFilled (key : String) (value : Option String) : List Node → List Node
  | [] => []
  | n :: ns => n.filled key value :: allFilled key value ns

end

end Node

namespace Renderer

variable {r : Renderer} {scope : Scope} {key : String} {value : Option String}

mutual

/-- What a name stands for may as well be written in its place. -/
theorem meaning_filled (h : ∀ name, lower name = key → r.lookup scope name = value) :
    (n : Node) → r.meaning scope (n.filled key value) = r.meaning scope n
  | .text _ => rfl
  | .scalar name source => by
    rw [Node.filled]
    split
    · next hname => rw [meaning_scalar, h name hname, meaning]
    · rfl
  | .conditional condition negate whenTrue whenFalse source => by
    have htrue := meanings_allFilled h whenTrue
    have hfalse := meanings_allFilled h whenFalse
    funext t
    simp only [Node.filled, meaning, htrue, hfalse]
  | .loop array body source => rfl

theorem meanings_allFilled (h : ∀ name, lower name = key → r.lookup scope name = value) :
    (ns : List Node) →
    r.meanings scope (Node.allFilled key value ns) = r.meanings scope ns
  | [] => rfl
  | n :: ns => by
    rw [Node.allFilled, meanings, meanings, meaning_filled h n, meanings_allFilled h ns]

end

/-- In the round of a positional record a field stands for its value. -/
theorem lookup_field {array field name : String} {i : Nat}
    (h : Arrays.IsField (r.registry.schemaFor array) i field) {record : Arrays.Record}
    (hrecord : record.IsPositional) (hname : lower name = lower field) (label : Int) (last : Bool) :
    r.lookup (some (r.registry.scope array record label last)) name =
      if lower field = field then some (record.values.getD i "") else r.vars.get? (lower field) := by
  simp only [lookup, hname, Option.bind_some, r.registry.get?_scope_field h hrecord]
  split <;> rfl

/-- What a printed loop renders to is what its rounds mean. -/
theorem render_loop (r : Renderer) {array : String} {body : List Form}
    (harray : Form.isArgument array) (hbody : Form.allWellFormed body)
    (hloop : ¬Form.anyHasLoop body) (hlimit : 1 ≤ r.maxBlocks) :
    let result := Meaning.inTurn ((List.range (r.registry.get array).length).map fun k : Nat =>
      r.meanings (r.registry.bind? array k) (Form.nodes body)) { warnings := [], loops := 1 }
    r.render (Form.openTag .eachBlock array ++ Form.prints body ++ Form.closeTag .eachBlock) =
      ⟨result.1, unresolvedTags result.1, result.2.warnings⟩ := by
  intro result
  have hform : Form.allWellFormed [.block .eachBlock array body] := by
    simp [Form.allWellFormed, Form.isWellFormed, harray, hbody, hloop]
  have hroom : (({ warnings := [] } : Tally).loops : Int) < r.maxBlocks := hlimit
  have hmeaning (source : String) :
      r.meanings none [.loop array (Form.nodes body) source] { warnings := [] } = result := by
    rw [meanings, meanings, Meaning.andThen, meaning_loop_of_lt r none _ _ _ hroom]
    simp [Meaning.const, result]
  have hprinted := r.render_prints hform
  simp only [Form.prints, Form.print, String.append_empty] at hprinted
  rw [hprinted]
  simp only [Form.nodes, Form.node, Form.blockNode, hmeaning]

/-- Fields of positional records in loops. Wherever a tag of a field, in whatever case, stands in
the body of a loop, the round of such a record means the same with the value of the field in its
place, empty if the record has too few values; unless the field has a capital letter, which only one
of the default schema can have: then its tag means in the loop what it means outside. -/
theorem render_field {arrays : List (String × List Arrays.Notation)}
    {schemas : List (String × List String)} {defaultSchema : List String}
    (hregistry : r.registry = .build arrays schemas defaultSchema) (hlimit : 1 ≤ r.maxBlocks)
    {array : String} {body : List Form} (harray : Form.isArgument array)
    (hbody : Form.allWellFormed body) (hloop : ¬Form.anyHasLoop body) {field : String} {i : Nat}
    (hfield : Arrays.IsField (r.registry.schemaFor array) i field) :
    let round (k : Nat) (ns : List Node) := r.meanings (r.registry.bind? array k) ns
    let result := Meaning.inTurn ((List.range (r.registry.get array).length).map fun k =>
      round k (Form.nodes body)) { warnings := [], loops := 1 }
    r.render (Form.openTag .eachBlock array ++ Form.prints body ++ Form.closeTag .eachBlock) =
        ⟨result.1, unresolvedTags result.1, result.2.warnings⟩ ∧
      (∀ k record, (r.registry.get array)[k]? = some record → record.IsPositional → ∀ ns,
        round k ns = round k (Node.allFilled (lower field)
          (if lower field = field then some (record.values.getD i "")
            else r.vars.get? (lower field)) ns)) ∧
      (∀ name spaced value, IsRecasing field name →
        (Form.scalar name spaced).isWellFormed ∧
          (Form.scalar name spaced).node.filled (lower field) value =
            .text (value.getD (Form.scalar name spaced).print)) ∧
      (r.registry.hasSchema array → lower field = field) := by
  intro round result
  refine ⟨r.render_loop harray hbody hloop hlimit, fun k record hrecord hpositional ns => ?_,
    fun name spaced value hname => ⟨?_, ?_⟩, fun hschema => ?_⟩
  · obtain ⟨hk, rfl⟩ := List.getElem?_eq_some_iff.1 hrecord
    simp only [round, r.registry.bind?_natCast array hk]
    refine (meanings_allFilled (fun name hname => ?_) ns).symm
    exact lookup_field hfield hpositional hname _ _
  · rw [Form.isWellFormed, ← eq_of_map_toLower isScalarName isScalarName_map_toLower hname]
    exact hfield.isName
  · rw [Form.node, Node.filled, if_pos hname.lower_eq.symm]
  · rw [hregistry] at hschema hfield
    exact Arrays.Registry.lower_of_hasSchema hschema field (List.mem_of_getElem? hfield.getElem?)

/-- A field of a declared schema in cases of its own, once inside a conditional, and records that
are written as a text and as a list that is too short. -/
theorem render_field_ports :
    let r : Renderer :=
      { vars := .ofList [("port", "80"), ("os", "linux")]
        registry := .build [("Hosts", [.joined "a|22", .list ["b"]])] [("hosts", ["Name", "PORT"])]
          Arrays.hostSchema }
    let body : List Form :=
      [.scalar "NAME" false, .text ":",
        .ifElse "os" [.scalar "Port" true] [.scalar "user" false], .text "/"]
    Arrays.IsField (r.registry.schemaFor "hosts") 1 "port" ∧
      Form.isArgument "hosts" ∧ Form.allWellFormed body ∧ ¬Form.anyHasLoop body ∧
      r.meanings (r.registry.bind? "hosts" 1) (Form.nodes body) =
        r.meanings (r.registry.bind? "hosts" 1)
          (Node.allFilled "port" (some "") (Form.nodes body)) ∧
      r.render (Form.openTag .eachBlock "hosts" ++ Form.prints body ++ Form.closeTag .eachBlock) =
        ⟨"a:22/b:/", [], []⟩ := by
  intro r body
  have hfield : Arrays.IsField (r.registry.schemaFor "hosts") 1 "port" :=
    ⟨by decide, by decide, by decide, by decide, by decide⟩
  have harray : Form.isArgument "hosts" := by decide
  have hbody : Form.allWellFormed body := by decide
  have hloop : ¬Form.anyHasLoop body := by decide
  obtain ⟨hrender, hround, -, -⟩ := r.render_field rfl (by decide) harray hbody hloop hfield
  have hrecord : (Arrays.Record.ofNotation (.list ["b"])).IsPositional :=
    Arrays.Record.isPositional_ofNotation (by simp)
  refine ⟨hfield, harray, hbody, hloop, hround 1 _ ?_ hrecord _, hrender.trans ?_⟩
  · decide
  · decide +kernel

/-- A name of the default schema that no tag finds, though the tag is written just like it. -/
theorem render_field_capital :
    let r : Renderer :=
      { vars := .empty, registry := .build [("a", [.joined "x|y"])] [] ["Name"] }
    Arrays.IsField (r.registry.schemaFor "a") 0 "Name" ∧
      r.render "\x7b\x7b#each a\x7d\x7d\x7b\x7bName\x7d\x7d\x7b\x7b/each\x7d\x7d" =
        ⟨"\x7b\x7bName\x7d\x7d", ["Name"], []⟩ := by
  intro r
  exact ⟨⟨by decide, by decide, by decide, by decide, by decide⟩, by decide +kernel⟩

end Renderer

end Template

end MachineConfig
