import Mathlib.Data.List.Nodup
import MachineConfig.Arrays.Registry
import MachineConfig.Proofs.TableLemmas
import MachineConfig.Proofs.Template.Meaning
import MachineConfig.Proofs.Text.SplitLemmas

/-!
The notations of a record. Written as one text, as a list or as a map from the names of its schema,
a record has the same values under the same names (`IsWriting.fields_eq`) and the same text
(`IsWriting.raw_eq`), and so every round of every loop sees the same (`Registry.bind?_writing`).
-/

namespace MachineConfig.Arrays

/-- The ways to write a record: one text with `|` between the values, a list, and a map that has the
values under the first names of a schema. -/
inductive IsWriting (schema values : List String) : Value → Prop where
  | joined : IsWriting schema values (.string ("|".intercalate values))
  | list : IsWriting schema values (.list (values.map .string))
  | map : IsWriting schema values
      (.map ((schema.zip values).map fun e => (.string e.1, .string e.2)))

/-- The schema has a name for every value, and neither names nor values can be taken for others. -/
structure Fits (schema values : List String) : Prop where
  nodup : schema.Nodup
  isLower : ∀ name ∈ schema, Text.lower name = name
  length_le : values.length ≤ schema.length
  noBar : ∀ value ∈ values, '|' ∉ value.toList

section named

variable {schema values : List String}

/-- The fields of a record that was written as a map. -/
def namedFields (schema values : List String) : Vars := Table.ofList (schema.zip values)

theorem map_fst_zip_sublist : ((schema.zip values).map (·.1)).Sublist schema := by
  induction schema generalizing values with
  | nil => exact List.Sublist.refl _
  | cons name schema ih =>
    cases values with
    | nil => exact List.nil_sublist _
    | cons value values => exact ih.cons_cons name

theorem entries_namedFields (h : schema.Nodup) :
    (namedFields schema values).entries = schema.zip values :=
  Table.entries_insertAll_of_nodup (h.sublist map_fst_zip_sublist)

theorem values_namedFields (h : Fits schema values) :
    (namedFields schema values).values = values := by
  rw [Table.values, entries_namedFields h.nodup, List.map_snd_zip h.length_le]

theorem getD_namedFields (h : schema.Nodup) {i : Nat} (hi : i < schema.length) :
    (namedFields schema values).getD schema[i] "" = values.getD i "" := by
  have hget : (namedFields schema values).get? schema[i] = values[i]? := by
    refine Option.ext fun value => ?_
    rw [Table.get?_eq_some_iff_mem, entries_namedFields h, List.mem_iff_getElem?]
    simp only [List.getElem?_zip_eq_some]
    constructor
    · rintro ⟨j, hname, hvalue⟩
      obtain ⟨hj, heq⟩ := List.getElem?_eq_some_iff.1 hname
      rwa [← (List.Nodup.getElem_inj_iff h).1 heq]
    · intro hvalue
      exact ⟨i, List.getElem?_eq_getElem hi, hvalue⟩
  rw [Table.getD, hget, List.getD_eq_getElem?_getD]

end named

/-- A joined text is split into its values; the empty text, which has none, into one that is
empty. -/
theorem splitAt_intercalate_eq {values : List String} (h : ∀ value ∈ values, '|' ∉ value.toList) :
    Text.splitAt '|' ("|".intercalate values) = if values = [] then [""] else values := by
  split
  · next hnil =>
    subst hnil
    rfl
  · next hne => exact Text.splitAt_intercalate hne h

/-- The record that a value is read as. -/
def Record.ofValue (shown : Value → String) (v : Value) : Record := .ofNotation (.ofValue shown v)

section writings

variable {schema values : List String} {v w : Value} {shown : Value → String}
  (hshown : ∀ s, shown (.string s) = s)
include hshown

theorem ofValue_joined (text : String) :
    Record.ofValue shown (.string text) = ⟨Text.splitAt '|' text, .empty⟩ := by
  rw [Record.ofValue, Notation.ofValue, hshown]
  · rfl
  · exact fun _ h => by cases h
  · exact fun _ h => by cases h

theorem ofValue_list (values : List String) :
    Record.ofValue shown (.list (values.map .string)) = ⟨values, .empty⟩ := by
  have hvalues : (values.map Value.string).map shown = values := by
    rw [List.map_map]
    exact (List.map_congr_left fun s _ => hshown s).trans values.map_id
  rw [Record.ofValue, Notation.ofValue, hvalues]
  rfl

theorem ofValue_map (h : Fits schema values) :
    Record.ofValue shown
        (.map ((schema.zip values).map fun e => (.string e.1, .string e.2))) =
      ⟨values, namedFields schema values⟩ := by
  have hentries : ((schema.zip values).map fun e => (Value.string e.1, Value.string e.2)).map
      (fun e => (e.1.keyName, shown e.2)) = schema.zip values := by
    rw [List.map_map]
    refine (List.map_congr_left fun e he => ?_).trans (List.map_id _)
    have hname : Value.keyName (.string e.1) = e.1 := h.isLower e.1 (List.of_mem_zip he).1
    rw [Function.comp_apply, hname, hshown]
    rfl
  rw [Record.ofValue, Notation.ofValue, hentries, Record.ofNotation, ← namedFields,
    values_namedFields h]

end writings

/-- The fields of a record without names of its own. -/
theorem fields_positional (values schema : List String) :
    (⟨values, .empty⟩ : Record).fields schema =
      Table.ofList (schema.zipIdx.map fun e => (e.1, values.getD e.2 "")) := rfl

/-- A record that was written as a map has no fields but those of its schema. -/
theorem fields_namedFields {schema values : List String} (h : Fits schema values) :
    (⟨values, namedFields schema values⟩ : Record).fields schema =
      Table.ofList (schema.zipIdx.map fun e => (e.1, values.getD e.2 "")) := by
  have hbound : schema.map (fun name => (name, (namedFields schema values).getD name "")) =
      schema.zipIdx.map fun e => (e.1, values.getD e.2 "") := by
    refine List.ext_getElem (by simp) fun i hi _ => ?_
    have hi' : i < schema.length := by simpa using hi
    simp [getD_namedFields h.nodup hi']
  have hnone : (namedFields schema values).entries.filter (fun e =>
      !(Table.ofList (schema.map fun name =>
        (name, (namedFields schema values).getD name ""))).contains e.1) = [] := by
    refine List.filter_eq_nil_iff.2 fun e he => ?_
    rw [entries_namedFields h.nodup] at he
    have hname : (Table.ofList (schema.map fun name =>
        (name, (namedFields schema values).getD name ""))).contains e.1 = true := by
      rw [Table.contains_ofList, List.map_map]
      simpa using (List.of_mem_zip he).1
    simp only [hname, Bool.not_true, Bool.false_eq_true, not_false_eq_true]
  rw [Record.fields]
  split
  · rfl
  · dsimp only
    rw [hnone, hbound]
    rfl

namespace IsWriting

variable {schema values : List String} {v w : Value} {shown : Value → String}
  (hshown : ∀ s, shown (.string s) = s)
include hshown

/-- In every notation a record is shown as its values with `|` between them. -/
theorem raw_eq (hv : IsWriting schema values v) (h : Fits schema values) :
    (Record.ofValue shown v).raw = "|".intercalate values := by
  cases hv with
  | list => rw [ofValue_list hshown, Record.raw]
  | map => rw [ofValue_map hshown h, Record.raw]
  | joined =>
    rw [ofValue_joined hshown, splitAt_intercalate_eq h.noBar, Record.raw]
    split
    · next hnil => rw [hnil]; rfl
    · rfl

/-- In every notation a record has its values under the names of the schema, and nothing under those
that are left. -/
theorem fields_eq (hv : IsWriting schema values v) (h : Fits schema values) :
    (Record.ofValue shown v).fields schema =
      Table.ofList (schema.zipIdx.map fun e => (e.1, values.getD e.2 "")) := by
  cases hv with
  | list => rw [ofValue_list hshown, fields_positional]
  | map => rw [ofValue_map hshown h, fields_namedFields h]
  | joined =>
    rw [ofValue_joined hshown, fields_positional, splitAt_intercalate_eq h.noBar]
    split
    · next hnil =>
      refine congrArg Table.ofList (List.map_congr_left fun e _ => ?_)
      rw [hnil]
      cases e.2 <;> rfl
    · rfl

end IsWriting

namespace Registry

/-- The registry of arrays whose records are written in any notation. -/
def ofValues (shown : Value → String) (arrays : List (String × List Value))
    (schemas : List (String × List String)) (defaultSchema : List String) : Registry :=
  .build (arrays.map fun a => (a.1, a.2.map (.ofValue shown))) schemas defaultSchema

/-- The rounds of a loop see no more of a record than its text and its fields. -/
theorem bind?_eq_of_forall₂ {r r' : Registry} {name : String}
    (hschema : r.schemaFor name = r'.schemaFor name)
    (h : List.Forall₂ (fun a b => a.raw = b.raw ∧
      a.fields (r.schemaFor name) = b.fields (r.schemaFor name)) (r.get name) (r'.get name))
    (index : Int) : r.bind? name index = r'.bind? name index := by
  have hscope (position : Nat) (last : Bool) :
      (r.get name)[position]?.map (fun record => r.scope name record index last) =
        (r'.get name)[position]?.map fun record => r'.scope name record index last := by
    by_cases hlt : position < (r.get name).length
    · have hlt' := h.length_eq ▸ hlt
      obtain ⟨hraw, hfields⟩ := List.forall₂_iff_get.1 h |>.2 position hlt hlt'
      rw [List.get_eq_getElem, List.get_eq_getElem] at hraw hfields
      rw [List.getElem?_eq_getElem hlt, List.getElem?_eq_getElem hlt', Option.map_some,
        Option.map_some, scope, scope, ← hschema, hraw, hfields]
    · have hlt' : ¬position < (r'.get name).length := h.length_eq ▸ hlt
      rw [List.getElem?_eq_none (Nat.le_of_not_lt hlt),
        List.getElem?_eq_none (Nat.le_of_not_lt hlt')]
      rfl
  simp only [bind?, hscope, h.length_eq]

/-- Whatever its schema is, a record is shown as itself under `this`. -/
theorem get?_this_scope (r : Registry) (name : String) (record : Record) (label : Int)
    (last : Bool) : (r.scope name record label last).get? "this" = some record.raw := by
  rw [scope, Table.get?_insertAll]
  rfl

section placed

variable (shown : Value → String) (others others' : List (String × List Value)) (array : String)
  (schemas : List (String × List String)) (defaultSchema : List String)

/-- The arrays of a registry under the names that they are filed under, the last one first. -/
def filed (arrays : List (String × List Value)) : List (String × List Record) :=
  (arrays.map fun a => (Text.lower a.1, a.2.map (Record.ofValue shown))).reverse

theorem filed_append_cons (records : List Value) :
    filed shown (others ++ (array, records) :: others') =
      filed shown others' ++ (Text.lower array, records.map (Record.ofValue shown)) ::
        filed shown others := by
  simp [filed]

theorem get_ofValues (arrays : List (String × List Value)) (name : String) :
    (ofValues shown arrays schemas defaultSchema).get name =
      ((filed shown arrays).lookup (Text.lower name)).getD [] := by
  have harrays : (arrays.map fun a => (a.1, a.2.map (Notation.ofValue shown))).map
      (fun a => (Text.lower a.1, a.2.map Record.ofNotation)) =
        arrays.map fun a => (Text.lower a.1, a.2.map (Record.ofValue shown)) := by
    rw [List.map_map]
    refine List.map_congr_left fun a _ => ?_
    simp only [Function.comp_apply, List.map_map]
    rfl
  rw [ofValues, get, build, Table.getD, Table.get?_ofList, harrays, filed]

/-- An array that no later one takes the name of has its own records. -/
theorem get_ofValues_of_forall_ne {others' : List (String × List Value)} (records : List Value)
    (h : ∀ a ∈ others', Text.lower a.1 ≠ Text.lower array) :
    (ofValues shown (others ++ (array, records) :: others') schemas defaultSchema).get array =
      records.map (Record.ofValue shown) := by
  have hlater : (filed shown others').lookup (Text.lower array) = none := by
    rw [lookup_eq_none_iff_not_mem, filed, List.map_reverse, List.map_map, List.mem_reverse,
      List.mem_map]
    rintro ⟨a, ha, hname⟩
    exact h a ha hname
  rw [get_ofValues, filed_append_cons, List.lookup_append, hlater, List.lookup_cons_self]
  rfl

/-- Putting one value in the place of another changes one record of an array. -/
theorem get_ofValues_replaced {before after : List Value} {v w : Value} {R : Record → Record → Prop}
    (hrefl : ∀ a, R a a) {name : String}
    (h : Text.lower name = Text.lower array → R (.ofValue shown v) (.ofValue shown w)) :
    List.Forall₂ R
      ((ofValues shown (others ++ (array, before ++ v :: after) :: others') schemas
        defaultSchema).get name)
      ((ofValues shown (others ++ (array, before ++ w :: after) :: others') schemas
        defaultSchema).get name) := by
  have hsame (records : List Record) : List.Forall₂ R records records :=
    List.forall₂_same.2 fun a _ => hrefl a
  rw [get_ofValues, get_ofValues, filed_append_cons, filed_append_cons, List.lookup_append,
    List.lookup_append, List.lookup_cons, List.lookup_cons]
  cases (filed shown others').lookup (Text.lower name) with
  | some records => exact hsame records
  | none =>
    by_cases hname : Text.lower name = Text.lower array
    · simp only [hname, beq_self_eq_true, Option.none_or, Option.getD_some, List.map_append,
        List.map_cons]
      exact List.rel_append (hsame _) (.cons (h hname) (hsame _))
    · simp only [beq_false_of_ne hname, Option.none_or]
      exact hsame _

end placed

/-- The three notations of a record are one. Wherever a record stands in an array, writing it in
another notation changes no round of any array; and what it is shown as is the joined text. -/
theorem bind?_writing {shown : Value → String} (hshown : ∀ s, shown (.string s) = s)
    {array : String} {schemas : List (String × List String)} {defaultSchema schema : List String}
    (hschema : (ofValues shown [] schemas defaultSchema).schemaFor array = schema)
    {values : List String} (h : Fits schema values) {v w : Value}
    (hv : IsWriting schema values v) (hw : IsWriting schema values w)
    (others others' : List (String × List Value)) (before after : List Value) :
    let registry (record : Value) := ofValues shown
      (others ++ (array, before ++ record :: after) :: others') schemas defaultSchema
    (∀ name index, (registry v).bind? name index = (registry w).bind? name index) ∧
      ((∀ a ∈ others', Text.lower a.1 ≠ Text.lower array) →
        ∃ scope, (registry v).bind? array before.length = some scope ∧
          scope.get? "this" = some ("|".intercalate values)) := by
  intro registry
  refine ⟨fun name index => ?_, fun hothers => ?_⟩
  · have hsame : (registry v).schemaFor name = (registry w).schemaFor name := rfl
    refine bind?_eq_of_forall₂ hsame (get_ofValues_replaced shown others others' array schemas
      defaultSchema (fun a => ⟨rfl, rfl⟩) fun hname => ?_) index
    have hof : (registry v).schemaFor name = schema := by
      rw [← hschema, schemaFor, hname]
      rfl
    rw [hof]
    exact ⟨(hv.raw_eq hshown h).trans (hw.raw_eq hshown h).symm,
      (hv.fields_eq hshown h).trans (hw.fields_eq hshown h).symm⟩
  · have hget := get_ofValues_of_forall_ne shown others array schemas defaultSchema
      (before ++ v :: after) hothers
    have hlt : before.length < ((registry v).get array).length := by
      simp [registry, hget]
    have hrecord : ((registry v).get array)[before.length] = .ofValue shown v := by
      simp [registry, hget]
    refine ⟨_, (registry v).bind?_natCast array hlt, ?_⟩
    rw [hrecord, get?_this_scope, hv.raw_eq hshown h]

/-- A schema that names what every round has, and a record whose last value is empty, after another
one. -/
theorem bind?_writing_hosts :
    let schema := ["name", "this", "@first"]
    let fields : List (Value × Value) :=
      [(.string "name", .string "a"), (.string "this", .string "")]
    let registry (record : Value) := ofValues Value.display
      ([] ++ ("Hosts", [.string "b|c"] ++ record :: []) :: [("keys", [])]) [("hosts", schema)]
      hostSchema
    Fits schema ["a", ""] ∧
      (registry (.string "a|")).bind? "hosts" (-1) = (registry (.map fields)).bind? "hosts" (-1) ∧
      ∃ scope, (registry (.string "a|")).bind? "Hosts" 1 = some scope ∧
        scope.get? "this" = some "a|" := by
  intro schema fields registry
  have h : Fits schema ["a", ""] := ⟨by decide, by decide, by decide, by decide⟩
  have hjoined : IsWriting schema ["a", ""] (.string "a|") := .joined
  have hmap : IsWriting schema ["a", ""] (.map fields) := .map
  have hshown (s : String) : (Value.string s).display = s := rfl
  have hschema : (ofValues Value.display [] [("hosts", schema)] hostSchema).schemaFor "Hosts" =
      schema := by decide
  obtain ⟨hrounds, hthis⟩ := bind?_writing hshown hschema h hjoined hmap []
    [("keys", [])] [.string "b|c"] []
  exact ⟨h, hrounds "hosts" (-1), hthis (by decide)⟩

end Registry

end MachineConfig.Arrays
