import MachineConfig.Layers.Basic
import MachineConfig.Proofs.Template.FormRendering
import MachineConfig.Proofs.Template.Limits
import MachineConfig.Proofs.Template.RecasingLemmas
import MachineConfig.Proofs.Template.Relevance

/-!
Names are the same in every case. Templates that differ in the case of the names in them are read as
trees that ask for the same things (`Form.Recased.alike`), and data with names in another case are
filed in the same way (`Data.Recased.renderer_eq`). So the rendering is the same
(`Data.render_eq_of_recased`), as far as no name is left as it is written, which would show its
case.
-/

namespace MachineConfig

open Text

/-- Two tables differ in the case of their keys, and in their values as is said. -/
def Table.Recased {α β : Type} (values : α → β → Prop) (s : Table String α) (t : Table String β) :
    Prop :=
  List.Forall₂ (fun e f => IsRecasing e.1 f.1 ∧ values e.2 f.2) s.entries t.entries

instance {α β : Type} {values : α → β → Prop} [∀ a b, Decidable (values a b)]
    (s : Table String α) (t : Table String β) : Decidable (s.Recased values t) :=
  inferInstanceAs (Decidable (List.Forall₂ _ _ _))

theorem map_eq_of_forall₂ {α β γ : Type} {R : α → β → Prop} {f : α → γ} {g : β → γ} {xs : List α}
    {ys : List β} (h : List.Forall₂ R xs ys) (heq : ∀ x y, R x y → f x = g y) :
    xs.map f = ys.map g := by
  induction h with
  | nil => rfl
  | cons hfirst _ ih => rw [List.map_cons, List.map_cons, heq _ _ hfirst, ih]

theorem lowerNames_eq_of_recased {s t : Vars} (h : s.Recased (· = ·) t) :
    lowerNames s = lowerNames t := by
  refine congrArg Table.ofList (map_eq_of_forall₂ h ?_)
  rintro e f ⟨hkey, hvalue⟩
  rw [hkey.lower_eq, hvalue]

namespace Layers

/-- Layers that differ in the case of names and of the labels of machine types. -/
structure Recased (l m : Layers) : Prop where
  auto : l.auto.Recased (· = ·) m.auto
  default : l.default.Recased (· = ·) m.default
  machineTypes : l.machineTypes.Recased (Table.Recased (· = ·)) m.machineTypes
  localOverride : l.localOverride.Recased (· = ·) m.localOverride
  environment : l.environment.Recased (· = ·) m.environment

theorem Recased.normalize_eq {l m : Layers} (h : l.Recased m) : l.normalize = m.normalize := by
  have htypes : lowerNames (l.machineTypes.map lowerNames) =
      lowerNames (m.machineTypes.map lowerNames) := by
    refine congrArg Table.ofList ?_
    rw [Table.map, Table.map, List.map_map, List.map_map]
    refine map_eq_of_forall₂ h.machineTypes ?_
    rintro e f ⟨hlabel, hnames⟩
    simp only [Function.comp_apply, hlabel.lower_eq, lowerNames_eq_of_recased hnames]
  rw [normalize, normalize, htypes, lowerNames_eq_of_recased h.auto,
    lowerNames_eq_of_recased h.default, lowerNames_eq_of_recased h.localOverride,
    lowerNames_eq_of_recased h.environment]

end Layers

namespace Arrays

theorem Registry.get_eq_of_lower_eq (r : Registry) {name other : String}
    (h : lower name = lower other) : r.get name = r.get other := by
  rw [get, get, h]

theorem Registry.bind?_eq_of_lower_eq (r : Registry) {name other : String}
    (h : lower name = lower other) (index : Int) : r.bind? name index = r.bind? other index := by
  simp only [bind?, scope, schemaFor, r.get_eq_of_lower_eq h, h]

/-- Two keys of a record are one key, or texts that differ in the case of letters. -/
inductive IsKeyRecasing : Value → Value → Prop where
  | refl (key : Value) : IsKeyRecasing key key
  | string {s t : String} : IsRecasing s t → IsKeyRecasing (.string s) (.string t)

/-- Two records are one record, or maps with recased keys. -/
inductive IsRecordRecasing : Value → Value → Prop where
  | refl (record : Value) : IsRecordRecasing record record
  | map {es fs : List (Value × Value)} :
      List.Forall₂ (fun e f => IsKeyRecasing e.1 f.1 ∧ e.2 = f.2) es fs →
      IsRecordRecasing (.map es) (.map fs)

theorem IsKeyRecasing.keyName_eq {k l : Value} (h : IsKeyRecasing k l) : k.keyName = l.keyName := by
  cases h with
  | refl => rfl
  | string hrecased => exact hrecased.lower_eq

theorem IsRecordRecasing.ofValue_eq {v w : Value} (h : IsRecordRecasing v w)
    (shown : Value → String) : Notation.ofValue shown v = Notation.ofValue shown w := by
  cases h with
  | refl => rfl
  | map hentries =>
    refine congrArg (Notation.named ∘ Table.ofList) (map_eq_of_forall₂ hentries ?_)
    rintro e f ⟨hkey, hvalue⟩
    rw [hkey.keyName_eq, hvalue]

end Arrays

namespace Template

/-- What templates are rendered with: layers of variables, arrays and the schemas of arrays, with
names in any case. -/
structure Data where
  layers : Layers := {}
  arrays : Table String (List Value) := .empty
  schemas : Table String (List String) := .empty

namespace Data

/-- The registry of the arrays, the schema of a host being that of arrays without a schema. -/
def registry (d : Data) : Arrays.Registry :=
  .build (d.arrays.entries.map fun a => (a.1, a.2.map (Arrays.Notation.ofValue Value.display)))
    d.schemas.entries Arrays.hostSchema

/-- The renderer with the variables that result from the layers. -/
def renderer (d : Data) (maxBlocks : Int) : Renderer :=
  { vars := d.layers.normalize.merged none, registry := d.registry, maxBlocks }

/-- Data that differ in the case of names: of variables, machine types, arrays, the fields of
schemas and the keys of records. -/
structure Recased (d e : Data) : Prop where
  layers : d.layers.Recased e.layers
  arrays : d.arrays.Recased (List.Forall₂ Arrays.IsRecordRecasing) e.arrays
  schemas : d.schemas.Recased (List.Forall₂ IsRecasing) e.schemas

variable {d e : Data}

theorem Recased.registry_eq (h : d.Recased e) : d.registry = e.registry := by
  have harrays : d.arrays.entries.map (fun a => (lower a.1,
        (a.2.map (Arrays.Notation.ofValue Value.display)).map Arrays.Record.ofNotation)) =
      e.arrays.entries.map fun a => (lower a.1,
        (a.2.map (Arrays.Notation.ofValue Value.display)).map Arrays.Record.ofNotation) := by
    refine map_eq_of_forall₂ h.arrays ?_
    rintro a b ⟨hname, hrecords⟩
    rw [hname.lower_eq, map_eq_of_forall₂ hrecords fun _ _ hrecord =>
      hrecord.ofValue_eq Value.display]
  have hschemas : d.schemas.entries.map (fun s => (lower s.1, s.2.map lower)) =
      e.schemas.entries.map fun s => (lower s.1, s.2.map lower) := by
    refine map_eq_of_forall₂ h.schemas ?_
    rintro a b ⟨hname, hfields⟩
    rw [hname.lower_eq, map_eq_of_forall₂ hfields fun _ _ => IsRecasing.lower_eq]
  simp only [registry, Arrays.Registry.build, List.map_map, Function.comp_def] at harrays ⊢
  rw [harrays, hschemas]

/-- Data are filed without the case of names. -/
theorem Recased.renderer_eq (h : d.Recased e) (maxBlocks : Int) :
    d.renderer maxBlocks = e.renderer maxBlocks := by
  rw [renderer, renderer, h.layers.normalize_eq, h.registry_eq]

end Data

/-! ## Trees -/

/-- Trees that ask for the same names. -/
inductive Alike : List Node → List Node → Prop where
  | nil : Alike [] []
  | text {value : String} {ns ms : List Node} : Alike ns ms →
      Alike (.text value :: ns) (.text value :: ms)
  | scalar {name other source source' : String} {ns ms : List Node} : lower name = lower other →
      Alike ns ms → Alike (.scalar name source :: ns) (.scalar other source' :: ms)
  | conditional {condition other source source' : String} {negate : Bool}
      {yes yes' no no' ns ms : List Node} :
      Condition.ofString condition = Condition.ofString other → Alike yes yes' → Alike no no' →
      Alike ns ms → Alike (.conditional condition negate yes no source :: ns)
        (.conditional other negate yes' no' source' :: ms)
  | loop {array other source source' : String} {body body' ns ms : List Node} :
      lower array = lower other → Alike body body' → Alike ns ms →
      Alike (.loop array body source :: ns) (.loop other body' source' :: ms)

/-- Recased forms stand for trees that ask for the same names. -/
theorem Form.Recased.alike {fs gs : List Form} (h : Form.Recased fs gs) :
    Alike (Form.nodes fs) (Form.nodes gs) := by
  induction h with
  | nil => exact .nil
  | text _ ih => exact .text ih
  | scalar hname _ ih => exact .scalar hname.lower_eq ih
  | @conditional kind _ _ _ _ _ _ hkind hcondition _ _ ihBody ih =>
    cases kind with
    | eachBlock => exact (hkind rfl).elim
    | _ => exact .conditional hcondition.ofString_eq ihBody .nil ih
  | ifElse hcondition _ _ _ ihYes ihNo ih =>
    exact .conditional hcondition.ofString_eq ihYes ihNo ih
  | loop harray _ _ ihBody ih => exact .loop harray.lower_eq ihBody ih

namespace Renderer

mutual

/-- Every scalar that is met in rendering a node has a value. -/
def resolves (r : Renderer) (scope : Scope) : Node → Bool
  | .text _ => true
  | .scalar name _ => (r.lookup scope name).isSome
  | .conditional condition negate whenTrue whenFalse _ =>
    if conditionHolds r.vars condition ≠ negate then r.resolvesAll scope whenTrue
    else r.resolvesAll scope whenFalse
  | .loop array body _ => (r.registry.scopes array).all fun s => r.resolvesAll (some s) body

def resolvesAll (r : Renderer) (scope : Scope) : List Node → Bool
  | [] => true
  | n :: ns => r.resolves scope n && r.resolvesAll scope ns

end

variable {r : Renderer} {scope : Scope}

theorem resolvesAll_branch {condition source : String} {negate : Bool}
    {whenTrue whenFalse : List Node}
    (h : r.resolves scope (.conditional condition negate whenTrue whenFalse source)) :
    r.resolvesAll scope (r.branch condition negate whenTrue whenFalse) := by
  rw [resolves] at h
  unfold branch
  split at h <;> simp_all

theorem resolvesAll_round {array source : String} {body : List Node} {i : Nat}
    (h : r.resolves scope (.loop array body source))
    (hi : i ∈ List.range (r.registry.get array).length) :
    r.resolvesAll (r.registry.bind? array i) body := by
  have hmem : r.registry.bind? array i ∈ (r.registry.scopes array).map some := by
    rw [r.registry.map_some_scopes]
    exact List.mem_map_of_mem hi
  obtain ⟨s, hs, heq⟩ := List.mem_map.1 hmem
  rw [resolves, List.all_eq_true] at h
  rw [← heq]
  exact h s hs

/-- Trees that ask for the same names give the same, where no name is left as it is written and no
limit is reached. -/
theorem follows_of_alike {ns ms : List Node} (h : Alike ns ms)
    (hresolved : r.resolvesAll scope ns) :
    Meaning.Follows r.maxBlocks r.maxBlocks (r.meanings scope ns) (r.meanings scope ms) := by
  induction h generalizing scope with
  | nil => exact .const ""
  | text _ ih =>
    rw [resolvesAll, Bool.and_eq_true] at hresolved
    exact (Meaning.Follows.const _).andThen (ih hresolved.2)
  | @scalar name other source source' _ _ hname _ ih =>
    rw [resolvesAll, Bool.and_eq_true, resolves] at hresolved
    obtain ⟨value, hvalue⟩ := Option.isSome_iff_exists.1 hresolved.1
    have hother : r.lookup scope other = some value := by
      rw [← hvalue, lookup, lookup, hname]
    rw [meanings, meanings, meaning_scalar, meaning_scalar, hvalue, hother]
    exact (Meaning.Follows.const value).andThen (ih hresolved.2)
  | @conditional condition other _ _ negate yes yes' no no' _ _ hcondition _ _ _ ihYes ihNo ih =>
    rw [resolvesAll, Bool.and_eq_true] at hresolved
    have hbranch := resolvesAll_branch hresolved.1
    have hholds : conditionHolds r.vars condition = conditionHolds r.vars other :=
      congrArg (fun c => c.holds r.vars) hcondition
    refine (follows_conditional r r ?_).andThen (ih hresolved.2)
    unfold branch at hbranch ⊢
    rw [← hholds]
    split at hbranch
    · next hyes => simpa only [if_pos hyes] using ihYes hbranch
    · next hno => simpa only [if_neg hno] using ihNo hbranch
  | @loop array other _ _ _ _ _ _ harray _ _ ihBody ih =>
    rw [resolvesAll, Bool.and_eq_true] at hresolved
    refine (follows_loop r r ?_).andThen (ih hresolved.2)
    rw [← r.registry.get_eq_of_lower_eq harray]
    refine .inTurn fun i hi => ?_
    rw [← r.registry.bind?_eq_of_lower_eq harray]
    exact ihBody (resolvesAll_round hresolved.1 hi)

end Renderer

/-- Names in another case, in a well-formed template and in the data for it, give the same
rendering, where no scalar is left unresolved and no limit is reached. -/
theorem Data.render_eq_of_recased {fs gs : List Form} {d e : Data} {maxBlocks : Int}
    (hfs : Form.allWellFormed fs) (hforms : Form.Recased fs gs) (hdata : d.Recased e)
    (hresolved : (d.renderer maxBlocks).resolvesAll none (Tree.ofDocument (Form.prints fs)).nodes)
    (hconditionals : conditionalLimitWarning maxBlocks ∉
      ((d.renderer maxBlocks).render (Form.prints fs)).warnings)
    (hloops : loopLimitWarning maxBlocks ∉
      ((d.renderer maxBlocks).render (Form.prints fs)).warnings) :
    (e.renderer maxBlocks).render (Form.prints gs) =
      (d.renderer maxBlocks).render (Form.prints fs) := by
  rw [← hdata.renderer_eq maxBlocks, Renderer.render_prints _ (hforms.allWellFormed hfs)]
  rw [Renderer.render_prints _ hfs] at hconditionals hloops ⊢
  rw [Tree.nodes_prints hfs] at hresolved
  have hroom : Tally.LeavesRoom maxBlocks maxBlocks { warnings := [] } { warnings := [] } :=
    .of_zero []
  have hfollows := Renderer.follows_of_alike hforms.alike hresolved
  have hself := Renderer.follows_meanings (d.renderer maxBlocks) maxBlocks (Form.nodes fs) none
  have htext := hfollows.text_eq hroom ⟨hconditionals, hloops⟩
  have hwarnings := hfollows.warnings_eq hroom ⟨hconditionals, hloops⟩
  have hnone := hself.warnings_eq hroom ⟨hconditionals, hloops⟩
  rw [htext, hwarnings, ← hnone]
  rfl

/-- The title of a machine type, and a host that is a map and one that is a text. -/
def titledHosts : Data where
  layers := {
    default := Table.ofList [("OS", "linux"), ("Machine_Type", "Work")]
    machineTypes := Table.ofList [("work", Table.ofList [("title", "T")])] }
  arrays := Table.ofList [("hosts", [.map [(.string "port", .int 22), (.string "Name", .string "a")],
    .string "b|b.org"])]
  schemas := Table.ofList [("HOSTS", ["name", "Port"])]

/-- The same with every name in another case. -/
def retitledHosts : Data where
  layers := {
    default := Table.ofList [("os", "linux"), ("MACHINE_TYPE", "Work")]
    machineTypes := Table.ofList [("WORK", Table.ofList [("Title", "T")])] }
  arrays := Table.ofList [("Hosts", [.map [(.string "PORT", .int 22), (.string "name", .string "a")],
    .string "b|b.org"])]
  schemas := Table.ofList [("hosts", ["NAME", "port"])]

theorem Data.recased_titledHosts : titledHosts.Recased retitledHosts where
  layers := by
    constructor <;> decide +kernel
  arrays := by
    refine .cons ⟨by decide, .cons (.map ?_) (.cons (.refl _) .nil)⟩ .nil
    exact .cons ⟨.string (by decide), rfl⟩ (.cons ⟨.string (by decide), rfl⟩ .nil)
  schemas := by decide +kernel

theorem Data.render_eq_of_recased_titledHosts :
    let fs : List Form := [
      .ifElse "OS == 'linux'" [.scalar "title" true] [.scalar "Missing" false],
      .block .unlessBlock "Missing" [.text ": "],
      .block .eachBlock "Hosts" [.scalar "Name" false, .text "-", .scalar "PORT" false, .text " "]]
    let gs : List Form := [
      .ifElse "os == 'linux'" [.scalar "TITLE" true] [.scalar "missing" false],
      .block .unlessBlock "MISSING" [.text ": "],
      .block .eachBlock "hostS" [.scalar "name" false, .text "-", .scalar "port" false, .text " "]]
    Form.allWellFormed fs ∧ Form.Recased fs gs ∧ titledHosts.Recased retitledHosts ∧
      (retitledHosts.renderer 100).render (Form.prints gs) =
        (titledHosts.renderer 100).render (Form.prints fs) ∧
      ((titledHosts.renderer 100).render (Form.prints fs)).text = "T: a-22 b-b.org " := by
  intro fs gs
  have hfs : Form.allWellFormed fs := by decide
  have hforms : Form.Recased fs gs :=
    .ifElse (by decide +kernel) (.scalar (by decide) .nil) (.scalar (by decide) .nil)
      (.conditional (by decide) (by decide +kernel) (.text .nil)
        (.loop (by decide)
          (.scalar (by decide) (.text (.scalar (by decide) (.text .nil)))) .nil))
  refine ⟨hfs, hforms, recased_titledHosts, ?_, by decide +kernel⟩
  exact render_eq_of_recased hfs hforms recased_titledHosts (by decide +kernel) (by decide +kernel)
    (by decide +kernel)

end Template

end MachineConfig
