import MachineConfig.Text.CodePoint

/-!
Tables: values under distinct keys, in the order in which the keys first came. Setting a key
again keeps its place. `get?` is the view of a table that its operations are described by.
-/

namespace MachineConfig

section entries

variable {κ α : Type} [DecidableEq κ]

/-- Sets `key` in a list of entries: in place if the key is there, at the end otherwise. -/
def setEntry (key : κ) (value : α) : List (κ × α) → List (κ × α)
  | [] => [(key, value)]
  | e :: es => if e.1 = key then (key, value) :: es else e :: setEntry key value es

theorem mem_keys_setEntry {key other : κ} {value : α} {es : List (κ × α)} :
    other ∈ (setEntry key value es).map (·.1) ↔ other = key ∨ other ∈ es.map (·.1) := by
  induction es with
  | nil => simp [setEntry]
  | cons e es ih =>
    by_cases h : e.1 = key
    · simp [setEntry, h]
    · simp only [setEntry, h, if_false, List.map_cons, List.mem_cons, ih]
      grind

theorem nodup_keys_setEntry {key : κ} {value : α} {es : List (κ × α)}
    (h : (es.map (·.1)).Nodup) : ((setEntry key value es).map (·.1)).Nodup := by
  induction es with
  | nil => simp [setEntry]
  | cons e es ih =>
    rw [List.map_cons, List.nodup_cons] at h
    by_cases he : e.1 = key
    · rw [setEntry, if_pos he, List.map_cons, List.nodup_cons]
      exact ⟨he ▸ h.1, h.2⟩
    · rw [setEntry, if_neg he, List.map_cons, List.nodup_cons, mem_keys_setEntry]
      exact ⟨fun hm => hm.elim he h.1, ih h.2⟩

theorem lookup_setEntry {key other : κ} {value : α} {es : List (κ × α)} :
    (setEntry key value es).lookup other = if other = key then some value else es.lookup other := by
  induction es with
  | nil => by_cases h : other = key <;> grind [setEntry]
  | cons e es ih =>
    by_cases he : e.1 = key <;> by_cases h : other = key <;> grind [setEntry]

end entries

/-- An ordered map. -/
structure Table (κ α : Type) where
  entries : List (κ × α)
  nodup : (entries.map (·.1)).Nodup

/-- Variables: texts under names. -/
abbrev Vars := Table String String

namespace Table

variable {κ α β : Type}

def empty : Table κ α := ⟨[], by simp⟩

instance : EmptyCollection (Table κ α) := ⟨empty⟩

instance : Inhabited (Table κ α) := ⟨empty⟩

instance [DecidableEq κ] [DecidableEq α] : DecidableEq (Table κ α) := fun s t =>
  decidable_of_iff (s.entries = t.entries) <| by
    cases s; cases t; simp

def keys (t : Table κ α) : List κ := t.entries.map (·.1)

def values (t : Table κ α) : List α := t.entries.map (·.2)

def size (t : Table κ α) : Nat := t.entries.length

def isEmpty (t : Table κ α) : Bool := t.entries.isEmpty

def map (f : α → β) (t : Table κ α) : Table κ β :=
  ⟨t.entries.map fun e => (e.1, f e.2), by simpa [Function.comp_def] using t.nodup⟩

/-- The entries that pass a test. -/
def filter (p : κ → α → Bool) (t : Table κ α) : Table κ α :=
  ⟨t.entries.filter fun e => p e.1 e.2, t.nodup.sublist (List.filter_sublist.map _)⟩

/-- The entries in code-point order of their names. -/
def sorted (t : Table String α) : List (String × α) :=
  t.entries.mergeSort fun a b => !Text.isBefore b.1 a.1

variable [DecidableEq κ]

/-- The value under a key. -/
def get? (t : Table κ α) (key : κ) : Option α := t.entries.lookup key

/-- The value under a key, or `fallback`. -/
def getD (t : Table κ α) (key : κ) (fallback : α) : α := (t.get? key).getD fallback

def contains (t : Table κ α) (key : κ) : Bool := (t.get? key).isSome

def insert (t : Table κ α) (key : κ) (value : α) : Table κ α :=
  ⟨setEntry key value t.entries, nodup_keys_setEntry t.nodup⟩

/-- Sets every entry of a list in turn, so that the last one under a key counts. -/
def insertAll (t : Table κ α) (entries : List (κ × α)) : Table κ α :=
  entries.foldl (fun t e => t.insert e.1 e.2) t

def ofList (entries : List (κ × α)) : Table κ α := empty.insertAll entries

/-- `s` with the entries of `t` laid over it. -/
def overlay (s t : Table κ α) : Table κ α := s.insertAll t.entries

/-- Removes a key. -/
def erase (t : Table κ α) (key : κ) : Table κ α := t.filter fun k _ => k ≠ key

/-- Renames every entry; of two that meet under one key the later counts. -/
def mapKeys (f : κ → κ) (t : Table κ α) : Table κ α :=
  ofList (t.entries.map fun e => (f e.1, e.2))

@[simp] theorem get?_empty (key : κ) : (empty : Table κ α).get? key = none := rfl

@[simp] theorem get?_insert (t : Table κ α) (key other : κ) (value : α) :
    (t.insert key value).get? other = if other = key then some value else t.get? other :=
  lookup_setEntry

theorem mem_keys_insert {t : Table κ α} {key other : κ} {value : α} :
    other ∈ (t.insert key value).keys ↔ other = key ∨ other ∈ t.keys := mem_keys_setEntry

end Table

end MachineConfig
