import MachineConfig.Table

/-!
What the operations on tables do to look-ups. Of several entries set under one key the last counts
(`get?_insertAll`), a table laid over another hides its keys (`get?_overlay`), and the entries
of a table, listed again, give it back (`ofList_entries`).
-/

namespace MachineConfig

section entries

variable {κ α : Type} [DecidableEq κ] {es : List (κ × α)} {key : κ} {value : α}

theorem lookup_eq_none_iff_not_mem : es.lookup key = none ↔ key ∉ es.map (·.1) := by
  rw [List.lookup_eq_none_iff, List.mem_map]
  constructor
  · rintro h ⟨e, he, rfl⟩
    simpa using h e he
  · intro h e he
    simpa using fun heq => h ⟨e, he, heq.symm⟩

theorem lookup_eq_some_iff_mem (h : (es.map (·.1)).Nodup) :
    es.lookup key = some value ↔ (key, value) ∈ es := by
  induction es with
  | nil => simp
  | cons e es ih =>
    rw [List.map_cons, List.nodup_cons] at h
    rw [List.lookup_cons, List.mem_cons]
    by_cases hk : key = e.1
    · subst hk
      have hnew : (e.1, value) ∉ es := fun hm => h.1 (List.mem_map.2 ⟨_, hm, rfl⟩)
      simp [hnew, Prod.ext_iff, eq_comm]
    · rw [beq_false_of_ne hk, ih h.2]
      simp [hk, Prod.ext_iff]

/-- The only entry under a key is found. -/
theorem lookup_eq_some_of_unique (hmem : (key, value) ∈ es)
    (hunique : ∀ e ∈ es, e.1 = key → e.2 = value) : es.lookup key = some value := by
  cases h : es.lookup key with
  | none => exact (lookup_eq_none_iff_not_mem.1 h (List.mem_map_of_mem hmem)).elim
  | some other =>
    obtain ⟨before, after, rfl, -⟩ := List.lookup_eq_some_iff.1 h
    rw [← hunique (key, other) (by simp) rfl]

theorem lookup_reverse (h : (es.map (·.1)).Nodup) (key : κ) :
    es.reverse.lookup key = es.lookup key := by
  refine Option.ext fun value => ?_
  have hreverse : (es.reverse.map (·.1)).Nodup := by
    rw [List.map_reverse]
    exact (List.reverse_perm _).nodup_iff.2 h
  rw [lookup_eq_some_iff_mem h, lookup_eq_some_iff_mem hreverse, List.mem_reverse]

theorem setEntry_of_not_mem (h : key ∉ es.map (·.1)) :
    setEntry key value es = es ++ [(key, value)] := by
  induction es with
  | nil => rfl
  | cons e es ih =>
    rw [List.map_cons, List.mem_cons, not_or] at h
    rw [setEntry, if_neg (Ne.symm h.1), ih h.2, List.cons_append]

theorem map_fst_setEntry :
    (setEntry key value es).map (·.1) =
      if key ∈ es.map (·.1) then es.map (·.1) else es.map (·.1) ++ [key] := by
  induction es with
  | nil => simp [setEntry]
  | cons e es ih =>
    by_cases he : e.1 = key
    · simp [setEntry, he]
    · have hhead : key ∈ e.1 :: es.map (·.1) ↔ key ∈ es.map (·.1) := by
        rw [List.mem_cons, or_iff_right (Ne.symm he)]
      rw [setEntry, if_neg he, List.map_cons, ih, List.map_cons]
      simp only [hhead]
      split <;> rfl

/-- Renamed entries are looked up by the new name. -/
theorem lookup_map_fst {ι : Type} (f : ι → κ) (es : List (ι × α)) (key : κ) :
    (es.map fun e => (f e.1, e.2)).lookup key = (es.find? fun e => f e.1 = key).map (·.2) := by
  induction es with
  | nil => rfl
  | cons e es ih =>
    rw [List.map_cons, List.lookup_cons, List.find?_cons, ih]
    by_cases hkey : key = f e.1
    · simp [hkey]
    · simp [beq_false_of_ne hkey, Ne.symm hkey]

theorem setEntry_setEntry {newer : α} :
    setEntry key newer (setEntry key value es) = setEntry key newer es := by
  induction es with
  | nil => simp [setEntry]
  | cons e es ih =>
    by_cases h : e.1 = key
    · simp [setEntry, h]
    · simp [setEntry, h, ih]

theorem filter_setEntry {p : κ × α → Bool} (h : ∀ a, p (key, a) = true) :
    (setEntry key value es).filter p = setEntry key value (es.filter p) := by
  induction es with
  | nil => simp [setEntry, h]
  | cons e es ih =>
    by_cases he : e.1 = key
    · have hp : p e = true := by rw [← h e.2, ← he]
      simp [setEntry, he, h, hp]
    · by_cases hp : p e = true
      · simp [setEntry, he, hp, ih]
      · simp [setEntry, he, hp, ih]

/-- Setting a key is not seen by what reads the same from the new entry as from the old one. -/
theorem filterMap_setEntry {f : κ × α → Option β}
    (h : f (key, value) = (es.lookup key).bind fun old => f (key, old)) :
    (setEntry key value es).filterMap f = es.filterMap f := by
  induction es with
  | nil => simpa [setEntry] using h
  | cons e es ih =>
    by_cases he : e.1 = key
    · obtain rfl := he
      rw [List.lookup_cons_self, Option.bind_some] at h
      rw [setEntry, if_pos rfl, List.filterMap_cons, List.filterMap_cons, h]
    · rw [List.lookup_cons, beq_false_of_ne (Ne.symm he)] at h
      rw [setEntry, if_neg he, List.filterMap_cons, List.filterMap_cons, ih h]

theorem mem_of_mem_setEntry {e : κ × α} (h : e ∈ setEntry key value es) :
    e = (key, value) ∨ e ∈ es := by
  induction es with
  | nil => exact .inl (List.mem_singleton.1 h)
  | cons d es ih =>
    rw [setEntry] at h
    split at h
    · exact (List.mem_cons.1 h).imp_right (List.mem_cons_of_mem d)
    · rcases List.mem_cons.1 h with rfl | h
      · exact .inr List.mem_cons_self
      · exact (ih h).imp_right (List.mem_cons_of_mem d)

end entries

namespace Table

variable {κ α β : Type}

theorem ext_entries {s t : Table κ α} (h : s.entries = t.entries) : s = t := by
  cases s
  cases t
  cases h
  rfl

@[simp] theorem keys_map (f : α → β) (t : Table κ α) : (t.map f).keys = t.keys := by
  simp [keys, map, Function.comp_def]

theorem map_of_forall {f : α → α} {t : Table κ α} (h : ∀ e ∈ t.entries, f e.2 = e.2) :
    t.map f = t := by
  have hsame : ∀ e ∈ t.entries, (e.1, f e.2) = e := fun e he => by rw [h e he]
  exact ext_entries ((List.map_congr_left hsame).trans (List.map_id' _))

variable [DecidableEq κ]

theorem mem_of_get?_eq_some {t : Table κ α} {key : κ} {value : α} (h : t.get? key = some value) :
    (key, value) ∈ t.entries :=
  (lookup_eq_some_iff_mem t.nodup).1 h

theorem get?_eq_some_iff_mem {t : Table κ α} {key : κ} {value : α} :
    t.get? key = some value ↔ (key, value) ∈ t.entries :=
  lookup_eq_some_iff_mem t.nodup

theorem mem_keys_iff_get?_ne_none {t : Table κ α} {key : κ} :
    key ∈ t.keys ↔ t.get? key ≠ none := by
  rw [Ne, get?, lookup_eq_none_iff_not_mem, Classical.not_not, keys]

theorem get?_map (f : α → β) (t : Table κ α) (key : κ) :
    (t.map f).get? key = (t.get? key).map f := by
  refine Option.ext fun value => ?_
  rw [get?_eq_some_iff_mem, Option.map_eq_some_iff, map, List.mem_map]
  constructor
  · rintro ⟨e, he, heq⟩
    obtain ⟨rfl, rfl⟩ := Prod.mk.inj heq
    exact ⟨e.2, get?_eq_some_iff_mem.2 he, rfl⟩
  · rintro ⟨a, ha, rfl⟩
    exact ⟨(key, a), get?_eq_some_iff_mem.1 ha, rfl⟩

@[simp] theorem insert_insert (t : Table κ α) (key : κ) (value newer : α) :
    (t.insert key value).insert key newer = t.insert key newer :=
  ext_entries setEntry_setEntry

section erase

variable (t : Table κ α) (key : κ)

theorem get?_erase (other : κ) :
    (t.erase key).get? other = if other = key then none else t.get? other := by
  refine Option.ext fun value => ?_
  rw [get?_eq_some_iff_mem, erase, filter, List.mem_filter, ← get?_eq_some_iff_mem]
  by_cases h : other = key <;> simp [h]

/-- Setting a new key and removing it again changes nothing. -/
theorem erase_insert_of_get?_eq_none (h : t.get? key = none) (value : α) :
    (t.insert key value).erase key = t := by
  rw [get?, lookup_eq_none_iff_not_mem] at h
  have hentries : (t.insert key value).entries = t.entries ++ [(key, value)] :=
    setEntry_of_not_mem h
  have hkept : t.entries.filter (fun e => decide (e.1 ≠ key)) = t.entries :=
    List.filter_eq_self.2 fun e he => decide_eq_true fun heq => h (heq ▸ List.mem_map_of_mem he)
  refine ext_entries (?_ : List.filter _ (t.insert key value).entries = _)
  rw [hentries, List.filter_append, hkept]
  simp

theorem erase_insert_of_ne {other : κ} (h : other ≠ key) (value : α) :
    (t.insert other value).erase key = (t.erase key).insert other value :=
  ext_entries (filter_setEntry fun _ => decide_eq_true h)

end erase

theorem mem_of_mem_insert {t : Table κ α} {key : κ} {value : α} {e : κ × α}
    (h : e ∈ (t.insert key value).entries) : e = (key, value) ∨ e ∈ t.entries :=
  mem_of_mem_setEntry h

section insertAll

variable (t : Table κ α) (es : List (κ × α))

@[simp] theorem insertAll_nil : t.insertAll [] = t := rfl

@[simp] theorem insertAll_cons (e : κ × α) :
    t.insertAll (e :: es) = (t.insert e.1 e.2).insertAll es := rfl

/-- The last entry under a key counts. -/
theorem get?_insertAll (key : κ) :
    (t.insertAll es).get? key = (es.reverse.lookup key).or (t.get? key) := by
  induction es generalizing t with
  | nil => rfl
  | cons e es ih =>
    rw [insertAll_cons, ih, get?_insert, List.reverse_cons, List.lookup_append, Option.or_assoc,
      List.lookup_cons, List.lookup_nil]
    by_cases hk : key = e.1
    · rw [if_pos hk, beq_iff_eq.2 hk]
      rfl
    · rw [if_neg hk, beq_false_of_ne hk]
      rfl

theorem mem_of_mem_insertAll {e : κ × α} (h : e ∈ (t.insertAll es).entries) :
    e ∈ t.entries ∨ e ∈ es := by
  induction es generalizing t with
  | nil => exact .inl h
  | cons d es ih =>
    rcases ih _ h with h | h
    · rcases mem_of_mem_insert h with rfl | h
      · exact .inr List.mem_cons_self
      · exact .inl h
    · exact .inr (List.mem_cons_of_mem d h)

end insertAll

theorem get?_overlay (s t : Table κ α) (key : κ) :
    (s.overlay t).get? key = (t.get? key).or (s.get? key) := by
  rw [overlay, get?_insertAll, lookup_reverse t.nodup]
  rfl

/-- Where keys stand does not depend on what is under them. -/
theorem keys_insert (t : Table κ α) (key : κ) (value : α) :
    (t.insert key value).keys = if key ∈ t.keys then t.keys else t.keys ++ [key] :=
  map_fst_setEntry

theorem keys_insertAll_congr {s : Table κ α} {t : Table κ β} {es : List (κ × α)}
    {fs : List (κ × β)} (hkeys : s.keys = t.keys) (h : es.map (·.1) = fs.map (·.1)) :
    (s.insertAll es).keys = (t.insertAll fs).keys := by
  induction es generalizing s t fs with
  | nil =>
    obtain rfl := List.map_eq_nil_iff.1 h.symm
    exact hkeys
  | cons e es ih =>
    cases fs with
    | nil => cases h
    | cons f fs =>
      obtain ⟨hfirst, hrest⟩ : e.1 = f.1 ∧ es.map (·.1) = fs.map (·.1) := List.cons.inj h
      rw [insertAll_cons, insertAll_cons]
      refine ih ?_ hrest
      rw [keys_insert, keys_insert, hkeys, hfirst]

theorem keys_overlay_congr {s u : Table κ α} {t v : Table κ β} (h : s.keys = t.keys)
    (hover : u.keys = v.keys) : (s.overlay u).keys = (t.overlay v).keys :=
  keys_insertAll_congr h hover

theorem entries_insertAll_of_nodup {t : Table κ α} {es : List (κ × α)}
    (h : ((t.entries ++ es).map (·.1)).Nodup) : (t.insertAll es).entries = t.entries ++ es := by
  induction es generalizing t with
  | nil => simp
  | cons e es ih =>
    have hnew : e.1 ∉ t.entries.map (·.1) := by
      rw [List.map_append, List.map_cons, List.nodup_append] at h
      exact fun hm => h.2.2 _ hm _ List.mem_cons_self rfl
    have hentries : (t.insert e.1 e.2).entries = t.entries ++ [e] := setEntry_of_not_mem hnew
    rw [insertAll_cons, ih, hentries, List.append_assoc, List.singleton_append]
    rwa [hentries, List.append_assoc, List.singleton_append]

theorem ofList_entries (t : Table κ α) : ofList t.entries = t :=
  ext_entries (entries_insertAll_of_nodup t.nodup)

theorem mem_of_mem_ofList {es : List (κ × α)} {e : κ × α} (h : e ∈ (ofList es).entries) : e ∈ es :=
  (mem_of_mem_insertAll _ _ h).resolve_left List.not_mem_nil

theorem get?_ofList (es : List (κ × α)) (key : κ) :
    (ofList es).get? key = es.reverse.lookup key := by
  rw [ofList, get?_insertAll, get?_empty, Option.or_none]

theorem contains_ofList {es : List (κ × α)} {key : κ} :
    (ofList es).contains key ↔ key ∈ es.map (·.1) := by
  have hmem : key ∈ es.reverse.map (·.1) ↔ key ∈ es.map (·.1) := by simp
  rw [contains, get?_ofList, Option.isSome_iff_ne_none, Ne, lookup_eq_none_iff_not_mem,
    Classical.not_not, hmem]

/-- Of entries that are renamed alike the last counts. -/
theorem get?_mapKeys (f : κ → κ) (t : Table κ α) (key : κ) :
    (t.mapKeys f).get? key = (t.entries.reverse.find? fun e => f e.1 = key).map (·.2) := by
  rw [mapKeys, get?_ofList, ← List.map_reverse, lookup_map_fst]

theorem mapKeys_of_forall {f : κ → κ} {t : Table κ α} (h : ∀ key ∈ t.keys, f key = key) :
    t.mapKeys f = t := by
  have hsame : ∀ e ∈ t.entries, (f e.1, e.2) = e := fun e he => by
    rw [h e.1 (List.mem_map_of_mem he)]
  rw [mapKeys, List.map_congr_left hsame, List.map_id', ofList_entries]

end Table

end MachineConfig
