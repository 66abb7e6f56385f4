import MachineConfig.Proofs.TableLemmas
import Mathlib.Data.List.Basic

/-!
Tables laid over one another. A table is told by the order of its keys and by its look-ups
(`ext_get?`). Where a key is in both tables, what is under it may be combined (`overlayWith`); if
combining is associative, or gives back what is combined with itself, so does laying over
(`overlayWith_assoc`, `overlayWith_self`).
-/

namespace MachineConfig.Table

variable {κ α : Type} [DecidableEq κ]

theorem entries_eq_filterMap_keys (t : Table κ α) :
    t.entries = t.keys.filterMap fun key => (t.get? key).map (key, ·) := by
  have hentry : ∀ e ∈ t.entries, (t.get? e.1).map (e.1, ·) = some e := fun e he => by
    rw [get?_eq_some_iff_mem.2 he, Option.map_some]
  rw [keys, List.filterMap_map]
  exact ((List.filterMap_congr hentry).trans List.filterMap_some).symm

/-- Tables with the same keys in the same order, and the same values under them. -/
theorem ext_get? {s t : Table κ α} (hkeys : s.keys = t.keys)
    (h : ∀ key, s.get? key = t.get? key) : s = t := by
  refine ext_entries ?_
  rw [s.entries_eq_filterMap_keys, t.entries_eq_filterMap_keys, hkeys]
  simp only [h]

/-- `s` with the entries of `t` laid over it, each combined with what is under its key. -/
def overlayWith (f : Option α → α → α) (s t : Table κ α) : Table κ α :=
  t.entries.foldl (fun s e => s.insert e.1 (f (s.get? e.1) e.2)) s

variable (f : Option α → α → α) (s t u : Table κ α)

theorem overlay_eq_overlayWith : s.overlay t = s.overlayWith (fun _ value => value) t := rfl

theorem get?_foldl_insert {es : List (κ × α)} (h : (es.map (·.1)).Nodup) (key : κ) :
    (es.foldl (fun s e => s.insert e.1 (f (s.get? e.1) e.2)) s).get? key =
      (es.lookup key).elim (s.get? key) fun value => some (f (s.get? key) value) := by
  induction es generalizing s with
  | nil => rfl
  | cons e es ih =>
    rw [List.map_cons, List.nodup_cons] at h
    rw [List.foldl_cons, ih _ h.2, get?_insert, List.lookup_cons]
    by_cases hkey : key = e.1
    · subst hkey
      rw [if_pos rfl, lookup_eq_none_iff_not_mem.2 h.1, beq_self_eq_true]
      rfl
    · rw [if_neg hkey, beq_false_of_ne hkey]

theorem get?_overlayWith (key : κ) : (s.overlayWith f t).get? key =
    (t.get? key).elim (s.get? key) fun value => some (f (s.get? key) value) :=
  get?_foldl_insert f s t.nodup key

theorem keys_foldl_insert {es : List (κ × α)} (h : (es.map (·.1)).Nodup) :
    (es.foldl (fun s e => s.insert e.1 (f (s.get? e.1) e.2)) s).keys =
      s.keys ++ (es.map (·.1)).filter (· ∉ s.keys) := by
  induction es generalizing s with
  | nil => simp
  | cons e es ih =>
    rw [List.map_cons, List.nodup_cons] at h
    rw [List.foldl_cons, ih _ h.2, keys_insert, List.map_cons]
    by_cases hkey : e.1 ∈ s.keys
    · rw [if_pos hkey, List.filter_cons_of_neg (by simpa using hkey)]
    · have hrest : (es.map (·.1)).filter (· ∉ s.keys ++ [e.1]) =
          (es.map (·.1)).filter (· ∉ s.keys) := by
        refine List.filter_congr fun key hmem => ?_
        have hne : key ≠ e.1 := fun heq => h.1 (heq ▸ hmem)
        simp [hne]
      rw [if_neg hkey, List.filter_cons_of_pos (by simpa using hkey), hrest, List.append_assoc,
        List.singleton_append]

theorem keys_overlayWith :
    (s.overlayWith f t).keys = s.keys ++ t.keys.filter (· ∉ s.keys) :=
  keys_foldl_insert f s t.nodup

variable {f}

theorem overlayWith_assoc (hnone : ∀ value, f none value = value)
    (hsome : ∀ old value newer, f (some (f old value)) newer = f old (f (some value) newer)) :
    (s.overlayWith f t).overlayWith f u = s.overlayWith f (t.overlayWith f u) := by
  refine ext_get? ?_ fun key => ?_
  · simp only [keys_overlayWith, List.filter_append, List.filter_filter, List.append_assoc,
      List.append_cancel_left_eq]
    refine List.filter_congr fun key _ => ?_
    by_cases hs : key ∈ s.keys <;> simp [hs]
  · simp only [get?_overlayWith]
    cases u.get? key with
    | none => rfl
    | some newer =>
      cases t.get? key with
      | none => simp [hnone]
      | some value => simp [hsome]

theorem overlayWith_self (h : ∀ value, f (some value) value = value) :
    s.overlayWith f s = s := by
  refine ext_get? ?_ fun key => ?_
  · have hnew : s.keys.filter (· ∉ s.keys) = [] := by simp
    rw [keys_overlayWith, hnew, List.append_nil]
  · rw [get?_overlayWith]
    cases s.get? key with
    | none => rfl
    | some value => exact congrArg some (h value)

theorem overlay_assoc : (s.overlay t).overlay u = s.overlay (t.overlay u) := by
  simp only [overlay_eq_overlayWith]
  exact overlayWith_assoc s t u (fun _ => rfl) fun _ _ _ => rfl

@[simp] theorem overlay_self : s.overlay s = s := by
  rw [overlay_eq_overlayWith]
  exact overlayWith_self s fun _ => rfl

@[simp] theorem empty_overlay : empty.overlay t = t := ofList_entries t

end MachineConfig.Table
