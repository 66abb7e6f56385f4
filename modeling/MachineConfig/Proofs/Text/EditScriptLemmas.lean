import Mathlib.Data.List.Infix
import MachineConfig.Text.EditScript

/-!
Edit scripts lead from the old list to the new one (`flatMap_old_script`, `flatMap_new_script`), and
from a list to itself without a change (`script_self`). For the first the stretch that is found has
to be shared (`longestStretch_isShared`), for the second it has to be the whole list
(`longestStretch_self`).
-/

namespace MachineConfig.Text

variable {α : Type} {old seen rest : List α} {new before ys zs : List (α × Bool)} {x : α}
  {y : α × Bool} {i m n : Nat} {ns row : List Nat} {best t : Stretch}
  {common : α → Bool}

/-! ## The cells of a row -/

/-- The last `n` items of two lists are the same, and none of them is common. -/
def EndAlike (n : Nat) (old : List α) (new : List (α × Bool)) : Prop :=
  ∃ shared : List α, shared.length = n ∧ shared <:+ old ∧ shared.map (·, false) <:+ new

theorem endAlike_zero (old : List α) (new : List (α × Bool)) : EndAlike 0 old new :=
  ⟨[], rfl, List.nil_suffix, List.nil_suffix⟩

theorem EndAlike.le_length (h : EndAlike n old new) : n ≤ old.length ∧ n ≤ new.length := by
  obtain ⟨shared, rfl, hold, hnew⟩ := h
  exact ⟨hold.length_le, by simpa using hnew.length_le⟩

theorem endAlike_succ_concat_iff :
    EndAlike (n + 1) (old ++ [x]) (new ++ [y]) ↔ y = (x, false) ∧ EndAlike n old new := by
  constructor
  · rintro ⟨shared, hlength, hold, hnew⟩
    obtain rfl | ⟨front, rfl, hfront⟩ := List.suffix_concat_iff.1 hold
    · cases hlength
    rw [List.map_append] at hnew
    obtain hnil | ⟨front', heq, hfront'⟩ := List.suffix_concat_iff.1 hnew
    · simp at hnil
    obtain ⟨rfl, hy⟩ := List.append_inj' heq rfl
    exact ⟨(List.singleton_inj.1 hy).symm, front, by simpa using hlength, hfront, hfront'⟩
  · rintro ⟨rfl, shared, rfl, hold, hnew⟩
    refine ⟨shared ++ [x], List.length_append, List.suffix_concat_iff.2 (.inr ⟨_, rfl, hold⟩), ?_⟩
    rw [List.map_append]
    exact List.suffix_concat_iff.2 (.inr ⟨_, rfl, hnew⟩)

/-- At the ends of two lists `n` items are the same and not common, and not more. -/
def IsLongest (n : Nat) (old : List α) (new : List (α × Bool)) : Prop :=
  ∀ m, EndAlike m old new ↔ m ≤ n

theorem isLongest_nil_left (new : List (α × Bool)) : IsLongest 0 ([] : List α) new := fun _ =>
  ⟨fun h => h.le_length.1, fun h => Nat.le_zero.1 h ▸ endAlike_zero _ _⟩

theorem isLongest_nil_right (old : List α) : IsLongest 0 old [] := fun _ =>
  ⟨fun h => h.le_length.2, fun h => Nat.le_zero.1 h ▸ endAlike_zero _ _⟩

theorem IsLongest.concat [DecidableEq α] (h : IsLongest n old new) (x : α) (y : α × Bool) :
    IsLongest (if y.1 = x ∧ ¬y.2 then n + 1 else 0) (old ++ [x]) (new ++ [y]) := by
  have hy : y.1 = x ∧ ¬y.2 ↔ y = (x, false) := by
    rw [Prod.ext_iff, Bool.not_eq_true]
  rintro (_ | m)
  · simp [endAlike_zero]
  · rw [endAlike_succ_concat_iff, h, ← hy]
    split
    · next hmatch => simp [hmatch]
    · next hmatch =>
      exact ⟨fun h => absurd h.1 hmatch, fun h => absurd h (Nat.not_succ_le_zero m)⟩

/-- The numbers of a row are those for an old list and each longer start of a new list, from
`before` on. -/
inductive IsRow (old : List α) : List (α × Bool) → List (α × Bool) → List Nat → Prop where
  | nil (before : List (α × Bool)) : IsRow old before [] []
  | cons {before ys : List (α × Bool)} {y : α × Bool} {n : Nat} {ns : List Nat}
      (cell : IsLongest n old (before ++ [y])) (row : IsRow old (before ++ [y]) ys ns) :
      IsRow old before (y :: ys) (n :: ns)

theorem isRow_replicate (before ys : List (α × Bool)) :
    IsRow ([] : List α) before ys (List.replicate ys.length 0) := by
  induction ys generalizing before with
  | nil => exact .nil before
  | cons y ys ih => exact .cons (isLongest_nil_left _) (ih _)

theorem isRow_append_iff : IsRow old before (ys ++ zs) ns ↔
    ∃ ns₁ ns₂, ns = ns₁ ++ ns₂ ∧ IsRow old before ys ns₁ ∧ IsRow old (before ++ ys) zs ns₂ := by
  induction ys generalizing before ns with
  | nil =>
    rw [List.append_nil]
    constructor
    · exact fun h => ⟨[], ns, rfl, .nil before, h⟩
    · rintro ⟨_, _, rfl, ⟨⟩, h⟩
      exact h
  | cons y ys ih =>
    constructor
    · rintro (_ | ⟨cell, row⟩)
      obtain ⟨ns₁, ns₂, rfl, h₁, h₂⟩ := ih.1 row
      exact ⟨_ :: ns₁, ns₂, rfl, .cons cell h₁, by simpa using h₂⟩
    · rintro ⟨_, ns₂, rfl, ⟨⟩ | ⟨cell, row⟩, h₂⟩
      exact .cons cell (ih.2 ⟨_, ns₂, rfl, row, by simpa using h₂⟩)

theorem IsRow.length_eq (h : IsRow old before ys ns) : ns.length = ys.length := by
  induction h with
  | nil => rfl
  | cons _ _ ih => rw [List.length_cons, List.length_cons, ih]

theorem IsRow.exists_prefix (h : IsRow old before ys ns) (hn : n ∈ ns) :
    ∃ front, front <+: ys ∧ IsLongest n old (before ++ front) := by
  induction h with
  | nil => cases hn
  | @cons before ys y n' ns cell row ih =>
    rcases List.mem_cons.1 hn with rfl | hn
    · exact ⟨[y], ⟨ys, rfl⟩, cell⟩
    · obtain ⟨front, hfront, hlongest⟩ := ih hn
      exact ⟨y :: front, List.cons_prefix_cons.2 ⟨rfl, hfront⟩, by simpa using hlongest⟩

section

variable [DecidableEq α]

/-- A row comes from the one before, where each number is one place further on. -/
theorem IsRow.zipWith (cell : IsLongest n old before) (h : IsRow old before ys ns) (x : α) :
    IsRow (old ++ [x]) before ys
      (List.zipWith (fun y before => if y.1 = x ∧ ¬y.2 then before + 1 else 0) ys (n :: ns)) := by
  induction h generalizing n with
  | nil => exact .nil _
  | cons next _ ih => exact .cons (cell.concat x _) (ih next)

theorem IsRow.nextRow (h : IsRow old [] new row) (x : α) :
    IsRow (old ++ [x]) [] new (nextRow x new row) :=
  h.zipWith (isLongest_nil_right old) x

end

/-! ## The stretch that is found -/

/-- A stretch lies in both lists. -/
def Stretch.IsShared (t : Stretch) (old new : List α) : Prop :=
  ∃ front shared back front' back', old = front ++ (shared ++ back) ∧
    new = front' ++ (shared ++ back') ∧ front.length = t.oldStart ∧ front'.length = t.newStart ∧
      shared.length = t.length

theorem isShared_empty (xs ys : List α) : Stretch.IsShared {} xs ys :=
  ⟨[], [], xs, [], ys, rfl, rfl, rfl, rfl, rfl⟩

theorem IsLongest.isShared (h : IsLongest n seen before) (rest : List α) (ys : List (α × Bool)) :
    Stretch.IsShared ⟨seen.length - n, before.length - n, n⟩ (seen ++ rest)
      ((before ++ ys).map (·.1)) := by
  obtain ⟨shared, rfl, ⟨front, rfl⟩, ⟨front', rfl⟩⟩ := (h n).2 (Nat.le_refl n)
  have hmap : (shared.map (·, false)).map (·.1) = shared := by simp [Function.comp_def]
  exact ⟨front, shared, rest, front'.map (·.1), ys.map (·.1), by simp, by simp [hmap], by simp,
    by simp, rfl⟩

theorem Stretch.IsShared.take_drop_eq {xs ys : List α} (h : t.IsShared xs ys) :
    (xs.drop t.oldStart).take t.length = (ys.drop t.newStart).take t.length := by
  obtain ⟨front, shared, back, front', back', rfl, rfl, hstart, hstart', hlength⟩ := h
  rw [← hstart, ← hstart', ← hlength, List.drop_left, List.drop_left, List.take_left,
    List.take_left]

theorem Stretch.IsShared.le_length {xs ys : List α} (h : t.IsShared xs ys) :
    t.oldStart + t.length ≤ xs.length := by
  obtain ⟨front, shared, back, front', back', rfl, -, hstart, -, hlength⟩ := h
  rw [List.length_append, List.length_append]
  omega

theorem bestInRow_isShared (hrow : IsRow seen before ys ns) (hseen : seen.length = i + 1)
    (hbest : best.IsShared (seen ++ rest) ((before ++ ys).map (·.1))) :
    (bestInRow i best before.length ns).IsShared (seen ++ rest) ((before ++ ys).map (·.1)) := by
  induction hrow generalizing best with
  | nil => exact hbest
  | @cons before ys y n ns cell row ih =>
    rw [List.append_cons] at hbest ⊢
    have hlength : before.length + 1 = (before ++ [y]).length := by simp
    rw [bestInRow, ← hseen, hlength]
    refine ih ?_
    split
    · exact cell.isShared rest ys
    · exact hbest

section

variable [DecidableEq α]

theorem bestFrom_isShared (hrow : IsRow seen [] new row)
    (hbest : best.IsShared (seen ++ rest) (new.map (·.1))) :
    (bestFrom new seen.length row best rest).IsShared (seen ++ rest) (new.map (·.1)) := by
  induction rest generalizing seen row best with
  | nil => exact hbest
  | cons x rest ih =>
    rw [List.append_cons] at hbest ⊢
    have hlength : seen.length + 1 = (seen ++ [x]).length := by simp
    rw [bestFrom, hlength]
    exact ih (hrow.nextRow x) (bestInRow_isShared (hrow.nextRow x) (by simp) hbest)

theorem sharedLength_spec (xs ys : List α) : ∃ shared xs' ys', xs = shared ++ xs' ∧
    ys = shared ++ ys' ∧ shared.length = sharedLength xs ys := by
  fun_induction sharedLength xs ys with
  | case1 xs y ys ih =>
    obtain ⟨shared, xs', ys', rfl, rfl, hlength⟩ := ih
    exact ⟨y :: shared, xs', ys', rfl, rfl, by rw [List.length_cons, hlength, Nat.add_comm]⟩
  | case2 x xs y ys _ => exact ⟨[], x :: xs, y :: ys, rfl, rfl, rfl⟩
  | case3 xs ys _ => exact ⟨[], xs, ys, rfl, rfl, rfl⟩

theorem sharedLength_self (xs : List α) : sharedLength xs xs = xs.length := by
  induction xs with
  | nil => rfl
  | cons x xs ih => rw [sharedLength, if_pos rfl, ih, List.length_cons, Nat.add_comm]

/-- What two lists share before and after a stretch makes it longer. -/
theorem Stretch.IsShared.widen {xs ys : List α} (h : t.IsShared xs ys) :
    let left := sharedLength (xs.take t.oldStart).reverse (ys.take t.newStart).reverse
    let right := sharedLength (xs.drop (t.oldStart + t.length)) (ys.drop (t.newStart + t.length))
    Stretch.IsShared ⟨t.oldStart - left, t.newStart - left, left + t.length + right⟩ xs ys := by
  obtain ⟨front, shared, back, front', back', rfl, rfl, hstart, hstart', hlength⟩ := h
  have htake (before after : List α) : (before ++ after).take before.length = before :=
    List.take_left
  have hdrop (before between after : List α) :
      (before ++ (between ++ after)).drop (before.length + between.length) = after := by
    rw [← List.append_assoc, ← List.length_append, List.drop_left]
  obtain ⟨left, head, head', hhead, hhead', hleft⟩ := sharedLength_spec front.reverse front'.reverse
  obtain ⟨right, tail, tail', rfl, rfl, hright⟩ := sharedLength_spec back back'
  rw [← hstart, ← hstart', ← hlength, htake, htake, hdrop, hdrop, ← hleft, ← hright]
  rw [List.reverse_eq_iff, List.reverse_append] at hhead hhead'
  exact ⟨head.reverse, left.reverse ++ (shared ++ right), tail, head'.reverse, tail',
    by simp [hhead], by simp [hhead'], by simp [hhead], by simp [hhead'], by simp [Nat.add_assoc]⟩

theorem longestStretch_isShared (old : List α) (new : List (α × Bool)) :
    (longestStretch old new).IsShared old (new.map (·.1)) := by
  have hbest := bestFrom_isShared (isRow_replicate [] new) (isShared_empty ([] ++ old) _)
  exact hbest.widen

end

/-! ## The segments of both lists -/

theorem flatMap_tidy {β : Type} {f : Segment α → List β} (hempty : f (.change [] []) = [])
    (hsame : ∀ xs ys, f (.same (xs ++ ys)) = f (.same xs) ++ f (.same ys))
    (segments : List (Segment α)) : (tidy segments).flatMap f = segments.flatMap f := by
  fun_induction tidy segments with
  | case1 => rfl
  | case2 removed added rest hnone ih =>
    rw [Bool.and_eq_true, List.isEmpty_iff, List.isEmpty_iff] at hnone
    rw [hnone.1, hnone.2, List.flatMap_cons, hempty, List.nil_append, ih]
  | case3 removed added rest hsome ih => rw [List.flatMap_cons, List.flatMap_cons, ih]
  | case4 items rest more rest' htidy ih =>
    rw [List.flatMap_cons, hsame, List.append_assoc, List.flatMap_cons, ← ih, htidy,
      List.flatMap_cons]
  | case5 items rest htidy ih => rw [List.flatMap_cons, List.flatMap_cons, ih]

section

variable [DecidableEq α]

theorem segments_of_stretch {j : Nat} (h : longestStretch old new = ⟨i, j, n⟩)
    (hfits : 0 < n ∧ i + n ≤ old.length) : segments old new =
      segments (old.take i) (new.take j) ++
        .same ((old.drop i).take n) :: segments (old.drop (i + n)) (new.drop (j + n)) := by
  rw [segments, h]
  exact dif_pos hfits

theorem segments_of_no_stretch {j : Nat} (h : longestStretch old new = ⟨i, j, n⟩)
    (hfits : ¬(0 < n ∧ i + n ≤ old.length)) :
    segments old new = [.change old (new.map (·.1))] := by
  rw [segments, h]
  exact dif_neg hfits

theorem flatMap_old_segments (old : List α) (new : List (α × Bool)) :
    (segments old new).flatMap Segment.old = old := by
  induction old, new using segments.induct with
  | case1 old new i j n hstretch hfits ihBefore ihAfter =>
    rw [segments_of_stretch hstretch hfits, List.flatMap_append, List.flatMap_cons, ihBefore,
      ihAfter, Segment.old, ← List.drop_drop, List.take_append_drop, List.take_append_drop]
  | case2 old new i j n hstretch hfits =>
    rw [segments_of_no_stretch hstretch hfits, List.flatMap_singleton, Segment.old]

theorem flatMap_new_segments (old : List α) (new : List (α × Bool)) :
    (segments old new).flatMap Segment.new = new.map (·.1) := by
  induction old, new using segments.induct with
  | case1 old new i j n hstretch hfits ihBefore ihAfter =>
    have hshared := (longestStretch_isShared old new).take_drop_eq
    rw [hstretch] at hshared
    rw [segments_of_stretch hstretch hfits, List.flatMap_append, List.flatMap_cons, ihBefore,
      ihAfter, Segment.new, hshared, List.map_take, List.map_drop, ← List.drop_drop,
      List.take_append_drop, List.take_append_drop]
  | case2 old new i j n hstretch hfits =>
    rw [segments_of_no_stretch hstretch hfits, List.flatMap_singleton, Segment.new]

/-- The old parts of an edit script make up the old list. -/
theorem flatMap_old_script (old new : List α) : (script old new).flatMap Segment.old = old := by
  rw [script, flatMap_tidy rfl fun _ _ => rfl, flatMap_old_segments]

/-- The new parts of an edit script make up the new list. -/
theorem flatMap_new_script (old new : List α) : (script old new).flatMap Segment.new = new := by
  rw [script, flatMap_tidy rfl fun _ _ => rfl, flatMap_new_segments, List.map_map]
  exact List.map_id new

end

/-! ## A list and itself -/

theorem bestInRow_append (i : Nat) (best : Stretch) (j : Nat) (ns ms : List Nat) :
    bestInRow i best j (ns ++ ms) = bestInRow i (bestInRow i best j ns) (j + ns.length) ms := by
  induction ns generalizing best j with
  | nil => rfl
  | cons n ns ih =>
    rw [List.cons_append, bestInRow, ih, bestInRow, List.length_cons, Nat.add_right_comm,
      Nat.add_assoc]

theorem bestInRow_of_le (i j : Nat) (h : ∀ n ∈ ns, n ≤ best.length) :
    bestInRow i best j ns = best := by
  induction ns generalizing j with
  | nil => rfl
  | cons n ns ih =>
    rw [bestInRow, if_neg (Nat.not_lt.2 (h n List.mem_cons_self)),
      ih _ fun n hn => h n (List.mem_cons_of_mem _ hn)]

/-- Items with marks that depend on the items alone. -/
def marked (common : α → Bool) (items : List α) : List (α × Bool) :=
  items.map fun x => (x, common x)

theorem marked_append (common : α → Bool) (xs ys : List α) :
    marked common (xs ++ ys) = marked common xs ++ marked common ys :=
  List.map_append

theorem EndAlike.of_marked {xs : List α} (h : EndAlike n old before)
    (hbefore : before ⊆ marked common xs) : EndAlike n old (marked common old) := by
  obtain ⟨shared, hlength, hold, hnew⟩ := h
  have hshared : shared.map (·, false) = marked common shared := by
    refine List.map_congr_left fun z hz => ?_
    obtain ⟨w, -, hw⟩ := List.mem_map.1 (hbefore (hnew.subset (List.mem_map_of_mem hz)))
    obtain ⟨rfl, hcommon⟩ := Prod.mk.inj hw
    rw [hcommon]
  exact ⟨shared, hlength, hold, hshared ▸ hold.map _⟩

theorem EndAlike.to_marked {xs : List α} (h : EndAlike n old (marked common xs)) :
    EndAlike n xs (marked common xs) := by
  obtain ⟨shared, hlength, -, hnew⟩ := h
  have hxs : shared <:+ xs := by
    simpa [marked, Function.comp_def] using hnew.map Prod.fst
  exact ⟨shared, hlength, hxs, hnew⟩

/-- No stretch that ends at the same place of both lists is longer. -/
def Covers (common : α → Bool) (seen : List α) (best : Stretch) : Prop :=
  ∀ front, front <+: seen → ∀ m, EndAlike m front (marked common front) → m ≤ best.length

/-- What ends before the diagonal was found in the row of its end in the new list. -/
theorem IsRow.le_of_covers (hrow : IsRow old [] (marked common seen) ns)
    (hcovers : Covers common seen best) (hm : m ∈ ns) : m ≤ best.length := by
  obtain ⟨front, hfront, hlongest⟩ := hrow.exists_prefix hm
  obtain ⟨items, hitems, rfl⟩ := List.prefix_map_iff.1 hfront
  exact hcovers items hitems m ((hlongest m).2 (Nat.le_refl m)).to_marked

/-- What ends behind the diagonal ends on it, too. -/
theorem IsRow.le_diagonal (cell : IsLongest n seen (marked common seen))
    (hrow : IsRow seen (marked common seen) (marked common rest) ns) (hm : m ∈ ns) : m ≤ n := by
  obtain ⟨front, hfront, hlongest⟩ := hrow.exists_prefix hm
  have hsubset : marked common seen ++ front ⊆ marked common (seen ++ rest) := by
    rw [marked_append]
    exact ((List.prefix_append_right_inj _).2 hfront).subset
  exact (cell m).1 (((hlongest m).2 (Nat.le_refl m)).of_marked hsubset)

/-- In a row over the same list the best stretch stays on the diagonal. -/
theorem bestInRow_diagonal (hrow : IsRow (seen ++ [x]) [] (marked common (seen ++ x :: rest)) ns)
    (hcovers : Covers common seen best) (hdiagonal : best.oldStart = best.newStart) :
    let next := bestInRow seen.length best 0 ns
    next.oldStart = next.newStart ∧ Covers common (seen ++ [x]) next := by
  rw [marked_append, isRow_append_iff] at hrow
  obtain ⟨ns₁, _, rfl, hbefore, _ | @⟨_, _, _, n, ns₂, cell, hafter⟩⟩ := hrow
  have hends : [] ++ marked common seen ++ [(x, common x)] = marked common (seen ++ [x]) := by
    rw [List.nil_append, marked_append]
    rfl
  rw [hends] at cell hafter
  have hlength : 0 + ns₁.length = seen.length := by
    rw [Nat.zero_add, hbefore.length_eq, marked, List.length_map]
  set next := if best.length < n then ⟨seen.length + 1 - n, seen.length + 1 - n, n⟩ else best
    with hnext
  have hle : n ≤ next.length ∧ best.length ≤ next.length := by
    rw [hnext]
    split
    · next hlt => exact ⟨Nat.le_refl n, Nat.le_of_lt hlt⟩
    · next hle => exact ⟨Nat.not_lt.1 hle, Nat.le_refl _⟩
  have hresult : bestInRow seen.length best 0 (ns₁ ++ n :: ns₂) = next := by
    rw [bestInRow_append, bestInRow_of_le _ _ fun _ => hbefore.le_of_covers hcovers, hlength,
      bestInRow, bestInRow_of_le _ _ fun _ hm => (hafter.le_diagonal cell hm).trans hle.1]
  rw [hresult]
  refine ⟨?_, fun front hfront m hm => ?_⟩
  · rw [hnext]
    split
    · rfl
    · exact hdiagonal
  · obtain rfl | hfront := List.prefix_concat_iff.1 hfront
    · exact ((cell m).1 hm).trans hle.1
    · exact (hcovers front hfront m hm).trans hle.2

section

variable [DecidableEq α]

theorem bestFrom_diagonal (hrow : IsRow seen [] (marked common (seen ++ rest)) row)
    (hcovers : Covers common seen best) (hdiagonal : best.oldStart = best.newStart) :
    let found := bestFrom (marked common (seen ++ rest)) seen.length row best rest
    found.oldStart = found.newStart := by
  induction rest generalizing seen row best with
  | nil => exact hdiagonal
  | cons x rest ih =>
    have hnext := hrow.nextRow x
    obtain ⟨hdiagonal', hcovers'⟩ := bestInRow_diagonal hnext hcovers hdiagonal
    have hlength : seen.length + 1 = (seen ++ [x]).length := by simp
    rw [bestFrom, hlength]
    rw [List.append_cons seen x rest] at hnext hdiagonal' hcovers' ⊢
    exact ih hnext hcovers' hdiagonal'

/-- The stretch that a list shares with itself is the whole list. -/
theorem longestStretch_self (common : α → Bool) (items : List α) :
    longestStretch items (marked common items) = ⟨0, 0, items.length⟩ := by
  have hrow := isRow_replicate ([] : List (α × Bool)) (marked common items)
  have hcovers : Covers common ([] : List α) {} := fun front hfront m hm => by
    obtain rfl := List.prefix_nil.1 hfront
    exact hm.le_length.1
  have hitems : (marked common items).map (·.1) = items := by
    simp [marked, Function.comp_def]
  obtain ⟨best, hbest⟩ : ∃ best, best = bestFrom (marked common items) 0
      (List.replicate (marked common items).length 0) {} items := ⟨_, rfl⟩
  have hdiagonal : best.oldStart = best.newStart :=
    hbest ▸ bestFrom_diagonal hrow hcovers rfl
  have hshared : best.IsShared items ((marked common items).map (·.1)) :=
    hbest ▸ bestFrom_isShared hrow (isShared_empty ([] ++ items) _)
  rw [longestStretch, hitems, ← hbest]
  have hle := hshared.le_length
  have hleft : (items.take best.newStart).length = best.newStart := by
    rw [List.length_take]
    omega
  simp only [hdiagonal, sharedLength_self, List.length_reverse, hleft, List.length_drop,
    Nat.sub_self]
  congr 1
  omega

/-- From a list to itself nothing changes. -/
theorem script_self (items : List α) :
    script items items = if items = [] then [] else [.same items] := by
  have hempty : segments ([] : List α) [] = [.change [] []] :=
    segments_of_no_stretch (longestStretch_self (isCommon items) []) (by simp)
  have hmarked : (items.map fun x => (x, isCommon items x)) = marked (isCommon items) items := rfl
  rw [script, hmarked]
  split
  · next hnil =>
    subst hnil
    exact congrArg tidy hempty
  · next hcons =>
    have hdrop : (marked (isCommon items) items).drop items.length = [] :=
      List.drop_eq_nil_of_le (by simp [marked])
    rw [segments_of_stretch (longestStretch_self _ items)
      ⟨List.length_pos_iff.2 hcons, by rw [Nat.zero_add]⟩]
    simp [hempty, hdrop, tidy]

end

end MachineConfig.Text
