import MachineConfig.Proofs.Template.Balance
import MachineConfig.Proofs.Template.Replacement

/-!
How the tokens of a document divide it. They follow each other without a gap from its beginning to
its end, and those that are tags stand where tags stand in the document: at all the places where two
opening braces, a text without braces and two closing ones come together (`Token.scan_partition`).
-/

namespace MachineConfig.Template

/-- Two opening braces, a text without braces and two closing braces. -/
def IsTag (cs : List Char) : Prop :=
  ∃ inner, (∀ c ∈ inner, isBrace c = false) ∧ cs = '{' :: '{' :: inner ++ ['}', '}']

/-- The stretch of a text from one place up to another. -/
def slice (cs : List Char) (start stop : Nat) : List Char := (cs.drop start).take (stop - start)

/-- A tag stands in a text from one place up to another. -/
def IsTagAt (cs : List Char) (start stop : Nat) : Prop :=
  stop ≤ cs.length ∧ IsTag (slice cs start stop)

section tags

variable {cs : List Char} {i j k l : Nat}

theorem slice_append_drop (h : i ≤ j) : slice cs i j ++ cs.drop j = cs.drop i := by
  have hdrop : cs.drop j = (cs.drop i).drop (j - i) := by rw [List.drop_drop, Nat.add_sub_cancel' h]
  rw [slice, hdrop, List.take_append_drop]

theorem slice_append (before middle after : List Char) :
    slice (before ++ (middle ++ after)) before.length (before.length + middle.length) = middle := by
  rw [slice, List.drop_left, Nat.add_sub_cancel_left, List.take_left]

theorem IsTagAt.exists_inner (h : IsTagAt cs i j) :
    ∃ inner, (∀ c ∈ inner, isBrace c = false) ∧ j = i + (Piece.tag inner).chars.length ∧
      cs.drop i = (Piece.tag inner).chars ++ cs.drop j := by
  obtain ⟨hstop, inner, hinner, hslice⟩ := h
  have hchars : slice cs i j = (Piece.tag inner).chars := hslice
  have hlength := congrArg List.length hchars
  have hpos : 0 < (Piece.tag inner).chars.length := by simp [Piece.chars]
  rw [slice, List.length_take, List.length_drop] at hlength
  exact ⟨inner, hinner, by omega, by rw [← hchars, slice_append_drop (by omega)]⟩

/-- A tag that starts behind the start of another starts behind its end. -/
theorem IsTagAt.stop_le (h : IsTagAt cs i j) (h' : IsTagAt cs k l) (hlt : i < k) : j ≤ k := by
  obtain ⟨inner, hinner, rfl, hdrop⟩ := h.exists_inner
  obtain ⟨other, -, rfl, hdrop'⟩ := h'.exists_inner
  have hbetween : slice cs i k ++ cs.drop k = cs.drop i := slice_append_drop hlt.le
  rw [hdrop, hdrop'] at hbetween
  have hlength : (slice cs i k).length = k - i := by
    have := h'.1
    rw [slice, List.length_take, List.length_drop]
    omega
  have hne : slice cs i k ≠ [] := List.ne_nil_of_length_pos (by omega)
  have := Piece.length_chars_le_of_append_eq hinner hne hbetween.symm
  omega

/-- Two tags are the same or do not overlap. -/
theorem IsTagAt.eq_or_disjoint (h : IsTagAt cs i j) (h' : IsTagAt cs k l) :
    (i, j) = (k, l) ∨ j ≤ k ∨ l ≤ i := by
  rcases Nat.lt_trichotomy i k with hlt | rfl | hlt
  · exact .inr (.inl (h.stop_le h' hlt))
  · obtain ⟨inner, hinner, rfl, hdrop⟩ := h.exists_inner
    obtain ⟨other, hother, rfl, hdrop'⟩ := h'.exists_inner
    have hsame :=
      Piece.leadingTag?_chars_append hinner (cs.drop (i + (Piece.tag inner).chars.length))
    rw [← hdrop, hdrop', Piece.leadingTag?_chars_append hother] at hsame
    obtain rfl := Option.some.inj hsame
    exact .inl rfl
  · exact .inr (.inr (h'.stop_le h hlt))

end tags

namespace Token

theorem ofPieces_consecutive (start : Nat) (ps : List Piece) :
    (ofPieces start ps).map (·.start) ++ [start + (Piece.spelled ps).length] =
      start :: (ofPieces start ps).map (·.stop) := by
  induction ps generalizing start with
  | nil => rfl
  | cons p ps ih => simp [ofPieces, ← ih, Nat.add_assoc]

/-- A token stands in the document where it says. -/
theorem slice_of_mem_scan {document : String} {t : Token} (h : t ∈ scan document) :
    t.stop ≤ document.length ∧ slice document.toList t.start t.stop = t.text.toList := by
  obtain ⟨before, after, hscan⟩ := List.append_of_mem h
  obtain ⟨hstart, hstop⟩ := scan_position hscan
  have hdocument : document.toList =
      (spelled before).toList ++ (t.text.toList ++ (spelled after).toList) := by
    rw [← spelled_scan document, hscan]
    simp
  constructor
  · rw [← String.length_toList, hdocument, hstop, hstart]
    simp only [List.length_append, String.length_toList]
    omega
  · rw [hdocument, hstop, hstart, ← String.length_toList, ← String.length_toList, slice_append]

/-- There is a token for every tag. -/
theorem exists_mem_scan_of_isTagAt {document : String} {start stop : Nat}
    (h : IsTagAt document.toList start stop) :
    ∃ t ∈ scan document, IsTag t.text.toList ∧ t.start = start ∧ t.stop = stop := by
  obtain ⟨inner, hinner, hstop, hdrop⟩ := h.exists_inner
  have hdocument : document.toList = document.toList.take start ++
      ((Piece.tag inner).chars ++ document.toList.drop stop) := by
    rw [← hdrop, List.take_append_drop]
  have hlength : (document.toList.take start).length = start := by
    have := h.1
    rw [List.length_take]
    omega
  obtain ⟨ps, qs, hsplit, hspelled⟩ :=
    Piece.exists_split_eq_append_tag_iff.mpr ⟨hinner, _, hdocument⟩
  rw [scan, hsplit, ofPieces_append, hspelled, hlength, Nat.zero_add]
  refine ⟨_, List.mem_append_right _ (List.mem_cons_self ..), ?_, rfl, hstop.symm⟩
  exact ⟨inner, hinner, String.toList_ofList⟩

theorem start_lt_stop_of_mem_scan {document : String} {t : Token} (h : t ∈ scan document) :
    t.start < t.stop := by
  obtain ⟨p, hp, -, htext⟩ := exists_piece_of_mem_ofPieces h
  obtain ⟨before, after, hscan⟩ := List.append_of_mem h
  have hpos : 0 < t.text.length := by
    rw [htext, ← String.length_toList, String.toList_ofList]
    exact List.length_pos_iff.mpr (Piece.chars_ne_nil_of_mem_splitFrom hp)
  rw [(scan_position hscan).2]
  omega

/-- The tokens divide the document. The beginning of the document and the stops of the tokens are
the starts of the tokens and the end of the document, no token is empty, and each has the text that
stands at its place. Those whose text is a tag stand exactly where a tag stands in the document, and
no two tags overlap. -/
theorem scan_partition (document : String) :
    0 :: (scan document).map (·.stop) = (scan document).map (·.start) ++ [document.length] ∧
    (∀ t ∈ scan document, t.start < t.stop ∧
      t.text = String.ofList (slice document.toList t.start t.stop)) ∧
    (∀ start stop, IsTagAt document.toList start stop ↔
      ∃ t ∈ scan document, IsTag t.text.toList ∧ t.start = start ∧ t.stop = stop) ∧
    ∀ i j k l, IsTagAt document.toList i j → IsTagAt document.toList k l →
      (i, j) = (k, l) ∨ j ≤ k ∨ l ≤ i := by
  refine ⟨?_, fun t ht => ?_, fun start stop => ⟨exists_mem_scan_of_isTagAt, ?_⟩,
    fun i j k l => IsTagAt.eq_or_disjoint⟩
  · have hconsecutive := ofPieces_consecutive 0 (Piece.split document.toList)
    rw [Piece.spelled_split, Nat.zero_add, String.length_toList] at hconsecutive
    exact hconsecutive.symm
  · obtain ⟨-, hslice⟩ := slice_of_mem_scan ht
    exact ⟨start_lt_stop_of_mem_scan ht, by rw [hslice, String.ofList_toList]⟩
  · rintro ⟨t, ht, htag, rfl, rfl⟩
    obtain ⟨hstop, hslice⟩ := slice_of_mem_scan ht
    exact ⟨by rwa [String.length_toList], by rwa [hslice]⟩

/-- Braces around a tag do not belong to it. -/
example : (scan "\x7b\x7b\x7ba\x7d\x7d\x7d").map (fun t => (t.start, t.stop)) =
    [(0, 1), (1, 6), (6, 7)] := by
  decide

end Token

end MachineConfig.Template
