import MachineConfig.Proofs.Template.PieceLemmas

/-!
The tokens of a document spell it (`Token.spelled_scan`), each stands where the ones before it end
(`Token.scan_position`), and so the stretch from the start of one to the stop of another is what
the tokens between them spell (`Token.slice_scan`).
-/

namespace MachineConfig.Template

namespace Token

/-- The text of consecutive tokens. -/
def spelled (ts : List Token) : String := String.join (ts.map text)

@[simp] theorem spelled_nil : spelled [] = "" := rfl

@[simp] theorem spelled_cons (t : Token) (ts : List Token) :
    spelled (t :: ts) = t.text ++ spelled ts := by
  simp [spelled]

@[simp] theorem spelled_append (ts us : List Token) :
    spelled (ts ++ us) = spelled ts ++ spelled us := by
  simp [spelled]

theorem spelled_ofPieces (start : Nat) (ps : List Piece) :
    spelled (ofPieces start ps) = String.ofList (Piece.spelled ps) := by
  induction ps generalizing start with
  | nil => rfl
  | cons p ps ih => simp [ofPieces, ih]

theorem ofPieces_append (start : Nat) (ps qs : List Piece) :
    ofPieces start (ps ++ qs) =
      ofPieces start ps ++ ofPieces (start + (Piece.spelled ps).length) qs := by
  induction ps generalizing start with
  | nil => simp [ofPieces]
  | cons p ps ih => simp [ofPieces, ih, Nat.add_assoc]

/-- The tokens of a document spell it. -/
theorem spelled_scan (document : String) : spelled (scan document) = document := by
  rw [scan, spelled_ofPieces, Piece.spelled_split, String.ofList_toList]

theorem ofPieces_position {start : Nat} {ps : List Piece} {before after : List Token}
    {t : Token} (h : ofPieces start ps = before ++ t :: after) :
    t.start = start + (spelled before).length ∧ t.stop = t.start + t.text.length := by
  induction ps generalizing start before with
  | nil => simp [ofPieces] at h
  | cons p ps ih =>
    rw [ofPieces] at h
    cases before with
    | nil =>
      cases h
      simp
    | cons b before =>
      rw [List.cons_append, List.cons.injEq] at h
      obtain ⟨rfl, h⟩ := h
      obtain ⟨hstart, hstop⟩ := ih h
      refine ⟨?_, hstop⟩
      rw [hstart]
      simp [Nat.add_assoc]

/-- A token stands where the tokens before it end. -/
theorem scan_position {document : String} {before after : List Token} {t : Token}
    (h : scan document = before ++ t :: after) :
    t.start = (spelled before).length ∧ t.stop = t.start + t.text.length := by
  simpa using ofPieces_position h

/-- The stretch of a document from the start of one token to the stop of another. -/
theorem slice_scan {document : String} {before inner after : List Token} {first last : Token}
    (h : scan document = before ++ (first :: inner ++ [last]) ++ after) :
    (document.toList.drop first.start).take (last.stop - first.start) =
      (spelled (first :: inner ++ [last])).toList := by
  have hbefore : scan document = before ++ first :: (inner ++ last :: after) := by simpa using h
  have hafter : scan document = (before ++ first :: inner) ++ last :: after := by simpa using h
  have hfirst := scan_position hbefore
  have hlast := scan_position hafter
  have hlength : last.stop - first.start = (spelled (first :: inner ++ [last])).length := by
    rw [hlast.2, hlast.1, hfirst.1]
    simp
    omega
  have hdocument : document.toList = (spelled before).toList ++
      ((spelled (first :: inner ++ [last])).toList ++ (spelled after).toList) := by
    rw [← String.toList_append, ← String.toList_append, ← String.append_assoc, ← spelled_append,
      ← spelled_append, ← h, spelled_scan]
  rw [hdocument, hlength, hfirst.1]
  simp only [← String.length_toList]
  rw [List.drop_left, List.take_left]

end Token

end MachineConfig.Template
