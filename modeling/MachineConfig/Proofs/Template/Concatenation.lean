import MachineConfig.Proofs.Template.Occurrences
import MachineConfig.Proofs.Template.TokenLemmas
import MachineConfig.Proofs.Template.TreeLemmas

/-!
Reading two documents as one. If no tag starts in the first and ends in the second, the pieces of
the whole are those of the parts (`Piece.joined_split`). If moreover no block of the first is still
open at its end, reading the second goes on as if nothing had been read
(`Progress.foldl_step_behind`), and the whole has the nodes and the warnings of the parts
(`Tree.ofDocument_append`).
-/

namespace MachineConfig.Template

/-! ## Pieces -/

namespace Piece

/-- A tag of two texts put together starts in the first and ends in the second. -/
def Straddles (a b : List Char) : Prop :=
  ∃ ps inner qs, split (a ++ b) = ps ++ tag inner :: qs ∧
    (spelled ps).length < a.length ∧ a.length < (spelled ps).length + (tag inner).chars.length

/-- Pieces after pieces. A run that ends the first and one that begins the second become one. -/
inductive Joined : List Piece → List Piece → List Piece → Prop where
  | apart {ps qs} : Joined ps qs (ps ++ qs)
  | together {ps cs ds qs} : Joined (ps ++ [run cs]) (run ds :: qs) (ps ++ run (cs ++ ds) :: qs)

variable {ps qs rs : List Piece} {a b : List Char}

theorem Joined.cons (p : Piece) (h : Joined ps qs rs) : Joined (p :: ps) qs (p :: rs) := by
  cases h with
  | apart => exact .apart
  | @together ps cs ds qs => exact @Joined.together (p :: ps) cs ds qs

theorem consRun_append {c : Char} (h : ps ≠ []) (qs : List Piece) :
    consRun c (ps ++ qs) = consRun c ps ++ qs := by
  match ps with
  | [] => exact (h rfl).elim
  | run _ :: _ => rfl
  | tag _ :: _ => rfl

theorem Joined.consRun (c : Char) (h : Joined ps qs rs) :
    Joined (consRun c ps) qs (consRun c rs) := by
  cases h with
  | @apart ps =>
    by_cases hps : ps = []
    · subst hps
      match qs with
      | [] => exact .apart
      | run ds :: qs => exact @Joined.together [] [c] ds qs
      | tag _ :: _ => exact .apart
    · rw [consRun_append hps]
      exact .apart
  | @together ps cs ds qs =>
    by_cases hps : ps = []
    · subst hps
      exact @Joined.together [] (c :: cs) ds qs
    · rw [consRun_append hps, consRun_append hps]
      exact .together

/-- Wherever a tag starts in the first of two texts put together, it ends there. -/
def KeepsTags (a b : List Char) : Prop :=
  ∀ inner before after : List Char, (∀ c ∈ inner, isBrace c = false) →
    a ++ b = before ++ ((tag inner).chars ++ after) → before.length < a.length →
    before.length + (tag inner).chars.length ≤ a.length

theorem keepsTags_of_not_straddles (h : ¬Straddles a b) : KeepsTags a b := by
  intro inner before after hinner heq hbefore
  obtain ⟨ps, qs, hsplit, rfl⟩ := exists_split_eq_append_tag_iff.mpr ⟨hinner, after, heq⟩
  exact Nat.le_of_not_lt fun hlt => h ⟨ps, inner, qs, hsplit, hbefore, hlt⟩

theorem KeepsTags.tail {c : Char} (h : KeepsTags (c :: a) b) : KeepsTags a b := by
  intro inner before after hinner heq hbefore
  have hlength := h inner (c :: before) after hinner (by simp [heq])
    (by simpa using hbefore)
  simp only [List.length_cons] at hlength
  omega

/-- A tag at the start of both texts is one at the start of the first. -/
theorem KeepsTags.leadingTag?_append {c : Char} (h : KeepsTags (c :: a) b) :
    leadingTag? (c :: (a ++ b)) = leadingTag? (c :: a) := by
  cases hwhole : leadingTag? (c :: (a ++ b)) with
  | some inner =>
    obtain ⟨hinner, after, heq⟩ := leadingTag?_eq_some_iff.mp hwhole
    have heq' : c :: a ++ b = (tag inner).chars ++ after := by simpa [chars] using heq
    have hlength := h inner [] after hinner heq' (Nat.succ_pos _)
    obtain ⟨rest, hrest⟩ : (tag inner).chars <+: c :: a :=
      List.prefix_of_prefix_length_le ⟨after, heq'.symm⟩ (List.prefix_append _ _)
        (by simpa using hlength)
    rw [← hrest, leadingTag?_chars_append hinner]
  | none =>
    cases hfirst : leadingTag? (c :: a) with
    | none => rfl
    | some inner =>
      obtain ⟨hinner, rest, heq⟩ := leadingTag?_eq_some_iff.mp hfirst
      have hlonger : c :: (a ++ b) = (tag inner).chars ++ (rest ++ b) := by
        rw [← List.cons_append, heq]
        simp [chars]
      rw [hlonger, leadingTag?_chars_append hinner] at hwhole
      cases hwhole

theorem joined_splitFrom {skip : Nat} (hskip : skip ≤ a.length) (h : KeepsTags a b) :
    Joined (splitFrom skip a) (split b) (splitFrom skip (a ++ b)) := by
  induction skip, a using splitFrom.induct with
  | case1 skip =>
    obtain rfl : skip = 0 := Nat.le_zero.mp hskip
    exact @Joined.apart [] _
  | case2 skip c cs ih =>
    simpa [splitFrom] using ih (by simpa using hskip) h.tail
  | case3 c cs inner hleading ih =>
    obtain ⟨-, rest, heq⟩ := leadingTag?_eq_some_iff.mp hleading
    have hlength : inner.length + 3 ≤ cs.length := by
      have := congrArg List.length heq
      simp at this
      omega
    rw [List.cons_append, splitFrom_of_leadingTag? hleading,
      splitFrom_of_leadingTag? (h.leadingTag?_append.trans hleading)]
    exact (ih hlength h.tail).cons _
  | case4 c cs hleading ih =>
    rw [List.cons_append, splitFrom_of_leadingTag?_eq_none hleading,
      splitFrom_of_leadingTag?_eq_none (h.leadingTag?_append.trans hleading)]
    exact (ih (Nat.zero_le _) h.tail).consRun c

theorem joined_split (h : ¬Straddles a b) : Joined (split a) (split b) (split (a ++ b)) :=
  joined_splitFrom (Nat.zero_le _) (keepsTags_of_not_straddles h)

end Piece

/-! ## Tokens and blocks further on in a longer document -/

namespace Token

/-- The token with `k` more characters before it. -/
def shift (k : Nat) (t : Token) : Token := { t with start := t.start + k, stop := t.stop + k }

@[simp] theorem role_shift (k : Nat) (t : Token) : (t.shift k).role = t.role := rfl

@[simp] theorem text_shift (k : Nat) (t : Token) : (t.shift k).text = t.text := rfl

theorem ofPieces_shift (start k : Nat) (ps : List Piece) :
    ofPieces (start + k) ps = (ofPieces start ps).map (shift k) := by
  induction ps generalizing start with
  | nil => rfl
  | cons p ps ih =>
    rw [ofPieces, ofPieces, List.map_cons, ← ih, Nat.add_right_comm]
    simp only [shift, Nat.add_right_comm]

theorem stop_le_of_mem_ofPieces {start : Nat} {ps : List Piece} {t : Token}
    (h : t ∈ ofPieces start ps) : t.stop ≤ start + (Piece.spelled ps).length := by
  induction ps generalizing start with
  | nil => simp [ofPieces] at h
  | cons p ps ih =>
    rw [ofPieces, List.mem_cons] at h
    rw [Piece.spelled_cons, List.length_append]
    rcases h with rfl | h
    · simp only
      omega
    · have := ih h
      omega

end Token

namespace OpenBlock

def shift (k : Nat) (b : OpenBlock) : OpenBlock :=
  { b with opener := b.opener.shift k, otherwise := b.otherwise.map fun o => (o.1.shift k, o.2) }

variable {k : Nat} {b : OpenBlock}

@[simp] theorem block_shift : (b.shift k).block = b.block := rfl

theorem add_shift (node : Node) : (b.shift k).add node = (b.add node).shift k := by
  rcases b with ⟨block, arg, opener, children, _ | ⟨tag, nodes⟩⟩ <;> rfl

theorem foldl_add_shift (nodes : List Node) :
    nodes.foldl add (b.shift k) = (nodes.foldl add b).shift k := by
  induction nodes generalizing b with
  | nil => rfl
  | cons n ns ih => rw [List.foldl_cons, add_shift, ih, List.foldl_cons]

theorem literal_shift : (b.shift k).literal = b.literal := by
  rcases b with ⟨block, arg, opener, children, _ | ⟨tag, nodes⟩⟩ <;> rfl

theorem takesElse_shift : (b.shift k).takesElse = b.takesElse := by
  rcases b with ⟨block, arg, opener, children, _ | ⟨tag, nodes⟩⟩ <;> rfl

/-- A block keeps the same source wherever it stands. -/
theorem close_shift {d : List Char} (hlength : d.length = k) (closer : Token) (e : List Char) :
    (b.shift k).close (closer.shift k) (d ++ e) = b.close closer e := by
  have hsource : ((d ++ e).drop (b.opener.start + k)).take
        (closer.stop + k - (b.opener.start + k)) =
      (e.drop b.opener.start).take (closer.stop - b.opener.start) := by
    rw [← hlength, Nat.add_sub_add_right, Nat.add_comm, ← List.drop_drop, List.drop_left]
  have helse : ((b.shift k).otherwise.map (·.2.toList)) = b.otherwise.map (·.2.toList) := by
    rcases b with ⟨block, arg, opener, children, _ | ⟨tag, nodes⟩⟩ <;> rfl
  simp only [close, helse]
  simp only [shift, Token.shift, hsource]

end OpenBlock

theorem unwind_shift (k : Nat) (bs : List OpenBlock) :
    unwind (bs.map (·.shift k)) = unwind bs := by
  rw [unwind, unwind, ← List.map_reverse, List.flatMap_map]
  simp only [OpenBlock.literal_shift]

namespace Progress

/-- What has been read of a document, in a longer one that starts with `k` characters of which `q`
was read. -/
def behind (p q : Progress) (k : Nat) : Progress where
  nodes := q.nodes ++ p.nodes
  blocks := p.blocks.map (·.shift k)
  warnings := q.warnings ++ p.warnings

variable {p q : Progress} {k : Nat} {d e : List Char} {token : Token}

theorem add_behind (node : Node) : (p.behind q k).add node = (p.add node).behind q k := by
  rcases p with ⟨nodes, _ | ⟨b, bs⟩, warnings⟩
  · simp [behind, add]
  · simp [behind, add, OpenBlock.add_shift]

theorem addAll_behind (nodes : List Node) :
    (p.behind q k).addAll nodes = (p.addAll nodes).behind q k := by
  induction nodes generalizing p with
  | nil => rfl
  | cons n ns ih => simp only [addAll, List.foldl_cons, add_behind] at ih ⊢; exact ih

theorem inLoop_behind : (p.behind q k).inLoop = p.inLoop := by
  simp only [inLoop, behind, List.any_map, Function.comp_def, OpenBlock.block_shift]
  rfl

theorem close_behind (hlength : d.length = k) (block : Block) (closer : Token) :
    (p.behind q k).close block (closer.shift k) (d ++ e) = (p.close block closer e).behind q k := by
  have hspan : (p.behind q k).blocks.span (·.block ≠ block) =
      ((p.blocks.span (·.block ≠ block)).1.map (·.shift k),
        (p.blocks.span (·.block ≠ block)).2.map (·.shift k)) := by
    simp only [behind, List.span_eq_takeWhile_dropWhile, List.takeWhile_map, List.dropWhile_map,
      Function.comp_def, OpenBlock.block_shift]
    rfl
  rw [close, close, hspan]
  generalize p.blocks.span (·.block ≠ block) = parts
  rcases parts with ⟨unclosed, _ | ⟨b, bs⟩⟩
  · exact add_behind _
  · simp only [List.map_cons, unwind_shift, OpenBlock.foldl_add_shift,
      OpenBlock.close_shift hlength]
    exact add_behind (p := { p with blocks := bs }) _

/-- Reading a token comes to the same further on in a longer document. -/
theorem step_behind (hlength : d.length = k) :
    (p.behind q k).step (d ++ e) (token.shift k) = (p.step e token).behind q k := by
  unfold step
  cases hrole : token.role with
  | text | scalar name => simp only [Token.role_shift, hrole]; exact add_behind _
  | closer block => simp only [Token.role_shift, hrole]; exact close_behind hlength block token
  | opener block arg =>
    simp only [Token.role_shift, hrole, inLoop_behind]
    split
    · rw [add_behind]
      simp only [behind, Array.push_append]
      rfl
    · rfl
  | otherwise =>
    simp only [Token.role_shift, hrole]
    rcases p with ⟨nodes, _ | ⟨b, bs⟩, warnings⟩
    · exact add_behind _
    · simp only [behind, List.map_cons, OpenBlock.takesElse_shift]
      split
      · rfl
      · exact add_behind (p := ⟨nodes, b :: bs, warnings⟩) _

theorem foldl_step_behind (hlength : d.length = k) (ts : List Token) :
    (ts.map (·.shift k)).foldl (step (d ++ e)) (p.behind q k) =
      (ts.foldl (step e) p).behind q k := by
  induction ts generalizing p with
  | nil => rfl
  | cons t ts ih => rw [List.map_cons, List.foldl_cons, step_behind hlength, ih, List.foldl_cons]

theorem finish_behind : (p.behind q k).finish = p.finish.behind q k := by
  have hblocks : (p.behind q k).blocks = p.blocks.map (·.shift k) := rfl
  rw [finish, hblocks, unwind_shift]
  exact addAll_behind (p := { p with blocks := [] }) _

/-- Outside all blocks, reading goes on as if nothing had been read. -/
theorem foldl_step_of_nil (hlength : d.length = k) (hq : q.blocks = []) (ts : List Token) :
    (ts.map (·.shift k)).foldl (step (d ++ e)) q = (ts.foldl (step e) {}).behind q k := by
  have hstart : q = behind {} q k := by
    obtain ⟨nodes, blocks, warnings⟩ := q
    obtain rfl : blocks = [] := hq
    simp [behind]
  conv_lhs => rw [hstart]
  exact foldl_step_behind hlength ts

/-- What comes after a document does not change how its tokens are read. -/
theorem step_append (p : Progress) (h : token.stop ≤ d.length) :
    p.step (d ++ e) token = p.step d token := by
  have hclose (b : OpenBlock) : b.close token (d ++ e) = b.close token d := by
    have hsource : ((d ++ e).drop b.opener.start).take (token.stop - b.opener.start) =
        (d.drop b.opener.start).take (token.stop - b.opener.start) := by
      rw [List.drop_append, List.take_append_of_le_length (by rw [List.length_drop]; omega)]
    simp only [OpenBlock.close, hsource]
  simp only [step, close, hclose]

theorem foldl_step_append (p : Progress) {ts : List Token} (h : ∀ t ∈ ts, t.stop ≤ d.length) :
    ts.foldl (step (d ++ e)) p = ts.foldl (step d) p := by
  induction ts generalizing p with
  | nil => rfl
  | cons t ts ih =>
    rw [List.forall_mem_cons] at h
    rw [List.foldl_cons, step_append p h.1, ih _ h.2, List.foldl_cons]

/-- A document read up to its last token. -/
def ofDocument (document : String) : Progress :=
  (Token.scan document).foldl (step document.toList) {}

theorem blocks_add_eq_nil {node : Node} (h : (p.add node).blocks = []) : p.blocks = [] := by
  rcases p with ⟨nodes, _ | ⟨b, bs⟩, warnings⟩
  · rfl
  · simp [add] at h

theorem add_of_nil (h : p.blocks = []) (node : Node) :
    p.add node = { p with nodes := p.nodes.push node } := by
  rw [add, h]

theorem finish_of_nil (h : p.blocks = []) : p.finish = p := by
  obtain ⟨nodes, blocks, warnings⟩ := p
  obtain rfl : blocks = [] := h
  rfl

end Progress

namespace Progress

open Token

variable {d e : String}

/-- The first pieces of a document read alike, whatever comes after it. -/
theorem foldl_step_ofPieces {ps : List Piece} (h : Piece.spelled ps <+: d.toList) (cs : List Char) :
    (ofPieces 0 ps).foldl (step (d.toList ++ cs)) {} =
      (ofPieces 0 ps).foldl (step d.toList) {} := by
  refine foldl_step_append {} fun t ht => ?_
  have := stop_le_of_mem_ofPieces ht
  have := h.length_le
  omega

theorem ofDocument_append_of_apart
    (hsplit : Piece.split (d ++ e).toList = Piece.split d.toList ++ Piece.split e.toList)
    (hopen : (ofDocument d).blocks = []) :
    ofDocument (d ++ e) = (ofDocument e).behind (ofDocument d) d.length := by
  have hshift := ofPieces_shift 0 d.toList.length (Piece.split e.toList)
  rw [ofDocument, scan, hsplit, ofPieces_append, List.foldl_append, String.toList_append,
    foldl_step_ofPieces ⟨[], by simp [Piece.spelled_split]⟩, Piece.spelled_split, hshift]
  exact foldl_step_of_nil String.length_toList hopen _

/-- Where a run goes from one document into the next, both have read the same before and behind
it. -/
theorem ofDocument_append_of_together {ps qs : List Piece} {cs ds : List Char}
    (hd : Piece.split d.toList = ps ++ [.run cs]) (he : Piece.split e.toList = .run ds :: qs)
    (hsplit : Piece.split (d ++ e).toList = ps ++ .run (cs ++ ds) :: qs)
    (hopen : (ofDocument d).blocks = []) :
    ∃ p x : Progress, p.blocks = [] ∧
      ofDocument d = p.add (.text (String.ofList cs)) ∧
      ofDocument e = x.behind (add {} (.text (String.ofList ds))) 0 ∧
      ofDocument (d ++ e) =
        x.behind (p.add (.text (String.ofList cs ++ String.ofList ds))) d.length := by
  have hspelled : Piece.spelled ps ++ cs = d.toList := by
    rw [← Piece.spelled_split d.toList, hd]
    simp [Piece.chars]
  have hp : ofDocument d =
    ((ofPieces 0 ps).foldl (step d.toList) {}).add (.text (String.ofList cs)) := by
    rw [ofDocument, scan, hd, ofPieces_append, List.foldl_append]
    rfl
  rw [hp] at hopen
  have hblocks := blocks_add_eq_nil hopen
  refine ⟨_, (ofPieces ds.length qs).foldl (step e.toList) {}, hblocks, hp, ?_, ?_⟩
  · have hread := foldl_step_of_nil (d := []) (e := e.toList) (k := 0)
      (q := add {} (.text (String.ofList ds))) rfl rfl (ofPieces ds.length qs)
    rw [← ofPieces_shift] at hread
    rw [ofDocument, scan, he, ofPieces, List.foldl_cons, Nat.zero_add]
    exact hread
  · have hshift := ofPieces_shift ds.length d.toList.length qs
    have hstop : (Piece.spelled ps).length + (cs ++ ds).length = ds.length + d.toList.length := by
      rw [← hspelled, List.length_append, List.length_append]
      omega
    rw [ofDocument, scan, hsplit, ofPieces_append, List.foldl_append, String.toList_append,
      foldl_step_ofPieces ⟨cs, hspelled⟩, ofPieces, List.foldl_cons]
    simp only [Piece.chars, Nat.zero_add, hstop, hshift, String.ofList_append]
    refine foldl_step_of_nil String.length_toList ?_ _
    exact (congrArg blocks (add_of_nil hblocks _)).trans hblocks

end Progress

namespace Node

/-- Nodes after nodes. A text that ends the first and one that begins the second may have become
one. -/
inductive Joined : List Node → List Node → List Node → Prop where
  | apart {ns ms} : Joined ns ms (ns ++ ms)
  | together {ns u v ms} : Joined (ns ++ [.text u]) (.text v :: ms) (ns ++ .text (u ++ v) :: ms)

end Node

theorem Tree.ofDocument_eq (document : String) : Tree.ofDocument document =
    ⟨(Progress.ofDocument document).finish.nodes.toList,
      (Progress.ofDocument document).finish.warnings.toList⟩ := rfl

/-- If no tag goes from one document into the next and no block of the first is open at its end,
both together have the nodes and warnings of the one before those of the other. -/
theorem Tree.ofDocument_append {d e : String} (hcut : ¬Piece.Straddles d.toList e.toList)
    (hopen : (Progress.ofDocument d).blocks = []) :
    Node.Joined (ofDocument d).nodes (ofDocument e).nodes (ofDocument (d ++ e)).nodes ∧
      (ofDocument (d ++ e)).warnings = (ofDocument d).warnings ++ (ofDocument e).warnings := by
  have hjoined := Piece.joined_split hcut
  rw [← String.toList_append] at hjoined
  simp only [ofDocument_eq, Progress.finish_of_nil hopen]
  generalize hd : Piece.split d.toList = ps at hjoined
  generalize he : Piece.split e.toList = qs at hjoined
  generalize hde : Piece.split (d ++ e).toList = rs at hjoined
  cases hjoined with
  | apart =>
    subst hd he
    rw [Progress.ofDocument_append_of_apart hde hopen, Progress.finish_behind]
    simp only [Progress.behind, Array.toList_append]
    exact ⟨.apart, trivial⟩
  | together =>
    obtain ⟨p, x, hp, hfirst, hsecond, hwhole⟩ :=
      Progress.ofDocument_append_of_together hd he hde hopen
    rw [hfirst, hsecond, hwhole, Progress.finish_behind, Progress.finish_behind,
      Progress.add_of_nil hp, Progress.add_of_nil hp]
    simp [Progress.behind, Progress.add]
    exact .together

end MachineConfig.Template
