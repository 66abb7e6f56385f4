import MachineConfig.Proofs.Template.Exchange
import MachineConfig.Proofs.Template.Replacement
import MachineConfig.Proofs.Template.Unnoticed

/-!
Opening tags that are never closed are just text. With another text without braces in the place of
such a tag, a document has the same tree apart from that text (`Tree.isSameBut_of_unclosed`), if the
text makes no new tag and no else tag is kept from a block that is closed. The document
`hiddenElse` shows what such an else tag does.
-/

namespace MachineConfig.Template

namespace Token

theorem start_ofPieces {start : Nat} {ps : List Piece} (h : ∀ p ∈ ps, p.chars ≠ []) :
    ((ofPieces start ps).map (·.start)).Pairwise (· < ·) ∧
      ∀ t ∈ ofPieces start ps, start ≤ t.start := by
  induction ps generalizing start with
  | nil => simp [ofPieces]
  | cons p ps ih =>
    rw [List.forall_mem_cons] at h
    have hpos : 0 < p.chars.length := List.length_pos_iff.mpr h.1
    obtain ⟨hrest, hle⟩ := @ih (start + p.chars.length) h.2
    simp only [ofPieces, List.map_cons, List.pairwise_cons, List.mem_map, List.forall_mem_cons,
      Nat.le_refl, true_and]
    refine ⟨⟨?_, hrest⟩, fun t ht => ?_⟩
    · rintro _ ⟨t, ht, rfl⟩
      have := hle t ht
      omega
    · have := hle t ht
      omega

/-- No two tokens of a document start at one place. -/
theorem nodup_start_scan (document : String) : ((scan document).map (·.start)).Nodup := by
  have hne : ∀ p ∈ Piece.split document.toList, p.chars ≠ [] := fun p hp =>
    Piece.chars_ne_nil_of_mem_splitFrom hp
  exact (start_ofPieces hne).1.imp Nat.ne_of_lt

/-- A token in the middle of others comes from a piece in the middle of others. -/
theorem exists_of_ofPieces_eq {start : Nat} {ps : List Piece} {before after : List Token}
    {t : Token} (h : ofPieces start ps = before ++ t :: after) :
    ∃ ps' p qs' stop, ps = ps' ++ p :: qs' ∧ before = ofPieces start ps' ∧
      t.role = .ofPiece p ∧ t.text = String.ofList p.chars ∧ after = ofPieces stop qs' := by
  induction ps generalizing start before with
  | nil => simp [ofPieces] at h
  | cons p ps ih =>
    rw [ofPieces] at h
    cases before with
    | nil =>
      cases h
      exact ⟨[], p, ps, _, rfl, rfl, rfl, rfl, rfl⟩
    | cons b before =>
      rw [List.cons_append, List.cons.injEq] at h
      obtain ⟨rfl, h⟩ := h
      obtain ⟨ps', p', qs', stop, rfl, rfl, hrole, htext, hafter⟩ := ih h
      exact ⟨p :: ps', p', qs', stop, rfl, rfl, hrole, htext, hafter⟩

theorem role_of_mem_runs {start : Nat} {runs : List (List Char)} {t : Token}
    (h : t ∈ ofPieces start (runs.map .run)) : t.role = .text := by
  induction runs generalizing start with
  | nil => simp [ofPieces] at h
  | cons cs runs ih =>
    rw [List.map_cons, ofPieces, List.mem_cons] at h
    rcases h with rfl | h
    · rfl
    · exact ih h

theorem spelled_runs (start : Nat) (runs : List (List Char)) :
    spelled (ofPieces start (runs.map .run)) = String.ofList runs.flatten := by
  rw [spelled_ofPieces]
  induction runs with
  | nil => rfl
  | cons cs runs ih =>
    rw [List.map_cons, Piece.spelled_cons, String.ofList_append, ih, ← String.ofList_append]
    rfl

/-- With a text without braces in the place of a tag, the tokens are the same but for those runs
which that text is now part of. -/
theorem exists_scan_replaced {document s : String} {before after : List Token} {t : Token}
    (hscan : scan document = before ++ t :: after) (htag : t.role ≠ .text)
    (hs : ∀ c ∈ s.toList, isBrace c = false)
    (hcut : ¬Piece.Straddles (spelled before).toList (s ++ spelled after).toList) :
    ∃ ts us us' lefts rights news, before = ts ++ lefts ∧ after = rights ++ us ∧
      scan (spelled before ++ s ++ spelled after) = ts ++ news ++ us' ∧
      List.Forall₂ Alike us us' ∧ (∀ l ∈ lefts, l.role = .text) ∧ (∀ r ∈ rights, r.role = .text) ∧
      (∀ n ∈ news, n.role = .text) ∧ spelled news = spelled lefts ++ s ++ spelled rights := by
  obtain ⟨ps, p, qs, stop, hsplit, rfl, hpiece, -, rfl⟩ := exists_of_ofPieces_eq hscan
  obtain ⟨inner, rfl⟩ : ∃ inner, p = .tag inner := by
    cases p with
    | run cs => exact absurd hpiece htag
    | tag inner => exact ⟨inner, rfl⟩
  simp only [spelled_ofPieces, String.toList_ofList, String.toList_append] at hcut
  obtain ⟨ps, qs, lefts, rights, news, rfl, rfl, hreplaced, hflatten⟩ :=
    Piece.exists_split_replaced hsplit hs hcut
  have hscan' : scan (spelled (ofPieces 0 (ps ++ lefts.map .run)) ++ s ++
      spelled (ofPieces stop (rights.map .run ++ qs))) =
      ofPieces 0 (ps ++ news.map .run ++ qs) := by
    rw [scan, ← hreplaced]
    simp [spelled_ofPieces]
  rw [hscan']
  simp only [ofPieces_append]
  refine ⟨_, _, _, _, _, _, rfl, rfl, rfl, ofPieces_alike _ _ qs, fun _ => role_of_mem_runs,
    fun _ => role_of_mem_runs, fun _ => role_of_mem_runs, ?_⟩
  simp [spelled_runs, hflatten, String.append_assoc]

end Token

namespace Node

mutual

/-- What a node holds besides texts: its names, and its blocks with where their branches end. -/
def outline : Node → List String
  | text _ => []
  | scalar name _ => [name]
  | conditional condition negate whenTrue whenFalse _ =>
    (if negate then "unless" else "if") :: condition :: outlines whenTrue ++
      "else" :: outlines whenFalse ++ ["end"]
  | loop array body _ => "each" :: array :: outlines body ++ ["end"]

def outlines : List Node → List String
  | [] => []
  | n :: ns => outline n ++ outlines ns

end

theorem outlines_append (ns ms : List Node) : outlines (ns ++ ms) = outlines ns ++ outlines ms := by
  induction ns with
  | nil => rfl
  | cons n ns ih => rw [List.cons_append, outlines, ih, outlines, List.append_assoc]

theorem outlines_texts (texts : List String) : outlines (texts.map .text) = [] := by
  induction texts with
  | nil => rfl
  | cons s texts ih => rw [List.map_cons, outlines, ih]; rfl

/-- Exchanging texts does not touch anything else. -/
theorem Exchanged.outlines_eq {olds news : List String} {n : Nat} {ns ms : List Node}
    (h : Exchanged (olds.map .text) (news.map .text) n ns ms) : outlines ns = outlines ms := by
  induction h with
  | nil => rfl
  | here _ ih =>
    rw [outlines_append, outlines_append, outlines_texts, outlines_texts, ih]
  | same _ ih => rw [outlines, outlines, ih]
  | conditional _ _ _ ihTrue ihFalse ih =>
    rw [outlines, outlines, outline, outline, ihTrue, ihFalse, ih]
  | loop _ _ ihBody ih => rw [outlines, outlines, outline, outline, ihBody, ih]

end Node

namespace Tree

/-- While it is open, the block of `t` does not come between an else tag and a block that is
closed. -/
structure IsUnnoticed (document : String) (t : Token) : Prop where
  /-- Where the block is the innermost one, directly inside an if block that would take an else tag
  which is read now, that one is not closed. (It never is if the block is an if block too: closing
  tags go to the inner one first.) -/
  otherwise : ∀ ts e us b c bs, Token.scan document = ts ++ e :: us → e.role = .otherwise →
    (Progress.upTo document ts).blocks = b :: c :: bs → b.opener = t → b.block ≠ .ifBlock →
    c.takesElse → c.opener ∉ closedTags document
  /-- Where another loop cannot be one because the block is, the block that this would be directly
  inside takes no else tag later on, or is not closed. -/
  nested : ∀ ts e us o vs array b bs c cs,
    Token.scan document = ts ++ e :: us ++ o :: vs → e.role = .opener .eachBlock array →
    (Progress.upTo document ts).blocks = b :: bs →
    (∃ d ∈ b :: bs, d.opener = t ∧ d.block = .eachBlock) → o.role = .otherwise →
    (Progress.upTo document (ts ++ e :: us)).blocks = c :: cs → c.opener = b.opener →
    c.takesElse → c.opener ∉ closedTags document

variable {document : String} {before after : List Token} {t : Token}

/-- What this says of the frames. -/
theorem IsUnnoticed.frames (h : IsUnnoticed document t)
    (hscan : Token.scan document = before ++ t :: after) (ht : t ∉ closedTags document) :
    Frame.Unnoticed (closedTags document) t ((before ++ [t]).foldl Frame.step []) after := by
  have hforetells : Frame.Foretells (closedTags document) [] (Token.scan document) := by
    rw [closedTags_eq]
    exact Frame.foretells_closed (.of_map _ (Token.nodup_start_scan document))
  constructor
  · intro us e vs f g rest hafter he hfold hf hg
    have hsplit : Token.scan document = (before ++ t :: us) ++ e :: vs := by
      rw [hscan, hafter]
      simp
    have hframes := Progress.frames_upTo document (before ++ t :: us)
    rw [List.append_cons, List.foldl_append, hfold] at hframes
    by_cases hblock : f.block = .ifBlock
    · have hg' : g.block = .ifBlock := by
        simp only [Frame.takesElse, Bool.and_eq_true, decide_eq_true_eq] at hg
        exact hg.1
      have hlater : Frame.Foretells (closedTags document) ([] ++ f :: g :: rest) (e :: vs) := by
        have := Frame.Foretells.append (hsplit ▸ hforetells)
        rwa [List.append_cons, List.foldl_append, hfold] at this
      exact hlater.not_mem_outer (hblock.trans hg'.symm) (hf ▸ ht)
    · obtain ⟨b, bs, hblocks, rfl, hbs⟩ := List.map_eq_cons_iff.mp hframes
      obtain ⟨c, cs, rfl, rfl, -⟩ := List.map_eq_cons_iff.mp hbs
      rw [← List.append_cons] at hblocks
      exact h.otherwise _ e vs b c cs hsplit he hblocks hf hblock (by simpa using hg)
  · intro us e vs array f rest hafter he hfold hloop us' o vs' f' rest' hvs ho hfold' hopener htakes
    have hsplit : Token.scan document = (before ++ t :: us) ++ e :: us' ++ o :: vs' := by
      rw [hscan, hafter, hvs]
      simp
    have hframes := Progress.frames_upTo document (before ++ t :: us)
    have hframes' := Progress.frames_upTo document (before ++ t :: us ++ e :: us')
    rw [List.foldl_append, List.append_cons before t us, List.foldl_append, hfold, List.foldl_cons,
      hfold'] at hframes'
    rw [List.append_cons, List.foldl_append, hfold] at hframes
    obtain ⟨b, bs, hblocks, rfl, rfl⟩ := List.map_eq_cons_iff.mp hframes
    obtain ⟨c, cs, hblocks', rfl, -⟩ := List.map_eq_cons_iff.mp hframes'
    rw [← List.append_cons] at hblocks hblocks'
    have hloop' : ∃ d ∈ b :: bs, d.opener = t ∧ d.block = .eachBlock := by
      rw [← List.map_cons] at hloop
      obtain ⟨_, hframe, hd⟩ := hloop
      obtain ⟨d, hmem, rfl⟩ := List.mem_map.mp hframe
      exact ⟨d, hmem, hd⟩
    exact h.nested _ e us' o vs' array b bs c cs hsplit he hblocks hloop' ho hblocks' hopener
      (by simpa using htakes)

/-- With `s` in the place of the tag `t`, the document has the same tree but for one place, where
the text that holds `s`, together with what is directly before and behind it, stands for the same
with the tag. -/
def IsSameBut (before : List Token) (t : Token) (after : List Token) (s : String) : Prop :=
  ∃ left right : String, ∃ olds news : List String,
    String.join olds = left ++ t.text ++ right ∧ String.join news = left ++ s ++ right ∧
      Node.Exchanged (olds.map .text) (news.map .text) 1
        (ofDocument (Token.spelled before ++ t.text ++ Token.spelled after)).nodes
        (ofDocument (Token.spelled before ++ s ++ Token.spelled after)).nodes

/-- An opening tag that is never closed is just text. -/
theorem isSameBut_of_unclosed {block : Block} {arg s : String}
    (hscan : Token.scan document = before ++ t :: after) (hrole : t.role = .opener block arg)
    (ht : t ∉ closedTags document) (hunnoticed : IsUnnoticed document t)
    (hs : ∀ c ∈ s.toList, isBrace c = false)
    (hcut : ¬Piece.Straddles (Token.spelled before).toList (s ++ Token.spelled after).toList) :
    IsSameBut before t after s := by
  have hdocument : document = Token.spelled before ++ t.text ++ Token.spelled after := by
    rw [← Token.spelled_scan document, hscan]
    simp [String.append_assoc]
  have hunnoticed' := hunnoticed.frames hscan ht
  have hnodup := Token.nodup_start_scan document
  rw [closedTags_eq, hscan] at ht hunnoticed'
  rw [hscan] at hnodup
  have hnodes := Progress.nodes_asText hrole hnodup ht hunnoticed'
  rw [← hscan] at hnodes
  obtain ⟨ts, us, us', lefts, rights, news, rfl, rfl, hscan', hus, hlefts, hrights, hnews,
      hspelled⟩ := Token.exists_scan_replaced hscan (by simp [hrole]) hs hcut
  have holds : ∀ o ∈ lefts ++ t.asText :: rights, o.role = .text := by
    simp only [List.forall_mem_append, List.forall_mem_cons]
    exact ⟨hlefts, rfl, hrights⟩
  have hexchanged := Progress.exchanged_texts
    (List.forall₂_same.mpr fun _ _ => ⟨rfl, rfl⟩ : List.Forall₂ Token.Alike ts ts) hus holds hnews
  refine ⟨Token.spelled lefts, Token.spelled rights, (lefts ++ t.asText :: rights).map (·.text),
    news.map (·.text), ?_, ?_, ?_⟩
  · exact (Token.spelled_append lefts _).trans (by simp [Token.asText, String.append_assoc])
  · exact hspelled
  · rw [← hdocument, nodes_ofDocument, hnodes, nodes_ofDocument, hscan']
    simpa [Function.comp_def] using hexchanged

/-- A tag that does not keep an else tag from its block, which has one already. -/
theorem isSameBut_of_unclosed_secondElse :
    let document := "\x7b\x7b#if a\x7d\x7dx\x7b\x7b#else\x7d\x7dy" ++
      "\x7b\x7b#unless b\x7d\x7d\x7b\x7b#else\x7d\x7dz\x7b\x7b/if\x7d\x7d"
    let before := (Token.scan document).take 4
    let after := (Token.scan document).drop 5
    let t : Token := ⟨.opener .unlessBlock "b", "\x7b\x7b#unless b\x7d\x7d", 20, 33⟩
    Token.scan document = before ++ t :: after ∧ t.role = .opener .unlessBlock "b" ∧
      t ∉ closedTags document ∧ IsUnnoticed document t ∧ (∀ c ∈ ", ".toList, isBrace c = false) ∧
      ¬Piece.Straddles (Token.spelled before).toList (", " ++ Token.spelled after).toList ∧
      IsSameBut before t after ", " := by
  intro document before after t
  have hscan : Token.scan document = before ++ t :: after := by decide +kernel
  have ht : t ∉ closedTags document := by decide +kernel
  have hunnoticed : IsUnnoticed document t := by
    constructor
    · intro ts e us b c bs hsplit he hblocks _ _ htakes
      have htaken : ∀ i < 8, (Token.scan document)[i]?.map (·.role) = some .otherwise →
          ∀ d ∈ (Progress.upTo document ((Token.scan document).take i)).blocks.tail.head?,
            ¬d.takesElse := by decide +kernel
      have hlength : ts.length < 8 := by
        have hwhole : (Token.scan document).length = 8 := by decide +kernel
        rw [hsplit, List.length_append, List.length_cons] at hwhole
        omega
      refine absurd htakes (htaken ts.length hlength ?_ c ?_)
      · rw [hsplit, List.getElem?_append_right (Nat.le_refl _), Nat.sub_self]
        simp [he]
      · rw [hsplit, List.take_left, hblocks]
        rfl
    · intro ts e us o vs array b bs c cs hsplit he
      have hroles : (Token.scan document).map (·.role) = [.opener .ifBlock "a", .text, .otherwise,
          .text, .opener .unlessBlock "b", .otherwise, .text, .closer .ifBlock] := by decide +kernel
      have hmem : .opener .eachBlock array ∈ (Token.scan document).map (·.role) := by
        simp [hsplit, he]
      simp [hroles] at hmem
  have hs : ∀ c ∈ ", ".toList, isBrace c = false := by simp [isBrace]
  have hcut : ¬Piece.Straddles (Token.spelled before).toList
      (", " ++ Token.spelled after).toList := by decide +kernel
  exact ⟨hscan, rfl, ht, hunnoticed, hs, hcut,
    isSameBut_of_unclosed hscan rfl ht hunnoticed hs hcut⟩

/-- Some opening tag of the document is never closed, and yet putting `s` in its place changes more
than that text. -/
def TellsApart (document s : String) : Prop :=
  ∃ before t after block arg, Token.scan document = before ++ t :: after ∧
    t.role = .opener block arg ∧ t ∉ closedTags document ∧ (∀ c ∈ s.toList, isBrace c = false) ∧
    ¬IsSameBut before t after s

/-- The unless block keeps the else tag from the if block. -/
def hiddenElse : String :=
  "\x7b\x7b#if a\x7d\x7d\x7b\x7b#unless b\x7d\x7d\x7b\x7b#else\x7d\x7d" ++
    "\x7b\x7bc\x7d\x7d\x7b\x7b/if\x7d\x7d"

/-- Without the first loop the second one would be one, and keep the else tag from the if block. -/
def hiddenLoop : String :=
  "\x7b\x7b#each a\x7d\x7d\x7b\x7b#if b\x7d\x7d\x7b\x7b#each c\x7d\x7d\x7b\x7b#else\x7d\x7d" ++
    "\x7b\x7bd\x7d\x7d\x7b\x7b/if\x7d\x7d"

/-- The braces around the tag make a tag of what is put in its place. -/
def bracedTag : String := "\x7b\x7b\x7b\x7b#if a\x7d\x7d\x7d\x7d"

theorem tellsApart_unclosed :
    TellsApart hiddenElse "" ∧ TellsApart hiddenLoop "" ∧ TellsApart bracedTag "x" := by
  let unlessTag : Token := ⟨.opener .unlessBlock "b", "\x7b\x7b#unless b\x7d\x7d", 9, 22⟩
  let eachTag : Token := ⟨.opener .eachBlock "a", "\x7b\x7b#each a\x7d\x7d", 0, 11⟩
  let ifTag : Token := ⟨.opener .ifBlock "a", "\x7b\x7b#if a\x7d\x7d", 2, 11⟩
  refine ⟨⟨(Token.scan hiddenElse).take 1, unlessTag, (Token.scan hiddenElse).drop 2, _, _,
      by decide +kernel, rfl, by decide +kernel, by simp [isBrace], ?_⟩,
    ⟨[], eachTag, (Token.scan hiddenLoop).drop 1, _, _,
      by decide +kernel, rfl, by decide +kernel, by simp [isBrace], ?_⟩,
    ⟨(Token.scan bracedTag).take 1, ifTag, (Token.scan bracedTag).drop 2, _, _,
      by decide +kernel, rfl, by decide +kernel, by simp [isBrace], ?_⟩⟩
  all_goals
    rintro ⟨left, right, olds, news, -, -, hexchanged⟩
    have houtlines := hexchanged.outlines_eq
    revert houtlines
    decide +kernel

end Tree

end MachineConfig.Template
