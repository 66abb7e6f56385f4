import MachineConfig.Proofs.Template.BalanceLemmas
import MachineConfig.Proofs.Template.FormLemmas
import MachineConfig.Proofs.Template.Reading

/-!
The quick check against the reader. The check counts texts, the reader matches tags. Where every tag
of a block has become part of one, there are as many opening as closing tags of each kind
(`ReadsAs.areMatched`); where opening tags are written as the check looks for them, these are what
it counts, and it finds nothing (`faults_eq_nil`).
-/

namespace MachineConfig.Template

open Text

/-! ## The tags of blocks -/

namespace Role

def opens (block : Block) : Role → Bool
  | opener other _ => other = block
  | _ => false

def closes (block : Block) : Role → Bool
  | closer other => other = block
  | _ => false

/-- It opens, divides or closes a block. -/
def isOfBlock : Role → Bool
  | opener _ _ | otherwise | closer _ => true
  | _ => false

section

variable (block other : Block) (arg : String)

@[simp] theorem opens_opener : (opener other arg).opens block = decide (other = block) := rfl

@[simp] theorem opens_otherwise : otherwise.opens block = false := rfl

@[simp] theorem opens_closer : (closer other).opens block = false := rfl

@[simp] theorem closes_opener : (opener other arg).closes block = false := rfl

@[simp] theorem closes_otherwise : otherwise.closes block = false := rfl

@[simp] theorem closes_closer : (closer other).closes block = decide (other = block) := rfl

end

theorem opens_eq_false {role : Role} (h : role.isOfBlock = false) (block : Block) :
    role.opens block = false := by
  cases role <;> first | rfl | cases h

theorem closes_eq_false {role : Role} (h : role.isOfBlock = false) (block : Block) :
    role.closes block = false := by
  cases role <;> first | rfl | cases h

end Role

/-- Some tag in a text is that of a block. -/
def holdsBlockTag (text : String) : Bool := (Token.scan text).any (·.role.isOfBlock)

theorem exists_piece_of_mem_ofPieces {start : Nat} {ps : List Piece} {t : Token}
    (h : t ∈ Token.ofPieces start ps) :
    ∃ p ∈ ps, t.role = .ofPiece p ∧ t.text = String.ofList p.chars := by
  induction ps generalizing start with
  | nil => cases h
  | cons p ps ih =>
    rw [Token.ofPieces, List.mem_cons] at h
    rcases h with rfl | h
    · exact ⟨p, List.mem_cons_self .., rfl, rfl⟩
    · obtain ⟨q, hq, hrole, htext⟩ := ih h
      exact ⟨q, List.mem_cons_of_mem _ hq, hrole, htext⟩

/-- The tag of a block is one by itself too. -/
theorem holdsBlockTag_of_mem_scan {document : String} {t : Token} (h : t ∈ Token.scan document)
    (hrole : t.role.isOfBlock) : holdsBlockTag t.text := by
  obtain ⟨p, hp, hpiece, htext⟩ := exists_piece_of_mem_ofPieces h
  cases p with
  | run cs =>
    rw [hpiece] at hrole
    cases hrole
  | tag inner =>
    have hsplit := Piece.split_tag_append (Piece.isBrace_of_tag_mem_splitFrom hp) []
    rw [List.append_nil] at hsplit
    rw [holdsBlockTag, htext, Token.scan, String.toList_ofList, hsplit]
    simpa [Token.ofPieces, Piece.split, Piece.splitFrom, hpiece] using hrole

theorem countP_ofPieces (f : Role → Bool) (start : Nat) (ps : List Piece) :
    ((Token.ofPieces start ps).countP fun t => f t.role) = ps.countP fun p => f (.ofPiece p) := by
  induction ps generalizing start with
  | nil => rfl
  | cons p ps ih => rw [Token.ofPieces, List.countP_cons, List.countP_cons, ih]

/-! ## Trees without stray tags -/

namespace Node

mutual

/-- The plain texts of a node, at every depth. -/
def texts : Node → List String
  | text value => [value]
  | scalar _ _ => []
  | conditional _ _ whenTrue whenFalse _ => textsOf whenTrue ++ textsOf whenFalse
  | loop _ body _ => textsOf body

/-- The plain texts of nodes, at every depth. -/
def textsOf : List Node → List String
  | [] => []
  | n :: ns => n.texts ++ textsOf ns

end

end Node

/-- The reader takes every `{{` for a tag, and every tag of a block for part of one. -/
structure IsUnderstood (document : String) : Prop where
  opensTags : OpensTags document.toList
  texts : ∀ text ∈ Node.textsOf (Tree.ofDocument document).nodes, holdsBlockTag text = false

instance (document : String) : Decidable (IsUnderstood document) :=
  decidable_of_iff (OpensTags document.toList ∧
      ∀ text ∈ Node.textsOf (Tree.ofDocument document).nodes, holdsBlockTag text = false)
    ⟨fun h => ⟨h.1, h.2⟩, fun h => ⟨h.1, h.2⟩⟩

/-- Tags that open and that close a block of this kind are as many. -/
def AreMatched (block : Block) (ts : List Token) : Prop :=
  (ts.countP fun t => t.role.opens block) = ts.countP fun t => t.role.closes block

section

variable {block : Block} {ts us : List Token}

theorem AreMatched.cons (h : AreMatched block ts) {t : Token} (hopens : t.role.opens block = false)
    (hcloses : t.role.closes block = false) : AreMatched block (t :: ts) := by
  rwa [AreMatched, List.countP_cons, List.countP_cons, hopens, hcloses]

theorem AreMatched.append (h : AreMatched block ts) (h' : AreMatched block us) :
    AreMatched block (ts ++ us) := by
  rw [AreMatched, List.countP_append, List.countP_append, h, h']

theorem AreMatched.enclosed {kind : Block} {arg : String} {opener closer : Token}
    (hopener : opener.role = .opener kind arg) (hcloser : closer.role = .closer kind)
    (hbody : AreMatched block us) (hrest : AreMatched block ts) :
    AreMatched block (opener :: us ++ closer :: ts) := by
  rw [AreMatched] at *
  simp only [List.cons_append, List.countP_cons, List.countP_append, hopener, hcloser,
    Role.opens_opener, Role.opens_closer, Role.closes_opener, Role.closes_closer, hbody, hrest]
  omega

end

/-- Where no tag of a block is left as text, every tag that opens one has one that closes it. -/
theorem ReadsAs.areMatched {ts : List Token} {ns : List Node} (h : ReadsAs ts ns)
    (htags : ∀ t ∈ ts, t.role.isOfBlock → holdsBlockTag t.text)
    (htexts : ∀ text ∈ Node.textsOf ns, holdsBlockTag text = false) (block : Block) :
    AreMatched block ts := by
  induction h with
  | nil => rfl
  | @text token ts ns _ _ ih =>
    simp only [Node.textsOf, Node.texts, List.mem_append, List.mem_singleton] at htexts
    have hrest := ih (fun t ht => htags t (List.mem_cons_of_mem _ ht))
      fun text hmem => htexts text (.inr hmem)
    have hrole : token.role.isOfBlock = false := by
      rw [Bool.eq_false_iff]
      intro hrole
      have hholds := htags token (List.mem_cons_self ..) hrole
      rw [htexts token.text (.inl rfl)] at hholds
      cases hholds
    exact hrest.cons (Role.opens_eq_false hrole _) (Role.closes_eq_false hrole _)
  | scalar hrole _ ih =>
    have hrest := ih (fun t ht => htags t (List.mem_cons_of_mem _ ht)) htexts
    exact hrest.cons (by rw [hrole]; rfl) (by rw [hrole]; rfl)
  | conditional hopener hcloser _ _ ihBody ih =>
    simp only [Node.textsOf, Node.texts, List.mem_append, List.append_nil] at htexts
    have hbody := ihBody (fun t ht => htags t (by simp [ht])) fun text h => htexts text (.inl h)
    have hrest := ih (fun t ht => htags t (by simp [ht])) fun text h => htexts text (.inr h)
    exact .enclosed hopener hcloser hbody hrest
  | ifElse hopener htag hcloser _ _ _ ihTrue ihFalse ih =>
    simp only [Node.textsOf, Node.texts, List.mem_append, or_assoc] at htexts
    have htrue := ihTrue (fun t ht => htags t (by simp [ht])) fun text h => htexts text (.inl h)
    have hfalse := ihFalse (fun t ht => htags t (by simp [ht])) fun text h =>
      htexts text (.inr (.inl h))
    have hrest := ih (fun t ht => htags t (by simp [ht])) fun text h => htexts text (.inr (.inr h))
    have helse := hfalse.cons (by rw [htag]; rfl) (by rw [htag]; rfl)
    simpa only [List.cons_append, List.append_assoc] using
      AreMatched.enclosed hopener hcloser (htrue.append helse) hrest
  | loop hopener hcloser _ _ ihBody ih =>
    simp only [Node.textsOf, Node.texts, List.mem_append] at htexts
    have hbody := ihBody (fun t ht => htags t (by simp [ht])) fun text h => htexts text (.inl h)
    have hrest := ih (fun t ht => htags t (by simp [ht])) fun text h => htexts text (.inr h)
    exact .enclosed hopener hcloser hbody hrest

/-! ## What the check counts -/

/-- What the check takes for an opening tag. -/
def Block.opening (block : Block) : String := "\x7b\x7b#" ++ block.keyword ++ " "

/-- What the check takes for a closing tag. -/
def Block.closing (block : Block) : String := "\x7b\x7b/" ++ block.keyword ++ "\x7d\x7d"

/-- The check and the reader take the same tags for opening ones: those of blocks, and no others,
have a space behind their keyword. -/
def IsSpaced (document : String) : Prop :=
  ∀ p ∈ Piece.split document.toList, ∀ block : Block,
    (Role.ofPiece p).opens block = p.isTagWith block.opening.toList

instance (document : String) : Decidable (IsSpaced document) :=
  decidable_of_iff (∀ p ∈ Piece.split document.toList, ∀ block ∈ blocks,
      (Role.ofPiece p).opens block = p.isTagWith block.opening.toList) <| by
    refine forall₂_congr fun p _ => ⟨fun h block => h block ?_, fun h block _ => h block⟩
    cases block <;> simp [blocks]

theorem toList_opening (block : Block) :
    block.opening.toList = '{' :: '{' :: ('#' :: block.keyword.toList ++ [' ']) := by
  simp [Block.opening]

theorem toList_closing (block : Block) :
    block.closing.toList = (Piece.tag ('/' :: block.keyword.toList)).chars := by
  simp [Block.closing, Piece.chars]

theorem isBrace_closing (block : Block) :
    ∀ c ∈ '/' :: block.keyword.toList, isBrace c = false :=
  Form.isBrace_of_all (by cases block <;> decide)

/-- Where every `{{` starts a tag, an opening tag is found at the tags that start like one. -/
theorem count_opening {document : String} (h : OpensTags document.toList)
    (hspaced : IsSpaced document) (block : Block) :
    Text.count block.opening document.toList =
      (Token.scan document).countP fun t => t.role.opens block := by
  have hright : '}' ∉ block.opening.toList := by
    rw [toList_opening]
    cases block <;> decide
  have hcount : Text.count block.opening document.toList =
      (Piece.split document.toList).countP (Piece.isTagWith block.opening.toList) := by
    rw [Text.count]
    rw [toList_opening] at hright ⊢
    refine Piece.countFrom_eq_countP_split fun rest hrest hword => ?_
    obtain ⟨inner, hinner⟩ := Option.isSome_iff_exists.1 <| h rest hrest <|
      List.IsPrefix.trans ⟨_, rfl⟩ hword
    obtain ⟨-, hchars⟩ := Piece.exists_eq_chars_append hinner
    refine ⟨inner, hinner, ?_⟩
    -- Otherwise the tag would end inside the word.
    refine (List.prefix_or_prefix_of_prefix hword ⟨_, hchars.symm⟩).resolve_right fun hlong => ?_
    exact hright (hlong.subset (by simp [Piece.chars]))
  rw [hcount, Token.scan, countP_ofPieces]
  exact List.countP_congr fun p hp => by rw [hspaced p hp block]

theorem exists_of_openerOf? {inner : List Char} {role : Role} (h : openerOf? inner = some role) :
    ∃ block arg, role = .opener block arg := by
  unfold openerOf? at h
  split at h
  · obtain ⟨block, -, hblock⟩ := List.exists_of_findSome?_eq_some h
    obtain ⟨arg, -, rfl⟩ := Option.map_eq_some_iff.1 hblock
    exact ⟨block, arg, rfl⟩
  · cases h

/-- A tag closes a block if it holds a slash and the keyword, and nothing else. -/
theorem closes_ofInner {inner : List Char} {block : Block} :
    (Role.ofInner inner).closes block ↔ inner = '/' :: block.keyword.toList := by
  refine ⟨fun h => ?_, ?_⟩
  · rw [Role.ofInner] at h
    split at h
    · next role hrole =>
      cases hopener : openerOf? inner with
      | some other =>
        obtain ⟨kind, arg, rfl⟩ := exists_of_openerOf? hopener
        obtain rfl : Role.opener kind arg = role := by simpa [hopener] using hrole
        cases h
      | none =>
        have hcloser : closerOf? inner = some role := by simpa [hopener] using hrole
        obtain ⟨other, hother, rfl⟩ := Option.map_eq_some_iff.1 hcloser
        obtain rfl : other = block := by simpa using h
        simpa using List.find?_some hother
    · dsimp only at h
      split at h
      · cases h
      · split at h <;> cases h
  · rintro rfl
    rw [Role.ofInner_closer]
    exact decide_eq_true rfl

theorem isTagWith_closing {inner : List Char} (h : ∀ c ∈ inner, isBrace c = false)
    {block : Block} : Piece.isTagWith block.closing.toList (.tag inner) ↔
      inner = '/' :: block.keyword.toList := by
  rw [Piece.isTagWith, toList_closing, List.isPrefixOf_iff_prefix]
  constructor
  · rintro ⟨more, hmore⟩
    have hleading := Piece.leadingTag?_chars_append (isBrace_closing block) more
    rw [hmore, ← List.append_nil (Piece.chars _), Piece.leadingTag?_chars_append h] at hleading
    exact Option.some.inj hleading
  · rintro rfl
    exact List.prefix_refl _

/-- A closing tag is found wherever it stands. -/
theorem count_closing (block : Block) (document : String) :
    Text.count block.closing document.toList =
      (Token.scan document).countP fun t => t.role.closes block := by
  have hcount : Text.count block.closing document.toList =
      (Piece.split document.toList).countP (Piece.isTagWith block.closing.toList) := by
    rw [Text.count, toList_closing]
    refine Piece.countFrom_eq_countP_split ?_
    rintro rest - ⟨more, rfl⟩
    exact ⟨_, Piece.leadingTag?_chars_append (isBrace_closing block) more, List.prefix_refl _⟩
  rw [hcount, Token.scan, countP_ofPieces]
  refine List.countP_congr fun p hp => ?_
  cases p with
  | run cs => rfl
  | tag inner =>
    rw [Role.ofPiece, closes_ofInner, isTagWith_closing (Piece.isBrace_of_tag_mem_splitFrom hp)]

/-- The check finds nothing in a document that the reader understands, if it takes the same tags for
opening ones. -/
theorem faults_eq_nil {document : String} (h : IsUnderstood document)
    (hspaced : IsSpaced document) : faults document = [] := by
  have hread := Tree.readsAs_ofDocument document
  have hmatched (block : Block) : unmatched? document.toList block.keyword = none := by
    have hcount : Text.count block.opening document.toList =
        Text.count block.closing document.toList := by
      rw [count_opening h.opensTags hspaced, count_closing]
      exact hread.areMatched (fun t ht => holdsBlockTag_of_mem_scan ht) h.texts block
    exact if_pos hcount
  have hif : unmatched? document.toList "if" = none := hmatched .ifBlock
  have hunless : unmatched? document.toList "unless" = none := hmatched .unlessBlock
  have heach : unmatched? document.toList "each" = none := hmatched .eachBlock
  simp [faults, hif, hunless, heach, hasUnclosedTag_eq_false h.opensTags]

/-- Blocks in blocks, with an else tag and some blanks. -/
def nestedDocument : String :=
  "\x7b\x7b#if a == 'b'\x7d\x7d\x7b x" ++
    "\x7b\x7b#unless  c\x7d\x7d\x7b\x7b y \x7d\x7d\x7b\x7b/unless\x7d\x7d\x7b\x7b #else\x7d\x7d" ++
    "\x7b\x7b#each hosts \x7d\x7d\x7b\x7bname\x7d\x7d\x7b\x7b/each\x7d\x7d\x7b\x7b/if\x7d\x7d"

theorem faults_nestedDocument : faults nestedDocument = [] :=
  faults_eq_nil (by decide +kernel) (by decide +kernel)

/-- A document can be understood and have faults: the check misses an opening tag with a tab behind
its keyword, and takes one that names nothing for an opening tag. -/
theorem faults_of_not_isSpaced :
    (IsUnderstood "\x7b\x7b#if\tx\x7d\x7da\x7b\x7b/if\x7d\x7d" ∧
        faults "\x7b\x7b#if\tx\x7d\x7da\x7b\x7b/if\x7d\x7d" = [.unmatched "if" 0 1]) ∧
      IsUnderstood "\x7b\x7b#if \x7d\x7d" ∧
        faults "\x7b\x7b#if \x7d\x7d" = [.unmatched "if" 1 0] := by
  decide +kernel

end MachineConfig.Template
