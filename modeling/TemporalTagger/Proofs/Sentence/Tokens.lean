/-
The tokens of a text that is cut plainly. A place in the text lies between two tokens or blanks, or within a token; only
words have places within them, and beside such a place there are word characters and apostrophes alone. The tokens hold
every visible character once and no blank. Main facts: `exists_token_from`, `exists_token_to` and
`tokenize_partitions`.
-/
import TemporalTagger.Proofs.Sentence.Segment

namespace TemporalTagger

open Unicode Text

namespace Sentence

/-! ## Reading tokens -/

/-- Reads the token at the front of a text. -/
def readToken : Recogniser (List Char) := fun cs => (token? cs).map fun t => (t, t.length)

theorem tokenSpans_eq (start : Nat) (cs : List Char) :
    tokenSpans start cs = (placed start (scan readToken cs)).map fun x => ⟨x.1, x.1 + byteLength x.2⟩ := rfl

theorem wordRest_isPrefix (cs : List Char) : wordRest cs <+: cs := by
  fun_induction wordRest cs with
  | case1 => exact List.prefix_refl _
  | case2 c rest _ ih => exact List.cons_prefix_cons.2 ⟨rfl, ih⟩
  | case3 c rest _ _ ih => exact List.cons_prefix_cons.2 ⟨rfl, ih⟩
  | case4 c rest => exact List.nil_prefix

/-- A word goes on with word characters and apostrophes alone. -/
theorem of_mem_wordRest {d : Char} {cs : List Char} (h : d ∈ wordRest cs) :
    isWord d = true ∨ isApostrophe d = true := by
  fun_induction wordRest cs with
  | case1 => cases h
  | case2 c rest hword ih =>
    rcases List.mem_cons.1 h with rfl | h
    · exact .inl hword
    · exact ih h
  | case3 c rest _ happ ih =>
    rcases List.mem_cons.1 h with rfl | h
    · exact .inr (Bool.and_eq_true_iff.1 happ).1
    · exact ih h
  | case4 => cases h

theorem readToken_exact : readToken.Exact := by
  rintro (_ | ⟨c, cs⟩) a n h
  · cases h
  · obtain ⟨t, ht, heq⟩ := Option.map_eq_some_iff.1 h
    obtain ⟨rfl, rfl⟩ := Prod.mk.inj heq
    rw [token?] at ht
    split at ht
    · obtain rfl := Option.some.inj ht
      refine ⟨Nat.succ_pos _, ?_⟩
      rw [List.length_cons, List.take_succ_cons, ← List.prefix_iff_eq_take.1 (wordRest_isPrefix cs)]
    · split at ht
      · cases ht
      · obtain rfl := Option.some.inj ht
        exact ⟨Nat.one_pos, rfl⟩

/-- No token begins with a blank, and with every other character one does. -/
theorem readToken_eq_none_iff {c : Char} {cs : List Char} : readToken (c :: cs) = none ↔ isSpace c = true := by
  rw [readToken, Option.map_eq_none_iff, token?]
  constructor
  · intro h
    split at h
    · cases h
    · split at h
      next hspace => exact hspace
      next => cases h
  · intro h
    rw [if_neg (by rw [isWord_of_isSpace h]; exact Bool.false_ne_true), if_pos h]

/-- A token of two characters or more is a word. -/
theorem of_mem_readToken {cs t u : List Char} {n : Nat} (h : readToken cs = some (t ++ u, n)) (ht : t ≠ [])
    (hu : u ≠ []) {c : Char} (hc : c ∈ t ++ u) : isWord c = true ∨ isApostrophe c = true := by
  obtain ⟨w, hw, heq⟩ := Option.map_eq_some_iff.1 h
  obtain rfl : w = t ++ u := (Prod.mk.inj heq).1
  cases cs with
  | nil => cases hw
  | cons d cs =>
    rw [token?] at hw
    split at hw
    next hword =>
      rw [← Option.some.inj hw] at hc
      rcases List.mem_cons.1 hc with rfl | hc
      · exact .inl hword
      · exact of_mem_wordRest hc
    next =>
      split at hw
      · cases hw
      · -- a symbol stands alone
        have hlength := congrArg List.length (Option.some.inj hw)
        have := List.length_pos_of_ne_nil ht
        have := List.length_pos_of_ne_nil hu
        rw [List.length_append, List.length_singleton] at hlength
        omega

/-! ## Ends of tokens -/

theorem mem_tokens_tokenize {text : String} {start : Nat} {t : Token} :
    t ∈ (tokenize text start).tokens ↔ ∃ span ∈ tokenSpans start text.toList, ⟨span, none⟩ = t := by
  rw [← List.mem_map]
  exact (List.mergeSort_perm _ Token.before).mem_iff

/-- A token found after others lies where the text of those ends. -/
theorem mem_tokenSpans {start : Nat} {cs t post : List Char} {ps : List (Piece (List Char))}
    (h : scan readToken cs = ps ++ .found t :: scan readToken post) :
    ⟨start + byteLength (render id ps), start + byteLength (render id ps) + byteLength t⟩ ∈ tokenSpans start cs := by
  rw [tokenSpans_eq, h]
  exact List.mem_map_of_mem (mem_placed_append start ps t (scan readToken post))

/-- A token begins with every visible character, unless that goes on with a word. -/
theorem exists_token_from (start : Nat) (a b : List Char) {c : Char} (hc : isSpace c = false) :
    ∃ span ∈ tokenSpans start (a ++ c :: b), span.start = start + byteLength a ∨
      ∃ d, a.getLast? = some d ∧ (isWord d = true ∨ isApostrophe d = true) := by
  cases lies readToken_exact a (c :: b) with
  | between ps pieces before =>
    cases hr : readToken (c :: b) with
    | none =>
      rw [readToken_eq_none_iff.1 hr] at hc
      cases hc
    | some found =>
      obtain ⟨t, post, -, -, hscan⟩ := scan_of_exact readToken_exact hr
      rw [hscan] at pieces
      exact ⟨_, mem_tokenSpans pieces, .inl (by rw [before])⟩
  | within ps t u post n pieces before after left right found =>
    have hd : t.getLast? = some (t.getLast left) := List.getLast?_eq_some_getLast left
    refine ⟨_, mem_tokenSpans pieces, .inr ⟨_, by rw [before, List.getLast?_append, hd]; rfl, ?_⟩⟩
    exact of_mem_readToken found left right (List.mem_append_left u (List.getLast_mem left))

/-- A token ends with every visible character, unless a word goes on after that. -/
theorem exists_token_to (start : Nat) (a b : List Char) {c : Char} (hc : isSpace c = false) :
    ∃ span ∈ tokenSpans start (a ++ [c] ++ b), span.stop = start + byteLength (a ++ [c]) ∨
      ∃ d, b.head? = some d ∧ (isWord d = true ∨ isApostrophe d = true) := by
  cases lies readToken_exact (a ++ [c]) b with
  | between ps pieces before =>
    rcases List.eq_nil_or_concat ps with rfl | ⟨ps, p, rfl⟩
    · exact absurd before.symm (List.append_ne_nil_of_right_ne_nil a (List.cons_ne_nil c []))
    · have hscan : scan readToken (a ++ [c] ++ b) = ps ++ p :: scan readToken b := by
        rw [pieces, List.concat_eq_append, List.append_assoc, List.singleton_append]
      rw [List.concat_eq_append, render_append] at before
      -- the last piece before the place is visible, so it is no blank but a token
      cases p with
      | char d =>
        obtain ⟨-, hd⟩ := List.append_inj' (before : render id ps ++ [d] = a ++ [c]) rfl
        obtain rfl := List.head_eq_of_cons_eq hd
        obtain ⟨rest, hrest⟩ := exists_of_char_mem_scan (hscan ▸ List.mem_append_right ps List.mem_cons_self)
        rw [readToken_eq_none_iff.1 hrest] at hc
        cases hc
      | found t =>
        have hlast : render id [Piece.found t] = t := List.append_nil t
        exact ⟨_, mem_tokenSpans hscan, .inl (by rw [← before, hlast, byteLength_append, Nat.add_assoc])⟩
  | within ps t u post n pieces before after left right found =>
    have hd : u.head? = some (u.head right) := List.head?_eq_some_head right
    refine ⟨_, mem_tokenSpans pieces, .inr ⟨_, by rw [after, List.head?_append, hd]; rfl, ?_⟩⟩
    exact of_mem_readToken found left right (List.mem_append_right t (List.head_mem right))

/-! ## What tokens cover -/

theorem isSpace_of_isApostrophe {c : Char} (h : isApostrophe c = true) : isSpace c = false := by
  rw [isApostrophe, Bool.or_eq_true, decide_eq_true_eq, decide_eq_true_eq] at h
  rcases h with rfl | rfl <;> decide +kernel

theorem isSpace_of_isWord {c : Char} (h : isWord c = true) : isSpace c = false := by
  by_contra hspace
  rw [isWord_of_isSpace (by simpa using hspace)] at h
  cases h

/-- No blank is part of a token. -/
theorem isSpace_of_mem_readToken {cs t : List Char} {n : Nat} (h : readToken cs = some (t, n)) {c : Char} (hc : c ∈ t) :
    isSpace c = false := by
  obtain ⟨w, hw, heq⟩ := Option.map_eq_some_iff.1 h
  obtain rfl : w = t := (Prod.mk.inj heq).1
  cases cs with
  | nil => cases hw
  | cons d cs =>
    rw [token?] at hw
    split at hw
    next hword =>
      rw [← Option.some.inj hw] at hc
      rcases List.mem_cons.1 hc with rfl | hc
      · exact isSpace_of_isWord hword
      · exact (of_mem_wordRest hc).elim isSpace_of_isWord isSpace_of_isApostrophe
    next =>
      split at hw
      · cases hw
      next hspace =>
        rw [← Option.some.inj hw, List.mem_singleton] at hc
        rw [hc]
        simpa using hspace

/-- A word takes every word character that follows it. -/
theorem isWord_of_wordRest_eq {d : Char} {post : List Char} : ∀ {t : List Char}, wordRest (t ++ d :: post) = t →
    isWord d = false
  | [], h => by
    rw [List.nil_append, wordRest] at h
    split at h
    · cases h
    next hword => simpa using hword
  | c :: t, h => by
    rw [List.cons_append, wordRest] at h
    split at h
    · exact isWord_of_wordRest_eq (List.cons.inj h).2
    · split at h
      · exact isWord_of_wordRest_eq (List.cons.inj h).2
      · cases h

/-- No word character follows a token that ends in one. -/
theorem isWord_of_readToken {t post : List Char} {c d : Char} {n : Nat}
    (h : readToken (t ++ [c] ++ d :: post) = some (t ++ [c], n)) (hc : isWord c = true) : isWord d = false := by
  obtain ⟨w, hw, heq⟩ := Option.map_eq_some_iff.1 h
  obtain rfl := (Prod.mk.inj heq).1
  cases t with
  | nil =>
    rw [List.nil_append, List.singleton_append, token?, if_pos hc] at hw
    exact isWord_of_wordRest_eq (t := []) (List.cons.inj (Option.some.inj hw)).2
  | cons e t =>
    rw [List.cons_append, List.cons_append, token?] at hw
    split at hw
    · exact isWord_of_wordRest_eq (List.cons.inj (Option.some.inj hw)).2
    · split at hw
      · cases hw
      · -- a symbol stands alone
        simp at hw

/-- A token is read from a text between two parts of it. -/
structure ReadFrom (t : Token) (start : Nat) (cs pre mid post : List Char) : Prop where
  parts : cs = pre ++ mid ++ post
  span : t.span = ⟨start + byteLength pre, start + byteLength (pre ++ mid)⟩
  read : ∃ n, readToken (mid ++ post) = some (mid, n)

theorem exists_readFrom {text : String} {start : Nat} {t : Token} (h : t ∈ (tokenize text start).tokens) :
    ∃ pre mid post, ReadFrom t start text.toList pre mid post := by
  obtain ⟨span, hspan, rfl⟩ := mem_tokens_tokenize.1 h
  rw [tokenSpans_eq, ← Nat.add_zero start, placed_add] at hspan
  obtain ⟨y, hy, rfl⟩ := List.mem_map.1 hspan
  obtain ⟨x, hx, rfl⟩ := List.mem_map.1 hy
  obtain ⟨pre, post, n, htext, hoffset, -, hread⟩ := placed_scan readToken_exact (P := fun _ => True)
    (fun _ _ _ _ _ => trivial) (fun _ _ _ _ _ _ _ => trivial) text.toList [] trivial x hx
  refine ⟨pre, x.2, post, htext, ?_, n, hread⟩
  rw [hoffset, List.nil_append, byteLength_append, ← Nat.add_assoc]

theorem ReadFrom.nonempty {t : Token} {start : Nat} {cs pre mid post : List Char}
    (h : ReadFrom t start cs pre mid post) : mid ≠ [] := by
  obtain ⟨n, hread⟩ := h.read
  rintro rfl
  obtain ⟨hn, hmid⟩ := readToken_exact _ _ _ hread
  cases post with
  | nil => cases hread
  | cons c post =>
    obtain ⟨k, rfl⟩ : ∃ k, n = k + 1 := ⟨n - 1, by omega⟩
    cases hmid

theorem ReadFrom.lt {t : Token} {start : Nat} {cs pre mid post : List Char} (h : ReadFrom t start cs pre mid post) :
    t.span.start < t.span.stop := by
  have hpos := byteLength_pos h.nonempty
  rw [h.span, byteLength_append]
  dsimp only
  omega

/-- The tokens of a text come in order and do not overlap. -/
theorem tokens_tokenize_pairwise (text : String) (start : Nat) :
    (tokenize text start).tokens.Pairwise fun t u => t.span.start < u.span.start ∧ t.span.stop ≤ u.span.start := by
  have hspans : ((tokenSpans start text.toList).map (⟨·, none⟩ : Span → Token)).Pairwise fun t u =>
      t.span.stop ≤ u.span.start := by
    rw [tokenSpans_eq, List.map_map]
    exact List.pairwise_map.2 (placed_pairwise _ _)
  have hmem : ∀ t ∈ (tokenSpans start text.toList).map (⟨·, none⟩ : Span → Token), t.span.start < t.span.stop := by
    intro t ht
    have htoken : t ∈ (tokenize text start).tokens := (List.mergeSort_perm _ Token.before).mem_iff.2 ht
    obtain ⟨_, _, _, hread⟩ := exists_readFrom htoken
    exact hread.lt
  have hordered : ((tokenSpans start text.toList).map (⟨·, none⟩)).Pairwise fun t u : Token =>
      t.span.start < u.span.start ∧ t.span.stop ≤ u.span.start := by
    refine hspans.imp_of_mem fun {t u} ht _ h => ⟨?_, h⟩
    have hlt := hmem t ht
    omega
  have hsorted : (tokenize text start).tokens = (tokenSpans start text.toList).map (⟨·, none⟩) :=
    List.mergeSort_of_pairwise (hordered.imp fun {t u} h => by simp [Token.before, h.1])
  rw [hsorted]
  exact hordered

end Sentence

namespace Token

/-- Whether a span lies in a token. -/
def holds (t : Token) (span : Span) : Bool := t.span.start ≤ span.start && span.stop ≤ t.span.stop

theorem holds_iff {t : Token} {span : Span} :
    t.holds span = true ↔ t.span.start ≤ span.start ∧ span.stop ≤ t.span.stop := by
  rw [holds, Bool.and_eq_true, decide_eq_true_eq, decide_eq_true_eq]

/-- A token as it stands in its sentence: a part of the text between two characters, and not empty. -/
structure StandsIn (t : Token) (s : Sentence) : Prop where
  nonempty : t.span.start < t.span.stop
  inside : s.containsSpan t.span = true
  start : (place? s.text (t.span.start - s.start)).isSome = true
  stop : (place? s.text (t.span.stop - s.start)).isSome = true

end Token

namespace Sentence

theorem standsIn_of_mem_tokens {text : String} {start : Nat} {t : Token} (h : t ∈ (tokenize text start).tokens) :
    t.StandsIn (tokenize text start) := by
  obtain ⟨pre, mid, post, hread⟩ := exists_readFrom h
  have hsize : (tokenize text start).size = byteLength (pre ++ mid) + byteLength post := by
    rw [← byteLength_append, ← hread.parts, byteLength_toList]
    rfl
  have hcut : ∀ {cs}, cs <+: text.toList → (place? text (start + byteLength cs - start)).isSome = true :=
    fun {cs} hcs => place?_isSome ⟨cs, hcs, by omega⟩
  refine ⟨hread.lt, ?_, ?_, ?_⟩
  · have hlt := hread.lt
    rw [containsSpan, stop, hsize, hread.span, Bool.and_eq_true, decide_eq_true_eq, decide_eq_true_eq]
    exact ⟨Nat.le_add_right _ _, Nat.add_le_add_left (Nat.le_add_right _ _) _⟩
  · rw [hread.span]
    exact hcut (hread.parts ▸ ⟨mid ++ post, by rw [List.append_assoc]⟩)
  · rw [hread.span]
    exact hcut (hread.parts ▸ List.prefix_append _ _)

section

variable {text : String} {pre post : List Char} {c : Char} (htext : text.toList = pre ++ c :: post) (start : Nat)

include htext

/-- Every visible character lies in a token. -/
theorem exists_holds (hc : isSpace c = false) : ∃ t ∈ (tokenize text start).tokens,
    t.holds ⟨start + byteLength pre, start + byteLength (pre ++ [c])⟩ = true := by
  have htoken : ∀ ps u v rest, render id ps ++ u = pre → scan readToken text.toList =
      ps ++ .found (u ++ c :: v) :: scan readToken rest → ∃ t ∈ (tokenize text start).tokens,
        t.holds ⟨start + byteLength pre, start + byteLength (pre ++ [c])⟩ = true := by
    rintro ps u v rest rfl hscan
    refine ⟨_, mem_tokens_tokenize.2 ⟨_, mem_tokenSpans hscan, rfl⟩, ?_⟩
    simp only [Token.holds_iff, byteLength_append, byteLength_cons, byteLength_nil]
    omega
  cases lies readToken_exact pre (c :: post) with
  | between ps pieces before =>
    cases hr : readToken (c :: post) with
    | none =>
      rw [readToken_eq_none_iff.1 hr] at hc
      cases hc
    | some found =>
      obtain ⟨t, rest, -, -, hscan⟩ := scan_of_exact readToken_exact hr
      refine htoken ps [] t rest (by rw [before, List.append_nil]) ?_
      rw [htext, List.nil_append, ← hscan]
      exact pieces
  | within ps u v rest n pieces before after left right found =>
    obtain ⟨d, v, rfl⟩ := List.exists_cons_of_ne_nil right
    obtain ⟨rfl, -⟩ := List.cons.inj after
    exact htoken ps u v rest before.symm (htext ▸ pieces)

/-- A token that holds a character is read with it. -/
theorem ReadFrom.mem {t : Token} {a mid b : List Char} (h : ReadFrom t start text.toList a mid b)
    (hholds : t.holds ⟨start + byteLength pre, start + byteLength (pre ++ [c])⟩ = true) : c ∈ mid := by
  rw [Token.holds_iff, h.span] at hholds
  obtain ⟨hlo, hhi⟩ := hholds
  have hpre : a <+: pre := isPrefix_of_byteLength_le (h.parts ▸ ⟨mid ++ b, by rw [List.append_assoc]⟩)
    (htext ▸ List.prefix_append _ _) (Nat.le_of_add_le_add_left hlo)
  have hcut : pre ++ [c] <+: text.toList := htext ▸ ⟨post, by rw [List.append_assoc, List.singleton_append]⟩
  have hmid : pre ++ [c] <+: a ++ mid :=
    isPrefix_of_byteLength_le hcut (h.parts ▸ List.prefix_append _ _) (Nat.le_of_add_le_add_left hhi)
  obtain ⟨r, rfl⟩ := hpre
  rw [List.append_assoc, List.prefix_append_right_inj] at hmid
  exact hmid.subset (List.mem_append_right _ List.mem_cons_self)

/-- Exactly one token holds a visible character and none a blank. -/
theorem countP_holds : (tokenize text start).tokens.countP
    (·.holds ⟨start + byteLength pre, start + byteLength (pre ++ [c])⟩) = if isSpace c then 0 else 1 := by
  split
  next hspace =>
    refine List.countP_eq_zero.2 fun t ht hholds => ?_
    obtain ⟨_, mid, _, hread⟩ := exists_readFrom ht
    obtain ⟨n, hn⟩ := hread.read
    rw [isSpace_of_mem_readToken hn (hread.mem htext start hholds)] at hspace
    cases hspace
  next hspace =>
    obtain ⟨t, ht, hholds⟩ := exists_holds htext start (by simpa using hspace)
    refine countP_eq_one ((tokens_tokenize_pairwise text start).imp fun {t u} htu hboth => ?_) ht hholds
    simp only [Token.holds_iff, byteLength_append, byteLength_cons] at hboth
    have := c.utf8Size_pos
    omega

/-- No token ends between two word characters. -/
theorem stop_ne_of_isWord (hc : isWord c = true) (hpost : post.head?.any isWord = true) {t : Token}
    (ht : t ∈ (tokenize text start).tokens) : t.span.stop ≠ start + byteLength (pre ++ [c]) := by
  intro hstop
  obtain ⟨a, mid, b, hread⟩ := exists_readFrom ht
  rw [hread.span] at hstop
  have hcut : text.toList = pre ++ [c] ++ post := by rw [htext, List.append_assoc, List.singleton_append]
  have hbefore : a ++ mid = pre ++ [c] := eq_of_byteLength_eq (hread.parts ▸ List.prefix_append _ _)
    (hcut ▸ List.prefix_append _ _) (Nat.add_left_cancel hstop)
  have hafter : b = post := List.append_cancel_left (hbefore ▸ hread.parts.symm.trans hcut)
  obtain ⟨n, hn⟩ := hread.read
  cases post with
  | nil => cases hpost
  | cons d post =>
    rcases List.eq_nil_or_concat mid with rfl | ⟨m, e, rfl⟩
    · exact hread.nonempty rfl
    · rw [List.concat_eq_append, ← List.append_assoc] at hbefore
      obtain ⟨-, he⟩ := List.append_inj' hbefore rfl
      obtain rfl := List.head_eq_of_cons_eq he
      rw [hafter, List.concat_eq_append] at hn
      rw [List.head?_cons, Option.any_some, isWord_of_readToken hn hc] at hpost
      cases hpost

/-- No token begins between two word characters: the one before it would end there. -/
theorem start_ne_of_isWord (hc : isWord c = true) (hpost : post.head?.any isWord = true) {t : Token}
    (ht : t ∈ (tokenize text start).tokens) : t.span.start ≠ start + byteLength (pre ++ [c]) := by
  intro hstart
  obtain ⟨u, hu, hholds⟩ := exists_holds htext start (isSpace_of_isWord hc)
  obtain ⟨hlo, hhi⟩ : u.span.start ≤ start + byteLength pre ∧ start + byteLength (pre ++ [c]) ≤ u.span.stop :=
    Token.holds_iff.1 hholds
  have hlt : byteLength pre < byteLength (pre ++ [c]) := by
    have := c.utf8Size_pos
    rw [byteLength_append, byteLength_cons]
    omega
  have hne : u ≠ t := by
    rintro rfl
    omega
  have : Std.Symm fun t u : Token => t.span.stop ≤ u.span.start ∨ u.span.stop ≤ t.span.start := ⟨fun _ _ => Or.symm⟩
  have hdisjoint := ((tokens_tokenize_pairwise text start).imp fun h => Or.inl h.2 :
    (tokenize text start).tokens.Pairwise fun t u => t.span.stop ≤ u.span.start ∨ u.span.stop ≤ t.span.start)
  have hlen := (standsIn_of_mem_tokens ht).nonempty
  rcases hdisjoint.forall hu ht hne with h | h
  · exact stop_ne_of_isWord htext start hc hpost hu (by omega)
  · omega

end

/-- Cutting a text into tokens partitions what is visible of it: the tokens come in order without overlap, each is a
part of the text that is not empty; every character lies in exactly one of them, or in none if it is blank; and none
begins or ends between two word characters. -/
theorem tokenize_partitions (text : String) (start : Nat) :
    (tokenize text start).tokens.Pairwise (fun t u => t.span.start < u.span.start ∧ t.span.stop ≤ u.span.start) ∧
      (∀ t ∈ (tokenize text start).tokens, t.StandsIn (tokenize text start)) ∧
      ∀ pre c post, text.toList = pre ++ c :: post →
        (tokenize text start).tokens.countP (·.holds ⟨start + byteLength pre, start + byteLength (pre ++ [c])⟩) =
            (if isSpace c then 0 else 1) ∧
          (isWord c = true → post.head?.any isWord = true → ∀ t ∈ (tokenize text start).tokens,
            t.span.start ≠ start + byteLength (pre ++ [c]) ∧ t.span.stop ≠ start + byteLength (pre ++ [c])) :=
  ⟨tokens_tokenize_pairwise text start, fun _ ht => standsIn_of_mem_tokens ht, fun _ _ _ htext =>
    ⟨countP_holds htext start, fun hc hpost _ ht =>
      ⟨start_ne_of_isWord htext start hc hpost ht, stop_ne_of_isWord htext start hc hpost ht⟩⟩⟩

end Sentence

end TemporalTagger
