/-
How sentences are cut from a document: what stands before a sentence ends another one or is blank, and
unless nothing but blanks follow, the sentence ends in a terminal. The sentences of a document lose nothing of it but
blanks and terminals. Main facts: `exists_cutFrom` and `split_covers`.
-/
import Mathlib.Data.List.TakeWhile
import TemporalTagger.Proofs.Alignment
import TemporalTagger.Proofs.Regex.Words

namespace TemporalTagger.Sentence

open Unicode Text Regex

/-! ## Characters -/

theorem isWord_of_isSpace {c : Char} (h : isSpace c = true) : isWord c = false :=
  CharSet.holds_of_disjoint (a := .within Properties.whiteSpace) (b := .within Properties.word) (by decide +kernel) h

theorem isDigit_of_isSpace {c : Char} (h : isSpace c = true) : isDigit c = false :=
  CharSet.holds_of_disjoint (a := .within Properties.whiteSpace) (b := .within Categories.decimalNumber)
    (by decide +kernel) h

theorem isTerminal_iff {c : Char} : isTerminal c = true ↔ c = '.' ∨ c = '!' ∨ c = '?' := by
  simp [isTerminal, or_assoc]

theorem isSpace_of_isTerminal {c : Char} (h : isTerminal c = true) : isSpace c = false := by
  rcases isTerminal_iff.1 h with rfl | rfl | rfl <;> decide +kernel

theorem isWord_of_isTerminal {c : Char} (h : isTerminal c = true) : isWord c = false := by
  rcases isTerminal_iff.1 h with rfl | rfl | rfl <;> decide +kernel

/-! ## Segments -/

/-- A text that a sentence can follow: apart from blanks, it is empty or ends in a terminal. -/
def Closed (cs : List Char) : Prop := ∀ c, (cs.reverse.dropWhile isSpace).head? = some c → isTerminal c = true

theorem Closed.concat {pre : List Char} {c : Char} (h : Closed pre) (hc : isTerminal c = true ∨ isSpace c = true) :
    Closed (pre ++ [c]) := by
  intro d hd
  rw [List.reverse_append, List.reverse_singleton, List.singleton_append, List.dropWhile_cons] at hd
  split at hd
  · exact h d hd
  next hspace =>
    obtain rfl := Option.some.inj hd
    exact hc.resolve_right hspace

theorem Closed.of_last {pre a : List Char} {c : Char} (h : a.getLast? = some c) (hc : isTerminal c = true) :
    Closed (pre ++ a) := by
  obtain ⟨a, rfl⟩ := List.getLast?_eq_some_iff.1 h
  intro d hd
  rw [← List.append_assoc, List.reverse_append, List.reverse_singleton, List.singleton_append,
    List.dropWhile_cons_of_neg (by rw [isSpace_of_isTerminal hc]; exact Bool.false_ne_true)] at hd
  rwa [← Option.some.inj hd]

/-- A segment starts with a visible character other than a terminal, and ends in a terminal or with the
text. -/
structure IsSegment (cs post : List Char) : Prop where
  first : ∃ c rest, cs = c :: rest ∧ isTerminal c = false ∧ isSpace c = false
  last : post = [] ∨ ∃ c, cs.getLast? = some c ∧ isTerminal c = true

theorem isSegment_of_segment? {cs a post : List Char} (h : segment? cs = some a) (hcs : cs = a ++ post) :
    IsSegment a post := by
  cases cs with
  | nil => cases h
  | cons c rest =>
    rw [segment?] at h
    split at h
    · cases h
    next hc =>
      rw [Bool.or_eq_true, not_or, Bool.not_eq_true, Bool.not_eq_true] at hc
      obtain rfl := Option.some.inj h
      refine ⟨⟨c, _, rfl, hc⟩, ?_⟩
      have hrest : rest = rest.takeWhile (!isTerminal ·) ++
          (rest.dropWhile (!isTerminal ·)).takeWhile isTerminal ++ post := (List.cons.inj hcs).2
      have hsplit := List.takeWhile_append_dropWhile (p := (!isTerminal ·)) (l := rest)
      cases hend : rest.dropWhile (!isTerminal ·) with
      | nil =>
        left
        rw [hend, List.append_nil] at hsplit
        rw [hend, List.takeWhile_nil, List.append_nil, hsplit] at hrest
        exact List.self_eq_append_right.1 hrest
      | cons d more =>
        right
        have hd : isTerminal d = true := by
          have := List.head?_dropWhile_not (!isTerminal ·) rest
          rw [hend] at this
          simpa using this
        have hne : (d :: more).takeWhile isTerminal ≠ [] := by
          rw [List.takeWhile_cons_of_pos hd]
          exact List.cons_ne_nil _ _
        refine ⟨_, List.getLast?_append_of_ne_nil _ hne |>.trans (List.getLast?_eq_some_getLast hne), ?_⟩
        exact List.all_eq_true.1 List.all_takeWhile _ (List.getLast_mem hne)

/-! ## Sentences -/

/-- Reads the sentence at the front of a text. -/
def readSegment : Recogniser (List Char) := fun cs => (segment? cs).map fun s => (s, s.length)

theorem readSegment_exact : readSegment.Exact := segment?_exact

theorem split_eq (document : String) : split document =
    (placed 0 (scan readSegment document.toList)).map fun x => tokenize (String.ofList (trimEnd x.2)) x.1 := rfl

/-- No sentence begins with a blank or a terminal, and with every other character one does. -/
theorem readSegment_eq_none {c : Char} {cs : List Char} (h : readSegment (c :: cs) = none) :
    isTerminal c = true ∨ isSpace c = true := by
  rw [readSegment, Option.map_eq_none_iff, segment?] at h
  split at h
  next hc => rwa [Bool.or_eq_true] at hc
  next => cases h

/-- Every sentence is a segment of the document without the blanks at its end, after a text that it can follow. -/
theorem exists_segment_of_mem_split {document : String} {s : Sentence} (h : s ∈ split document) :
    ∃ pre a post, document.toList = pre ++ a ++ post ∧ byteLength pre = s.start ∧ Closed pre ∧
      segment? (a ++ post) = some a ∧ s.text.toList = trimEnd a := by
  obtain ⟨x, hx, rfl⟩ := List.mem_map.1 (split_eq document ▸ h)
  obtain ⟨pre, post, n, hdocument, hoffset, hpre, hread⟩ := placed_scan readSegment_exact (P := Closed)
    (fun pre c rest hpre hnone => hpre.concat (readSegment_eq_none hnone))
    (fun pre a n post _ hpost hread => by
      obtain ⟨_, hseg, heq⟩ := Option.map_eq_some_iff.1 hread
      obtain ⟨rfl, -⟩ := Prod.mk.inj heq
      obtain ⟨c, hc, hterminal⟩ := (isSegment_of_segment? hseg rfl).last.resolve_left hpost
      exact .of_last hc hterminal)
    document.toList [] (fun c hc => by cases hc) x hx
  obtain ⟨a, hseg, heq⟩ := Option.map_eq_some_iff.1 hread
  obtain rfl : a = x.2 := (Prod.mk.inj heq).1
  exact ⟨pre, x.2, post, hdocument, hoffset.symm, hpre, hseg, String.toList_ofList⟩

/-- A sentence is cut out of a document between two parts of it. -/
structure CutFrom (s : Sentence) (document : String) (pre post : List Char) : Prop where
  parts : document.toList = pre ++ s.text.toList ++ post
  start : byteLength pre = s.start
  before : Closed pre
  first : ∃ c cs, s.text.toList = c :: cs ∧ isTerminal c = false ∧ isSpace c = false
  last : (∀ c ∈ post, isSpace c = true) ∨ ∃ c, s.text.toList.getLast? = some c ∧ isTerminal c = true

section

variable {s : Sentence} {document : String} {pre post : List Char}

theorem CutFrom.eq_ofList (h : s.CutFrom document pre post) :
    String.ofList (pre ++ s.text.toList ++ post) = document := by
  rw [← h.parts, String.ofList_toList]

theorem CutFrom.byteLength_eq_stop (h : s.CutFrom document pre post) : byteLength (pre ++ s.text.toList) = s.stop := by
  rw [byteLength_append, h.start, byteLength_toList]
  rfl

theorem CutFrom.slice? (h : s.CutFrom document pre post) : Text.slice? document ⟨s.start, s.stop⟩ = some s.text := by
  have hslice := slice?_ofList pre s.text.toList post
  rwa [h.eq_ofList, h.byteLength_eq_stop, h.start, String.ofList_toList] at hslice

end

theorem exists_cutFrom {document : String} {s : Sentence} (h : s ∈ split document) :
    ∃ pre post, s.CutFrom document pre post := by
  obtain ⟨pre, a, post, hdocument, hstart, hpre, hseg, htext⟩ := exists_segment_of_mem_split h
  obtain ⟨⟨c, rest, hfirst, hterminal, hspace⟩, hlast⟩ := isSegment_of_segment? hseg rfl
  obtain ⟨blanks, hblanks, hblank⟩ := exists_blanks a
  refine ⟨pre, blanks ++ post, ?_, hstart, hpre, ?_, ?_⟩
  · rw [hdocument, htext, List.append_assoc, List.append_assoc, ← List.append_assoc (trimEnd a), ← hblanks]
  · rw [htext]
    cases htrim : trimEnd a with
    | nil =>
      rw [htrim, List.nil_append] at hblanks
      have := hblank c (by rw [← hblanks, hfirst]; exact List.mem_cons_self)
      rw [hspace] at this
      cases this
    | cons d cs =>
      rw [htrim, hfirst] at hblanks
      obtain ⟨rfl, -⟩ := List.cons.inj hblanks
      exact ⟨c, cs, rfl, hterminal, hspace⟩
  · rw [htext]
    rcases hlast with rfl | ⟨c, hc, hterminal⟩
    · left
      rwa [List.append_nil]
    · right
      rw [trimEnd_eq_self hc (isSpace_of_isTerminal hterminal)]
      exact ⟨c, hc, hterminal⟩

/-! ## What a split keeps -/

/-- A sentence found after other pieces lies where the text of those ends. -/
theorem mem_split {document : String} {a post : List Char} {ps : List (Piece (List Char))}
    (h : scan readSegment document.toList = ps ++ .found a :: scan readSegment post) :
    tokenize (String.ofList (trimEnd a)) (byteLength (render id ps)) ∈ split document := by
  have hmem : (byteLength (render id ps), a) ∈ placed 0 (scan readSegment document.toList) := by
    have hplaced := mem_placed_append 0 ps a (scan readSegment post)
    rwa [← h, Nat.zero_add] at hplaced
  exact List.mem_map_of_mem (f := fun x => tokenize (String.ofList (trimEnd x.2)) x.1) hmem

/-- Terminals stand in a text at its end alone. -/
def EndsInTerminals (cs : List Char) : Prop :=
  ∃ body ending, cs = body ++ ending ∧ (∀ c ∈ body, isTerminal c = false) ∧ ∀ c ∈ ending, isTerminal c = true

theorem EndsInTerminals.of_isPrefix {a cs : List Char} (h : EndsInTerminals cs) (ha : a <+: cs) : EndsInTerminals a := by
  obtain ⟨body, ending, rfl, hbody, hending⟩ := h
  refine ⟨body.take a.length, ending.take (a.length - body.length), ?_, fun c hc => hbody c (List.mem_of_mem_take hc),
    fun c hc => hending c (List.mem_of_mem_take hc)⟩
  rw [← List.take_append, ← List.prefix_iff_eq_take.1 ha]

theorem endsInTerminals_of_segment? {cs a : List Char} (h : segment? cs = some a) : EndsInTerminals a := by
  cases cs with
  | nil => cases h
  | cons c rest =>
    rw [segment?] at h
    split at h
    · cases h
    next hc =>
      rw [Bool.or_eq_true, not_or, Bool.not_eq_true, Bool.not_eq_true] at hc
      refine ⟨c :: rest.takeWhile (!isTerminal ·), (rest.dropWhile (!isTerminal ·)).takeWhile isTerminal,
        (Option.some.inj h).symm, ?_, fun d hd => List.mem_takeWhile_imp hd⟩
      rintro d (_ | ⟨_, hd⟩)
      · exact hc.1
      · simpa using List.mem_takeWhile_imp hd

/-- A sentence as it stands in its document: a part of it that begins with a visible character other than a terminal,
does not end in a blank, and has terminals at its end alone. -/
structure StandsIn (s : Sentence) (document : String) : Prop where
  nonempty : s.text ≠ ""
  slice : slice? document ⟨s.start, s.stop⟩ = some s.text
  first : ∃ c, s.text.toList.head? = some c ∧ isSpace c = false ∧ isTerminal c = false
  last : ∃ c, s.text.toList.getLast? = some c ∧ isSpace c = false
  terminals : EndsInTerminals s.text.toList

theorem standsIn_of_mem_split {document : String} {s : Sentence} (h : s ∈ split document) : s.StandsIn document := by
  obtain ⟨pre, post, hcut⟩ := exists_cutFrom h
  obtain ⟨_, a, _, -, -, -, hseg, htext⟩ := exists_segment_of_mem_split h
  obtain ⟨c, rest, hfirst, hterminal, hspace⟩ := hcut.first
  have hne : s.text.toList ≠ [] := hfirst ▸ List.cons_ne_nil c rest
  constructor
  · exact fun hempty => hne (by rw [hempty]; rfl)
  · exact hcut.slice?
  · exact ⟨c, by rw [hfirst]; rfl, hspace, hterminal⟩
  · have hlast := List.getLast?_eq_some_getLast hne
    exact ⟨_, hlast, isSpace_of_getLast?_trimEnd (by rw [← htext]; exact hlast)⟩
  · rw [htext]
    exact (endsInTerminals_of_segment? hseg).of_isPrefix <| trimEnd_prefix a

/-- A character of a segment is kept in its sentence or is one of the blanks at its end. -/
theorem contains_or_isSpace {document : String} {ps : List (Piece (List Char))} {t u post : List Char} {c : Char}
    (h : scan readSegment document.toList = ps ++ .found (t ++ c :: u) :: scan readSegment post) :
    (∃ s ∈ split document, s.containsSpan ⟨byteLength (render id ps ++ t), byteLength (render id ps ++ t ++ [c])⟩ = true) ∨
      isSpace c = true := by
  obtain ⟨blanks, hblanks, hspaces⟩ := exists_blanks (t ++ c :: u)
  rcases List.append_eq_append_iff.1 hblanks with ⟨kept, htrim, hrest⟩ | ⟨lost, -, hlost⟩
  · -- the blanks begin at the character or after it
    cases kept with
    | nil => exact .inr (hspaces c (by rw [← List.nil_append blanks, ← hrest]; exact List.mem_cons_self))
    | cons d kept =>
      obtain ⟨rfl, -⟩ := List.cons.inj hrest
      refine .inl ⟨_, mem_split h, ?_⟩
      have hsize : (String.ofList (trimEnd (t ++ c :: u))).utf8ByteSize = byteLength (t ++ c :: kept) := by
        rw [byteLength_ofList, htrim]
      simp only [containsSpan, stop, size, tokenize, ofTokens, hsize, byteLength_append, byteLength_cons,
        byteLength_nil, Bool.and_eq_true, decide_eq_true_eq]
      omega
  · exact .inr (hspaces c (hlost ▸ List.mem_append_right _ List.mem_cons_self))

/-- Splitting a document loses nothing but separators: its sentences follow one another without overlap, each stands in
the document with its terminals, and every character that is in none of them is a blank or a terminal. -/
theorem split_covers (document : String) :
    (split document).Pairwise (fun s t => s.start < t.start ∧ s.stop ≤ t.start) ∧
      (∀ s ∈ split document, s.StandsIn document) ∧
      ∀ pre c post, document.toList = pre ++ c :: post →
        (∀ s ∈ split document, s.containsSpan ⟨byteLength pre, byteLength (pre ++ [c])⟩ = false) →
          isSpace c = true ∨ isTerminal c = true := by
  refine ⟨?_, fun s hs => standsIn_of_mem_split hs, ?_⟩
  · refine (split_pairwise document).imp_of_mem ?_
    intro s t hs _ hst
    have hsize : 0 < s.size := by
      rw [size, ← byteLength_toList]
      obtain ⟨c, hc, -⟩ := (standsIn_of_mem_split hs).first
      exact byteLength_pos (List.ne_nil_of_mem (List.mem_of_head? hc))
    rw [stop] at hst
    exact ⟨by omega, hst⟩
  · intro pre c post hdocument houtside
    have hkept : ∀ ps t u rest, render id ps ++ t = pre →
        scan readSegment document.toList = ps ++ .found (t ++ c :: u) :: scan readSegment rest → isSpace c = true := by
      rintro ps t u rest rfl hscan
      refine (contains_or_isSpace hscan).resolve_left ?_
      rintro ⟨s, hs, hcontains⟩
      rw [houtside s hs] at hcontains
      cases hcontains
    cases lies readSegment_exact pre (c :: post) with
    | between ps pieces before =>
      -- the character is left over as a separator, or a sentence begins with it
      cases hr : readSegment (c :: post) with
      | none => exact (readSegment_eq_none hr).symm
      | some found =>
        obtain ⟨t, rest, -, -, hscan⟩ := scan_of_exact readSegment_exact hr
        refine .inl (hkept ps [] t rest (by rw [before, List.append_nil]) ?_)
        rw [hdocument, List.nil_append, ← hscan]
        exact pieces
    | within ps t u rest n pieces before after left right found =>
      -- the trim may still have dropped it from the segment around it
      obtain ⟨d, u, rfl⟩ := List.exists_cons_of_ne_nil right
      obtain ⟨rfl, -⟩ := List.cons.inj after
      exact .inl (hkept ps t u rest before.symm (hdocument ▸ pieces))

end TemporalTagger.Sentence
