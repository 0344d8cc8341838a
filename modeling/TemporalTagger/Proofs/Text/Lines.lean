/-
Trimmed texts and the lines of a text. Trimming drops blanks at the ends alone. The content lines of a text are those
of its lines that say something, trimmed, each with its number among all lines. Main facts: `mem_contentLines_iff` and
`map_snd_contentLines`.
-/
import Mathlib.Data.List.TakeWhile
import Mathlib.Tactic
import TemporalTagger.Text.Lines

namespace TemporalTagger.Text

open Unicode

/-! ## Trimming -/

theorem isSpace_of_isAlphanum {c : Char} (h : c.isAlphanum = true) : isSpace c = false := by
  have hascii : ∀ n < 128, (Char.ofNat n).isAlphanum = true → isSpace (Char.ofNat n) = false := by
    decide +kernel
  have hlt : c.toNat < 128 := by
    have hranges : (decide (65 ≤ c.val ∧ c.val ≤ 90) || decide (97 ≤ c.val) && decide (c.val ≤ 122) ||
        decide (48 ≤ c.val) && decide (c.val ≤ 57)) = true := h
    simp only [Bool.or_eq_true, Bool.and_eq_true, decide_eq_true_eq, UInt32.le_iff_toNat_le, Char.toNat_val,
      UInt32.reduceToNat] at hranges
    omega
  have hc := hascii c.toNat hlt
  rw [Char.ofNat_toNat] at hc
  exact hc h

theorem isSpace_of_isDigit {c : Char} (h : c.isDigit = true) : isSpace c = false :=
  isSpace_of_isAlphanum (Bool.or_eq_true_iff.2 (.inr h))

theorem trimEnd_prefix (cs : List Char) : trimEnd cs <+: cs := by
  rw [← List.reverse_suffix, trimEnd, List.reverse_reverse]
  exact List.dropWhile_suffix _

theorem trimEnd_eq_self {cs : List Char} {c : Char} (h : cs.getLast? = some c) (hc : isSpace c = false) :
    trimEnd cs = cs := by
  obtain ⟨cs, rfl⟩ := List.getLast?_eq_some_iff.1 h
  rw [trimEnd, List.reverse_append, List.reverse_singleton, List.singleton_append,
    List.dropWhile_cons_of_neg (by rw [hc]; exact Bool.false_ne_true), List.reverse_cons, List.reverse_reverse]

/-- Only blanks are dropped at the end of a text. -/
theorem exists_blanks (cs : List Char) : ∃ blanks, cs = trimEnd cs ++ blanks ∧ ∀ c ∈ blanks, isSpace c = true := by
  refine ⟨(cs.reverse.takeWhile isSpace).reverse, ?_, fun c hc => ?_⟩
  · rw [trimEnd, ← List.reverse_append, List.takeWhile_append_dropWhile, List.reverse_reverse]
  · exact List.all_eq_true.1 List.all_takeWhile _ (List.mem_reverse.1 hc)

theorem isSpace_of_getLast?_trimEnd {cs : List Char} {c : Char} (h : (trimEnd cs).getLast? = some c) :
    isSpace c = false := by
  have hhead := List.head?_dropWhile_not isSpace cs.reverse
  rw [trimEnd, List.getLast?_reverse] at h
  rwa [h] at hhead

/-- Nothing up to a visible character is dropped at the end. -/
theorem trimEnd_append_cons {a b : List Char} {c : Char} (hc : isSpace c = false) :
    trimEnd (a ++ c :: b) = a ++ c :: trimEnd b := by
  have hstop : (c :: a.reverse).dropWhile isSpace = c :: a.reverse :=
    List.dropWhile_cons_of_neg (by rw [hc]; exact Bool.false_ne_true)
  rw [trimEnd, trimEnd, List.reverse_append, List.reverse_cons, List.append_assoc, List.singleton_append,
    List.dropWhile_append]
  split
  next hblank =>
    rw [hstop, List.isEmpty_iff.1 hblank]
    simp
  next => simp

theorem trimStart_eq_self {cs : List Char} {c : Char} (h : cs.head? = some c) (hc : isSpace c = false) :
    trimStart cs = cs := by
  obtain ⟨rest, rfl⟩ := List.head?_eq_some_iff.1 h
  exact List.dropWhile_cons_of_neg (by rw [hc]; exact Bool.false_ne_true)

/-- Blanks before and after a text between visible characters are what is trimmed off. -/
theorem trimChars_between {left cs right : List Char} {c d : Char} (hleft : ∀ c ∈ left, isSpace c = true)
    (hfirst : cs.head? = some c) (hc : isSpace c = false) (hlast : cs.getLast? = some d) (hd : isSpace d = false)
    (hright : ∀ c ∈ right, isSpace c = true) : trimChars (left ++ cs ++ right) = cs := by
  have hstart : trimStart (left ++ (cs ++ right)) = cs ++ right := by
    rw [trimStart, List.dropWhile_append_of_pos hleft]
    exact trimStart_eq_self (by rw [List.head?_append, hfirst, Option.some_or]) hc
  have hend : trimEnd (cs ++ right) = trimEnd cs := by
    rw [trimEnd, trimEnd, List.reverse_append,
      List.dropWhile_append_of_pos fun c hc => hright c (List.mem_reverse.1 hc)]
  rw [trimChars, List.append_assoc, hstart, hend, trimEnd_eq_self hlast hd]

/-- Nothing is trimmed off a text between visible characters. -/
theorem trimChars_eq_self {cs : List Char} {c d : Char} (hfirst : cs.head? = some c) (hc : isSpace c = false)
    (hlast : cs.getLast? = some d) (hd : isSpace d = false) : trimChars cs = cs := by
  have htrim := @trimChars_between [] cs [] c d (List.forall_mem_nil _) hfirst hc hlast hd (List.forall_mem_nil _)
  rwa [List.nil_append, List.append_nil] at htrim

/-- What is trimmed off a text are blanks at its ends. -/
theorem exists_blanks_around (cs : List Char) : ∃ left right, cs = left ++ trimChars cs ++ right ∧
    (∀ c ∈ left, isSpace c = true) ∧ ∀ c ∈ right, isSpace c = true := by
  obtain ⟨right, hright, hblank⟩ := exists_blanks (trimStart cs)
  refine ⟨cs.takeWhile isSpace, right, ?_, fun c hc => List.mem_takeWhile_imp hc, hblank⟩
  rw [List.append_assoc, trimChars, ← hright, trimStart, List.takeWhile_append_dropWhile]

/-- A text that begins with a visible character keeps it when it is trimmed. -/
theorem trimChars_cons {c : Char} (hc : isSpace c = false) (cs : List Char) :
    trimChars (c :: cs) = c :: trimEnd cs := by
  rw [trimChars, trimStart_eq_self rfl hc]
  exact trimEnd_append_cons (a := []) hc

/-! ## Lines -/

/-- The parts of a text, from those of the text without its first character. -/
theorem splitOn_cons (sep c : Char) (cs : List Char) : (c :: cs).splitOn sep =
    match cs.splitOn sep with
    | [] => [[c]]
    | part :: parts => if c = sep then [] :: part :: parts else (c :: part) :: parts := by
  rw [List.splitOn_cons_eq_if_modifyHead]
  cases hparts : cs.splitOn sep with
  | nil => exact absurd hparts (List.splitOn_ne_nil _ _)
  | cons part parts => by_cases hc : c = sep <;> simp [hc]

theorem splitLines_eq_splitOn : ∀ cs : List Char, splitLines cs = cs.splitOn '\n'
  | [] => rfl
  | c :: cs => by
    rw [splitLines, splitLines_eq_splitOn cs]
    exact (splitOn_cons '\n' c cs).symm

/-- A line that says nothing: it is blank or a comment. -/
def Silent (line : List Char) : Prop := trimChars line = [] ∨ ['/', '/'] <+: trimChars line

theorem isContent_trimChars {line : List Char} : isContent (trimChars line) = true ↔ ¬ Silent line := by
  rw [isContent, Bool.and_eq_true, Bool.not_eq_true', Bool.not_eq_true', List.isEmpty_eq_false_iff,
    ← Bool.not_eq_true, List.isPrefixOf_iff_prefix, Silent, not_or]

theorem isContent_cons {c : Char} (h : c ≠ '/') (cs : List Char) : isContent (c :: cs) = true := by
  simp [isContent, List.isPrefixOf, h.symm]

/-- A line of a text that says something: its number, counted from 1 over all lines, and what it says. -/
def HasLine (text : String) (number : Nat) (line : List Char) : Prop :=
  ∃ i raw, number = i + 1 ∧ (text.toList.splitOn '\n')[i]? = some raw ∧ line = trimChars raw ∧ ¬ Silent raw

theorem HasLine.unique {text : String} {number : Nat} {l l' : List Char} (h : HasLine text number l)
    (h' : HasLine text number l') : l = l' := by
  obtain ⟨i, raw, hi, hraw, rfl, -⟩ := h
  obtain ⟨j, raw', hj, hraw', rfl, -⟩ := h'
  obtain rfl : i = j := by omega
  rw [hraw] at hraw'
  rw [Option.some.inj hraw']

theorem mem_contentLines_iff {text : String} {number : Nat} {line : List Char} :
    (number, line) ∈ contentLines text ↔ HasLine text number line := by
  rw [contentLines, splitLines_eq_splitOn, List.mem_filter, List.mem_iff_getElem?]
  simp only [List.getElem?_zip_eq_some, List.getElem?_map, Option.map_eq_some_iff, HasLine]
  constructor
  · rintro ⟨⟨i, hnumber, raw, hraw, rfl⟩, hcontent⟩
    obtain ⟨hi, hnumber⟩ := List.getElem?_eq_some_iff.1 hnumber
    rw [List.getElem_range' hi, Nat.one_mul] at hnumber
    exact ⟨i, raw, by omega, hraw, rfl, isContent_trimChars.1 hcontent⟩
  · rintro ⟨i, raw, rfl, hraw, rfl, hcontent⟩
    obtain ⟨hi, -⟩ := List.getElem?_eq_some_iff.1 hraw
    refine ⟨⟨i, ?_, raw, hraw, rfl⟩, isContent_trimChars.2 hcontent⟩
    rw [List.getElem?_range' (by rwa [List.length_map]), Nat.one_mul, Nat.add_comm]

theorem contentLines_pairwise (text : String) : (contentLines text).Pairwise fun x y => x.1 < y.1 := by
  refine List.Pairwise.filter _ ?_
  rw [← List.pairwise_map (f := Prod.fst), List.map_fst_zip (by rw [List.length_range'])]
  exact List.pairwise_lt_range'

/-- A text of one line, trimmed and no comment, is its only content line. -/
theorem contentLines_ofList {cs : List Char} (hnewline : '\n' ∉ cs)
    (hfirst : ∃ c ∈ cs.head?, isSpace c = false ∧ c ≠ '/')
    (hlast : ∃ c ∈ cs.getLast?, isSpace c = false) : contentLines (String.ofList cs) = [(1, cs)] := by
  obtain ⟨first, hfirst, hspace, hcomment⟩ := hfirst
  obtain ⟨last, hlast, hspace'⟩ := hlast
  have htrim : trimChars cs = cs := trimChars_eq_self hfirst hspace hlast hspace'
  obtain ⟨rest, rfl⟩ := List.head?_eq_some_iff.1 hfirst
  rw [contentLines, String.toList_ofList, splitLines_eq_splitOn, List.splitOn_eq_singleton hnewline]
  simp only [List.map_cons, List.map_nil, htrim, List.length_singleton, List.range'_one, List.zip_cons_cons,
    List.zip_nil_left, List.filter_cons, isContent_cons hcomment, if_true, List.filter_nil]

/-- Those of lines that say something, trimmed. -/
def said (ls : List (List Char)) : List (List Char) := (ls.map trimChars).filter isContent

theorem said_append (a b : List (List Char)) : said (a ++ b) = said a ++ said b := by
  rw [said, List.map_append, List.filter_append, ← said, ← said]

theorem said_cons {l : List Char} (h : isContent (trimChars l) = true) (ls : List (List Char)) :
    said (l :: ls) = trimChars l :: said ls := by
  rw [said, List.map_cons, List.filter_cons_of_pos h, ← said]

theorem said_cons_silent {l : List Char} (h : Silent l) (ls : List (List Char)) : said (l :: ls) = said ls := by
  rw [said, List.map_cons, List.filter_cons_of_neg fun hcontent => isContent_trimChars.1 hcontent h, ← said]

theorem said_silent {ls : List (List Char)} (h : ∀ l ∈ ls, Silent l) : said ls = [] := by
  rw [said, List.filter_eq_nil_iff, List.forall_mem_map]
  exact fun l hl hcontent => isContent_trimChars.1 hcontent (h l hl)

/-- What the content lines of a text say that is put together from lines. -/
theorem map_snd_contentLines {ls : List (List Char)} (h : ∀ l ∈ ls, '\n' ∉ l) :
    (contentLines (String.ofList (['\n'].intercalate ls))).map Prod.snd = said ls := by
  have hfilter : ∀ lines : List (List Char), (((List.range' 1 lines.length).zip lines).filter fun x =>
      isContent x.2).map Prod.snd = lines.filter isContent := by
    intro lines
    rw [show (fun x : Nat × List Char => isContent x.2) = isContent ∘ Prod.snd from rfl, ← List.filter_map,
      List.map_snd_zip (by rw [List.length_range'])]
  rw [contentLines, hfilter, splitLines_eq_splitOn, String.toList_ofList]
  by_cases hls : ls = []
  · subst hls
    rfl
  · rw [List.splitOn_intercalate _ h hls, ← said]

end TemporalTagger.Text
