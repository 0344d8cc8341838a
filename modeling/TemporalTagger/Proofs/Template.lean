/-
Evaluating templates whose calls are not nested. Such a template is a list of segments; as long as no
captured text holds a percent sign or a parenthesis, one round of evaluation puts the value of each
segment in its place, and if the values hold no percent sign the rounds after it change nothing.
Main fact: `expand_of_segments`.
-/
import Mathlib.Data.List.TakeWhile
import TemporalTagger.Proofs.Text.Beginnings
import TemporalTagger.Proofs.Text.Pieces
import TemporalTagger.Template

namespace TemporalTagger

open Text

deriving instance DecidableEq for Piece

/-! ## References -/

/-- The word before the opening parenthesis of a reference. -/
def groupWord : List Char := ['g', 'r', 'o', 'u', 'p']

/-- A reference is read from its digits. -/
theorem groupReference?_eq_some_iff {cs digits : List Char} {n : Nat} : groupReference? cs = some (digits, n) ↔
    (digits ≠ [] ∧ ∀ c ∈ digits, c.isDigit = true) ∧ n = digits.length + 7 ∧
      ∃ rest, cs = groupWord ++ '(' :: (digits ++ ')' :: rest) := by
  have hword : "group(".toList = groupWord ++ ['('] := rfl
  constructor
  · intro h
    simp only [groupReference?, hword, Option.bind_eq_bind, Option.bind_eq_some_iff, after?_eq_some_iff,
      Option.ite_none_left_eq_some] at h
    obtain ⟨after, rfl, hne, rest, hrest, h⟩ := h
    obtain ⟨rfl, rfl⟩ := Prod.mk.inj (Option.some.inj h)
    refine ⟨⟨by simpa using hne, fun c hc => List.mem_takeWhile_imp hc⟩, Nat.add_comm _ _, rest, ?_⟩
    have hsplit := List.takeWhile_append_dropWhile (p := Char.isDigit) (l := after)
    rw [hrest] at hsplit
    rw [List.append_assoc]
    exact congrArg (fun u => groupWord ++ '(' :: u) hsplit.symm
  · rintro ⟨⟨hne, hdigits⟩, rfl, rest, rfl⟩
    have htake : (digits ++ ')' :: rest).takeWhile Char.isDigit = digits := by
      rw [List.takeWhile_append_of_pos hdigits, List.takeWhile_cons_of_neg (by decide), List.append_nil]
    have hdrop : (digits ++ ')' :: rest).dropWhile Char.isDigit = ')' :: rest := by
      rw [List.dropWhile_append_of_pos hdigits, List.dropWhile_cons_of_neg (by decide)]
    have hafter : after? [')'] (')' :: rest) = some rest := after?_append [')'] rest
    rw [groupReference?, hword, show groupWord ++ '(' :: (digits ++ ')' :: rest) =
      (groupWord ++ ['(']) ++ (digits ++ ')' :: rest) by simp, after?_append]
    simp only [Option.bind_eq_bind, Option.bind_some, htake, hdrop, hafter, List.isEmpty_iff, if_neg hne,
      Nat.add_comm 7]

theorem scan_group {digits : List Char} (hne : digits ≠ []) (hdigits : ∀ c ∈ digits, c.isDigit = true)
    (rest : List Char) : scan groupReference? (groupWord ++ '(' :: (digits ++ ')' :: rest)) =
      .found digits :: scan groupReference? rest := by
  have hread := groupReference?_eq_some_iff.2 ⟨⟨hne, hdigits⟩, rfl, rest, rfl⟩
  have hsplit : groupWord ++ '(' :: (digits ++ ')' :: rest) =
      'g' :: ((['r', 'o', 'u', 'p', '('] ++ (digits ++ [')'])) ++ rest) := by simp [groupWord]
  have hlength : digits.length + 7 = (['r', 'o', 'u', 'p', '('] ++ (digits ++ [')'])).length + 1 := by
    simp only [List.length_append, List.length_cons, List.length_nil]
    omega
  rw [hsplit, hlength] at hread
  rw [hsplit, scan_found hread]

namespace Template

/-! ## Segments -/

/-- A part of a template: a character, a reference, or a call with references in its argument. -/
inductive Segment
  | char (c : Char)
  | group (digits : List Char)
  | norm (name : List Char) (argument : List (Piece (List Char)))
  | sum (argument : List (Piece (List Char)))
  deriving DecidableEq

/-- The text of pieces of a template. -/
def filled (capture : Nat → Option String) (pieces : List (Piece (List Char))) : List Char :=
  render (captured capture) pieces

/-- Whether a character takes no part in calls. -/
def isPlain (c : Char) : Bool := c != '%' && !isParenthesis c

/-- A text without parentheses. -/
def Flat (cs : List Char) : Prop := ∀ c ∈ cs, isParenthesis c = false

instance : DecidablePred Flat := fun _ => List.decidableBAll _ _

theorem flat_of_isPlain {cs : List Char} (h : ∀ c ∈ cs, isPlain c = true) : Flat cs := fun c hc => by
  simpa using (Bool.and_eq_true_iff.1 (h c hc)).2

namespace Segment

def pieces : Segment → List (Piece (List Char))
  | char c => [.char c]
  | group digits => [.found digits]
  | norm name argument => .char '%' :: (name.map .char ++ .char '(' :: (argument ++ [.char ')']))
  | sum argument => .char '%' :: (['S', 'U', 'M', '%'].map .char ++ .char '(' :: (argument ++ [.char ')']))

/-- What evaluation makes of a segment. -/
def value (t : Normalization) (capture : Nat → Option String) : Segment → List Char
  | char c => [c]
  | group digits => captured capture digits
  | norm name argument => Call.value t ⟨.norm (String.ofList name), filled capture argument⟩
  | sum argument => Call.value t ⟨.sum, filled capture argument⟩

/-- A segment is found again in the text of its template. -/
def Clean (capture : Nat → Option String) : Segment → Prop
  | char c => c ≠ '%'
  | group digits => ∀ c ∈ captured capture digits, isPlain c = true
  | norm name argument =>
    (∃ rest, name = ['n', 'o', 'r', 'm'] ++ rest ∧ rest.all Char.isAlphanum = true) ∧
      ∀ c ∈ filled capture argument, isPlain c = true
  | sum argument => ∀ c ∈ filled capture argument, isPlain c = true

end Segment

/-! ## One round -/

theorem call?_of_ne {c : Char} (h : c ≠ '%') (rest : List Char) : call? (c :: rest) = none := by
  rw [call?, after?, if_neg (by simpa using fun h' => h h'.symm)]
  rfl

theorem scan_call?_of_ne : ∀ {cs : List Char}, (∀ c ∈ cs, c ≠ '%') → ∀ rest : List Char,
    scan call? (cs ++ rest) = cs.map Piece.char ++ scan call? rest
  | [], _, _ => rfl
  | c :: cs, h, rest => by
    obtain ⟨hc, h⟩ := List.forall_mem_cons.1 h
    rw [List.cons_append, scan_char (call?_of_ne hc _), scan_call?_of_ne h rest]
    rfl

/-- An argument goes on to the first parenthesis. -/
theorem takeWhile_argument {argument : List Char} (h : Flat argument) {c : Char} (hc : isParenthesis c = true)
    (rest : List Char) : (argument ++ c :: rest).takeWhile (!isParenthesis ·) = argument := by
  rw [List.takeWhile_append_of_pos fun c hc => by rw [h c hc, Bool.not_false],
    List.takeWhile_cons_of_neg (by rw [hc, Bool.not_true]; exact Bool.false_ne_true), List.append_nil]

/-- A call is recognised by the name of its function. -/
theorem call?_of_function {name argument : List Char} {f : Function}
    (hf : ∀ rest, function? (name ++ '(' :: rest) = some (f, name.length)) (h : Flat argument) (rest : List Char) :
    call? ('%' :: (name ++ '(' :: (argument ++ ')' :: rest))) =
      some (⟨f, argument⟩, name.length + argument.length + 3) := by
  rw [call?, show '%' :: (name ++ '(' :: (argument ++ ')' :: rest)) =
    ['%'] ++ (name ++ '(' :: (argument ++ ')' :: rest)) from rfl, after?_append]
  simp only [Option.bind_eq_bind, Option.bind_some, hf, List.drop_left]
  rw [show '(' :: (argument ++ ')' :: rest) = ['('] ++ (argument ++ ')' :: rest) from rfl, after?_append]
  simp only [Option.bind_some, takeWhile_argument h (c := ')') rfl, List.drop_left]
  rw [show ')' :: rest = [')'] ++ rest from rfl, after?_append]
  rfl

theorem scan_call {name argument : List Char} {f : Function}
    (hf : ∀ rest, function? (name ++ '(' :: rest) = some (f, name.length)) (h : Flat argument) (rest : List Char) :
    scan call? ('%' :: (name ++ '(' :: (argument ++ ')' :: rest))) = .found ⟨f, argument⟩ :: scan call? rest := by
  have hcall := call?_of_function hf h rest
  rw [show name ++ '(' :: (argument ++ ')' :: rest) = (name ++ '(' :: (argument ++ [')'])) ++ rest by simp] at hcall ⊢
  refine scan_found (hcall.trans ?_)
  simp only [List.length_append, List.length_cons, List.length_nil]
  rw [show name.length + argument.length + 3 = name.length + (argument.length + (0 + 1) + 1) + 1 by omega]

theorem function?_norm {rest : List Char} (h : rest.all Char.isAlphanum = true) (after : List Char) :
    function? ((['n', 'o', 'r', 'm'] ++ rest) ++ '(' :: after) =
      some (.norm (String.ofList (['n', 'o', 'r', 'm'] ++ rest)), (['n', 'o', 'r', 'm'] ++ rest).length) := by
  have htake : (rest ++ '(' :: after).takeWhile Char.isAlphanum = rest := by
    rw [List.takeWhile_append_of_pos (List.all_eq_true.1 h)]
    simp [show Char.isAlphanum '(' = false from rfl]
  rw [function?, List.append_assoc, show "norm".toList = ['n', 'o', 'r', 'm'] from rfl, after?_append]
  simp only [htake]

theorem function?_sum (after : List Char) :
    function? (['S', 'U', 'M', '%'] ++ '(' :: after) = some (.sum, ['S', 'U', 'M', '%'].length) := by
  simp [function?, after?]
  rfl

namespace Segment

variable {t : Normalization} {capture : Nat → Option String}

theorem filled_norm (name : List Char) (argument : List (Piece (List Char))) (rest : List Char) :
    filled capture (norm name argument).pieces ++ rest =
      '%' :: (name ++ '(' :: (filled capture argument ++ ')' :: rest)) := by
  rw [pieces, filled, render_char, render_append, render_map_char, render_char, render_append]
  simp [filled, render]

/-- Scanning for calls finds a segment at the front, and its value is put in its place. -/
theorem render_scan_append : ∀ {g : Segment}, g.Clean capture → ∀ rest : List Char,
    render (Call.value t) (scan call? (filled capture g.pieces ++ rest)) =
      g.value t capture ++ render (Call.value t) (scan call? rest)
  | char c, h, rest => by
    show render _ (scan call? (c :: rest)) = _
    rw [scan_char (call?_of_ne h rest)]
    rfl
  | group digits, h, rest => by
    have : filled capture (group digits).pieces = captured capture digits := by simp [filled, pieces, render]
    rw [this, scan_call?_of_ne (fun c hc => by have := h c hc; simp [isPlain] at this; exact this.1), render_append,
      render_map_char]
    rfl
  | norm name argument, ⟨⟨name', hname, hall⟩, h⟩, rest => by
    have hf : ∀ after, function? (name ++ '(' :: after) = some (.norm (String.ofList name), name.length) := by
      rw [hname]
      exact function?_norm hall
    rw [filled_norm, scan_call hf (flat_of_isPlain h)]
    rfl
  | sum argument, h, rest => by
    rw [show (sum argument).pieces = (norm ['S', 'U', 'M', '%'] argument).pieces from rfl, filled_norm,
      scan_call function?_sum (flat_of_isPlain h)]
    rfl

theorem render_scan_segments : ∀ {gs : List Segment}, (∀ g ∈ gs, g.Clean capture) →
    render (Call.value t) (scan call? (filled capture (gs.flatMap pieces))) = gs.flatMap (value t capture)
  | [], _ => rfl
  | g :: gs, h => by
    obtain ⟨hg, h⟩ := List.forall_mem_cons.1 h
    rw [List.flatMap_cons, filled, render_append, ← filled, render_scan_append hg, ← filled, render_scan_segments h,
      List.flatMap_cons]

end Segment

/-! ## All rounds -/

/-- A text without calls is not changed. -/
theorem evaluate_of_found_eq_nil (t : Normalization) {cs : List Char} (h : found (scan call? cs) = []) :
    ∀ n, evaluate t n cs = cs
  | 0 => rfl
  | n + 1 => by
    rw [evaluate, scan_eq_map_char h, render_map_char]
    exact evaluate_of_found_eq_nil t h n

theorem found_scan_of_ne {cs : List Char} (h : ∀ c ∈ cs, c ≠ '%') : found (scan call? cs) = [] := by
  have hscan := scan_call?_of_ne h []
  rw [List.append_nil, show scan call? [] = [] from rfl, List.append_nil] at hscan
  rw [hscan, found_map_char]

theorem evaluate_of_ne {t : Normalization} {cs : List Char} (h : ∀ c ∈ cs, c ≠ '%') : ∀ n, evaluate t n cs = cs :=
  evaluate_of_found_eq_nil t (found_scan_of_ne h)

/-- A template of clean segments becomes the values of the segments, if these hold no percent sign. -/
theorem expand_of_segments {t : Normalization} {capture : Nat → Option String} {template : List Char}
    {gs : List Segment} (hread : gs.flatMap Segment.pieces = scan groupReference? template)
    (hclean : ∀ g ∈ gs, g.Clean capture) (hvalue : ∀ c ∈ gs.flatMap (Segment.value t capture), c ≠ '%') :
    expand (String.ofList template) capture t = String.ofList (gs.flatMap (Segment.value t capture)) := by
  have hround := Segment.render_scan_segments (t := t) hclean
  rw [filled, hread] at hround
  rw [expand, String.toList_ofList, fillIn, maxNesting, evaluate, hround, evaluate_of_ne hvalue]

end Template

end TemporalTagger
