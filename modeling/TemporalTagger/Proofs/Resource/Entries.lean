/-
The lines of a normalization resource. A header names a function. An entry is split where its last separator stands,
so its parts are those it is written from as long as the normalized text holds no quote, whatever the surface text is.
Main facts: `header?_eq_some_iff`, `isEntry_iff` and `entry?_entryLine`.
-/
import TemporalTagger.Proofs.Rule.Spelling
import TemporalTagger.Proofs.Text.Beginnings
import TemporalTagger.Proofs.Text.Lines
import TemporalTagger.Resource.Normalization

namespace TemporalTagger.Normalization

open Text Unicode

/-! ## Headers -/

/-- The name of a function: `norm`, then ASCII letters and digits. -/
def IsFunctionName (name : List Char) : Prop :=
  ∃ rest, name = ['n', 'o', 'r', 'm'] ++ rest ∧ ∀ c ∈ rest, c.isAlphanum = true

/-- A line that begins a section of a function. -/
def IsHeader (line : List Char) (function : String) : Prop :=
  IsFunctionName function.toList ∧ line = '[' :: function.toList ++ [']']

theorem isFunctionName_iff {name : List Char} :
    IsFunctionName name ↔ (['n', 'o', 'r', 'm'].isPrefixOf name && name.all Char.isAlphanum) = true := by
  rw [Bool.and_eq_true, List.isPrefixOf_iff_prefix, List.all_eq_true]
  constructor
  · rintro ⟨rest, rfl, hrest⟩
    refine ⟨List.prefix_append _ _, fun c hc => ?_⟩
    have hnorm : ∀ c ∈ ['n', 'o', 'r', 'm'], c.isAlphanum = true := List.all_eq_true.1 rfl
    exact (List.mem_append.1 hc).elim (hnorm c) (hrest c)
  · rintro ⟨⟨rest, rfl⟩, hall⟩
    exact ⟨rest, rfl, fun c hc => hall c (List.mem_append_right _ hc)⟩

theorem header?_eq_some_iff {line : List Char} {function : String} :
    header? line = some function ↔ IsHeader line function := by
  constructor
  · intro h
    unfold header? at h
    split at h
    next rest =>
      split at h
      next hlast =>
        simp only at h
        split at h
        next hname =>
          obtain rfl := Option.some.inj h
          refine ⟨by rwa [String.toList_ofList, isFunctionName_iff], ?_⟩
          rw [String.toList_ofList, List.cons_append, List.dropLast_append_getLast? _ hlast]
        next => cases h
      next => cases h
    next => cases h
  · rintro ⟨hname, rfl⟩
    simp [header?, isFunctionName_iff.1 hname]

/-! ## Entries -/

/-- What follows the surface text in an entry, after its closing quote; `left` and `right` stand around the comma. -/
def entryEnd (left right normalized : List Char) : List Char :=
  left ++ ',' :: right ++ '"' :: normalized ++ ['"']

/-- The characters of an entry. -/
def entryLine (surface left right normalized : List Char) : List Char :=
  '"' :: surface ++ '"' :: entryEnd left right normalized

/-- A line that is an entry. -/
def IsEntry (line : List Char) : Prop :=
  ∃ surface left right normalized, (∀ c ∈ left ++ right, isSpace c = true) ∧
    line = entryLine surface left right normalized

/-- What stands before a visible character is skipped if it is blank. -/
theorem after?_trimStart {c : Char} (hc : isSpace c = false) {cs rest : List Char} :
    after? [c] (trimStart cs) = some rest ↔ ∃ blanks, (∀ b ∈ blanks, isSpace b = true) ∧ cs = blanks ++ c :: rest := by
  rw [after?_eq_some_iff, List.singleton_append]
  constructor
  · intro h
    refine ⟨cs.takeWhile isSpace, List.all_eq_true.1 List.all_takeWhile, ?_⟩
    rw [← h, trimStart, List.takeWhile_append_dropWhile]
  · rintro ⟨blanks, hblanks, rfl⟩
    rw [trimStart, List.dropWhile_append_of_pos hblanks]
    exact trimStart_eq_self rfl hc

theorem eq_of_normalizedPart? {cs normalized : List Char} (h : normalizedPart? cs = some normalized) :
    ∃ left right, (∀ c ∈ left ++ right, isSpace c = true) ∧ cs = entryEnd left right normalized := by
  obtain ⟨afterComma, hafterComma, hrest⟩ := Option.bind_eq_some_iff.1 h
  obtain ⟨afterQuote, hafterQuote, hend⟩ := Option.bind_eq_some_iff.1 hrest
  obtain ⟨left, hleft, rfl⟩ := (after?_trimStart (by decide +kernel)).1 hafterComma
  obtain ⟨right, hright, rfl⟩ := (after?_trimStart (by decide +kernel)).1 hafterQuote
  split at hend
  next hlast =>
    obtain rfl := Option.some.inj hend
    refine ⟨left, right, fun c hc => (List.mem_append.1 hc).elim (hleft c) (hright c), ?_⟩
    rw [entryEnd, List.append_assoc _ _ ['"'], List.cons_append, List.dropLast_append_getLast? _ hlast,
      List.append_assoc, List.cons_append]
  next => cases hend

theorem normalizedPart?_entryEnd {left right : List Char} (hblank : ∀ c ∈ left ++ right, isSpace c = true)
    (normalized : List Char) : normalizedPart? (entryEnd left right normalized) = some normalized := by
  have hleft : after? [','] (trimStart (entryEnd left right normalized)) =
      some (right ++ '"' :: (normalized ++ ['"'])) :=
    (after?_trimStart (by decide +kernel)).2
      ⟨left, fun c hc => hblank c (List.mem_append_left _ hc), by simp [entryEnd]⟩
  have hright : after? ['"'] (trimStart (right ++ '"' :: (normalized ++ ['"']))) = some (normalized ++ ['"']) :=
    (after?_trimStart (by decide +kernel)).2 ⟨right, fun c hc => hblank c (List.mem_append_right _ hc), rfl⟩
  simp only [normalizedPart?, hleft, hright, Option.bind_eq_bind, Option.bind_some, List.getLast?_concat,
    List.dropLast_concat, if_true]

/-- What is read as an entry is one. -/
theorem eq_of_entryParts? : ∀ {cs surface normalized : List Char}, entryParts? cs = some (surface, normalized) →
    ∃ rest, cs = surface ++ '"' :: rest ∧ normalizedPart? rest = some normalized
  | [], _, _, h => by cases h
  | c :: cs, surface, normalized, h => by
    rw [entryParts?] at h
    split at h
    next surface' normalized' hrest =>
      obtain ⟨rfl, rfl⟩ := Prod.mk.inj (Option.some.inj h)
      obtain ⟨rest, rfl, hpart⟩ := eq_of_entryParts? hrest
      exact ⟨rest, rfl, hpart⟩
    next =>
      split at h
      next hc =>
        obtain ⟨n, hpart, hn⟩ := Option.map_eq_some_iff.1 h
        obtain ⟨rfl, rfl⟩ := Prod.mk.inj hn
        exact ⟨cs, by rw [hc, List.nil_append], hpart⟩
      next => cases h

/-- If nothing after a closing quote can end the surface text, the quote does. -/
theorem entryParts?_append {rest normalized : List Char} (hpart : normalizedPart? rest = some normalized)
    (hrest : entryParts? rest = none) : ∀ surface, entryParts? (surface ++ '"' :: rest) = some (surface, normalized)
  | [] => by rw [List.nil_append, entryParts?, hrest, if_pos rfl, hpart, Option.map_some]
  | c :: surface => by rw [List.cons_append, entryParts?, entryParts?_append hpart hrest surface]

theorem isSome_entryParts?_append {cs : List Char} (h : (entryParts? cs).isSome = true) :
    ∀ pre, (entryParts? (pre ++ cs)).isSome = true
  | [] => h
  | c :: pre => by
    obtain ⟨⟨surface, normalized⟩, hpre⟩ := Option.isSome_iff_exists.1 (isSome_entryParts?_append h pre)
    rw [List.cons_append, entryParts?, hpre]
    rfl

theorem entry?_cons (cs : List Char) : entry? ('"' :: cs) = (entryParts? cs).map writeEntry := by
  rw [ entry?, show after? ['"'] ('"' :: cs) = some cs from after?_append ['"'] cs]
  simp only [Option.bind_eq_bind, Option.bind_some]
  cases entryParts? cs <;> rfl

/-- A line is read as an entry exactly if it is one. -/
theorem isEntry_iff {line : List Char} : IsEntry line ↔ entry? line ≠ none := by
  constructor
  · rintro ⟨surface, left, right, normalized, hblank, rfl⟩
    rw [entryLine, List.cons_append, entry?_cons, ne_eq, Option.map_eq_none_iff]
    refine Option.isSome_iff_ne_none.1 (isSome_entryParts?_append ?_ surface)
    have hpart := normalizedPart?_entryEnd hblank normalized
    cases hrest : entryParts? (entryEnd left right normalized) with
    | none => exact Option.isSome_iff_exists.2 ⟨_, entryParts?_append hpart hrest []⟩
    | some parts => exact isSome_entryParts?_append (Option.isSome_iff_exists.2 ⟨_, hrest⟩) ['"']
  · intro h
    obtain ⟨entry, hentry⟩ := Option.ne_none_iff_exists'.1 h
    obtain ⟨cs, hcs, -⟩ := Option.bind_eq_some_iff.1 hentry
    obtain rfl := after?_eq_some_iff.1 hcs
    rw [List.singleton_append, entry?_cons, Option.map_eq_some_iff] at hentry
    obtain ⟨⟨surface, normalized⟩, hparts, -⟩ := hentry
    obtain ⟨rest, rfl, hpart⟩ := eq_of_entryParts? hparts
    obtain ⟨left, right, hblank, rfl⟩ := eq_of_normalizedPart? hpart
    exact ⟨surface, left, right, normalized, hblank, rfl⟩

theorem count_quote_entryEnd {left right : List Char} (hblank : ∀ c ∈ left ++ right, isSpace c = true)
    (normalized : List Char) : (entryEnd left right normalized).count '"' = normalized.count '"' + 2 := by
  have hgaps : (left ++ right).count '"' = 0 := List.count_eq_zero.2 fun h => by
    have hspace := hblank _ h
    revert hspace
    decide +kernel
  rw [List.count_append] at hgaps
  simp [entryEnd, List.count_append]
  omega

/-- The parts of an entry are those it is written from if the normalized text holds no quote. -/
theorem entry?_entryLine {surface left right normalized : List Char} (hblank : ∀ c ∈ left ++ right, isSpace c = true)
    (hquote : '"' ∉ normalized) :
    entry? (entryLine surface left right normalized) = some (String.ofList surface, String.ofList normalized) := by
  -- a later closing quote would leave two quotes after it, and there is but the last
  have hrest : entryParts? (entryEnd left right normalized) = none := by
    rw [Option.eq_none_iff_forall_ne_some]
    rintro ⟨surface', normalized'⟩ hparts
    obtain ⟨rest, hsplit, hpart⟩ := eq_of_entryParts? hparts
    obtain ⟨left', right', hblank', rfl⟩ := eq_of_normalizedPart? hpart
    have hcount := congrArg (List.count '"') hsplit
    rw [count_quote_entryEnd hblank, List.count_append, List.count_cons_self, count_quote_entryEnd hblank',
      List.count_eq_zero.2 hquote] at hcount
    omega
  rw [entryLine, List.cons_append, entry?_cons, entryParts?_append (normalizedPart?_entryEnd hblank normalized) hrest,
    Option.map_some]
  rfl

end TemporalTagger.Normalization
