/-
Spaces in captured text. A template writes each run of whitespace as one space, so values do not depend on how it is
written. A widened space of a pattern also takes the Mongolian vowel separator, which is no whitespace of templates and
stays in the value. Main facts: `expand_congr` and `expand_of_alike`.
-/
import TemporalTagger.Proofs.Calls
import TemporalTagger.Proofs.Regex.Widening

namespace TemporalTagger.Template

open Text Unicode

/-! ## Runs of spaces -/

/-- Writes each run of the characters of a class as one space: the last of them becomes the space. -/
def joinRuns (p : Char → Bool) : List Char → List Char
  | [] => []
  | c :: cs => if p c then (if cs.head?.any p then joinRuns p cs else ' ' :: joinRuns p cs) else c :: joinRuns p cs

theorem joinRuns_congr {p q : Char → Bool} : ∀ {cs : List Char}, (∀ c ∈ cs, p c = q c) → joinRuns p cs = joinRuns q cs
  | [], _ => rfl
  | c :: cs, h => by
    obtain ⟨hc, hcs⟩ := List.forall_mem_cons.1 h
    have hhead : cs.head?.any p = cs.head?.any q := by
      cases cs with
      | nil => rfl
      | cons d cs => exact hcs d List.mem_cons_self
    rw [joinRuns, joinRuns, hc, hhead, joinRuns_congr hcs]

theorem joinRuns_cons_cons {p : Char → Bool} {c d : Char} (hc : p c = true) (cs : List Char) :
    joinRuns p (c :: d :: cs) = if p d then joinRuns p (d :: cs) else ' ' :: joinRuns p (d :: cs) := by
  rw [joinRuns, if_pos hc]
  rfl

/-- What is not of the class stays, and only spaces come in. -/
theorem mem_joinRuns_iff {p : Char → Bool} {d : Char} (hd : p d = false) (hspace : d ≠ ' ') : ∀ {cs : List Char},
    d ∈ joinRuns p cs ↔ d ∈ cs
  | [] => Iff.rfl
  | c :: cs => by
    have ih : d ∈ joinRuns p cs ↔ d ∈ cs := mem_joinRuns_iff hd hspace
    rw [joinRuns, List.mem_cons]
    split
    next hc =>
      have hne : d ≠ c := by
        rintro rfl
        rw [hd] at hc
        cases hc
      split
      · rw [ih, or_iff_right hne]
      · rw [List.mem_cons, ih, or_iff_right hspace, or_iff_right hne]
    next => rw [List.mem_cons, ih]

/-- Templates write runs of whitespace as one space. The second part is the run that has begun. -/
theorem collapse_eq_joinRuns : ∀ cs : List Char, collapse false cs = joinRuns isSpace cs ∧
    ∀ c, isSpace c = true → ' ' :: collapse true cs = joinRuns isSpace (c :: cs)
  | [] => ⟨rfl, fun c hc => by rw [joinRuns, if_pos hc]; rfl⟩
  | d :: cs => by
    obtain ⟨hfalse, htrue⟩ := collapse_eq_joinRuns cs
    by_cases hd : isSpace d = true
    · refine ⟨?_, fun c hc => ?_⟩
      · rw [collapse, if_pos hd, if_neg Bool.false_ne_true, htrue d hd]
      · rw [collapse, if_pos hd, if_pos rfl, htrue d hd, joinRuns_cons_cons hc, if_pos hd]
    · refine ⟨?_, fun c hc => ?_⟩
      · rw [collapse, if_neg hd, hfalse, joinRuns, if_neg hd]
      · rw [collapse, if_neg hd, hfalse, joinRuns_cons_cons hc, if_neg hd, joinRuns, if_neg hd]

/-! ## Captures that differ in spaces -/

/-- Two captures take part alike and have the same text once each run of the characters of a class is written as one
space. -/
def Alike (p : Char → Bool) (a b : Option String) : Prop :=
  a.map (joinRuns p ·.toList) = b.map (joinRuns p ·.toList)

instance (p : Char → Bool) (a b : Option String) : Decidable (Alike p a b) := inferInstanceAs (Decidable (_ = _))

/-- A character stands in a captured text. -/
def Has (c : Char) (a : Option String) : Prop := ∃ text ∈ a, c ∈ text.toList

instance (c : Char) (a : Option String) : Decidable (Has c a) := inferInstanceAs (Decidable (∃ text ∈ a, _))

theorem captured_eq_joinRuns (capture : Nat → Option String) (digits : List Char) :
    captured capture digits =
      ((readWord? digits).bind fun n => (capture n).map (joinRuns isSpace ·.toList)).getD [] := by
  rw [captured]
  cases readWord? digits with
  | none => rfl
  | some n =>
    rw [Option.bind_some, Option.bind_some]
    cases capture n with
    | none => rfl
    | some text => exact (collapse_eq_joinRuns text.toList).1

variable {f g : Nat → Option String}

/-- Only groups whose numbers fit a machine word are referred to. -/
theorem fillIn_congr (h : ∀ n < UInt64.size, Alike isSpace (f n) (g n)) (template : List Char) :
    fillIn f template = fillIn g template := by
  have hcaptured : captured f = captured g := by
    funext digits
    rw [captured_eq_joinRuns, captured_eq_joinRuns]
    cases hread : readWord? digits with
    | none => rfl
    | some n =>
      obtain ⟨-, hn⟩ := Option.filter_eq_some_iff.1 hread
      rw [Option.bind_some, Option.bind_some, h n (of_decide_eq_true hn)]
  rw [fillIn, hcaptured, fillIn]

theorem expand_congr (h : ∀ n < UInt64.size, Alike isSpace (f n) (g n)) (template : String) (t : Normalization) :
    expand template f t = expand template g t := by
  rw [expand, expand, fillIn_congr h]

/-- A reference to a group. -/
def reference (n : Nat) : String := "group(" ++ toString n ++ ")"

/-- The value of a reference is the captured text, if there is no call in it. -/
theorem expand_reference {n : Nat} (hn : n < UInt64.size) {capture : Nat → Option String}
    (hpercent : ¬ Has '%' (capture n)) (t : Normalization) :
    expand (reference n) capture t = String.ofList (((capture n).map (joinRuns isSpace ·.toList)).getD []) := by
  have htemplate : (reference n).toList = groupWord ++ '(' :: (Nat.toDigits 10 n ++ ')' :: []) := by
    rw [reference, String.toList_append, String.toList_append, toList_toString, List.append_assoc]
    rfl
  have hdigits : ∀ c ∈ Nat.toDigits 10 n, c.isDigit = true := fun c => isDigit_of_mem_toDigits
  have hfill : fillIn capture (reference n).toList = ((capture n).map (joinRuns isSpace ·.toList)).getD [] := by
    rw [fillIn, htemplate, scan_group Nat.toDigits_ne_nil hdigits, render_found, captured_eq_joinRuns,
      readWord?_toDigits hn, Option.bind_some]
    exact List.append_nil _
  -- collapsing brings in nothing but spaces, so there is still no call to evaluate
  have hplain : ∀ c ∈ ((capture n).map (joinRuns isSpace ·.toList)).getD [], c ≠ '%' := by
    cases hcapture : capture n with
    | none => exact fun c hc => absurd hc List.not_mem_nil
    | some text =>
      rintro c hc rfl
      exact hpercent ⟨text, hcapture, (mem_joinRuns_iff (by decide +kernel) (by decide)).1 hc⟩
  rw [expand, hfill, evaluate_of_ne hplain]

/-- The characters that a widened space of a pattern takes. -/
theorem holds_spaceSet_eq {c : Char} (hc : c ≠ DateValue.separator) : Regex.spaceSet.holds c = isSpace c := by
  have hsingle : (Regex.CharSet.single DateValue.separator).holds c = false :=
    Bool.eq_false_iff.2 fun h => hc (Regex.CharSet.holds_single_iff.1 h)
  show (isSpace c || (Regex.CharSet.single DateValue.separator).holds c) = isSpace c
  rw [hsingle, Bool.or_false]

/-- Without the separator the spaces of patterns are those of templates. -/
theorem joinRuns_spaceSet {cs : List Char} (h : DateValue.separator ∉ cs) :
    joinRuns Regex.spaceSet.holds cs = joinRuns isSpace cs :=
  joinRuns_congr fun _ hc => holds_spaceSet_eq fun heq => h (heq ▸ hc)

/-- Captures that take part alike are both missing or are two texts. -/
theorem Alike.cases {p : Char → Bool} {a b : Option String} (h : Alike p a b) : (a = none ∧ b = none) ∨
    ∃ u v, a = some u ∧ b = some v ∧ joinRuns p u.toList = joinRuns p v.toList := by
  cases a with
  | none =>
    cases b with
    | none => exact .inl ⟨rfl, rfl⟩
    | some v => cases h
  | some u =>
    cases b with
    | none => cases h
    | some v => exact .inr ⟨u, v, rfl, rfl, Option.some.inj h⟩

/-- Without the separator captures agree up to whitespace. -/
theorem Alike.of_not_has {a b : Option String} (h : Alike Regex.spaceSet.holds a b) (ha : ¬ Has DateValue.separator a)
    (hb : ¬ Has DateValue.separator b) : Alike isSpace a b := by
  rcases h.cases with ⟨rfl, rfl⟩ | ⟨u, v, rfl, rfl, huv⟩
  · rfl
  · rw [joinRuns_spaceSet fun hu => ha ⟨u, rfl, hu⟩, joinRuns_spaceSet fun hv => hb ⟨v, rfl, hv⟩] at huv
    exact congrArg some huv

theorem has_some_iff {c : Char} {u : String} : Has c (some u) ↔ c ∈ u.toList := by
  simp [Has]

/-- The separator stands in no run of whitespace. -/
theorem Alike.has_separator_iff {a b : Option String} (h : Alike isSpace a b) :
    Has DateValue.separator a ↔ Has DateValue.separator b := by
  rcases h.cases with ⟨rfl, rfl⟩ | ⟨u, v, rfl, rfl, huv⟩
  · rfl
  · have hseparator : isSpace DateValue.separator = false ∧ DateValue.separator ≠ ' ' := by decide +kernel
    have hkept : ∀ cs : List Char, DateValue.separator ∈ joinRuns isSpace cs ↔ DateValue.separator ∈ cs :=
      fun _ => mem_joinRuns_iff hseparator.1 hseparator.2
    rw [has_some_iff, has_some_iff]
    exact (hkept u.toList).symm.trans (by rw [huv]; exact hkept v.toList)

/-- How the spaces of captured texts are written does not count, as far as these are whitespace: captures that agree up
to runs of whitespace have the same value for every template and table. Captures that agree up to what a widened space
takes do so too where no separator is in them. Where one has a separator and the other one has none they do not, and
then the reference to the group has two values. -/
theorem expand_of_alike {f g : Nat → Option String} (hwide : ∀ n, Alike Regex.spaceSet.holds (f n) (g n)) :
    ((∀ n < UInt64.size, Alike isSpace (f n) (g n)) → ∀ template t, expand template f t = expand template g t) ∧
      (∀ n, ¬ Has DateValue.separator (f n) → ¬ Has DateValue.separator (g n) → Alike isSpace (f n) (g n)) ∧
      (∀ n, Alike isSpace (f n) (g n) → (Has DateValue.separator (f n) ↔ Has DateValue.separator (g n))) ∧
      ∀ n < UInt64.size, ¬ Has '%' (f n) → ¬ Has '%' (g n) →
        ∀ t, expand (reference n) f t = expand (reference n) g t ↔ Alike isSpace (f n) (g n) := by
  refine ⟨expand_congr, fun n => (hwide n).of_not_has, fun n => Alike.has_separator_iff, ?_⟩
  intro n hn hf hg t
  rw [expand_reference hn hf, expand_reference hn hg, String.ofList_inj, Alike]
  rcases (hwide n).cases with ⟨hu, hv⟩ | ⟨u, v, hu, hv, -⟩
  · rw [hu, hv]
    exact iff_of_true rfl rfl
  · rw [hu, hv, Option.map_some, Option.map_some, Option.getD_some, Option.getD_some, Option.some_inj]

/-- A phrase with a plain space and the same with a separator in its place have two values. -/
theorem expand_of_alike_phrase :
    (∀ n, Alike Regex.spaceSet.holds (if n = 1 then some "la semaine" else none)
      (if n = 1 then some "la\u180Esemaine" else none)) ∧
    expand (reference 1) (fun n => if n = 1 then some "la semaine" else none) Table.empty ≠
      expand (reference 1) (fun n => if n = 1 then some "la\u180Esemaine" else none) Table.empty := by
  have hwide : ∀ n, Alike Regex.spaceSet.holds (if n = 1 then some "la semaine" else none)
      (if n = 1 then some "la\u180Esemaine" else none) := by
    intro n
    split
    · decide +kernel
    · rfl
  have hiff := (expand_of_alike hwide).2.2.2 1 (by decide) (by decide +kernel) (by decide +kernel) Table.empty
  exact ⟨hwide, hiff.not.2 (by decide +kernel)⟩

end TemporalTagger.Template
