/-
What a template makes of all texts that its groups can capture: expressions that the values of its
segments match, one set of them for captured texts that slip and one for those that do not. Main fact:
`allOutputs_spec`.
-/
import TemporalTagger.Proofs.Resource.Lookup
import TemporalTagger.Proofs.Values.Texts

namespace TemporalTagger.DateValue

open Regex Template Text Unicode

/-! ## Texts and calls -/

/-- What the values of a rule are made from: the sections of the normalization table, the bodies of
the groups, and which group can slip. -/
structure Setting where
  sections : List (List Char × List (List Char × List Char))
  body? : Nat → Option Regex
  slip : Option (Nat × Slip)

/-- The text of a group as it enters a template. -/
def groupText (capture : Nat → Option String) (n : Nat) : List Char :=
  match capture n with
  | some text => collapse false text.toList
  | none => []

/-- The characters that calls are made of. -/
def reserved : CharSet := .union (.single '%') (.union (.single '(') (.single ')'))

/-- Any text with a separator and without a percent sign. The first separator is told apart, so that
there is one way to match only. -/
def withSeparator : Regex :=
  cat (star (set (.compl (.union (.single '%') (.single separator)))) true)
    (cat (set (.single separator)) (star (set (.compl (.single '%'))) true))

/-- What a normalization function makes of an argument. -/
def normValue (entries : List (List Char × List Char)) (argument : List Char) : List Char :=
  (Normalization.lookupChars? entries argument).getD argument

/-- What adding up makes of an argument. -/
def sumValue (argument : List Char) : List Char :=
  ((sum? argument).map fun n => (toString n).toList).getD argument

theorem isPlain_iff {c : Char} : isPlain c = true ↔ reserved.holds c = false := by
  have h : ∀ d : Char, (CharSet.single d).holds c = decide (c = d) := fun d => by
    rw [Bool.eq_iff_iff, CharSet.holds_single_iff, decide_eq_true_iff]
  have : reserved.holds c = ((CharSet.single '%').holds c ||
    ((CharSet.single '(').holds c || (CharSet.single ')').holds c)) := rfl
  rw [this, h, h, h, isPlain, isParenthesis]
  by_cases h₁ : c = '%' <;> by_cases h₂ : c = '(' <;> by_cases h₃ : c = ')' <;> simp [h₁, h₂, h₃]

theorem matches_star_set {s : CharSet} {greedy : Bool} : ∀ {t : List Char}, (∀ c ∈ t, s.holds c = true) →
    (star (set s) greedy).Matches t
  | [], _ => .none
  | _ :: _, h => by
    obtain ⟨hc, h⟩ := List.forall_mem_cons.1 h
    exact .more (.set hc) (matches_star_set h)

theorem matches_withSeparator {t : List Char} (hsep : separator ∈ t) (h : ∀ c ∈ t, c ≠ '%') :
    withSeparator.Matches t := by
  obtain ⟨u, v, rfl, hu⟩ := List.eq_append_cons_of_mem hsep
  have hsingle : ∀ {c d : Char}, c ≠ d → (CharSet.single d).holds c = false := fun hcd => by
    rw [Bool.eq_false_iff, Ne, CharSet.holds_single_iff]
    exact hcd
  refine .cat (matches_star_set fun c hc => ?_) (.cat (t := [separator]) (.set (CharSet.holds_single_iff.2 rfl))
    (matches_star_set fun c hc => ?_))
  · show (!((CharSet.single '%').holds c || (CharSet.single separator).holds c)) = true
    rw [hsingle (h c (List.mem_append_left _ hc)), hsingle fun h' : c = separator => hu (h' ▸ hc)]
    rfl
  · show (!(CharSet.single '%').holds c) = true
    rw [hsingle (h c (List.mem_append_right _ (List.mem_cons_of_mem _ hc)))]
    rfl

/-- Lower case leaves a separator. -/
theorem separator_mem_lowerFrom : ∀ (before : List Char) {t : List Char}, separator ∈ t →
    separator ∈ lowerFrom before t
  | before, c :: t, h => by
    rw [lowerFrom]
    rcases List.mem_cons.1 h with rfl | h
    · rw [if_neg (by decide)]
      exact List.mem_append_left _ (by decide +kernel)
    · exact List.mem_append_right _ (separator_mem_lowerFrom (c :: before) h)

theorem lookup_eq_none {entries : List (List Char × List Char)} (h : ∀ e ∈ entries, separator ∉ e.1) {t : List Char}
    (ht : separator ∈ t) : entries.reverse.lookup t = none := by
  rw [List.lookup_eq_none_iff]
  rintro e he
  rw [bne_iff_ne]
  rintro rfl
  exact h e (List.mem_reverse.1 he) ht

/-- Entries without a separator do not touch a text with one. -/
theorem normValue_of_separator {entries : List (List Char × List Char)} (h : ∀ e ∈ entries, separator ∉ e.1)
    {t : List Char} (ht : separator ∈ t) : normValue entries t = t := by
  rw [normValue, Normalization.lookupChars?_eq, lookup_eq_none h ht, lookup_eq_none h (separator_mem_lowerFrom [] ht)]
  rfl

/-! ## Outputs of words -/

/-- What a value can be for the texts of a word that are kept. If it is always the text itself, the
word says it all. -/
def wordOutputs (value : List Char → List Char) (keep : List Char → Bool) (w : List Item) : Option (List Regex) := do
  let ts ← texts false w
  let kept := ts.filter keep
  let written := kept.map fun t => literalChars (value t)
  match ofWord? w with
  | none => some written
  | some rs =>
    if kept.isEmpty then some []
    else if kept.all fun t => value t == t then some [catAll rs]
    else some written

theorem exists_output_of_spells {value : List Char → List Char} {keep : List Char → Bool} {w : List Item}
    {rs : List Regex} (h : wordOutputs value keep w = some rs) {t : List Char} (ht : Spells w t)
    (hsep : separator ∉ t) (hkeep : keep (collapse false t) = true) :
    ∃ r ∈ rs, r.Matches (value (collapse false t)) := by
  obtain ⟨ts, hts, h⟩ := Option.bind_eq_some_iff.1 h
  have hmem : collapse false t ∈ ts.filter keep := List.mem_filter.2 ⟨collapse_mem_texts ht hts hsep, hkeep⟩
  have hwritten : ∃ r ∈ (ts.filter keep).map fun t => literalChars (value t), r.Matches (value (collapse false t)) :=
    ⟨_, List.mem_map_of_mem hmem, matches_literalChars _⟩
  simp only at h
  cases hw : ofWord? w with
  | none =>
    rw [hw] at h
    exact Option.some.inj h ▸ hwritten
  | some ss =>
    rw [hw] at h
    simp only at h
    split at h
    next hempty => rw [List.isEmpty_iff.1 hempty] at hmem; cases hmem
    next =>
      split at h
      next hall =>
        have hfixed : value (collapse false t) = collapse false t := by
          simpa using List.all_eq_true.1 hall _ hmem
        rw [← Option.some.inj h, hfixed]
        exact ⟨_, List.mem_singleton_self _, matches_collapse ht hts hw⟩
      next => exact Option.some.inj h ▸ hwritten

/-- What a value can be for the kept texts of words. -/
def wordsOutputs (value : List Char → List Char) (keep : List Char → Bool) : List (List Item) → Option (List Regex)
  | [] => some []
  | w :: ws => do
    let rs ← wordOutputs value keep w
    let ss ← wordsOutputs value keep ws
    some (rs ++ ss)

theorem exists_output_of_mem {value : List Char → List Char} {keep : List Char → Bool} :
    ∀ {ws : List (List Item)} {rs : List Regex}, wordsOutputs value keep ws = some rs → ∀ {w : List Item}, w ∈ ws →
    ∀ {t : List Char}, Spells w t → separator ∉ t → keep (collapse false t) = true →
    ∃ r ∈ rs, r.Matches (value (collapse false t))
  | w :: ws, rs, h, v, hv, t, ht, hsep, hkeep => by
    obtain ⟨as, has, h⟩ := Option.bind_eq_some_iff.1 h
    obtain ⟨bs, hbs, h⟩ := Option.bind_eq_some_iff.1 h
    obtain rfl := Option.some.inj h
    rcases List.mem_cons.1 hv with rfl | hv
    · obtain ⟨r, hr, hm⟩ := exists_output_of_spells has ht hsep hkeep
      exact ⟨r, List.mem_append_left _ hr, hm⟩
    · obtain ⟨r, hr, hm⟩ := exists_output_of_mem hbs hv ht hsep hkeep
      exact ⟨r, List.mem_append_right _ hr, hm⟩

/-! ## Outputs of segments -/

namespace Setting

variable (σ : Setting)

/-- How a group can slip. -/
def slipOf (n : Nat) : Option Slip :=
  match σ.slip with
  | some (m, k) => if m = n then some k else none
  | none => none

/-- Whether a text of a group is kept: all are, but those of the group that can slip only if they do or
do not, as asked for. -/
def keeps (slips : Bool) (n : Nat) (t : List Char) : Bool :=
  match σ.slipOf n with
  | some k => k.holds t == slips
  | none => true

/-- What a value can be for the texts of a group. A value that is blind leaves texts with a separator as
they are. -/
def callOutputs (slips : Bool) (n : Nat) (value : List Char → List Char) (blind : Bool) : Option (List Regex) := do
  let body ← σ.body? n
  let ws ← body.words
  if !body.avoids reserved then none
  else if σ.slipOf n = some .separator then
    if !slips then wordsOutputs value (fun _ => true) ws
    else if blind then some [withSeparator]
    else none
  else if body.avoids (.single separator) then wordsOutputs value (σ.keeps slips n) ws
  else none

/-- The characters of pieces without references. -/
def chars? : List (Piece (List Char)) → Option (List Char)
  | [] => some []
  | .char c :: pieces => (chars? pieces).map (c :: ·)
  | .found _ :: _ => none

/-- The group that an argument starts with, and what comes after it. -/
def argument? : List (Piece (List Char)) → Option (Nat × List Char)
  | .found digits :: pieces => do
    let n ← readWord? digits
    let after ← chars? pieces
    some (n, after)
  | _ => none

/-- What the value of a segment can be. -/
def outputs (slips : Bool) : Segment → Option (List Regex)
  | .char c => if c = '%' then none else some [set (.single c)]
  | .group digits => do
    let n ← readWord? digits
    let body ← σ.body? n
    if body.avoids (.union reserved .space) && (σ.slipOf n).isNone then some [body] else none
  | .norm name argument => do
    let (n, after) ← argument? argument
    let entries := Normalization.entriesOf name σ.sections
    if ['n', 'o', 'r', 'm'].isPrefixOf name && name.all Char.isAlphanum && after.all isPlain then
      σ.callOutputs slips n (fun t => normValue entries (t ++ after)) (entries.all fun e => !e.1.contains separator)
    else none
  | .sum argument => do
    let (n, after) ← argument? argument
    if after.all isPlain then σ.callOutputs slips n (fun t => sumValue (t ++ after)) false else none

/-- What captured texts are known to be. -/
structure Captures (slips : Bool) (capture : Nat → Option String) : Prop where
  matched : ∀ n body, σ.body? n = some body → ∃ t, capture n = some (String.ofList t) ∧ body.Matches t
  slipped : ∀ n k, σ.slip = some (n, k) → k.holds (groupText capture n) = slips

end Setting

variable {σ : Setting} {slips : Bool} {capture : Nat → Option String}

theorem captured_eq {digits : List Char} {n : Nat} (h : readWord? digits = some n) :
    captured capture digits = groupText capture n := by
  rw [captured, h, groupText]
  rfl

theorem Setting.Captures.keeps (h : σ.Captures slips capture) (n : Nat) : σ.keeps slips n (groupText capture n) = true := by
  unfold Setting.keeps Setting.slipOf
  cases hs : σ.slip with
  | none => rfl
  | some s =>
    obtain ⟨m, k⟩ := s
    simp only
    split
    next k' hk =>
      split at hk
      next hm =>
        obtain rfl := Option.some.inj hk
        rw [← hm, h.slipped m k hs, beq_self_eq_true]
      next => cases hk
    next => rfl

theorem exists_groupText {n : Nat} {body : Regex} (h : σ.Captures slips capture) (hbody : σ.body? n = some body) :
    ∃ t, groupText capture n = collapse false t ∧ body.Matches t := by
  obtain ⟨t, ht, hm⟩ := h.matched n body hbody
  exact ⟨t, by simp only [groupText, ht, String.toList_ofList], hm⟩

theorem isPlain_of_mem_collapse {body : Regex} (hb : body.avoids reserved = true) {t : List Char}
    (ht : body.Matches t) {c : Char} (hc : c ∈ collapse false t) : isPlain c = true := by
  rcases mem_of_mem_collapse false hc with rfl | hc
  · rfl
  · exact isPlain_iff.2 (holds_of_avoids hb ht hc)

theorem callOutputs_spec {n : Nat} {value : List Char → List Char} {blind : Bool} {rs : List Regex}
    (hcap : σ.Captures slips capture) (h : σ.callOutputs slips n value blind = some rs)
    (hblind : blind = true → ∀ t, separator ∈ t → (∀ c ∈ t, isPlain c = true) →
      separator ∈ value t ∧ ∀ c ∈ value t, isPlain c = true) :
    (∀ c ∈ groupText capture n, isPlain c = true) ∧ ∃ r ∈ rs, r.Matches (value (groupText capture n)) := by
  obtain ⟨body, hbody, h⟩ := Option.bind_eq_some_iff.1 h
  obtain ⟨ws, hws, h⟩ := Option.bind_eq_some_iff.1 h
  obtain ⟨t, ht, hm⟩ := exists_groupText hcap hbody
  obtain ⟨w, hw, hspells⟩ := exists_word_of_matches hws hm
  have hkeeps := hcap.keeps n
  rw [ht] at hkeeps ⊢
  have hsep : isSpace separator = false := by decide +kernel
  split at h
  · cases h
  next hreserved =>
    rw [Bool.not_eq_true, Bool.not_eq_false'] at hreserved
    have hplain : ∀ c ∈ collapse false t, isPlain c = true := fun c => isPlain_of_mem_collapse hreserved hm
    refine ⟨hplain, ?_⟩
    split at h
    next hslip =>
      have hheld : (collapse false t).contains separator = slips := by
        rw [Setting.keeps, hslip] at hkeeps
        simpa [Slip.holds] using hkeeps
      split at h
      next hno =>
        refine exists_output_of_mem h hw hspells (fun hs => ?_) rfl
        have := List.contains_iff_mem.2 (mem_collapse_of_ne hsep false hs)
        rw [hheld] at this
        rw [this] at hno
        cases hno
      next hyes =>
        split at h
        next hb =>
          rw [Bool.not_eq_true, Bool.not_eq_false'] at hyes
          rw [hyes] at hheld
          obtain ⟨hmem, hval⟩ := hblind hb _ (List.contains_iff_mem.1 hheld) hplain
          obtain rfl := Option.some.inj h
          refine ⟨_, List.mem_singleton_self _, matches_withSeparator hmem fun c hc => ?_⟩
          have := hval c hc
          rintro rfl
          cases this
        next => cases h
    next =>
      split at h
      next hno =>
        refine exists_output_of_mem h hw hspells (fun hs => ?_) hkeeps
        have := holds_of_avoids hno hm hs
        rw [CharSet.holds_single_iff.2 rfl] at this
        cases this
      next => cases h

theorem filled_of_chars? : ∀ {pieces : List (Piece (List Char))} {cs : List Char}, Setting.chars? pieces = some cs →
    filled capture pieces = cs
  | [], _, h => Option.some.inj h
  | .char c :: pieces, _, h => by
    obtain ⟨cs, hcs, rfl⟩ := Option.map_eq_some_iff.1 h
    exact congrArg (c :: ·) (filled_of_chars? hcs)

theorem filled_of_argument? {pieces : List (Piece (List Char))} {n : Nat} {after : List Char}
    (h : Setting.argument? pieces = some (n, after)) : filled capture pieces = groupText capture n ++ after := by
  cases pieces with
  | nil => cases h
  | cons p pieces =>
    cases p with
    | char c => cases h
    | found digits =>
      obtain ⟨m, hm, h⟩ := Option.bind_eq_some_iff.1 h
      obtain ⟨cs, hcs, h⟩ := Option.bind_eq_some_iff.1 h
      obtain ⟨rfl, rfl⟩ := Prod.mk.inj (Option.some.inj h)
      rw [← captured_eq hm, ← filled_of_chars? hcs]
      rfl

/-- The normalization table of a setting. -/
def Setting.table (σ : Setting) : Normalization :=
  Normalization.ofSections (σ.sections.map Normalization.writeSection)

theorem value_norm (name argument : List Char) :
    Call.value σ.table ⟨.norm (String.ofList name), argument⟩ =
      normValue (Normalization.entriesOf name σ.sections) argument := by
  show ((Normalization.lookup _ _ _).map String.toList).getD argument = _
  rw [Setting.table, Normalization.lookup_ofSections, normValue]
  cases Normalization.lookupChars? (Normalization.entriesOf name σ.sections) argument with
  | none => rfl
  | some v => exact String.toList_ofList

theorem name_of_all {name : List Char} (h : (['n', 'o', 'r', 'm'].isPrefixOf name && name.all Char.isAlphanum) = true) :
    ∃ rest, name = ['n', 'o', 'r', 'm'] ++ rest ∧ rest.all Char.isAlphanum = true := by
  rw [Bool.and_eq_true, List.isPrefixOf_iff_prefix] at h
  obtain ⟨⟨rest, rfl⟩, hall⟩ := h
  rw [List.all_append, Bool.and_eq_true] at hall
  exact ⟨rest, rfl, hall.2⟩

/-- A segment is clean, and its value is matched by one of its outputs. -/
theorem outputs_spec (hcap : σ.Captures slips capture) : ∀ {g : Segment} {rs : List Regex},
    σ.outputs slips g = some rs → g.Clean capture ∧ ∃ r ∈ rs, r.Matches (g.value σ.table capture)
  | .char c, rs, h => by
    rw [Setting.outputs] at h
    split at h
    · cases h
    next hc =>
      obtain rfl := Option.some.inj h
      exact ⟨hc, _, List.mem_singleton_self _, .set (CharSet.holds_single_iff.2 rfl)⟩
  | .group digits, rs, h => by
    obtain ⟨n, hn, h⟩ := Option.bind_eq_some_iff.1 h
    obtain ⟨body, hbody, h⟩ := Option.bind_eq_some_iff.1 h
    obtain ⟨t, ht, hm⟩ := exists_groupText hcap hbody
    split at h
    next havoids =>
      obtain rfl := Option.some.inj h
      have hno : ∀ c ∈ t, reserved.holds c = false ∧ isSpace c = false := by
        intro c hc
        have : (reserved.holds c || isSpace c) = false :=
          holds_of_avoids (Bool.and_eq_true_iff.1 havoids).1 hm hc
        rwa [Bool.or_eq_false_iff] at this
      have hvalue : captured capture digits = t := by
        rw [captured_eq hn, ht, collapse_of_ne false fun c hc => (hno c hc).2]
      refine ⟨fun c hc => ?_, body, List.mem_singleton_self _, ?_⟩
      · rw [hvalue] at hc
        exact isPlain_iff.2 (hno c hc).1
      · show body.Matches (captured capture digits)
        rwa [hvalue]
    next => cases h
  | .norm name argument, rs, h => by
    obtain ⟨⟨n, after⟩, harg, h⟩ := Option.bind_eq_some_iff.1 h
    simp only at h
    split at h
    next hok =>
      obtain ⟨hname, hafter⟩ := Bool.and_eq_true_iff.1 hok
      obtain ⟨hplain, r, hr, hm⟩ := callOutputs_spec hcap h fun hblind t hsep ht => by
        have hkeys : ∀ e ∈ Normalization.entriesOf name σ.sections, separator ∉ e.1 := fun e he hs => by
          have := List.all_eq_true.1 hblind e he
          rw [List.contains_iff_mem.2 hs] at this
          cases this
        rw [normValue_of_separator hkeys (List.mem_append_left _ hsep)]
        exact ⟨List.mem_append_left _ hsep, List.forall_mem_append.2 ⟨ht, List.all_eq_true.1 hafter⟩⟩
      have hfilled := @filled_of_argument? capture _ _ _ harg
      refine ⟨⟨name_of_all hname, ?_⟩, r, hr, ?_⟩
      · rw [hfilled]
        exact List.forall_mem_append.2 ⟨hplain, List.all_eq_true.1 hafter⟩
      · rw [Segment.value, value_norm, hfilled]
        exact hm
    next => cases h
  | .sum argument, rs, h => by
    obtain ⟨⟨n, after⟩, harg, h⟩ := Option.bind_eq_some_iff.1 h
    simp only at h
    split at h
    next hafter =>
      obtain ⟨hplain, r, hr, hm⟩ := callOutputs_spec hcap h fun h => by cases h
      have hfilled := @filled_of_argument? capture _ _ _ harg
      refine ⟨?_, r, hr, ?_⟩
      · show ∀ c ∈ filled capture argument, _
        rw [hfilled]
        exact List.forall_mem_append.2 ⟨hplain, List.all_eq_true.1 hafter⟩
      · rw [Segment.value, hfilled]
        exact hm
    next => cases h

/-! ## Outputs of templates -/

/-- What the values of segments can be, one after another. -/
def Setting.allOutputs (σ : Setting) (slips : Bool) : List Segment → Option (List Regex)
  | [] => some []
  | g :: gs => do
    let rs ← σ.outputs slips g
    let ss ← allOutputs σ slips gs
    some (oneOf rs.dedup :: ss)

theorem allOutputs_spec (hcap : σ.Captures slips capture) : ∀ {gs : List Segment} {rs : List Regex},
    σ.allOutputs slips gs = some rs →
    (∀ g ∈ gs, g.Clean capture) ∧ List.Forall₂ Matches rs (gs.map (Segment.value σ.table capture))
  | [], rs, h => by
    rw [← Option.some.inj h]
    exact ⟨fun _ h => absurd h List.not_mem_nil, .nil⟩
  | g :: gs, rs, h => by
    obtain ⟨as, has, h⟩ := Option.bind_eq_some_iff.1 h
    obtain ⟨bs, hbs, h⟩ := Option.bind_eq_some_iff.1 h
    obtain rfl := Option.some.inj h
    obtain ⟨hg, r, hr, hm⟩ := outputs_spec hcap has
    obtain ⟨hgs, hms⟩ := allOutputs_spec hcap hbs
    exact ⟨List.forall_mem_cons.2 ⟨hg, hgs⟩, .cons (matches_oneOf.2 ⟨r, List.mem_dedup.2 hr, hm⟩) hms⟩

end TemporalTagger.DateValue
