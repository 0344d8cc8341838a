/-
What is tested of the bundled rule lines: that the fast check of a line gives nothing away, which texts
its pattern matches as a whole but finds in part only, and that date values have a shape. All tests
run on lists of characters, one line at a time. Main fact: `exists_compile_tested`.
-/
import TemporalTagger.Language.Bundled
import TemporalTagger.Proofs.Phrases
import TemporalTagger.Proofs.Regex.Hints
import TemporalTagger.Proofs.Regex.Whole
import TemporalTagger.Proofs.Values.Exactness

namespace TemporalTagger.Language

open Regex Text

/-! ## Lost endings -/

/-- The characters of a word, as sets. -/
def word (s : String) {cs : List Char} (_ : s = String.ofList cs := by rfl) : List CharSet := cs.map .single

/-- A day of two digits. -/
def twoDigits : List CharSet := [.range '1'.toNat '3'.toNat, .range '0'.toNat '9'.toNat]

/-- The endings of the phrases that the pattern of a rule matches as a whole, but of which the search
finds a part only: a shorter alternative that starts alike comes before the right one. -/
def lostEndings : Language → Category → String → List (List CharSet)
  | .english, .date, "date_r0a" => [twoDigits]
  | .english, .date, "date_r4a" =>
    [twoDigits, twoDigits ++ word "st", twoDigits ++ word "nd", twoDigits ++ word "rd", twoDigits ++ word "th"]
  | .german, .date, "date_r0a" => [twoDigits]
  | .german, .date, "date_r20a" | .german, .date, "date_r24b" | .german, .duration, "duration_r1a"
  | .german, .duration, "duration_r3a" | .german, .duration, "duration_r3b" | .german, .set, "set_r1a" =>
    [word "Jahrzehnt", word "Jahrhundert"]
  | .french, .date, "date_r0a" => [twoDigits, word "1er"]
  | .french, .date, "date_r20a" => [word "prochaine"]
  | .french, .date, "date_r24a" | .french, .duration, "duration_r1a" => [word "année"]
  | .french, .set, "set_r1a" =>
    [word "année", word "jours", word "semaines", word "trimestres", word "ans", word "années", word "décennies",
      word "siècles"]
  | _, _, _ => []

/-! ## Tested rules -/

/-- What the groups of a match hold. -/
def captures (text : String) (m : Match) (n : Nat) : Option String := (m.group? n).bind (slice? text)

/-- The fast check of a rule rejects only texts in which its pattern does not occur. -/
def Hinted (r : Rule) : Prop := ∀ text, r.passesFastCheck text = false → r.pattern.occursIn text = false

/-- Of the phrases that the pattern of a rule matches as a whole, those with one of the endings are not
among its matches, and all others are. -/
def FindsWhole (r : Rule) (lost : List (List CharSet)) : Prop :=
  ∃ whole, Pattern.wholeText? r.pattern.source = some whole ∧ ∀ w, whole.occursIn w = true → w ≠ "" ∧
    ((∃ m ∈ r.pattern.allMatches w, m.group? 0 = some ⟨0, w.utf8ByteSize⟩) ↔ ¬ EndsWith lost w.toList)

/-- The values of a rule have a shape exactly if the captured texts do not slip. -/
def Shaped (r : Rule) (t : Normalization) (slip : Option (Nat × DateValue.Slip)) : Prop :=
  ∀ text, ∀ m ∈ r.pattern.allMatches text,
    (DateValue.WellFormed (Template.expand r.value (captures text m) t) ↔
      ∀ n k, slip = some (n, k) → k.holds (DateValue.groupText (captures text m) n) = false)

/-- What is known of a rule of a language. -/
structure Tested (l : Language) (r : Rule) : Prop where
  hinted : Hinted r
  findsWhole : FindsWhole r (lostEndings l r.category r.name)
  shaped : r.category = .date → Shaped r l.resources.normalization (DateValue.slip? l r.name)

/-! ## Tests -/

/-- The resources of a language as lists of characters. -/
structure Spelling (l : Language) where
  vars : List (List Char × List Char)
  sections : List (List Char × List (List Char × List Char))
  vars_eq : l.resources.vars = Table.ofList (vars.map writeEntry)
  normalization_eq : l.resources.normalization = Normalization.ofSections (sections.map Normalization.writeSection)

/-- Whether the expression of a fast check occurs wherever that of the pattern does. -/
def testHint (vars : List (List Char × List Char)) (r : Regex) : Option (List Char) → Bool
  | none => true
  | some cs =>
    match Expansion.readChars? vars cs with
    | some (_, hint) => r.hintedBy hint
    | none => false

/-- Whether the pattern, put between the ends of the text, matches what it matches without them as a
whole, and prefers to unless there is one of the endings. -/
def testWhole (source : List Char) (r : Regex) (lost : List (List CharSet)) : Bool :=
  match Regex.readChars? (['^', '(', '?', ':'] ++ source ++ [')', '$']) with
  | some whole => decide (Encloses whole r) && r.loopsRead && !r.nullable && decide (0 ∉ r.groups) && r.endingsOf lost
  | none => false

/-- The groups of an expression that take part in every match, as what values are made from. -/
def setting (sections : List (List Char × List (List Char × List Char))) (r : Regex)
    (slip : Option (Nat × DateValue.Slip)) : DateValue.Setting where
  sections := sections
  body? n := if n = 0 then none else r.sureGroup n
  slip := slip

/-- Whether the values of a template have a shape, up to slips. -/
def testValue (sections : List (List Char × List (List Char × List Char))) (r : Regex)
    (slip : Option (Nat × DateValue.Slip)) (template : List Char) : Bool :=
  r.loopsRead && (setting sections r slip).exact template

/-- All tests of a rule line. -/
def Spelling.test {l : Language} (sp : Spelling l) (c : Category) (line : RuleLine) (s : line.Spelled) : Bool :=
  match Expansion.readChars? sp.vars s.extraction.form with
  | some (source, r) =>
    line.posConstraints.toOption.isSome && testHint sp.vars r s.fastCheck.form && testWhole source r (lostEndings l c line.name) &&
      (c != .date || testValue sp.sections r (DateValue.slip? l line.name) s.value.form)
  | none => false

/-! ## What the tests show -/

variable {r : Rule} {re : Regex} {source : List Char}

theorem findsWhole_of_test (hp : r.pattern = Pattern.ofRegex (String.ofList source) re) {lost : List (List CharSet)}
    (h : testWhole source re lost = true) : FindsWhole r lost := by
  unfold testWhole at h
  split at h
  next whole hwhole =>
    simp only [Bool.and_eq_true, decide_eq_true_eq, Bool.not_eq_true'] at h
    obtain ⟨⟨⟨⟨hencl, hloops⟩, hnull⟩, hgroups⟩, hends⟩ := h
    have htext : "^(?:" ++ String.ofList source ++ ")$" =
        String.ofList (['^', '(', '?', ':'] ++ source ++ [')', '$']) := by
      rw [String.ofList_append, String.ofList_append]
    have hread : Pattern.wholeText? (String.ofList source) =
        some (Pattern.ofRegex ("^(?:" ++ String.ofList source ++ ")$") whole) := by
      rw [Pattern.wholeText?, Pattern.ofText?, htext, Regex.read?_ofList, hwhole, Option.map_some]
    refine ⟨_, by rw [hp]; exact hread, fun w hw => ?_⟩
    have hsome := (Pattern.occursIn_whole_iff hencl hloops w).1 hw
    refine ⟨?_, ?_⟩
    · rintro rfl
      obtain ⟨q, hq, -⟩ := hsome
      obtain ⟨t, ht, -, hm⟩ := readsTo_of_mem_reach re hloops _ q hq
      exact hm.ne_nil hnull (List.prefix_nil.1 ht)
    · rw [hp, Pattern.exists_whole_match_iff hloops hnull hgroups hsome, firstEnds_iff hends hsome]
      rfl
  next => cases h

theorem shaped_of_test (hp : r.pattern = Pattern.ofRegex (String.ofList source) re) {value : List Char}
    (hv : r.value = String.ofList value) {sections : List (List Char × List (List Char × List Char))}
    {slip : Option (Nat × DateValue.Slip)} (h : testValue sections re slip value = true) :
    Shaped r (Normalization.ofSections (sections.map Normalization.writeSection)) slip := by
  intro text m hm
  rw [testValue, Bool.and_eq_true] at h
  have hcap : ∀ n body, (setting sections re slip).body? n = some body →
      ∃ t, captures text m n = some (String.ofList t) ∧ body.Matches t := by
    intro n body hbody
    have hbody : (if n = 0 then none else re.sureGroup n) = some body := hbody
    by_cases hn : n = 0
    · rw [if_pos hn] at hbody; cases hbody
    · rw [if_neg hn] at hbody
      exact Pattern.exists_capture_of_mem_allMatches h.1 hn hbody (hp ▸ hm)
  rw [hv]
  have hiff := DateValue.wellFormed_iff h.2 hcap
  exact hiff

theorem hinted_of_test {vars : List (List Char × List Char)} {line : RuleLine} {form : Option (List Char)}
    (hform : line.fastCheck = form.map String.ofList) (h : testHint vars re form = true) :
    ∃ fastCheck, line.fastPattern (Table.ofList (vars.map writeEntry)) = .ok fastCheck ∧
      ∀ text, fastCheck.all (·.occursIn text) = false → ∀ source, (Pattern.ofRegex source re).occursIn text = false := by
  cases form with
  | none =>
    refine ⟨none, by rw [RuleLine.fastPattern, hform]; rfl, fun text htext => ?_⟩
    cases htext
  | some cs =>
    unfold testHint at h
    simp only at h
    split at h
    next source' hint hread =>
      refine ⟨some (Pattern.ofRegex (String.ofList source') hint), ?_, fun text htext source => ?_⟩
      · rw [RuleLine.fastPattern, hform]
        show (Expansion.pattern line.name (String.ofList cs) _).map some = _
        rw [Expansion.pattern_ofList hread]
        rfl
      · by_contra hocc
        rw [Option.all_some, occursIn_of_hintedBy h (by simpa using hocc)] at htext
        cases htext
    next => cases h

/-- A line that passes the tests compiles to a rule of which what was tested is known. -/
theorem exists_compile_tested {l : Language} (sp : Spelling l) {c : Category} {line : RuleLine} (s : line.Spelled)
    (h : sp.test c line s = true) :
    ∃ r, line.compile c l.resources.vars = .ok r ∧ Tested l r := by
  unfold Spelling.test at h
  split at h
  next source re hread =>
    simp only [Bool.and_eq_true, Bool.or_eq_true, bne_iff_ne] at h
    obtain ⟨⟨⟨hpos, hhint⟩, hwhole⟩, hvalue⟩ := h
    obtain ⟨fastCheck, hfast, hhinted⟩ := hinted_of_test s.fastCheck.eq hhint
    have hp : Expansion.pattern line.name line.extraction l.resources.vars =
        .ok (Pattern.ofRegex (String.ofList source) re) := by
      rw [s.extraction.eq, sp.vars_eq, Expansion.pattern_ofList hread]
    obtain ⟨constraints, hconstraints⟩ : ∃ cs, line.posConstraints = .ok cs := by
      cases hc : line.posConstraints with
      | error => rw [hc] at hpos; cases hpos
      | ok cs => exact ⟨cs, rfl⟩
    rw [← sp.vars_eq] at hfast
    obtain ⟨r, hr⟩ := RuleLine.exists_compile c hp hfast hconstraints
    have hline := RuleLine.compilesTo_of_compile hr
    have hpattern : r.pattern = Pattern.ofRegex (String.ofList source) re :=
      Except.ok.inj (hline.pattern.symm.trans hp)
    have hcheck : r.fastCheck = fastCheck := Except.ok.inj (hline.fastCheck.symm.trans hfast)
    refine ⟨r, hr, fun text htext => ?_, ?_, fun hdate => ?_⟩
    · rw [Rule.passesFastCheck, hcheck] at htext
      rw [hpattern]
      exact hhinted text htext _
    · rw [hline.category, hline.name]
      exact findsWhole_of_test hpattern hwhole
    · rw [hline.name, sp.normalization_eq]
      exact shaped_of_test hpattern (hline.value.trans s.value.eq)
        (hvalue.resolve_left fun h => h (hline.category.symm.trans hdate))
  next => cases h

/-- Rule lines of a category that compile to rules of which what was tested is known. -/
structure TestedLines (l : Language) (c : Category) where
  lines : List RuleLine
  tested : ∀ line ∈ lines, ∃ r, line.compile c l.resources.vars = .ok r ∧ Tested l r

/-- Lines that were tested in two lots. -/
def TestedLines.append {l : Language} {c : Category} (a b : TestedLines l c) : TestedLines l c :=
  ⟨a.lines ++ b.lines, List.forall_mem_append.2 ⟨a.tested, b.tested⟩⟩

/-- If all lines of a language are tested, its rule sets compile, and what was tested is known of their
rules. -/
theorem ruleSet_tested {l : Language} (tested : ∀ c, TestedLines l c) (h : ∀ c, (tested c).lines = l.resources.rules c)
    (temponyms : Bool) :
    ∃ rules, l.ruleSet temponyms = .ok rules ∧ (∀ r ∈ rules.rules, Tested l r) ∧
      rules.rules.Pairwise RuleSet.Differ ∧ rules.normalization = l.resources.normalization := by
  obtain ⟨c, hc, hsound⟩ := @compileRules_ok (Tested l) (l.resources.sources temponyms) _
    l.resources.normalization (by
      intro s hs line hline rl hrl
      obtain ⟨c, -, rfl⟩ := List.mem_map.1 hs
      obtain ⟨rl', hrl', rfl⟩ := List.mem_map.1 hline
      obtain rfl := Option.some.inj hrl
      exact (tested c).tested rl' (h c ▸ hrl'))
  exact ⟨c.set, by rw [ruleSet_eq, Resources.compile, hc]; rfl, hsound.holds, hsound.differ, hsound.normalization⟩

end TemporalTagger.Language
