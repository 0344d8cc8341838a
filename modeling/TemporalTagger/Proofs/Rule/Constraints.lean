/-
Constraints on parts of speech as rule lines give them, `group(N):regex:` one after another. The expression of an entry
ends at its first colon, so a list of entries is read back, and each entry holds of the tags that its expression matches
in full, exactly if no expression has a colon in it. Main facts: `entries_write_iff` and
`compileRules_posConstraint_iff`.
-/
import TemporalTagger.Proofs.Regex.Enclosed
import TemporalTagger.Proofs.Rule.Lines
import TemporalTagger.Proofs.Template
import TemporalTagger.Proofs.Text.Digits

namespace TemporalTagger

open Text

namespace PosConstraint

/-! ## Entries -/

/-- An entry as it is written. -/
def writeEntry (entry : Nat × String) : List Char :=
  groupWord ++ '(' :: (Nat.toDigits 10 entry.1 ++ ')' :: ':' :: (entry.2.toList ++ [':']))

/-- Entries one after another. -/
def write (entries : List (Nat × String)) : String := String.ofList (entries.flatMap writeEntry)

/-- An entry is cut at the first colon of its expression. -/
theorem scan_entry (n : Nat) {tags : List Char} (h : ':' ∉ tags) (rest : List Char) :
    scan entry? (groupWord ++ '(' :: (Nat.toDigits 10 n ++ ')' :: ':' :: (tags ++ ':' :: rest))) =
      .found (Nat.toDigits 10 n, tags) :: scan entry? rest := by
  have hdigits : ∀ c ∈ Nat.toDigits 10 n, c.isDigit = true := fun _ => isDigit_of_mem_toDigits
  have hgroup := groupReference?_eq_some_iff.2
    ⟨⟨Nat.toDigits_ne_nil, hdigits⟩, rfl, ':' :: (tags ++ ':' :: rest), rfl⟩
  have hsplit : groupWord ++ '(' :: (Nat.toDigits 10 n ++ ')' :: ':' :: (tags ++ ':' :: rest)) =
      (groupWord ++ '(' :: (Nat.toDigits 10 n ++ [')'])) ++ ([':'] ++ (tags ++ ':' :: rest)) := by simp
  have hlength : (Nat.toDigits 10 n).length + 7 = (groupWord ++ '(' :: (Nat.toDigits 10 n ++ [')'])).length := by
    simp [groupWord]
  have hread : entry? (groupWord ++ '(' :: (Nat.toDigits 10 n ++ ')' :: ':' :: (tags ++ ':' :: rest))) =
      some ((Nat.toDigits 10 n, tags), (Nat.toDigits 10 n).length + 7 + tags.length + 2) := by
    rw [ entry?, hgroup]
    simp only [Option.bind_eq_bind, Option.bind_some]
    rw [hsplit, hlength, List.drop_left, after?_append]
    simp only [Option.bind_some, cutAt?_append_cons h]
  have hcons : groupWord ++ '(' :: (Nat.toDigits 10 n ++ ')' :: ':' :: (tags ++ ':' :: rest)) =
      'g' :: ((['r', 'o', 'u', 'p', '('] ++ (Nat.toDigits 10 n ++ ')' :: ':' :: (tags ++ [':']))) ++ rest) := by
    simp [groupWord]
  have htaken : (Nat.toDigits 10 n).length + 7 + tags.length + 2 =
      (['r', 'o', 'u', 'p', '('] ++ (Nat.toDigits 10 n ++ ')' :: ':' :: (tags ++ [':']))).length + 1 := by
    simp
    omega
  rw [hcons, htaken] at hread
  rw [hcons, scan_found hread]

theorem entries_cons {n : Nat} (hn : n < UInt64.size) {tags : List Char} (h : ':' ∉ tags) (rest : List Char) :
    entries (String.ofList (groupWord ++ '(' :: (Nat.toDigits 10 n ++ ')' :: ':' :: (tags ++ ':' :: rest)))) =
      (n, String.ofList tags) :: entries (String.ofList rest) := by
  rw [entries, entries, String.toList_ofList, String.toList_ofList, scan_entry n h]
  simp only [found, List.filterMap_cons, readWord?_toDigits hn, Option.map_some]

/-- Entries are read back if and only if none has a colon in its expression. -/
theorem entries_write_iff {es : List (Nat × String)} (hword : ∀ e ∈ es, e.1 < UInt64.size) :
    entries (write es) = es ↔ ∀ e ∈ es, ':' ∉ e.2.toList := by
  induction es with
  | nil => simp [write, entries, scan, scanFrom, found]
  | cons e es ih =>
    obtain ⟨n, tags⟩ := e
    obtain ⟨hn, hword⟩ := List.forall_mem_cons.1 hword
    have hwrite : write ((n, tags) :: es) = String.ofList (groupWord ++ '(' :: (Nat.toDigits 10 n ++ ')' :: ':' ::
        (tags.toList ++ ':' :: es.flatMap writeEntry))) := by simp [write, writeEntry]
    rw [List.forall_mem_cons, ← ih hword, hwrite]
    by_cases hcolon : ':' ∈ tags.toList
    · -- the expression ends at its first colon, and the entry is another one
      obtain ⟨a, b, hab, ha⟩ := List.eq_append_cons_of_mem hcolon
      rw [hab, List.append_assoc, List.cons_append, entries_cons hn ha]
      refine iff_of_false (fun h => ?_) fun h => h.1 (List.mem_append_right _ List.mem_cons_self)
      have htags := congrArg String.toList (Prod.mk.inj (List.cons.inj h).1).2
      rw [String.toList_ofList, hab] at htags
      exact absurd (congrArg List.length htags) (by simp)
    · rw [entries_cons hn hcolon, String.ofList_toList, List.cons.injEq]
      exact and_congr (iff_of_true rfl hcolon) Iff.rfl

/-- What follows the first colon of an expression is passed over, be it in a tag or at the beginning of a group. -/
example : entries (write [(1, "VER:pres"), (2, "(?:NOM|NAM)"), (3, "NOM|NAM")]) =
    [(1, "VER"), (2, "(?"), (3, "NOM|NAM")] := by decide

/-! ## Meaning -/

/-- The constraint asks for a tag that the expression matches in full, of the token that starts where its group does. -/
def AsksFor (c : PosConstraint) (r : Regex) : Prop := ∀ s m, c.holds s m = true ↔
  ∃ span token tag, m.group? c.group = some span ∧ s.tokenAt? (s.start + span.start) = some token ∧
    token.tag = some tag ∧ r.MatchesAll tag

theorem asksFor_of_occursIn_iff {c : PosConstraint} {r : Regex}
    (h : ∀ tag, c.pattern.occursIn tag = true ↔ r.MatchesAll tag) : c.AsksFor r := by
  intro s m
  unfold holds
  cases hspan : m.group? c.group with
  | none => simp
  | some span =>
    cases htoken : s.tokenAt? (s.start + span.start) with
    | none => simp [htoken]
    | some token => simp [htoken, h, Option.any_eq_true]

/-! ## Compilation -/

/-- What is compiled of entries has their groups and expressions, and a pattern of each. -/
theorem spec_of_compile {rule : String} : ∀ {es : List (Nat × String)} {cs : List PosConstraint},
    compile rule es = .ok cs → (cs.map fun c => (c.group, c.source)) = es ∧
      ∀ c ∈ cs, Pattern.wholeText? c.source = some c.pattern
  | [], cs, h => by
    cases h
    exact ⟨rfl, List.forall_mem_nil _⟩
  | (n, source) :: es, cs, h => by
    rw [compile] at h
    split at h
    next => cases h
    next pattern hpattern =>
      cases hrest : compile rule es with
      | error e =>
        rw [hrest] at h
        cases h
      | ok cs' =>
        rw [hrest] at h
        cases h
        obtain ⟨hmap, hall⟩ := spec_of_compile hrest
        exact ⟨by rw [List.map_cons, hmap], List.forall_mem_cons.2 ⟨hpattern, hall⟩⟩

theorem exists_compile {rule : String} : ∀ {es : List (Nat × String)},
    (∀ e ∈ es, ∃ p, Pattern.wholeText? e.2 = some p) → ∃ cs, compile rule es = .ok cs
  | [], _ => ⟨[], rfl⟩
  | (n, source) :: es, h => by
    obtain ⟨⟨p, hp⟩, h⟩ := List.forall_mem_cons.1 h
    obtain ⟨cs, hcs⟩ := exists_compile h
    exact ⟨⟨n, source, p⟩ :: cs, by rw [compile, hp, hcs]; rfl⟩

end PosConstraint

namespace RuleLine

variable {line : RuleLine} {vars : Variables} {pattern : Pattern} {fastCheck : Option Pattern}

theorem fastPattern_eq_ok (h : Option.Rel (Expansion.StandsFor line.name vars) line.fastCheck fastCheck) :
    line.fastPattern vars = .ok fastCheck := by
  rw [fastPattern]
  generalize line.fastCheck = text at h ⊢
  cases h with
  | none => rfl
  | some h => exact congrArg (Except.map some) (Expansion.pattern_eq_ok h)

/-- A line with the given entries compiles to a rule with just these constraints if and only if no expression has a
colon in it. -/
theorem compile_posConstraint_iff {pairs : List (Nat × String)} (category : Category)
    (hpattern : Expansion.StandsFor line.name vars line.extraction pattern)
    (hfast : Option.Rel (Expansion.StandsFor line.name vars) line.fastCheck fastCheck)
    (hpairs : line.posConstraint = some (PosConstraint.write pairs))
    (hword : ∀ e ∈ pairs, e.1 < UInt64.size) (htags : ∀ e ∈ pairs, Pattern.Encloseable e.2) :
    (∃ rule, line.compile category vars = .ok rule ∧ (rule.constraints.map fun c => (c.group, c.source)) = pairs ∧
      ∀ c ∈ rule.constraints, ∃ r, Regex.read? c.source = some r ∧ c.AsksFor r) ↔
    ∀ e ∈ pairs, ':' ∉ e.2.toList := by
  have hconstraints : line.posConstraints =
      PosConstraint.compile line.name (PosConstraint.entries (PosConstraint.write pairs)) := by
    rw [posConstraints, hpairs]
    rfl
  rw [← PosConstraint.entries_write_iff hword]
  constructor
  · rintro ⟨rule, hrule, hmap, -⟩
    have hcompile := (compilesTo_of_compile hrule).constraints
    rw [hconstraints] at hcompile
    exact (PosConstraint.spec_of_compile hcompile).1.symm.trans hmap
  · intro hentries
    rw [hentries] at hconstraints
    have hwhole : ∀ e ∈ pairs, ∃ p, Pattern.wholeText? e.2 = some p := by
      intro e he
      obtain ⟨-, whole, -, hwhole, -⟩ := Pattern.exists_wholeText (htags e he)
      exact ⟨whole, hwhole⟩
    obtain ⟨cs, hcs⟩ := @PosConstraint.exists_compile line.name pairs hwhole
    obtain ⟨rule, hrule⟩ := exists_compile category (Expansion.pattern_eq_ok hpattern) (fastPattern_eq_ok hfast)
      (hconstraints.trans hcs)
    have hcompile := (compilesTo_of_compile hrule).constraints
    rw [hconstraints] at hcompile
    obtain ⟨hmap, hwhole⟩ := PosConstraint.spec_of_compile hcompile
    refine ⟨rule, hrule, hmap, fun c hc => ?_⟩
    have hmem : (c.group, c.source) ∈ pairs := hmap ▸ List.mem_map_of_mem hc
    obtain ⟨r, whole, hr, hsource, hiff⟩ := Pattern.exists_wholeText (htags _ hmem)
    obtain rfl : whole = c.pattern := Option.some.inj (hsource.symm.trans (hwhole c hc))
    exact ⟨r, hr, PosConstraint.asksFor_of_occursIn_iff hiff⟩

end RuleLine

/-- A line whose constraints are the given pairs, all of which can be read alone, compiles to a rule with just these
constraints, each asking for what its expression matches in full, if and only if no expression has a colon in it. -/
theorem compileRules_posConstraint_iff {name extraction value : String} {items : List RuleItem} {vars : Variables}
    {pattern : Pattern} {fastCheck : Option Pattern} {pairs : List (Nat × String)} (category : Category)
    (normalization : Normalization) (hname : Quotable name) (hextraction : Quotable extraction)
    (hvalue : Quotable value)
    (hitems : ∀ i ∈ items, Quotable i.value ∧ i.value.toList.getLast? ≠ some '=')
    (hpattern : Expansion.StandsFor name vars extraction pattern)
    (hfast : Option.Rel (Expansion.StandsFor name vars) (RuleItem.last? items .fastCheck) fastCheck)
    (hpairs : RuleItem.last? items .posConstraint = some (PosConstraint.write pairs))
    (hword : ∀ e ∈ pairs, e.1 < UInt64.size) (htags : ∀ e ∈ pairs, Pattern.Encloseable e.2) :
    (∃ rule, compileRules [.ofText category (String.ofList (RuleLine.write name extraction value items))] vars
        normalization = .ok ⟨⟨[rule], normalization⟩, { compiled := 1, malformed := 0, duplicates := 0 }⟩ ∧
      (rule.constraints.map fun c => (c.group, c.source)) = pairs ∧
      ∀ c ∈ rule.constraints, ∃ r, Regex.read? c.source = some r ∧ c.AsksFor r) ↔
    ∀ e ∈ pairs, ':' ∉ e.2.toList := by
  have hline := RuleLine.parse?_write hname.quote hextraction.quote hvalue.quote
    (fun i hi => ⟨(hitems i hi).1.quote, (hitems i hi).2⟩ : ∀ i ∈ items, i.Plain)
  have hcontent := RuleLine.contentLines_write hname hextraction hvalue fun i hi => (hitems i hi).1
  have hset : ∀ {compiled : Except TaggerError Rule} {rule : Rule}, (compiled.map fun r =>
      (⟨⟨[r], normalization⟩, ⟨1, 0, 0⟩⟩ : Compilation)) = .ok ⟨⟨[rule], normalization⟩, ⟨1, 0, 0⟩⟩ ↔
        compiled = .ok rule := by
    rintro (e | r) rule <;> simp [Except.map]
  rw [compileRules_singleton_eq vars normalization hcontent hline]
  simp only [hset]
  exact RuleLine.compile_posConstraint_iff category hpattern hfast hpairs hword htags

/-- Tags of the present tense, and of nouns and names. -/
def tensePairs : List (Nat × String) := [(1, "(?:NOM|NAM)"), (2, "VER:pres")]

/-- Neither a tag nor a group with a colon in it is kept, though each is an expression that can be read alone. -/
theorem compileRules_posConstraint_iff_tense :
    (∀ e ∈ tensePairs, e.1 < UInt64.size) ∧ (∀ e ∈ tensePairs, Pattern.Encloseable e.2) ∧
      ¬ ∃ rule, compileRules [.ofText .date (String.ofList (RuleLine.write "tense" "(x) (y)" "1"
          [⟨.posConstraint, PosConstraint.write tensePairs⟩]))] Table.empty Table.empty =
            .ok ⟨⟨[rule], Table.empty⟩, ⟨1, 0, 0⟩⟩ ∧
        (rule.constraints.map fun c => (c.group, c.source)) = tensePairs ∧
        ∀ c ∈ rule.constraints, ∃ r, Regex.read? c.source = some r ∧ c.AsksFor r := by
  have hword : ∀ e ∈ tensePairs, e.1 < UInt64.size := by decide
  have htags : ∀ e ∈ tensePairs, Pattern.Encloseable e.2 := by decide +kernel
  have hitems : ∀ i ∈ [RuleItem.mk .posConstraint (PosConstraint.write tensePairs)],
      Quotable i.value ∧ i.value.toList.getLast? ≠ some '=' := by decide
  obtain ⟨pattern, hpattern⟩ := Option.isSome_iff_exists.1 (by decide +kernel :
    (Pattern.ofText? "(x)[\\s\\u\x7b180E\x7d]+(y)").isSome = true)
  refine ⟨hword, htags, fun h => ?_⟩
  have hcolon := (compileRules_posConstraint_iff .date Table.empty (by decide) (by decide) (by decide) hitems
    ⟨_, by rfl, hpattern⟩ (.none : Option.Rel _ _ none) (by decide) hword htags).1 h
  exact absurd hcolon (by decide)

end TemporalTagger
