/-
What neighbouring tokens make of a tense. A present with a perfect beside it is past; in French a past with a plan beside
it is future. The verb and the participle of a plan are a perfect themselves, and a plan that only stands after the
expression does not count once a perfect has made the tense past; so it never turns a present into a future. Main fact:
`around_planned`.
-/
import TemporalTagger.Proofs.Context.Tense

namespace TemporalTagger.Tense

/-! ## Neighbours -/

/-- Two tokens next to each other, the first one on the left, are related. -/
def Neighbouring (r : Token → Token → Prop) (ts : List Token) : Prop := ∃ t u, [t, u] <:+: ts ∧ r t u

/-- A test passes for the first token with the tag before it, or for two neighbours. -/
theorem hasPair_iff {test : String → Cue → Bool} : ∀ {previous : String} {cs : List Cue},
    hasPair test previous cs = true ↔
      (∃ c, cs.head? = some c ∧ test previous c = true) ∨ ∃ a b, [a, b] <:+: cs ∧ test (a.tag.getD "") b = true
  | _, [] => by simp [hasPair]
  | previous, c :: cs => by
    have hpair : ∀ a b, [a, b] <:+: c :: cs ↔ (a = c ∧ cs.head? = some b) ∨ [a, b] <:+: cs := by
      intro a b
      rw [List.infix_cons_iff, List.cons_prefix_cons]
      cases cs with
      | nil => simp
      | cons d cs => simp [eq_comm]
    rw [hasPair, Bool.or_eq_true, hasPair_iff]
    constructor
    · rintro (h | ⟨b, hb, h⟩ | ⟨a, b, hab, h⟩)
      · exact .inl ⟨c, rfl, h⟩
      · exact .inr ⟨c, b, (hpair c b).2 (.inl ⟨rfl, hb⟩), h⟩
      · exact .inr ⟨a, b, (hpair a b).2 (.inr hab), h⟩
    · rintro (⟨d, hd, h⟩ | ⟨a, b, hab, h⟩)
      · obtain rfl := Option.some.inj hd
        exact .inl h
      · rcases (hpair a b).1 hab with ⟨rfl, hb⟩ | hab
        · exact .inr (.inl ⟨b, hb, h⟩)
        · exact .inr (.inr ⟨a, b, hab, h⟩)

/-- A test that no token passes at the start says whether related tokens are neighbours. -/
theorem hasPair_map_cue_iff {test : String → Cue → Bool} {s : Sentence} {r : Token → Token → Prop}
    (hstart : ∀ c, test "" c = false) (hr : ∀ t u, test (t.tag.getD "") (cue s u) = true ↔ r t u) (ts : List Token) :
    hasPair test "" (ts.map (cue s)) = true ↔ Neighbouring r ts := by
  rw [hasPair_iff]
  constructor
  · rintro (⟨c, -, h⟩ | ⟨a, b, hab, h⟩)
    · rw [hstart] at h
      cases h
    · obtain ⟨us, hus, hmap⟩ := List.infix_map_iff.1 hab
      obtain ⟨t, us, rfl, rfl, hrest⟩ := List.map_eq_cons_iff.1 hmap.symm
      obtain ⟨u, us, rfl, rfl, hnil⟩ := List.map_eq_cons_iff.1 hrest
      obtain rfl := List.map_eq_nil_iff.1 hnil
      exact ⟨t, u, hus, (hr t u).1 h⟩
  · rintro ⟨t, u, htu, h⟩
    exact .inr ⟨cue s t, cue s u, htu.map (cue s), (hr t u).2 h⟩

/-! ## Perfects and plans -/

/-- An auxiliary in the present, and a participle that does not look ahead. -/
def MakesPerfect (s : Sentence) (auxiliary participle : Token) : Prop :=
  (∃ tag, auxiliary.tag = some tag ∧ tag ∈ auxiliaryTags) ∧
    (∃ tag, participle.tag = some tag ∧ tag ∈ participleTags) ∧ s.tokenText participle ∉ prospectiveParticiples

/-- A form of `prévu` or `envisagé`. -/
def IsPlanned (word : String) : Prop :=
  ∃ stem ∈ ["prévu", "envisagé"], ∃ gender ∈ ["", "e"], ∃ number ∈ ["", "s"], word = stem ++ gender ++ number

/-- A verb in the present, and the participle of a plan. -/
def SpeaksOfPlan (s : Sentence) (verb participle : Token) : Prop :=
  verb.tag = some "VER:pres" ∧ participle.tag = some "VER:pper" ∧ IsPlanned (s.tokenText participle)

theorem isPlanned_iff {word : String} : IsPlanned word ↔ word ∈ plannedParticiples := by
  have hforms : plannedParticiples = ["prévu", "envisagé"].flatMap fun stem => ["", "s"].flatMap fun number =>
      ["", "e"].map fun gender => stem ++ gender ++ number := by decide
  rw [hforms]
  simp only [IsPlanned, List.mem_flatMap, List.mem_map]
  constructor
  · rintro ⟨stem, hstem, gender, hgender, number, hnumber, rfl⟩
    exact ⟨stem, hstem, number, hnumber, gender, hgender, rfl⟩
  · rintro ⟨stem, hstem, number, hnumber, gender, hgender, rfl⟩
    exact ⟨stem, hstem, gender, hgender, number, hnumber, rfl⟩

theorem tag_iff {tag : Option String} {tags : List String} (htags : "" ∉ tags) :
    tag.getD "" ∈ tags ↔ ∃ t, tag = some t ∧ t ∈ tags := by
  cases tag with
  | none => simpa using htags
  | some t => simp

theorem hasPair_isPerfect_iff (s : Sentence) (ts : List Token) :
    hasPair isPerfect "" (ts.map (cue s)) = true ↔ Neighbouring (MakesPerfect s) ts := by
  have hauxiliary : "" ∉ auxiliaryTags := by decide
  refine hasPair_map_cue_iff (fun c => ?_) (fun t u => ?_) ts
  · rfl
  · simp only [isPerfect, MakesPerfect, ← tag_iff hauxiliary, cue, Bool.and_eq_true, Bool.not_eq_true',
      Bool.eq_false_iff, ne_eq, List.contains_iff_mem, Option.any_eq_true, and_assoc]

theorem hasPair_isPlan_iff (s : Sentence) (ts : List Token) :
    hasPair isPlan "" (ts.map (cue s)) = true ↔ Neighbouring (SpeaksOfPlan s) ts := by
  refine hasPair_map_cue_iff (fun c => rfl) (fun t u => ?_) ts
  have hverb : t.tag.getD "" = "VER:pres" ↔ t.tag = some "VER:pres" := by
    cases t.tag <;> simp
  simp only [isPlan, SpeaksOfPlan, isPlanned_iff, cue, Bool.and_eq_true, beq_iff_eq, List.contains_iff_mem, hverb,
    and_assoc]

/-- A plan is a perfect. -/
theorem SpeaksOfPlan.makesPerfect {s : Sentence} {t u : Token} (h : SpeaksOfPlan s t u) : MakesPerfect s t u := by
  have hlooks : ∀ word ∈ plannedParticiples, word ∉ prospectiveParticiples := by decide
  exact ⟨⟨_, h.1, by decide⟩, ⟨_, h.2.1, by decide⟩, hlooks _ (isPlanned_iff.1 h.2.2)⟩

theorem Neighbouring.mono {r r' : Token → Token → Prop} {ts : List Token} (h : Neighbouring r ts)
    (hr : ∀ t u, r t u → r' t u) : Neighbouring r' ts := by
  obtain ⟨t, u, htu, h⟩ := h
  exact ⟨t, u, htu, hr t u h⟩

/-! ## The tense of an expression -/

section

variable (e : TimeExpression) (s : Sentence)

/-- The tokens that end before an expression begins. -/
def tokensBefore : List Token := s.tokens.filter (·.span.stop < e.span.start)

/-- The tokens that reach beyond the end of an expression. -/
def tokensAfter : List Token := s.tokens.filter (e.span.stop < ·.span.stop)

/-- On one side of an expression there are neighbours that are related. -/
def BesideIt (r : Token → Token → Prop) : Prop := Neighbouring r (tokensBefore e s) ∨ Neighbouring r (tokensAfter e s)

/-- The tense is past before plans are looked for: by the first classification, or because that is a present with a
perfect beside the expression. -/
def IsPast (language : Language) : Prop :=
  firstAround e s language = some past ∨ firstAround e s language = some presentFuture ∧ BesideIt e s (MakesPerfect s)

/-- A plan counts: it stands before the expression, or after it when the first classification is past. -/
def PlanCounts (language : Language) : Prop :=
  Neighbouring (SpeaksOfPlan s) (tokensBefore e s) ∨
    firstAround e s language = some past ∧ Neighbouring (SpeaksOfPlan s) (tokensAfter e s)

end

variable {e : TimeExpression} {s : Sentence} {language : Language}

theorem revise_past (language : Language) (before after : List Cue) : revise language before after past =
    if language == .french && (hasPair isPlan "" before || hasPair isPlan "" after) then future else past := by
  cases language <;> rfl

/-- Where a perfect has made a present past, plans after the expression are not looked for. -/
theorem revise_presentFuture {before after : List Cue}
    (hperfect : (hasPair isPerfect "" before || hasPair isPerfect "" after) = true) (language : Language) :
    revise language before after presentFuture =
      if language == .french && hasPair isPlan "" before then future else past := by
  unfold revise
  rw [hperfect]
  cases language <;> simp

/-- A past becomes a future in French where a plan counts, and else stays. -/
theorem around_of_isPast (hpast : IsPast e s language) :
    (language = .french ∧ PlanCounts e s language) ∧ around e s language = some future ∨
      ¬ (language = .french ∧ PlanCounts e s language) ∧ around e s language = some past := by
  have hbefore : hasPair isPlan "" (earlier e s) = true ↔ Neighbouring (SpeaksOfPlan s) (tokensBefore e s) :=
    hasPair_isPlan_iff s (tokensBefore e s)
  have hafter : hasPair isPlan "" (later e s) = true ↔ Neighbouring (SpeaksOfPlan s) (tokensAfter e s) :=
    hasPair_isPlan_iff s (tokensAfter e s)
  rw [around_eq]
  -- plans are looked for on both sides of a first past, and before the expression alone where a perfect made the past
  rcases hpast with hfirst | ⟨hfirst, hperfect⟩
  · have hcounts : (language == .french && (hasPair isPlan "" (earlier e s) || hasPair isPlan "" (later e s))) = true ↔
        language = .french ∧ PlanCounts e s language := by
      simp [PlanCounts, hfirst, hbefore, hafter]
    rw [hfirst, Option.map_some, revise_past]
    split
    next h => exact .inl ⟨hcounts.1 h, rfl⟩
    next h => exact .inr ⟨mt hcounts.2 h, rfl⟩
  · have hcounts : (language == .french && hasPair isPlan "" (earlier e s)) = true ↔
        language = .french ∧ PlanCounts e s language := by
      simp [PlanCounts, hfirst, hbefore]
    have hperfect : (hasPair isPerfect "" (earlier e s) || hasPair isPerfect "" (later e s)) = true := by
      rw [Bool.or_eq_true]
      exact hperfect.imp (hasPair_isPerfect_iff s (tokensBefore e s)).2 (hasPair_isPerfect_iff s (tokensAfter e s)).2
    rw [hfirst, Option.map_some, revise_presentFuture hperfect]
    split
    next h => exact .inl ⟨hcounts.1 h, rfl⟩
    next h => exact .inr ⟨mt hcounts.2 h, rfl⟩

/-- In French a past becomes a future where a plan stands before the expression, and where one stands after it if the
past is that of the first classification. A plan that only stands after the expression leaves the past that a perfect
has made of a present; and since a plan is a perfect, it makes a past of every present itself. -/
theorem around_planned (e : TimeExpression) (s : Sentence) (hplan : BesideIt e s (SpeaksOfPlan s)) :
    (IsPast e s .french ↔ firstAround e s .french = some past ∨ firstAround e s .french = some presentFuture) ∧
    (IsPast e s .french →
      (around e s .french = some future ↔
        Neighbouring (SpeaksOfPlan s) (tokensBefore e s) ∨ firstAround e s .french = some past) ∧
      (around e s .french = some past ↔
        ¬ Neighbouring (SpeaksOfPlan s) (tokensBefore e s) ∧ firstAround e s .french = some presentFuture)) := by
  have hperfect : BesideIt e s (MakesPerfect s) :=
    hplan.imp (·.mono fun _ _ => SpeaksOfPlan.makesPerfect) (·.mono fun _ _ => SpeaksOfPlan.makesPerfect)
  have hcounts : PlanCounts e s .french ↔
      Neighbouring (SpeaksOfPlan s) (tokensBefore e s) ∨ firstAround e s .french = some past := by
    refine or_congr_right' fun hbefore => ?_
    exact and_iff_left (hplan.resolve_left hbefore)
  refine ⟨by simp only [IsPast, hperfect, and_true], fun hpast => ?_⟩
  rw [← hcounts]
  rcases around_of_isPast hpast with ⟨⟨-, h⟩, haround⟩ | ⟨h, haround⟩
  · have hleft : ¬ (¬ Neighbouring (SpeaksOfPlan s) (tokensBefore e s) ∧ firstAround e s .french = some presentFuture) := by
      rintro ⟨hbefore, hfirst⟩
      rw [hcounts, hfirst] at h
      exact h.elim hbefore (by decide)
    exact ⟨iff_of_true haround h, iff_of_false (by rw [haround]; decide) hleft⟩
  · rw [not_and] at h
    have hnone := h rfl
    refine ⟨iff_of_false (by rw [haround]; decide) hnone, iff_of_true haround ?_⟩
    rw [hcounts, not_or] at hnone
    exact ⟨hnone.1, (hpast.resolve_left hnone.2).1⟩

/-- A sentence that opens with the expression and goes on with a plan. -/
def planTokens : List Token :=
  [⟨⟨0, 6⟩, some "ADV"⟩, ⟨⟨7, 9⟩, some "DET:ART"⟩, ⟨⟨10, 19⟩, some "NOM"⟩, ⟨⟨20, 23⟩, some "VER:pres"⟩,
    ⟨⟨24, 30⟩, some "VER:pper"⟩]

def tomorrow : TimeExpression := { category := .date, value := "FUTURE_REF", span := ⟨0, 6⟩, rule := "tomorrow" }

def planSentence : Sentence := ⟨"Demain le lancement est prévu", 0, planTokens⟩

/-- The plan makes a perfect of the present, and the past stays although the launch is to come. -/
theorem around_planned_tomorrow :
    BesideIt tomorrow planSentence (SpeaksOfPlan planSentence) ∧ IsPast tomorrow planSentence .french ∧
      around tomorrow planSentence .french = some past := by
  have hplan : BesideIt tomorrow planSentence (SpeaksOfPlan planSentence) := by
    refine .inr ⟨⟨⟨20, 23⟩, some "VER:pres"⟩, ⟨⟨24, 30⟩, some "VER:pper"⟩, ⟨planTokens.drop 1 |>.take 2, [], by decide⟩, ?_⟩
    exact ⟨rfl, rfl, isPlanned_iff.2 (by decide +kernel)⟩
  have hfirst : firstAround tomorrow planSentence .french = some presentFuture := by decide +kernel
  obtain ⟨hpast, haround⟩ := around_planned tomorrow planSentence hplan
  have hpast := hpast.2 (.inr hfirst)
  refine ⟨hplan, hpast, (haround hpast).2.2 ⟨?_, hfirst⟩⟩
  rintro ⟨t, u, htu, -⟩
  have hnone : tokensBefore tomorrow planSentence = [] := by decide
  rw [hnone, List.infix_nil] at htu
  cases htu

end TemporalTagger.Tense
