/-
What the resolution of placeholders may depend on. Without the creation date of a news document it reads the
values before an expression and nothing else of the document; with one it reads that date and the sentence around
the expression, and no other expression. Main fact: `resolvePlaceholders_dependence`.
-/
import TemporalTagger.Proofs.Context.Resolution

namespace TemporalTagger

namespace Resolution

/-! ## Without a creation date -/

section Undated

variable {context context' : DocumentContext} (ss ss' : List Sentence) (language language' : Language)

/-- Anchors are mentions then, and no year is moved by a tense. -/
theorem value?_of_newsDate?_eq_none (h : context.newsDate? = none) (h' : context'.newsDate? = none)
    (earlier : List TimeExpression) (e : TimeExpression) :
    value? context ss language earlier e = value? context' ss' language' earlier e := by
  have hanchor : ∀ u, value?.anchor? context earlier e u = value?.anchor? context' earlier e u := by
    intro u
    unfold value?.anchor?
    rw [h, h']
  have hyear : ∀ rest year,
      adjustYear context ss language e rest year = adjustYear context' ss' language' e rest year := by
    intro rest year
    unfold adjustYear
    rw [h, h']
  exact value?_congr (h.trans h'.symm) hanchor hyear

theorem resolveOne_of_newsDate?_eq_none (h : context.newsDate? = none) (h' : context'.newsDate? = none)
    (earlier : List TimeExpression) (e : TimeExpression) :
    resolveOne context ss language earlier e = resolveOne context' ss' language' earlier e := by
  unfold resolveOne
  rw [value?_of_newsDate?_eq_none ss ss' language language' h h' earlier e]

/-- Two runs without a creation date see the same values before each expression, whatever else they are given. -/
theorem resolveFrom_of_newsDate?_eq_none (h : context.newsDate? = none) (h' : context'.newsDate? = none)
    (earlier es : List TimeExpression) :
    resolveFrom context ss language earlier es = resolveFrom context' ss' language' earlier es := by
  induction es generalizing earlier with
  | nil => rfl
  | cons e es ih =>
    rw [resolveFrom, resolveFrom, resolveOne_of_newsDate?_eq_none ss ss' language language' h h', ih]

end Undated

/-! ## With a creation date -/

section Dated

variable {context : DocumentContext} {date : Date} (ss : List Sentence) (language : Language)

/-- The creation date anchors every unit, so nothing is asked of earlier expressions; of the expression itself
only the span counts. -/
theorem value?_of_newsDate?_eq_some (h : context.newsDate? = some date) (earlier earlier' : List TimeExpression)
    {e e' : TimeExpression} (hspan : e.span = e'.span) :
    value? context ss language earlier e = value? context ss language earlier' e' := by
  have hanchor : ∀ u, value?.anchor? context earlier e u = value?.anchor? context earlier' e' u := by
    intro u
    unfold value?.anchor?
    rw [h]
  have hyear : ∀ rest year, adjustYear context ss language e rest year = adjustYear context ss language e' rest year := by
    intro rest year
    unfold adjustYear Tense.around
    rw [hspan]
  exact value?_congr rfl hanchor hyear

theorem value_resolveOne_of_newsDate?_eq_some (h : context.newsDate? = some date)
    (earlier earlier' : List TimeExpression) {e e' : TimeExpression} (hvalue : e.value = e'.value)
    (hspan : e.span = e'.span) :
    (resolveOne context ss language earlier e).value = (resolveOne context ss language earlier' e').value := by
  unfold resolveOne
  rw [value?_of_newsDate?_eq_some ss language h earlier earlier' hspan, hvalue]
  split
  · rfl
  · exact hvalue

/-- With a creation date every expression is resolved as it is alone. -/
theorem resolveFrom_of_newsDate?_eq_some (h : context.newsDate? = some date) (earlier es : List TimeExpression) :
    resolveFrom context ss language earlier es = es.map (resolveOne context ss language []) := by
  induction es generalizing earlier with
  | nil => rfl
  | cons e es ih =>
    have halone : resolveOne context ss language earlier e = resolveOne context ss language [] e := by
      rw [(rewrites_resolveOne context ss language earlier e).fields,
        (rewrites_resolveOne context ss language [] e).fields,
        value_resolveOne_of_newsDate?_eq_some ss language h earlier [] rfl rfl]
    rw [resolveFrom, List.map_cons, halone, ih]

/-- What a value at a span stands for in the news of a day. -/
def newsValue (date : Date) (ss : List Sentence) (language : Language) (value : String) (span : Span) : String :=
  (resolveOne ⟨.news, some date⟩ ss language [] { category := .date, value, span, rule := "" }).value

theorem resolveOne_news (date : Date) (e : TimeExpression) :
    resolveOne ⟨.news, some date⟩ ss language [] e =
      { e with value := newsValue date ss language e.value e.span } := by
  -- category, rule and annotations of the expression are kept and not looked at
  have hvalue : (resolveOne ⟨.news, some date⟩ ss language [] e).value = newsValue date ss language e.value e.span :=
    value_resolveOne_of_newsDate?_eq_some ss language rfl [] [] rfl rfl
  rw [← hvalue]
  exact (rewrites_resolveOne ⟨.news, some date⟩ ss language [] e).fields

end Dated

end Resolution

/-- A narrative is resolved in the same way whatever its creation date, its language and its sentences are, and so
is news without a creation date. In the news of a day the value of each expression becomes what its own value at
its own span stands for, given that day, the language and the sentences; the other expressions have no part in it. -/
theorem resolvePlaceholders_dependence :
    (∀ (creation creation' : Option Date) (ss ss' : List Sentence) (language language' : Language)
        (es : List TimeExpression),
      resolvePlaceholders ⟨.narrative, creation⟩ ss language es =
          resolvePlaceholders ⟨.narrative, creation'⟩ ss' language' es ∧
        resolvePlaceholders ⟨.news, none⟩ ss language es =
          resolvePlaceholders ⟨.narrative, creation'⟩ ss' language' es) ∧
      ∀ (date : Date) (ss : List Sentence) (language : Language), ∃ reading : String → Span → String,
        ∀ es : List TimeExpression, resolvePlaceholders ⟨.news, some date⟩ ss language es =
          es.map fun e => { e with value := reading e.value e.span } := by
  constructor
  · intro creation creation' ss ss' language language' es
    constructor
    · exact Resolution.resolveFrom_of_newsDate?_eq_none ss ss' language language' rfl rfl [] es
    · exact Resolution.resolveFrom_of_newsDate?_eq_none ss ss' language language' rfl rfl [] es
  · intro date ss language
    refine ⟨Resolution.newsValue date ss language, fun es => ?_⟩
    unfold resolvePlaceholders
    rw [Resolution.resolveFrom_of_newsDate?_eq_some ss language rfl]
    exact List.map_congr_left fun e _ => Resolution.resolveOne_news ss language date e

end TemporalTagger
