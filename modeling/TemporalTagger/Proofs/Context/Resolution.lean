/-
Resolution of placeholders runs once from left to right: it rewrites values that start as placeholders
and nothing else, what is resolved first does not depend on what follows, and a second run finds nothing
left to do. Main fact: `resolvePlaceholders_idem`.
-/
import TemporalTagger.Proofs.Context.Anchors

namespace TemporalTagger

namespace Resolution

variable (context : DocumentContext) (sentences : List Sentence) (language : Language)

/-- What comes first in a list is resolved as it is alone; what follows sees it as earlier. -/
theorem resolveFrom_append : ∀ earlier es fs : List TimeExpression,
    resolveFrom context sentences language earlier (es ++ fs) =
      resolveFrom context sentences language earlier es ++
        resolveFrom context sentences language
          ((resolveFrom context sentences language earlier es).reverse ++ earlier) fs
  | _, [], _ => rfl
  | earlier, e :: es, fs => by
    rw [List.cons_append, resolveFrom, resolveFrom, resolveFrom_append _ es fs, List.reverse_cons, List.append_assoc,
      List.singleton_append, List.cons_append]

/-- Each expression is resolved after those before it. -/
theorem getElem?_resolveFrom (earlier es : List TimeExpression) (i : Nat) :
    (resolveFrom context sentences language earlier es)[i]? =
      es[i]?.map (resolveOne context sentences language
        (((resolveFrom context sentences language earlier es).take i).reverse ++ earlier)) := by
  induction es generalizing earlier i with
  | nil => rfl
  | cons e es ih =>
    cases i with
    | zero => rfl
    | succ i =>
      rw [resolveFrom, List.getElem?_cons_succ, List.getElem?_cons_succ, ih, List.take_succ_cons, List.reverse_cons,
        List.append_assoc, List.singleton_append]

/-- Beside the placeholder itself a value depends on the creation date of news, on the anchors of units and on
the year that a tense makes of another. -/
theorem value?_congr {context context' : DocumentContext} {ss ss' : List Sentence} {language language' : Language}
    {earlier earlier' : List TimeExpression} {e e' : TimeExpression} (hdate : context.newsDate? = context'.newsDate?)
    (hanchor : ∀ u, value?.anchor? context earlier e u = value?.anchor? context' earlier' e' u)
    (hyear : ∀ rest year, adjustYear context ss language e rest year = adjustYear context' ss' language' e' rest year) :
    value? context ss language earlier e = value? context' ss' language' earlier' e' := by
  funext p
  cases p with
  | reference rest => simp only [value?, hdate]
  | moved u amount rest => simp only [value?, hanchor]
  | plain u rest => simp only [value?, hanchor, hyear]

end Resolution

/-- What resolution may do to an expression: a value that starts with `UNDEF` may become one that does
not. -/
structure TimeExpression.Rewrites (e e' : TimeExpression) : Prop where
  fields : e' = { e with value := e'.value }
  kept : ¬ Undefined e.value → e'.value = e.value
  resolved : e'.value ≠ e.value → ¬ Undefined e'.value

namespace Resolution

variable (context : DocumentContext) (sentences : List Sentence) (language : Language)

/-- One expression is left as it is, or is no placeholder any more. -/
theorem resolveOne_cases (earlier : List TimeExpression) (e : TimeExpression) :
    resolveOne context sentences language earlier e = e ∨
      Undefined e.value ∧ ∃ value, Begun value ∧
        resolveOne context sentences language earlier e = { e with value := value } := by
  unfold resolveOne
  split
  next value h =>
    obtain ⟨p, hp, hv⟩ := Option.bind_eq_some_iff.1 h
    exact .inr ⟨Placeholder.undefined_of_parse? hp, value, begun_value? hv, rfl⟩
  next => exact .inl rfl

theorem rewrites_resolveOne (earlier : List TimeExpression) (e : TimeExpression) :
    e.Rewrites (resolveOne context sentences language earlier e) := by
  obtain h | ⟨hundef, value, hbegun, h⟩ := resolveOne_cases context sentences language earlier e
  · rw [h]
    exact ⟨rfl, fun _ => rfl, fun hne => absurd rfl hne⟩
  · rw [h]
    exact ⟨rfl, fun hu => absurd hundef hu, fun _ => hbegun.not_undefined⟩

theorem span_resolveOne (earlier : List TimeExpression) (e : TimeExpression) :
    (resolveOne context sentences language earlier e).span = e.span := by
  rw [(rewrites_resolveOne context sentences language earlier e).fields]

theorem resolveOne_of_begun {earlier : List TimeExpression} {e : TimeExpression} (h : Begun e.value) :
    resolveOne context sentences language earlier e = e := by
  obtain h' | ⟨hundef, -⟩ := resolveOne_cases context sentences language earlier e
  · exact h'
  · exact absurd hundef h.not_undefined

/-- With the same expressions before it, a resolved expression stays as it is. -/
theorem resolveOne_idem (earlier : List TimeExpression) (e : TimeExpression) :
    resolveOne context sentences language earlier (resolveOne context sentences language earlier e) =
      resolveOne context sentences language earlier e := by
  obtain h | ⟨-, value, hbegun, h⟩ := resolveOne_cases context sentences language earlier e
  · rw [h, h]
  · rw [h, resolveOne_of_begun context sentences language hbegun]

/-- The second run meets the same expressions before each one as the first. -/
theorem resolveFrom_idem : ∀ earlier es : List TimeExpression,
    resolveFrom context sentences language earlier (resolveFrom context sentences language earlier es) =
      resolveFrom context sentences language earlier es
  | _, [] => rfl
  | earlier, e :: es => by
    rw [resolveFrom, resolveFrom, resolveOne_idem, resolveFrom_idem]

theorem forall₂_rewrites_resolveFrom : ∀ earlier es : List TimeExpression,
    List.Forall₂ TimeExpression.Rewrites es (resolveFrom context sentences language earlier es)
  | _, [] => .nil
  | earlier, e :: es => .cons (rewrites_resolveOne context sentences language earlier e)
    (forall₂_rewrites_resolveFrom _ es)

theorem length_resolveFrom (earlier es : List TimeExpression) :
    (resolveFrom context sentences language earlier es).length = es.length :=
  (forall₂_rewrites_resolveFrom context sentences language earlier es).length_eq.symm

end Resolution

/-- Resolving a document a second time changes nothing, and the first time changes nothing but values
that start with `UNDEF`, into values that do not. -/
theorem resolvePlaceholders_idem (context : DocumentContext) (sentences : List Sentence) (language : Language)
    (es : List TimeExpression) :
    resolvePlaceholders context sentences language (resolvePlaceholders context sentences language es) =
        resolvePlaceholders context sentences language es ∧
      List.Forall₂ TimeExpression.Rewrites es (resolvePlaceholders context sentences language es) :=
  ⟨Resolution.resolveFrom_idem context sentences language [] es,
    Resolution.forall₂_rewrites_resolveFrom context sentences language [] es⟩

end TemporalTagger
