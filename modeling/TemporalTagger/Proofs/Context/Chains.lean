/-
Chains of relative mentions. In a narrative, `next month` said k times after a date leads where `k months
later` does. Each mention is anchored on what the one before became; a mention that would leave the
calendar is left open, and so is every one after it. Main fact: `chain_eq_counted`.
-/
import TemporalTagger.Proofs.Context.Mentions
import TemporalTagger.Proofs.Context.Resolution

namespace TemporalTagger

open Text

/-! ## Placeholders -/

/-- Which way a relative mention leads. -/
inductive Direction
  | next
  | last

namespace Direction

def sign : Direction → Int
  | next => 1
  | last => -1

/-- The placeholder of one unit on or back. -/
def single (d : Direction) (u : CalendarUnit) : String :=
  match d with
  | next => "UNDEF-next-" ++ u.name
  | last => "UNDEF-last-" ++ u.name

/-- The placeholder of so many units on or back. -/
def counted (d : Direction) (u : CalendarUnit) (k : Nat) : String :=
  match d with
  | next => "UNDEF-REF-" ++ u.name ++ "-PLUS-" ++ toString k
  | last => "UNDEF-REF-" ++ u.name ++ "-MINUS-" ++ toString k

theorem parse?_single (d : Direction) (u : CalendarUnit) :
    Placeholder.parse? (d.single u) = some (.moved u d.sign []) := by
  cases d <;> cases u <;> rfl

theorem undefined_single (d : Direction) (u : CalendarUnit) : Undefined (d.single u) :=
  Placeholder.undefined_of_parse? (d.parse?_single u)

/-- What stands between the start of a counted placeholder and its number. -/
def countedFront (d : Direction) (u : CalendarUnit) : List Char :=
  "REF-".toList ++ u.name.toList ++ (match d with | next => "-PLUS-" | last => "-MINUS-").toList

theorem toList_counted (d : Direction) (u : CalendarUnit) (k : Nat) :
    (d.counted u k).toList = "UNDEF-".toList ++ (d.countedFront u ++ Nat.toDigits 10 k) := by
  cases d <;> simp only [counted, countedFront, String.toList_append, toList_toString, ← List.append_assoc] <;> rfl

theorem counted?_countedFront (d : Direction) (u : CalendarUnit) (ds : List Char) :
    Placeholder.counted? (d.countedFront u ++ ds) =
      (Placeholder.oneLine (ds.dropWhile Char.isDigit)).bind fun rest =>
        if (ds.takeWhile Char.isDigit).isEmpty then none
        else some (.moved u (d.sign * digitsValue (ds.takeWhile Char.isDigit)) rest) := by
  cases d <;> cases u <;> rfl

theorem parse?_counted (d : Direction) (u : CalendarUnit) (k : Nat) :
    Placeholder.parse? (d.counted u k) = some (.moved u (d.sign * k) []) := by
  have hdigits : ∀ c ∈ Nat.toDigits 10 k, c.isDigit = true := fun c => isDigit_of_mem_toDigits
  have htake : (Nat.toDigits 10 k).takeWhile Char.isDigit = Nat.toDigits 10 k := takeWhile_of_isDigit hdigits
  have hdrop : (Nat.toDigits 10 k).dropWhile Char.isDigit = [] := by
    rw [← List.append_nil (Nat.toDigits 10 k), List.dropWhile_append_of_pos (by simpa using hdigits)]
    rfl
  have hdate : after? "REFDATE".toList (d.countedFront u ++ Nat.toDigits 10 k) = none := by
    cases d <;> cases u <;> rfl
  have hne : (Nat.toDigits 10 k).isEmpty = false := List.isEmpty_eq_false_iff.2 Nat.toDigits_ne_nil
  have hcounted : Placeholder.counted? (d.countedFront u ++ Nat.toDigits 10 k) = some (.moved u (d.sign * k) []) := by
    rw [counted?_countedFront, htake, hdrop, hne, digitsValue_toDigits]
    rfl
  rw [Placeholder.parse?, toList_counted, after?_append, Option.bind_eq_bind, Option.bind_some,
    hdate, hcounted]
  rfl

end Direction

/-! ## Shifts in bounds -/

namespace CalendarUnit

variable {u : CalendarUnit} {p : Int}

/-- Where one step leads out of bounds, more steps do too. -/
theorem write?_eq_none_of_step {d : Direction} (hp : u.InBounds p) (h : u.write? (p + d.sign) = none) {k : Nat}
    (hk : 0 < k) : u.write? (p + d.sign * k) = none := by
  rw [← Option.not_isSome_iff_eq_none, write?_isSome_iff] at h ⊢
  unfold InBounds at *
  cases d <;> simp only [Direction.sign] at * <;> omega

end CalendarUnit

/-! ## Anchors -/

namespace Resolution

open Mention

variable {u : CalendarUnit} {earlier : List TimeExpression} {e : TimeExpression} {p : Int}

/-- The point that expressions give as the anchor of a unit, the most recent one first. -/
def anchorPoint? (u : CalendarUnit) (earlier : List TimeExpression) : Option Int :=
  (search none (.ofUnit u) earlier).bind u.read?

theorem search_eq_of_lt {start : Nat} {g : Granularity} : ∀ {earlier : List TimeExpression},
    (∀ f ∈ earlier, f.span.start < start) → search (some start) g earlier = search none g earlier
  | [], _ => rfl
  | f :: earlier, h => by
    obtain ⟨hf, hearlier⟩ := List.forall_mem_cons.1 h
    have hne : decide (some f.span.start = some start) = false := by
      rw [decide_eq_false_iff_not, Option.some.injEq]
      omega
    rw [search, search, hne, search_eq_of_lt hearlier]
    rfl

/-- A value of a unit is the anchor for what follows. -/
theorem anchorPoint?_of_spells (h : u.Spells e.value.toList p) : anchorPoint? u (e :: earlier) = some p := by
  rw [anchorPoint?, search, isFunction_of_spells h, offer_of_spells h]
  exact CalendarUnit.read?_of_spells h

/-- A placeholder that is left is passed over. -/
theorem anchorPoint?_of_undefined (h : Undefined e.value) :
    anchorPoint? u (e :: earlier) = anchorPoint? u earlier := by
  rw [anchorPoint?, search, offer_of_undefined h]
  split <;> rfl

theorem inBounds_of_anchorPoint? {ua : CalendarUnit} {p₀ : Int} (h : ua.Spells e.value.toList p₀)
    (hp : anchorPoint? u [e] = some p) : u.InBounds p := by
  obtain ⟨anchor, hsearch, hread⟩ := Option.bind_eq_some_iff.1 hp
  rw [search, isFunction_of_spells h] at hsearch
  cases ho : offer e.value (.ofUnit u) with
  | noShape =>
    rw [ho] at hsearch
    cases hsearch
  | shape found =>
    rw [ho] at hsearch
    exact inBounds_of_offer h (ho.trans (congrArg Offer.shape hsearch)) hread

/-- A relative mention leads from the anchor to the point that it says, if that is in bounds. -/
theorem value_resolveOne {context : DocumentContext} {ss : List Sentence} {l : Language} {amount : Int}
    (hcontext : context.documentType = .narrative) (hbounds : ∀ p, anchorPoint? u earlier = some p → u.InBounds p)
    (hafter : ∀ f ∈ earlier, f.span.start < e.span.start)
    (hparse : Placeholder.parse? e.value = some (.moved u amount [])) :
    (resolveOne context ss l earlier e).value =
      ((anchorPoint? u earlier).bind fun p => u.write? (p + amount)).getD e.value := by
  have hnews : context.newsDate? = none := by rw [DocumentContext.newsDate?, hcontext]
  have hvalue : value? context ss l earlier e (.moved u amount []) =
      (anchorPoint? u earlier).bind fun p => u.write? (p + amount) := by
    have hanchor : value?.anchor? context earlier e u = search none (.ofUnit u) earlier := by
      rw [value?.anchor?, hnews]
      exact search_eq_of_lt hafter
    have hempty : ∀ v : Option String, (v.bind fun v => some (v ++ String.ofList [])) = v := by simp
    unfold anchorPoint? at hbounds ⊢
    rw [value?, hanchor]
    cases hsearch : search none (.ofUnit u) earlier with
    | none => rfl
    | some anchor =>
      rw [hsearch, Option.bind_some] at hbounds
      rw [Option.bind_some]
      cases hread : u.read? anchor with
      | none =>
        show ((u.shift? anchor amount).bind fun v => some (v ++ String.ofList [])) = none
        rw [hempty, CalendarUnit.shift?_eq_none hread]
      | some p =>
        show ((u.shift? anchor amount).bind fun v => some (v ++ String.ofList [])) = u.write? (p + amount)
        rw [hempty, CalendarUnit.shift?_eq_write? hread (hbounds p hread)]
  rw [resolveOne, hparse, Option.bind_some, hvalue]
  cases (anchorPoint? u earlier).bind fun p => u.write? (p + amount) <;> rfl

/-! ## Chains -/

variable {context : DocumentContext} {ss : List Sentence} {l : Language}

/-- After a mention in bounds the anchor is where it leads. After one out of bounds it is where it was, from
where more steps lead out of bounds too. In both cases as many steps as are left lead where one more led. -/
theorem anchorPoint?_step {d : Direction} {next : TimeExpression}
    (hbounds : ∀ p, anchorPoint? u earlier = some p → u.InBounds p)
    (hvalue : next.value = ((anchorPoint? u earlier).bind fun p => u.write? (p + d.sign)).getD (d.single u)) :
    (∀ p, anchorPoint? u (next :: earlier) = some p → u.InBounds p) ∧
      ∀ k : Nat, 0 < k → ((anchorPoint? u (next :: earlier)).bind fun p => u.write? (p + d.sign * k)) =
        (anchorPoint? u earlier).bind fun p => u.write? (p + d.sign * (k + 1 : Nat)) := by
  cases hp : anchorPoint? u earlier with
  | none =>
    rw [hp] at hvalue
    have hkept : anchorPoint? u (next :: earlier) = none := by
      rw [anchorPoint?_of_undefined (hvalue ▸ d.undefined_single u), hp]
    rw [hkept]
    exact ⟨nofun, fun k _ => rfl⟩
  | some p =>
    have hin := hbounds p hp
    rw [hp, Option.bind_some] at hvalue
    cases hw : u.write? (p + d.sign) with
    | some v =>
      rw [hw, Option.getD_some] at hvalue
      have hspells : u.Spells next.value.toList (p + d.sign) := hvalue ▸ CalendarUnit.spells_of_write? hw
      rw [anchorPoint?_of_spells hspells]
      refine ⟨fun q h => Option.some.inj h ▸ CalendarUnit.inBounds_of_spells hspells, fun k _ => ?_⟩
      rw [Option.bind_some, Option.bind_some, Nat.cast_succ, Int.mul_add, Int.mul_one, Int.add_comm (d.sign * k),
        Int.add_assoc]
    | none =>
      rw [hw, Option.getD_none] at hvalue
      rw [anchorPoint?_of_undefined (hvalue ▸ d.undefined_single u), hp]
      refine ⟨fun q h => Option.some.inj h ▸ hin, fun k hk => ?_⟩
      rw [Option.bind_some, Option.bind_some, CalendarUnit.write?_eq_none_of_step hin hw hk,
        CalendarUnit.write?_eq_none_of_step hin hw (Nat.succ_pos k)]

/-- The last mention of a chain leads as many units on or back as there are mentions. -/
theorem getLast?_chain (hcontext : context.documentType = .narrative) (d : Direction) :
    ∀ {steps earlier : List TimeExpression}, steps ≠ [] →
    (∀ p, anchorPoint? u earlier = some p → u.InBounds p) → (∀ e ∈ steps, e.value = d.single u) →
    steps.Pairwise (fun e f => e.span.start < f.span.start) →
    (∀ f ∈ earlier, ∀ e ∈ steps, f.span.start < e.span.start) →
    (resolveFrom context ss l earlier steps).getLast?.map (·.value) =
      some (((anchorPoint? u earlier).bind fun p => u.write? (p + d.sign * steps.length)).getD (d.single u))
  | [], _, hne, _, _, _, _ => absurd rfl hne
  | [e], earlier, _, hbounds, hvalue, _, hafter => by
    have he := hvalue e List.mem_cons_self
    rw [resolveFrom, resolveFrom, List.getLast?_singleton, Option.map_some, value_resolveOne hcontext hbounds
      (fun f hf => hafter f hf e List.mem_cons_self) (he ▸ d.parse?_single u), he, List.length_singleton,
      Nat.cast_one, Int.mul_one]
  | e :: e' :: steps, earlier, _, hbounds, hvalue, horder, hafter => by
    obtain ⟨he, hsteps⟩ := List.forall_mem_cons.1 hvalue
    obtain ⟨hfirst, horder⟩ := List.pairwise_cons.1 horder
    have hresolved := @value_resolveOne u earlier e context ss l _ hcontext hbounds
      (fun f hf => hafter f hf e List.mem_cons_self) (he ▸ d.parse?_single u)
    rw [he] at hresolved
    obtain ⟨hbounds', hreach⟩ := anchorPoint?_step hbounds hresolved
    have hafter' : ∀ f ∈ resolveOne context ss l earlier e :: earlier, ∀ g ∈ e' :: steps,
        f.span.start < g.span.start := by
      intro f hf g hg
      rcases List.mem_cons.1 hf with rfl | hf
      · rw [span_resolveOne]
        exact hfirst g hg
      · exact hafter f hf g (List.mem_cons_of_mem _ hg)
    have ih := getLast?_chain hcontext d (List.cons_ne_nil e' steps) hbounds' hsteps horder hafter'
    rw [hreach (e' :: steps).length (Nat.succ_pos _)] at ih
    rw [resolveFrom, resolveFrom, List.getLast?_cons_cons, ← resolveFrom, ih]
    rfl

end Resolution

open Resolution in
/-- In a narrative, a chain of `next` or `last` mentions of a unit after a well-formed value leads to the same
value as one mention that counts them, or both stay open. -/
theorem chain_eq_counted {context : DocumentContext} (hcontext : context.documentType = .narrative)
    (ss : List Sentence) (l : Language) (d : Direction) (u : CalendarUnit) {a one : TimeExpression}
    {steps : List TimeExpression} (ha : ∃ ua : CalendarUnit, ua.WellFormed a.value) (hsteps : steps ≠ [])
    (hsingle : ∀ e ∈ steps, e.value = d.single u) (hcounted : one.value = d.counted u steps.length)
    (horder : (a :: steps).Pairwise fun e f => e.span.start < f.span.start) (hone : a.span.start < one.span.start) :
    (∃ v, u.WellFormed v ∧ (resolvePlaceholders context ss l (a :: steps)).getLast?.map (·.value) = some v ∧
        (resolvePlaceholders context ss l [a, one]).getLast?.map (·.value) = some v) ∨
      ((resolvePlaceholders context ss l (a :: steps)).getLast?.map (·.value) = some (d.single u) ∧
        (resolvePlaceholders context ss l [a, one]).getLast?.map (·.value) = some (d.counted u steps.length)) := by
  obtain ⟨ua, p₀, ha⟩ := ha
  obtain ⟨hfirst, horder⟩ := List.pairwise_cons.1 horder
  have hkept : resolveOne context ss l [] a = a := resolveOne_of_begun context ss l (Mention.begun_of_spells ha)
  have hbounds : ∀ p, anchorPoint? u [a] = some p → u.InBounds p := fun p => inBounds_of_anchorPoint? ha
  have hchain := @getLast?_chain u context ss l hcontext d steps [a] hsteps hbounds hsingle horder (by simpa using hfirst)
  have hvalue := @value_resolveOne u [a] one context ss l _ hcontext hbounds (by simpa using hone)
    (hcounted ▸ d.parse?_counted u steps.length)
  have hrest : resolvePlaceholders context ss l (a :: steps) = a :: resolveFrom context ss l [a] steps := by
    rw [resolvePlaceholders, resolveFrom, hkept]
  have hone : resolvePlaceholders context ss l [a, one] = [a, resolveOne context ss l [a] one] := by
    rw [resolvePlaceholders, resolveFrom, hkept, resolveFrom, resolveFrom]
  have hne : resolveFrom context ss l [a] steps ≠ [] := by
    cases steps with
    | nil => exact absurd rfl hsteps
    | cons e steps => exact List.cons_ne_nil _ _
  rw [hrest, hone, List.getLast?_cons_of_ne_nil hne, hchain, List.getLast?_cons_cons, List.getLast?_singleton,
    Option.map_some, hvalue, hcounted]
  cases hpoint : (anchorPoint? u [a]).bind fun p => u.write? (p + d.sign * steps.length) with
  | none => exact .inr ⟨rfl, rfl⟩
  | some v =>
    obtain ⟨p, -, hw⟩ := Option.bind_eq_some_iff.1 hpoint
    exact .inl ⟨v, ⟨_, CalendarUnit.spells_of_write? hw⟩, rfl, rfl⟩

/-- A mention of a value at an offset. -/
def mentionAt (value : String) (start : Nat) : TimeExpression :=
  { category := .date, value := value, span := ⟨start, start + 5⟩, rule := "mention" }

/-- Three months after a day of November lies February. -/
theorem chain_eq_counted_months :
    (resolvePlaceholders {} [] .english [mentionAt "2023-11-30" 0, mentionAt "UNDEF-next-month" 20,
        mentionAt "UNDEF-next-month" 40, mentionAt "UNDEF-next-month" 60]).map (·.value) =
          ["2023-11-30", "2023-12", "2024-01", "2024-02"] ∧
      ((∃ v, CalendarUnit.month.WellFormed v ∧
          (resolvePlaceholders {} [] .english [mentionAt "2023-11-30" 0, mentionAt "UNDEF-next-month" 20,
            mentionAt "UNDEF-next-month" 40, mentionAt "UNDEF-next-month" 60]).getLast?.map (·.value) = some v ∧
          (resolvePlaceholders {} [] .english [mentionAt "2023-11-30" 0,
            mentionAt "UNDEF-REF-month-PLUS-3" 20]).getLast?.map (·.value) = some v) ∨
        ((resolvePlaceholders {} [] .english [mentionAt "2023-11-30" 0, mentionAt "UNDEF-next-month" 20,
            mentionAt "UNDEF-next-month" 40, mentionAt "UNDEF-next-month" 60]).getLast?.map (·.value) =
              some (Direction.next.single .month) ∧
          (resolvePlaceholders {} [] .english [mentionAt "2023-11-30" 0,
            mentionAt "UNDEF-REF-month-PLUS-3" 20]).getLast?.map (·.value) =
              some (Direction.next.counted .month 3))) :=
  ⟨by decide +kernel,
    chain_eq_counted rfl [] .english .next .month
      ⟨.day, 739159, CalendarUnit.spells_of_write? (by decide +kernel)⟩
      (by decide) (by decide +kernel) (by decide +kernel) (by decide) (by decide)⟩

end TemporalTagger
