/-
Sums in templates. A call is recognised wherever it stands, so a call of `SUM` is replaced by its value next to any text
and in every round of evaluation. The value is the total of the operands if no running total leaves the integers of
64 bits, and else the arguments; this depends on the order of the operands. Main fact: `expandsTo_sum`.
-/
import TemporalTagger.Proofs.Operands

namespace TemporalTagger

open Text

namespace Template

variable {t : Normalization}

/-! ## Calls in their surroundings -/

/-- No call begins before another one and reaches into it. -/
theorem call?_append_eq_none {f : Function} (hf : f.Named) {c : Char} {pre : List Char} (hpre : call? (c :: pre) = none)
    (rest : List Char) : call? (c :: (pre ++ '%' :: (f.label ++ '(' :: rest))) = none := by
  refine Option.eq_none_iff_forall_ne_some.2 fun p hp => ?_
  obtain ⟨after, hcs, -, hnamed, hflat⟩ := exists_of_call? hp
  obtain ⟨rfl, htail⟩ := List.cons.inj hcs
  have hlead := congrArg lead htail
  rw [lead_append_cons hnamed.flat.not_mem] at hlead
  have hcallee : Flat ('%' :: f.label) := List.forall_mem_cons.2 ⟨rfl, hf.flat⟩
  by_cases hopen : '(' ∈ pre
  · obtain ⟨a, b, rfl, ha⟩ := List.eq_append_cons_of_mem hopen
    rw [List.append_assoc, List.cons_append] at htail hlead
    rw [lead_append_cons ha] at hlead
    rw [hlead, List.append_cancel_left_eq, List.cons_inj_right] at htail
    rcases List.append_eq_append_iff.1 htail with ⟨x, hargument, hrest⟩ | ⟨x, rfl, hrest⟩
    · -- its argument would end where that of the other call begins
      rw [hargument] at hflat
      have hends := congrArg (List.takeWhile (!isParenthesis ·)) hrest
      rw [← List.cons_append, takeWhile_argument hcallee rfl,
        takeWhile_argument (fun c hc => hflat c (List.mem_append_right _ hc)) rfl] at hends
      rw [← hends, List.cons_append, List.cons_inj_right, List.append_cancel_left_eq] at hrest
      exact absurd (List.cons.inj hrest).1 (by decide)
    · -- it would be closed before the other one
      rcases x with _ | ⟨d, x⟩
      · exact absurd (List.cons.inj hrest).1 (by decide)
      · obtain ⟨rfl, -⟩ := List.cons.inj hrest
        rw [hlead, call?_of_function hnamed.function?_label hflat] at hpre
        cases hpre
  · rw [lead_append hopen, ← List.cons_append, lead_append_cons hcallee.not_mem] at hlead
    exact not_suffix_label hf hnamed (hlead ▸ List.suffix_append _ _)

theorem scan_append_call {f : Function} (hf : f.Named) {argument : List Char} (h : Flat argument) (post : List Char) :
    ∀ pre : List Char, scan call? (pre ++ '%' :: (f.label ++ '(' :: (argument ++ ')' :: post))) =
      scan call? pre ++ .found ⟨f, argument⟩ :: scan call? post
  | [] => scan_call hf.function?_label h post
  | c :: pre => by
    cases hcall : call? (c :: pre) with
    | none =>
      rw [scan_char hcall, List.cons_append, scan_char (call?_append_eq_none hf hcall _),
        scan_append_call hf h post pre]
      rfl
    | some p =>
      obtain ⟨⟨g, a⟩, n⟩ := p
      obtain ⟨rest, hcs, -, hg, ha⟩ := exists_of_call? hcall
      have hlt : rest.length < (c :: pre).length := by
        rw [hcs]
        simp only [List.length_cons, List.length_append]
        omega
      rw [hcs, scan_call hg.function?_label ha]
      simp only [List.cons_append, List.append_assoc]
      rw [scan_call hg.function?_label ha, scan_append_call hf h post rest]
termination_by pre => pre.length
decreasing_by
  · exact Nat.lt_succ_self _
  · exact hlt

/-- A text without opening parentheses has no call. -/
theorem found_scan_of_not_mem {cs : List Char} (h : '(' ∉ cs) : found (scan call? cs) = [] := by
  have hnone : ∀ u, u ≠ [] → u <:+ cs → call? (u ++ []) = none := by
    intro u hne hu
    obtain ⟨c, u, rfl⟩ := List.exists_cons_of_ne_nil hne
    rw [List.append_nil]
    exact call?_eq_none_of_guarded c u (guarded_of_not_mem fun hmem => h (hu.subset (List.mem_cons_of_mem c hmem)))
  have hfound := found_scan_append hnone
  rwa [List.append_nil] at hfound

/-- A call of `SUM`. -/
def sumCall (argument : List Char) : List Char := '%' :: (Function.sum.label ++ '(' :: (argument ++ [')']))

/-- No reference is read in a call of `SUM`. -/
theorem fillIn_sumCall (capture : Nat → Option String) {argument : List Char} (h : Flat argument) :
    fillIn capture (sumCall argument) = sumCall argument := by
  have hnone : ∀ u, u ≠ [] → u <:+ sumCall argument → groupReference? (u ++ []) = none := by
    rintro u - ⟨v, hv⟩
    rw [List.append_nil]
    refine Option.eq_none_iff_forall_ne_some.2 fun ⟨digits, n⟩ hread => ?_
    obtain ⟨hlead, hopen⟩ := lead_of_groupReference? hread
    rw [sumCall, ← List.cons_append] at hv
    rcases List.append_eq_append_iff.1 hv with ⟨a, ha, rfl⟩ | ⟨a, rfl, ha⟩
    · -- before the parenthesis stands the end of the label, which is another word
      have hsuffix : a <:+ '%' :: Function.sum.label := ⟨v, ha.symm⟩
      have hcallee : '(' ∉ '%' :: Function.sum.label := by decide
      rw [lead_append_cons fun hmem => hcallee (hsuffix.subset hmem)] at hlead
      rw [hlead] at hsuffix
      exact absurd hsuffix (by decide)
    · rcases a with _ | ⟨c, a⟩
      · rw [List.nil_append] at ha
        rw [← ha] at hlead
        cases hlead
      · -- after the parenthesis there is no other one
        have htail : argument ++ [')'] = a ++ u := (List.cons.inj ha).2
        have hmem := List.mem_append_right a hopen
        rw [← htail, List.mem_append, List.mem_singleton] at hmem
        exact hmem.elim h.not_mem (by decide)
  have hscan := scan_append hnone
  rw [List.append_nil, show scan groupReference? [] = [] from rfl, List.append_nil] at hscan
  rw [fillIn, hscan, render_map_char]

/-- A text is replaced by another one wherever it stands: in every round of evaluation and next to any text, as long as
rounds are left, and as a template of its own. -/
structure ExpandsTo (t : Normalization) (call value : List Char) : Prop where
  alone : ∀ capture, expand (String.ofList call) capture t = String.ofList value
  within : ∀ n pre post, evaluate t (n + 1) (pre ++ call ++ post) = evaluate t n
    (render (Call.value t) (scan call? pre) ++ value ++ render (Call.value t) (scan call? post))

theorem ExpandsTo.unique {call a b : List Char} (ha : ExpandsTo t call a) (hb : ExpandsTo t call b) : a = b :=
  String.ofList_inj.1 ((ha.alone fun _ => none).symm.trans (hb.alone fun _ => none))

theorem expandsTo_sumCall {argument : List Char} (h : Flat argument) :
    ExpandsTo t (sumCall argument) (Call.value t ⟨.sum, argument⟩) := by
  have hwithin : ∀ n pre post, evaluate t (n + 1) (pre ++ sumCall argument ++ post) = evaluate t n
      (render (Call.value t) (scan call? pre) ++ Call.value t ⟨.sum, argument⟩ ++
        render (Call.value t) (scan call? post)) := by
    intro n pre post
    have hcall : pre ++ sumCall argument ++ post =
        pre ++ '%' :: (Function.sum.label ++ '(' :: (argument ++ ')' :: post)) := by simp [sumCall]
    rw [evaluate, hcall, scan_append_call (f := .sum) trivial h post pre, render_append, render_found,
      List.append_assoc]
  have hvalue : '(' ∉ Call.value t ⟨.sum, argument⟩ := by
    show '(' ∉ ((sum? argument).map fun n => (toString n).toList).getD argument
    cases sum? argument with
    | none => exact h.not_mem
    | some n => exact not_mem_toString n (.inl rfl)
  refine ⟨fun capture => ?_, hwithin⟩
  have hfirst := hwithin 7 [] []
  rw [List.nil_append, List.append_nil, show scan call? [] = [] from rfl, show render (Call.value t) [] = [] from rfl,
    List.nil_append, List.append_nil] at hfirst
  rw [expand, String.toList_ofList, fillIn_sumCall capture h, maxNesting, hfirst,
    evaluate_of_found_eq_nil t (found_scan_of_not_mem hvalue)]

/-! ## Sums -/

theorem splitCommas_eq_splitOn : ∀ cs : List Char, splitCommas cs = cs.splitOn ','
  | [] => rfl
  | c :: cs => by
    rw [splitCommas, splitCommas_eq_splitOn cs]
    exact (splitOn_cons ',' c cs).symm

/-- Parts with commas between them. -/
def listed (parts : List (List Char)) : List Char := [','].intercalate parts

theorem sum?_listed {parts : List (List Char)} (hne : parts ≠ []) (hcomma : ∀ part ∈ parts, ',' ∉ part) :
    sum? (listed parts) = sumFrom 0 parts := by
  rw [sum?, splitCommas_eq_splitOn, listed, List.splitOn_intercalate _ hcomma hne]

theorem listed_cons_cons (a b : List Char) (parts : List (List Char)) :
    listed (a :: b :: parts) = a ++ ',' :: listed (b :: parts) := by
  simp [listed]

theorem flat_listed : ∀ {parts : List (List Char)}, (∀ part ∈ parts, Flat part) → Flat (listed parts)
  | [], _ => List.forall_mem_nil _
  | [part], h => by simpa [listed] using h part List.mem_cons_self
  | part :: next :: parts, h => by
    obtain ⟨hpart, h⟩ := List.forall_mem_cons.1 h
    rw [listed_cons_cons]
    exact hpart.append (List.forall_mem_cons.2 ⟨rfl, flat_listed h⟩)

/-- The call of `SUM` with operands expands to an integer in decimal. -/
def SumsTo (t : Normalization) (ops : List Operand) (n : Int) : Prop :=
  ExpandsTo t (sumCall (listed (ops.map Operand.text))) (toString n).toList

theorem sumsTo_of_sumFrom {ops : List Operand} (hne : ops ≠ []) {n : Int}
    (h : sumFrom 0 (ops.map Operand.text) = some n) : SumsTo t ops n := by
  have hparts := Operand.forall_mem_map_text ops
  have hsum : sum? (listed (ops.map Operand.text)) = some n := by
    rw [sum?_listed (mt List.map_eq_nil_iff.1 hne) fun part hpart => (hparts part hpart).2, h]
  have hexpands := expandsTo_sumCall (t := t) (flat_listed fun part hpart => (hparts part hpart).1)
  rwa [Call.value, hsum] at hexpands

/-- A sum that does not come to an end leaves its parts. -/
theorem expandsTo_listed {parts : List (List Char)} (hne : parts ≠ []) (hparts : ∀ part ∈ parts, Flat part ∧ ',' ∉ part)
    (h : sumFrom 0 parts = none) : ExpandsTo t (sumCall (listed parts)) (listed parts) := by
  have hexpands := expandsTo_sumCall (t := t) (flat_listed fun part hpart => (hparts part hpart).1)
  rwa [Call.value, sum?_listed hne fun part hpart => (hparts part hpart).2, h] at hexpands

/-- A call of `SUM` with operands that fit expands to their total exactly if every total on the way fits. -/
theorem sumsTo_iff {ops : List Operand} (hne : ops ≠ []) (hfits : ∀ op ∈ ops, IsInt64 op.value) :
    SumsTo t ops (total ops) ↔ RunsFrom 0 ops := by
  have hzero : IsInt64 0 := by decide
  constructor
  · intro hsums
    by_contra hruns
    have hnone : sumFrom 0 (ops.map Operand.text) = none := Option.eq_none_iff_forall_ne_some.2 fun n hn =>
      hruns ((sumFrom_eq_some_iff hfits hzero).1 hn).1
    match ops with
    | [] => exact hne rfl
    | [op] =>
      exact hruns (runsFrom_cons.2 ⟨hzero, runsFrom_nil.2 (by simpa using hfits op List.mem_cons_self)⟩)
    | first :: next :: rest =>
      -- the operands as they are written have a comma, and no integer has
      have hkept := expandsTo_listed (t := t) (by simp) (Operand.forall_mem_map_text _) hnone
      have hcomma : ',' ∈ listed ((first :: next :: rest).map Operand.text) := by
        rw [List.map_cons, List.map_cons, listed_cons_cons]
        exact List.mem_append_right _ List.mem_cons_self
      rw [hkept.unique hsums, ← Operand.text_ofInt] at hcomma
      exact Operand.comma_not_mem_text _ hcomma
  · intro hruns
    exact sumsTo_of_sumFrom hne ((sumFrom_eq_some_iff hfits hzero).2 ⟨hruns, (Int.zero_add _).symm⟩)

/-- A call of `SUM` with integers of 64 bits expands to their total exactly if every running total fits in 64 bits. It
does so in all orders exactly if what the operands add and what they take away fits, and in some order whenever the
total fits. The arguments stay as they are written if one is no integer of 64 bits or a running total, the last one
among them, does not fit. -/
theorem expandsTo_sum (t : Normalization) :
    (∀ ops : List Operand, ops ≠ [] → (∀ op ∈ ops, IsInt64 op.value) →
      (SumsTo t ops (total ops) ↔ ∀ front, front <+: ops → IsInt64 (total front)) ∧
      ((∀ ops', ops'.Perm ops → SumsTo t ops' (total ops)) ↔ IsInt64 (gains ops) ∧ IsInt64 (losses ops)) ∧
      (IsInt64 (total ops) → ∃ ops', ops'.Perm ops ∧ SumsTo t ops' (total ops))) ∧
    (∀ parts : List (List Char), (∀ part ∈ parts, Flat part ∧ ',' ∉ part) →
      (∃ part ∈ parts, ∀ op : Operand, op.text = part → ¬ IsInt64 op.value) ∨
        (∃ ops : List Operand, ops.map Operand.text = parts ∧ (∀ op ∈ ops, IsInt64 op.value) ∧
          ∃ front, front <+: ops ∧ ¬ IsInt64 (total front)) →
      ExpandsTo t (sumCall (listed parts)) (listed parts)) := by
  have hzero : IsInt64 0 := by decide
  refine ⟨fun ops hne hfits => ?_, fun parts hparts hstops => ?_⟩
  · have horders : ∀ ops', ops'.Perm ops → (SumsTo t ops' (total ops) ↔ RunsFrom 0 ops') := by
      intro ops' hperm
      rw [← total_perm hperm]
      exact sumsTo_iff (fun hnil => hne (List.nil_perm.1 (hnil ▸ hperm))) fun op hop => hfits op (hperm.subset hop)
    refine ⟨?_, ?_, fun htotal => ?_⟩
    · rw [horders ops (List.Perm.refl ops)]
      simp only [RunsFrom, Int.zero_add]
    · rw [← forall_perm_runsFrom_iff]
      exact forall₂_congr horders
    · obtain ⟨ops', hperm, hruns⟩ := exists_perm_runsFrom ops hfits hzero (by rwa [Int.zero_add])
      exact ⟨ops', hperm, (horders ops' hperm).2 hruns⟩
  · rcases hstops with ⟨part, hpart, hnot⟩ | ⟨ops, rfl, hfits, front, hfront, hnot⟩
    · exact expandsTo_listed (List.ne_nil_of_mem hpart) hparts (sumFrom_eq_none hpart hnot 0)
    · refine expandsTo_listed ?_ hparts (Option.eq_none_iff_forall_ne_some.2 fun n hn => ?_)
      · rintro hnil
        rw [List.map_eq_nil_iff.1 hnil, List.prefix_nil] at hfront
        exact hnot (hfront ▸ hzero)
      · have hruns := ((sumFrom_eq_some_iff hfits hzero).1 hn).1 front hfront
        rw [Int.zero_add] at hruns
        exact hnot hruns

/-- Near the largest integer the order decides: the running total after the 1 is too large, that after the -1 is not. -/
theorem expandsTo_sum_largest :
    ExpandsTo Table.empty "%SUM%(9223372036854775807,1,-1)".toList "9223372036854775807,1,-1".toList ∧
      ExpandsTo Table.empty "%SUM%(9223372036854775807,-1,1)".toList "9223372036854775807".toList := by
  have hfits : ∀ ns : List Int, (∀ n ∈ ns, IsInt64 n) → ∀ op ∈ ns.map Operand.ofInt, IsInt64 op.value := by
    simp [Operand.value_ofInt]
  refine ⟨?_, ?_⟩
  · have hexpands := (expandsTo_sum Table.empty).2 _ (Operand.forall_mem_map_text _) (.inr
      ⟨[9223372036854775807, 1, -1].map Operand.ofInt, rfl, hfits _ (by decide),
        [9223372036854775807, 1].map Operand.ofInt, ⟨[Operand.ofInt (-1)], rfl⟩, by decide +kernel⟩)
    exact hexpands
  · have hruns : RunsFrom 0 ([9223372036854775807, -1, 1].map Operand.ofInt) := by
      simp only [List.map_cons, List.map_nil, runsFrom_cons, runsFrom_nil, Operand.value_ofInt]
      decide
    have hexpands := ((expandsTo_sum Table.empty).1 ([9223372036854775807, -1, 1].map Operand.ofInt) (by simp)
      (hfits _ (by decide))).1.2 fun front hfront => by simpa using hruns front hfront
    exact hexpands

end Template

end TemporalTagger
