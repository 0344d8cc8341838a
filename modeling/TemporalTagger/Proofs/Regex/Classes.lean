/-
What the reader of character classes takes from a text. Inside a class nothing that follows its last bracket counts, not
even for the search for the end of a class name, since no name holds a bracket. Main fact: `readClass_local`.
-/
import TemporalTagger.Proofs.Regex.Reading

namespace TemporalTagger.Regex

variable {S : List Char → List Char → Prop} {fl : Flags} {rest : List Char}

/-! ## Inside a class -/

/-- Two continuations that agree as far as a closing bracket. -/
def Inside (rest rest' : List Char) : Prop := ∃ x r r', rest = x ++ ']' :: r ∧ rest' = x ++ ']' :: r'

theorem Inside.exists_cons {c : Char} {rest' : List Char} (h : Inside (c :: rest) rest') :
    ∃ r', rest' = c :: r' ∧ (c ≠ ']' → Inside rest r') := by
  obtain ⟨x, r, r', hx, rfl⟩ := h
  cases x with
  | nil =>
    cases hx
    exact ⟨r', rfl, fun hc => absurd rfl hc⟩
  | cons d x =>
    cases hx
    exact ⟨_, rfl, fun _ => ⟨x, r, r', rfl, rfl⟩⟩

theorem Inside.append {rest' : List Char} (h : Inside rest rest') (y : List Char) :
    Inside (y ++ rest) (y ++ rest') := by
  obtain ⟨x, r, r', rfl, rfl⟩ := h
  exact ⟨y ++ x, r, r', by rw [List.append_assoc], by rw [List.append_assoc]⟩

theorem Inside.symm {rest' : List Char} (h : Inside rest rest') : Inside rest' rest := by
  obtain ⟨x, r, r', hx, hx'⟩ := h
  exact ⟨x, r', r, hx', hx⟩

theorem Inside.head? {rest' : List Char} (h : Inside rest rest') : rest'.head? = rest.head? := by
  obtain ⟨x, r, r', rfl, rfl⟩ := h
  cases x <;> rfl

theorem Inside.seam {rest' : List Char} (h : Inside rest rest') : Seam rest rest' := by
  refine ⟨?_, ?_⟩
  · rw [asksForFew, asksForFew, h.head?]
    exact id
  · cases rest with
    | nil =>
      obtain ⟨x, r, r', hx, -⟩ := h
      cases x <;> cases hx
    | cons c rest =>
      obtain ⟨r', rfl, hr⟩ := h.exists_cons
      intro hname
      obtain ⟨hc, hname⟩ := Bool.and_eq_true_iff.1 hname
      have hc' : c ≠ ']' := by
        rintro rfl
        cases hc
      rw [namesEdge, hc, ← (hr hc').head?, hname]
      rfl

/-! ## Items -/

theorem classAtom_local (hfl : fl.spaced = false) : LocalCons Seam (classAtom fl) := by
  refine .of_cons rfl fun c => ?_
  by_cases hc : c = '\\'
  · subst hc
    exact ⟨_, (escape_local hfl).toLocal, fun cs => rfl⟩
  · exact ⟨_, .pure (some (.char c)), fun cs => by simp [classAtom]⟩

theorem rangeFrom?_local (hfl : fl.spaced = false) (first : Atom) : Local Inside (rangeFrom? fl first) := by
  intro cs s rest h
  unfold rangeFrom? at h ⊢
  simp only [fl.skip_eq hfl] at h ⊢
  split at h
  next after =>
    split at h
    next r =>
      obtain ⟨s', hs, h⟩ := Option.map_eq_some_iff.1 h
      cases h
      refine ⟨[], rfl, fun rest' hrest => ?_⟩
      obtain ⟨r', rfl, hr⟩ := hrest.exists_cons
      obtain ⟨r', rfl, -⟩ := (hr (by decide)).exists_cons
      exact congrArg (Option.map _) hs
    next r =>
      obtain ⟨s', hs, h⟩ := Option.map_eq_some_iff.1 h
      cases h
      refine ⟨[], rfl, fun rest' hrest => ?_⟩
      obtain ⟨r', rfl, hr⟩ := hrest.exists_cons
      obtain ⟨r', rfl, -⟩ := (hr (by decide)).exists_cons
      exact congrArg (Option.map _) hs
    next hstop hhyphen =>
      obtain ⟨⟨second, r⟩, hread, h⟩ := Option.bind_eq_some_iff.1 h
      obtain ⟨lo, hlo, h⟩ := Option.bind_eq_some_iff.1 h
      obtain ⟨hi, hhi, h⟩ := Option.bind_eq_some_iff.1 h
      obtain ⟨hle, h⟩ := Option.ite_none_right_eq_some.1 h
      cases h
      obtain ⟨c, x, rfl, hx⟩ := classAtom_local hfl hread
      refine ⟨'-' :: c :: x, rfl, fun rest' hrest => ?_⟩
      simp only [List.cons_append]
      split
      next h' => cases h'; exact absurd rfl (hstop _)
      next h' => cases h'; exact absurd rfl (hhyphen _)
      next => simp only [hx rest' hrest.seam, Option.bind_eq_bind, Option.bind_some, hlo, hhi, if_pos hle]
  next hne =>
    obtain ⟨s', hs, h⟩ := Option.map_eq_some_iff.1 h
    cases h
    refine ⟨[], rfl, fun rest' hrest => ?_⟩
    rw [List.nil_append]
    split
    next =>
      obtain ⟨r, rfl⟩ := List.head?_eq_some_iff.1 hrest.head?.symm
      exact absurd rfl (hne r)
    next => exact congrArg (Option.map _) hs

theorem classItem_local (hfl : fl.spaced = false) : LocalCons Inside (classItem fl) := by
  intro cs s rest h
  obtain ⟨⟨first, r⟩, hread, hrange⟩ := Option.bind_eq_some_iff.1 h
  obtain ⟨c, x, rfl, hx⟩ := classAtom_local hfl hread
  obtain ⟨y, rfl, hy⟩ := rangeFrom?_local hfl first hrange
  refine ⟨c, x ++ y, by rw [List.append_assoc], fun rest' hrest => ?_⟩
  rw [List.append_assoc, classItem, hx _ (hrest.append y).seam]
  exact hy rest' hrest

/-! ## Names of classes -/

theorem negation_local {cs : List Char} {negated : Bool} (h : negation cs = (negated, rest)) :
    ∃ x, ']' ∉ x ∧ cs = x ++ rest ∧ ∀ rest', rest'.head? = rest.head? → negation (x ++ rest') = (negated, rest') := by
  unfold negation at h
  split at h
  next =>
    cases h
    exact ⟨['^'], by decide, rfl, fun rest' _ => rfl⟩
  next hne =>
    cases h
    refine ⟨[], List.not_mem_nil, rfl, fun rest' hrest => ?_⟩
    unfold negation
    split
    next r heq =>
      rw [List.nil_append] at heq
      obtain ⟨r', rfl⟩ := List.head?_eq_some_iff.1 (hrest.symm.trans (congrArg List.head? heq))
      exact absurd rfl (hne r')
    next => rfl

/-- The names of classes hold no bracket. -/
theorem not_mem_of_posixSet? {name : List Char} {s : CharSet} (h : posixSet? (String.ofList name) = some s) :
    ']' ∉ name := by
  have hname : ∀ text : String, posixSet? text = some s → ']' ∉ text.toList := by
    intro text h
    unfold posixSet? at h
    split at h
    all_goals first | decide | cases h
  have := hname _ h
  rwa [String.toList_ofList] at this

theorem posixName?_local {cs name : List Char} {negated : Bool} (h : posixName? cs = some ((negated, name), rest)) :
    ∃ x, cs = x ++ ']' :: rest ∧ (']' ∉ name → ']' ∉ x) ∧
      ∀ rest', posixName? (x ++ ']' :: rest') = some ((negated, name), rest') := by
  unfold posixName? at h
  split at h
  next cs =>
    cases hneg : negation cs with
    | mk sign r =>
      rw [hneg] at h
      simp only at h
      split at h
      next r' hr =>
        cases h
        obtain ⟨hsplit, hspan⟩ := span_of_dropWhile hr
        obtain ⟨x, hx, rfl, hlocal⟩ := negation_local hneg
        generalize r.takeWhile (· != ':') = name at hsplit hspan ⊢
        subst hsplit
        refine ⟨':' :: (x ++ (name ++ [':'])), by simp, fun hname => by simp [hx, hname], fun rest' => ?_⟩
        obtain ⟨htake, hdrop⟩ := hspan (']' :: rest')
        have hsign := hlocal (name ++ ':' :: ']' :: rest') (by cases name <;> rfl)
        simp only [List.cons_append, List.append_assoc, List.nil_append, posixName?, hsign, htake, hdrop]
      next => cases h
  next => cases h

theorem posixClass?_local {cs : List Char} {s : CharSet} (h : posixClass? fl cs = some (s, rest)) :
    ∃ x, ']' ∉ x ∧ cs = x ++ ']' :: rest ∧ ∀ rest', posixClass? fl (x ++ ']' :: rest') = some (s, rest') := by
  obtain ⟨⟨⟨negated, name⟩, r⟩, hname, h⟩ := Option.bind_eq_some_iff.1 h
  obtain ⟨chars, hchars, h⟩ := Option.bind_eq_some_iff.1 h
  obtain ⟨set, hset, h⟩ := Option.bind_eq_some_iff.1 h
  cases h
  obtain ⟨x, rfl, hx, hlocal⟩ := posixName?_local hname
  refine ⟨x, hx (not_mem_of_posixSet? hchars), rfl, fun rest' => ?_⟩
  rw [posixClass?, hlocal]
  simp only [Option.bind_eq_bind, Option.bind_some, hchars, hset]

/-- Whether a class has a name is settled before the class is closed. -/
theorem posixClass?_eq_none {x rest' : List Char} (h : posixClass? fl (x ++ ']' :: rest) = none) :
    posixClass? fl (x ++ ']' :: rest') = none := by
  by_contra hsome
  obtain ⟨⟨s, r⟩, hs⟩ := Option.ne_none_iff_exists'.1 hsome
  obtain ⟨y, hy, hsplit, hlocal⟩ := posixClass?_local hs
  -- the first bracket of the text is the one that ends the name
  have hfirst : ∃ z, x ++ [']'] = y ++ ']' :: z := by
    rcases List.append_eq_append_iff.1 hsplit with ⟨z, rfl, hz⟩ | ⟨z, rfl, hz⟩
    · cases z with
      | nil => exact ⟨[], by simp⟩
      | cons c z =>
        cases hz
        simp at hy
    · cases z with
      | nil => exact ⟨[], by simp⟩
      | cons c z =>
        cases hz
        exact ⟨z ++ [']'], by simp⟩
  obtain ⟨z, hz⟩ := hfirst
  have hx : x ++ ']' :: rest = y ++ ']' :: (z ++ rest) := by
    simpa using congrArg (· ++ rest) hz
  rw [hx, hlocal] at h
  cases h

/-! ## The beginning of a class -/

/-- The item that a hyphen stands for. -/
def hyphenItem : NestedSet := ⟨.single '-', 0⟩

theorem leadingHyphens_eq (hfl : fl.spaced = false) : ∀ {fuel : Nat} {items : Items} {cs : List Char},
    cs.length ≤ fuel → leadingHyphens fl fuel items cs =
      ((cs.takeWhile (· == '-')).foldl (fun items _ => hyphenItem :: items) items, cs.dropWhile (· == '-'))
  | 0, items, cs, h => by
    obtain rfl := List.length_eq_zero_iff.1 (Nat.le_zero.1 h)
    rfl
  | fuel + 1, items, [], h => rfl
  | fuel + 1, items, c :: cs, h => by
    by_cases hc : c = '-'
    · subst hc
      rw [leadingHyphens, fl.skip_eq hfl, leadingHyphens_eq hfl (Nat.le_of_succ_le_succ h)]
      rfl
    · rw [List.takeWhile_cons_of_neg (by simpa using hc), List.dropWhile_cons_of_neg (by simpa using hc)]
      unfold leadingHyphens
      split
      next h' => cases h'; exact absurd rfl hc
      next => rfl

theorem head?_append_cons (y : List Char) (d : Char) (r r' : List Char) :
    (y ++ d :: r).head? = (y ++ d :: r').head? := by
  cases y <;> rfl

/-- What comes first in a class is settled by the character that comes next. -/
theorem openClass_cons (hfl : fl.spaced = false) {cs : List Char} {negated : Bool} {items : Items} {d : Char}
    (h : openClass fl cs = (negated, items, d :: rest)) :
    ∃ x, cs = x ++ d :: rest ∧ ∀ rest', openClass fl (x ++ d :: rest') = (negated, items, d :: rest') := by
  unfold openClass at h ⊢
  simp only [fl.skip_eq hfl, leadingHyphens_eq hfl (Nat.le_refl _)] at h ⊢
  cases hneg : negation cs with
  | mk sign r =>
    obtain ⟨x, -, rfl, hx⟩ := negation_local hneg
    rw [hneg] at h
    simp only at h
    split at h
    next r' heq =>
      -- a closing bracket at the beginning
      cases h
      obtain ⟨hitems, hr⟩ := Prod.mk.inj heq
      obtain ⟨hsplit, hspan⟩ := span_of_dropWhile hr
      refine ⟨x ++ (r.takeWhile (· == '-') ++ [']']), ?_, fun rest' => ?_⟩
      · rw [List.append_assoc, List.append_assoc, List.singleton_append, ← hsplit]
      · obtain ⟨htake, hdrop⟩ := hspan (d :: rest')
        have hhead := (head?_append_cons _ ']' (d :: rest') (d :: rest)).trans (congrArg List.head? hsplit.symm)
        rw [List.append_assoc, List.append_assoc, List.singleton_append, hx _ hhead]
        simp only [htake, hdrop, hitems]
    next items' r' hne heq =>
      cases h
      obtain ⟨hitems, hr⟩ := Prod.mk.inj heq
      obtain ⟨hsplit, hspan⟩ := span_of_dropWhile hr
      refine ⟨x ++ r.takeWhile (· == '-'), ?_, fun rest' => ?_⟩
      · rw [List.append_assoc, ← hsplit]
      · obtain ⟨htake, hdrop⟩ := hspan rest'
        have hhead := (head?_append_cons _ d rest' rest).trans (congrArg List.head? hsplit.symm)
        rw [List.append_assoc, hx _ hhead]
        simp only [htake, hdrop, hitems]
        split
        next h' =>
          cases h'
          exact absurd rfl (hne _ rfl)
        next h' =>
          cases h'
          rfl

theorem openClass_local (hfl : fl.spaced = false) {cs : List Char} {negated : Bool} {items : Items}
    (h : openClass fl cs = (negated, items, rest)) (hne : rest ≠ []) :
    ∃ x, cs = x ++ rest ∧ ∀ rest', Inside rest rest' → openClass fl (x ++ rest') = (negated, items, rest') := by
  obtain ⟨d, r, rfl⟩ := List.exists_cons_of_ne_nil hne
  obtain ⟨x, hx, hlocal⟩ := openClass_cons hfl h
  refine ⟨x, hx, fun rest' hrest => ?_⟩
  obtain ⟨r', rfl, -⟩ := hrest.exists_cons
  exact hlocal r'

/-! ## The rest of a class -/

/-- An operator is two characters, none of them a bracket. -/
theorem SetOp.read?_eq_none {cs cs' : List Char} (h : Inside cs cs') (hcs : SetOp.read? cs = none) :
    SetOp.read? cs' = none := by
  unfold SetOp.read?
  split
  case h_4 => rfl
  all_goals
    obtain ⟨r', rfl, hr⟩ := h.symm.exists_cons
    obtain ⟨r'', rfl, -⟩ := (hr (by decide)).exists_cons
    cases hcs

theorem SetOp.exists_of_read? {cs : List Char} {op : SetOp} (h : SetOp.read? cs = some (op, rest)) :
    ∃ c, (c ≠ '[' ∧ c ≠ ']') ∧ cs = c :: c :: rest ∧ ∀ rest', SetOp.read? (c :: c :: rest') = some (op, rest') := by
  unfold SetOp.read? at h
  split at h
  next => cases h; exact ⟨'&', by decide, rfl, fun _ => rfl⟩
  next => cases h; exact ⟨'-', by decide, rfl, fun _ => rfl⟩
  next => cases h; exact ⟨'~', by decide, rfl, fun _ => rfl⟩
  next => cases h

/-- What the reader of a class has come to: items, and what surrounds them. -/
abbrev ClassState := Items × List ClassFrame

/-- The reader of a class takes one step, whatever comes after the class. -/
def ClassStep (fl : Flags) (st : ClassState) (cs : List Char) (st' : ClassState) (rest : List Char) : Prop :=
  ∃ c x, cs = c :: (x ++ rest) ∧ ∀ rest' fuel, Inside rest rest' →
    classRest fl (fuel + 1) st.1 st.2 (c :: (x ++ rest')) = classRest fl fuel st'.1 st'.2 rest'

/-- The reader of a class is done with the next bracket, whatever comes after it. -/
def ClassEnd (fl : Flags) (st : ClassState) (cs : List Char) (s : NestedSet) (rest : List Char) : Prop :=
  cs = ']' :: rest ∧ ∀ rest' fuel, classRest fl (fuel + 1) st.1 st.2 (']' :: rest') = some (s, rest')

section

variable {items : Items} {frames : List ClassFrame} {s : NestedSet} {cs : List Char} {fuel : Nat}

theorem classRest_nil (hfl : fl.spaced = false) : classRest fl fuel items frames [] = none := by
  cases fuel with
  | zero => rfl
  | succ fuel => rw [classRest, fl.skip_eq hfl]

theorem ne_nil_of_classRest (hfl : fl.spaced = false) {r : NestedSet × List Char}
    (h : classRest fl fuel items frames cs = some r) : cs ≠ [] := by
  rintro rfl
  rw [classRest_nil hfl] at h
  cases h

/-- A bracket opens a class with a name. -/
theorem classStep_name (hfl : fl.spaced = false) {chars : CharSet} (h : posixClass? fl cs = some (chars, rest)) :
    ClassStep fl (items, frames) ('[' :: cs) (⟨chars, 0⟩ :: items, frames) rest := by
  obtain ⟨x, -, rfl, hx⟩ := posixClass?_local h
  refine ⟨'[', x ++ [']'], by simp, fun rest' fuel _ => ?_⟩
  rw [List.append_assoc, List.singleton_append, classRest, fl.skip_eq hfl]
  simp only [hx]

/-- A bracket opens a class without a name. -/
theorem classStep_open (hfl : fl.spaced = false) {negated : Bool} {inner : Items} (hnone : posixClass? fl cs = none)
    (h : openClass fl cs = (negated, inner, rest)) (hne : rest ≠ []) :
    ClassStep fl (items, frames) ('[' :: cs) (inner, .bracket items negated :: frames) rest := by
  obtain ⟨x, rfl, hx⟩ := openClass_local hfl h hne
  refine ⟨'[', x, rfl, fun rest' fuel hrest => ?_⟩
  have hnone' : posixClass? fl (x ++ rest') = none := by
    obtain ⟨y, r, r', rfl, rfl⟩ := hrest
    rw [← List.append_assoc] at hnone ⊢
    exact posixClass?_eq_none hnone
  rw [classRest, fl.skip_eq hfl]
  simp only [hnone', hx rest' hrest]

/-- A bracket closes a class, which is the whole one or a part of another. -/
theorem classStep_close (hfl : fl.spaced = false)
    (h : classRest fl (fuel + 1) items frames (']' :: cs) = some (s, rest)) :
    ClassEnd fl (items, frames) (']' :: cs) s rest ∨
      ∃ st' : ClassState, ClassStep fl (items, frames) (']' :: cs) st' cs ∧
        classRest fl fuel st'.1 st'.2 cs = some (s, rest) := by
  rw [classRest, fl.skip_eq hfl] at h
  simp only at h
  split at h
  next whole outer negated frames' hclose =>
    obtain ⟨chars, hchars, h⟩ := Option.bind_eq_some_iff.1 h
    split at h
    next hempty =>
      cases h
      refine .inl ⟨rfl, fun rest' fuel' => ?_⟩
      rw [classRest, fl.skip_eq hfl]
      simp only [hclose, hchars, Option.bind_eq_bind, Option.bind_some, if_pos hempty]
    next hempty =>
      refine .inr ⟨(_, _), ⟨']', [], rfl, fun rest' fuel' _ => ?_⟩, h⟩
      rw [List.nil_append, classRest, fl.skip_eq hfl]
      simp only [hclose, hchars, Option.bind_eq_bind, Option.bind_some, if_neg hempty]
  next => cases h

/-- A round that starts with no bracket reads an operator or an item. -/
theorem classRest_cons (hfl : fl.spaced = false) {c : Char} (hopen : c ≠ '[') (hclose : c ≠ ']') :
    classRest fl (fuel + 1) items frames (c :: cs) = match SetOp.read? (c :: cs) with
      | some (op, rest) =>
        classRest fl fuel []
          (.operator op (closeOperand fl items frames).1 :: (closeOperand fl items frames).2) rest
      | none => (classItem fl (c :: cs)).bind fun (chars, rest) =>
        classRest fl fuel (⟨chars, 0⟩ :: items) frames rest := by
  rw [classRest, fl.skip_eq hfl]
  split
  next h => cases h
  next h => exact absurd (List.cons.inj h).1 hopen
  next h => exact absurd (List.cons.inj h).1 hclose
  next => rfl

theorem classStep_operator (hfl : fl.spaced = false) {op : SetOp} (h : SetOp.read? cs = some (op, rest)) :
    ClassStep fl (items, frames) cs
      ([], .operator op (closeOperand fl items frames).1 :: (closeOperand fl items frames).2) rest := by
  obtain ⟨c, ⟨hopen, hclose⟩, rfl, hlocal⟩ := SetOp.exists_of_read? h
  refine ⟨c, [c], rfl, fun rest' fuel _ => ?_⟩
  rw [classRest_cons hfl hopen hclose, List.singleton_append, hlocal]

theorem classStep_item (hfl : fl.spaced = false) {c : Char} {chars : CharSet} (hopen : c ≠ '[') (hclose : c ≠ ']')
    (hop : SetOp.read? (c :: cs) = none) (h : classItem fl (c :: cs) = some (chars, rest)) :
    ClassStep fl (items, frames) (c :: cs) (⟨chars, 0⟩ :: items, frames) rest := by
  obtain ⟨d, x, hx, hlocal⟩ := classItem_local hfl h
  obtain ⟨rfl, rfl⟩ := List.cons.inj hx
  refine ⟨c, x, rfl, fun rest' fuel hrest => ?_⟩
  have hop' := SetOp.read?_eq_none (hrest.append (c :: x)) hop
  rw [List.cons_append] at hop'
  rw [classRest_cons hfl hopen hclose, hop']
  simp only [hlocal rest' hrest, Option.bind_some]

/-- Each round of the reader of a class ends the class or is a step. -/
theorem classRest_succ (hfl : fl.spaced = false) (h : classRest fl (fuel + 1) items frames cs = some (s, rest)) :
    ClassEnd fl (items, frames) cs s rest ∨ ∃ (st' : ClassState) (cs' : List Char),
      ClassStep fl (items, frames) cs st' cs' ∧ classRest fl fuel st'.1 st'.2 cs' = some (s, rest) := by
  obtain ⟨c, cs, rfl⟩ := List.exists_cons_of_ne_nil (ne_nil_of_classRest hfl h)
  by_cases hopen : c = '['
  · subst hopen
    rw [classRest, fl.skip_eq hfl] at h
    simp only at h
    split at h
    next hname => exact .inr ⟨(_, _), _, classStep_name hfl hname, h⟩
    next hnone => exact .inr ⟨(_, _), _, classStep_open hfl hnone rfl (ne_nil_of_classRest hfl h), h⟩
  by_cases hclose : c = ']'
  · subst hclose
    exact (classStep_close hfl h).imp_right fun ⟨st', hstep, hrest⟩ => ⟨st', cs, hstep, hrest⟩
  · rw [classRest_cons hfl hopen hclose] at h
    split at h
    next hop => exact .inr ⟨(_, _), _, classStep_operator hfl hop, h⟩
    next hop =>
      obtain ⟨⟨chars, r⟩, hitem, h⟩ := Option.bind_eq_some_iff.1 h
      exact .inr ⟨(_, _), _, classStep_item hfl hopen hclose hop hitem, h⟩

end

/-- The rest of a class is read the same whatever comes after it, in as many rounds as it has characters. -/
theorem classRest_local (hfl : fl.spaced = false) {s : NestedSet} : ∀ {fuel : Nat} {items : Items}
    {frames : List ClassFrame} {cs : List Char}, classRest fl fuel items frames cs = some (s, rest) →
      ∃ x, cs = x ++ ']' :: rest ∧ ∀ rest' fuel', x.length < fuel' →
        classRest fl fuel' items frames (x ++ ']' :: rest') = some (s, rest')
  | 0, _, _, _, h => by cases h
  | fuel + 1, items, frames, cs, h => by
    rcases classRest_succ hfl h with ⟨rfl, hend⟩ | ⟨st', cs', ⟨c, x, rfl, hstep⟩, hrest⟩
    · refine ⟨[], rfl, ?_⟩
      rintro rest' (_ | fuel') hfuel
      · cases hfuel
      · exact hend rest' fuel'
    · obtain ⟨y, rfl, hy⟩ := classRest_local hfl hrest
      refine ⟨c :: (x ++ y), by simp, ?_⟩
      rintro rest' (_ | fuel') hfuel
      · cases hfuel
      · rw [List.cons_append, List.append_assoc, hstep _ fuel' ⟨y, rest, rest', rfl, rfl⟩]
        exact hy rest' fuel' (by simp at hfuel; omega)

theorem readClass_local (hfl : fl.spaced = false) : Local S (readClass fl) := by
  intro cs s rest h
  unfold readClass at h
  cases hopen : openClass fl cs with
  | mk negated inner =>
    obtain ⟨items, r⟩ := inner
    rw [hopen] at h
    obtain ⟨x, rfl, hx⟩ := classRest_local hfl h
    obtain ⟨y, rfl, hy⟩ := openClass_local hfl hopen (by simp)
    refine ⟨y ++ (x ++ [']']), by simp, fun rest' _ => ?_⟩
    rw [List.append_assoc, List.append_assoc, List.singleton_append, readClass, hy _ ⟨x, _, _, rfl, rfl⟩]
    exact hx rest' _ (by rw [List.length_append]; omega)

end TemporalTagger.Regex
