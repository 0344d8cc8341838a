/-
Templates with calls inside of calls. Such a template is written from a tree, and every opening parenthesis in it stands
right after the label of its own call. This lasts through the rounds of evaluation, as no value has parentheses: each
round replaces the calls of the next height and passes over everything else. Main fact: `expand_write`.
-/
import TemporalTagger.Proofs.Calls

namespace TemporalTagger

open Text

/-- A table that gives texts without parentheses. -/
def Normalization.Flat (t : Normalization) : Prop :=
  ∀ function surface value, t.lookup function surface = some value → Template.Flat value.toList

namespace Template

/-! ## Trees -/

/-- A template as a tree: characters, references to groups, and calls whose arguments are templates again, each with
what follows it. -/
inductive Tree
  | nil
  | char (c : Char) (rest : Tree)
  | group (digits : List Char) (rest : Tree)
  | call (f : Function) (argument rest : Tree)

namespace Tree

def write : Tree → List Char
  | nil => []
  | char c rest => c :: rest.write
  | group digits rest => groupWord ++ '(' :: (digits ++ ')' :: rest.write)
  | call f argument rest => '%' :: (f.label ++ '(' :: (argument.write ++ ')' :: rest.write))

/-- How deep the calls nest. -/
def height : Tree → Nat
  | nil => 0
  | char _ rest | group _ rest => rest.height
  | call _ argument rest => max (argument.height + 1) rest.height

/-- The value of a tree from the bottom up: a call is applied to the value of its argument. -/
def value (t : Normalization) (capture : Nat → Option String) : Tree → List Char
  | nil => []
  | char c rest => c :: rest.value t capture
  | group digits rest => captured capture digits ++ rest.value t capture
  | call f argument rest => Call.value t ⟨f, argument.value t capture⟩ ++ rest.value t capture

/-- The text of a tree of which the calls up to a height have their values. The calls above it are written out around
their arguments. -/
def evalTo (t : Normalization) (capture : Nat → Option String) (n : Nat) : Tree → List Char
  | nil => []
  | char c rest => c :: rest.evalTo t capture n
  | group digits rest => captured capture digits ++ rest.evalTo t capture n
  | call f argument rest =>
    if argument.height < n then Call.value t ⟨f, argument.evalTo t capture n⟩ ++ rest.evalTo t capture n
    else '%' :: (f.label ++ '(' :: (argument.evalTo t capture n ++ ')' :: rest.evalTo t capture n))

def WellFormed : Tree → Prop
  | nil => True
  | char c rest => isParenthesis c = false ∧ rest.WellFormed
  | group digits rest => (digits ≠ [] ∧ ∀ c ∈ digits, c.isDigit = true) ∧ rest.WellFormed
  | call f argument rest => f.Named ∧ argument.WellFormed ∧ rest.WellFormed

instance decidableWellFormed : DecidablePred WellFormed
  | nil => inferInstanceAs (Decidable True)
  | char _ rest =>
    have := decidableWellFormed rest
    inferInstanceAs (Decidable (_ ∧ _))
  | group digits rest =>
    have : Decidable (∀ c ∈ digits, c.isDigit = true) := List.decidableBAll _ _
    have := decidableWellFormed rest
    inferInstanceAs (Decidable ((_ ∧ _) ∧ _))
  | call _ argument rest =>
    have := decidableWellFormed argument
    have := decidableWellFormed rest
    inferInstanceAs (Decidable (_ ∧ _ ∧ _))

/-- No call is written so that its label and its argument end in a reference, as in a function `normgroup` of the
argument 1. -/
def Clear : Tree → Prop
  | nil => True
  | char _ rest | group _ rest => rest.Clear
  | call f argument rest =>
    ¬ (groupWord <:+ f.label ∧ argument.write ≠ [] ∧ ∀ c ∈ argument.write, c.isDigit = true) ∧
      argument.Clear ∧ rest.Clear

instance decidableClear : DecidablePred Clear
  | nil => inferInstanceAs (Decidable True)
  | char _ rest | group _ rest => decidableClear rest
  | call _ argument rest =>
    have : Decidable (∀ c ∈ argument.write, c.isDigit = true) := List.decidableBAll _ _
    have := decidableClear argument
    have := decidableClear rest
    inferInstanceAs (Decidable (_ ∧ _ ∧ _))

variable {t : Normalization} {capture : Nat → Option String} {n : Nat} {e : Tree}

/-- Up to the height of the tree there is nothing that keeps its call. -/
theorem evalTo_eq_value : ∀ {e : Tree}, e.height ≤ n → e.evalTo t capture n = e.value t capture
  | nil, _ => rfl
  | char c rest, h => congrArg (c :: ·) (@evalTo_eq_value rest h)
  | group digits rest, h => congrArg (captured capture digits ++ ·) (@evalTo_eq_value rest h)
  | call f argument rest, h => by
    obtain ⟨hargument, hrest⟩ := max_le_iff.1 h
    rw [evalTo, if_pos (Nat.lt_of_succ_le hargument), evalTo_eq_value (Nat.le_of_succ_le hargument),
      evalTo_eq_value hrest]
    rfl

end Tree

/-! ## Texts without parentheses -/

section

variable {a b : List Char}

theorem flat_iff : Flat a ↔ ∀ p, p = '(' ∨ p = ')' → p ∉ a := by
  constructor
  · rintro h p (rfl | rfl) hp <;> cases h _ hp
  · intro h c hc
    refine Bool.eq_false_iff.2 fun hparen => h c ?_ hc
    simpa [isParenthesis] using hparen

theorem Flat.append (ha : Flat a) (hb : Flat b) : Flat (a ++ b) := List.forall_mem_append.2 ⟨ha, hb⟩

theorem Flat.not_mem (ha : Flat a) : '(' ∉ a := flat_iff.1 ha _ (.inl rfl)

theorem Function.Named.flat {f : Function} (hf : f.Named) : Flat f.label := flat_iff.2 fun _ => hf.not_mem_label

theorem flat_captured {capture : Nat → Option String} (hcapture : ∀ n text, capture n = some text → Flat text.toList)
    (digits : List Char) : Flat (captured capture digits) := by
  unfold captured
  split
  next text htext =>
    obtain ⟨n, -, hn⟩ := Option.bind_eq_some_iff.1 htext
    intro c hc
    rcases mem_of_mem_collapse false hc with rfl | hc
    · rfl
    · exact hcapture n text hn c hc
  next => exact List.forall_mem_nil _

theorem flat_value {t : Normalization} (ht : t.Flat) {c : Call} (hc : Flat c.argument) : Flat (c.value t) :=
  flat_iff.2 fun p hp => not_mem_value hp
    (fun _ _ _ hlookup => flat_iff.1 (ht _ _ _ hlookup) p hp) (flat_iff.1 hc p hp)

end

/-! ## Before the first opening parenthesis -/

/-- The text before the first opening parenthesis. -/
def lead (cs : List Char) : List Char := cs.takeWhile (· != '(')

theorem lead_append {cs : List Char} (h : '(' ∉ cs) (rest : List Char) : lead (cs ++ rest) = cs ++ lead rest :=
  List.takeWhile_append_of_pos fun _ hc => bne_iff_ne.2 fun heq => h (heq ▸ hc)

theorem lead_append_cons {cs : List Char} (h : '(' ∉ cs) (rest : List Char) : lead (cs ++ '(' :: rest) = cs := by
  rw [lead_append h]
  exact List.append_nil cs

/-- No label goes on with a percent sign and a label. -/
theorem not_suffix_label {f g : Function} (hf : f.Named) (hg : g.Named) : ¬ '%' :: f.label <:+ g.label := by
  have hne : f.label ≠ [] := by
    cases f with
    | norm name =>
      obtain ⟨⟨rest, hname⟩, -⟩ := hf
      rw [Function.label_norm, ← hname]
      exact List.cons_ne_nil _ _
    | upper | lower | sum | substring => decide
  have hlast : ∀ g ∈ [Function.upper, .lower, .sum, .substring], '%' ∉ g.label.dropLast := by decide
  have hmem : ∀ {a : List Char}, '%' :: f.label <:+ a → '%' ∈ a.dropLast := by
    rintro a ⟨x, rfl⟩
    rw [List.dropLast_append_of_ne_nil (List.cons_ne_nil _ _), List.dropLast_cons_of_ne_nil hne]
    exact List.mem_append_right _ List.mem_cons_self
  intro h
  cases g with
  | norm name =>
    exact absurd (hg.2 _ (List.mem_of_mem_dropLast (hmem h))) (by decide)
  | upper | lower | sum | substring => exact hlast _ (by simp) (hmem h)

/-- What stands before the first opening parenthesis ends in one of certain texts. -/
def Guarded (ends : List Char → Prop) (cs : List Char) : Prop := '(' ∈ cs → ∃ a, ends a ∧ a <:+ lead cs

variable {ends : List Char → Prop}

theorem guarded_of_not_mem {cs : List Char} (h : '(' ∉ cs) : Guarded ends cs := fun hmem => absurd hmem h

theorem Guarded.append {cs rest : List Char} (hrest : Guarded ends rest) (h : '(' ∉ cs) :
    Guarded ends (cs ++ rest) := by
  intro hmem
  obtain ⟨a, ha, hsuffix⟩ := hrest ((List.mem_append.1 hmem).resolve_left h)
  rw [lead_append h]
  exact ⟨a, ha, hsuffix.trans (List.suffix_append _ _)⟩

theorem Guarded.cons {c : Char} {rest : List Char} (hrest : Guarded ends rest) (hc : isParenthesis c = false) :
    Guarded ends (c :: rest) := @append _ [c] rest hrest (Flat.not_mem (List.forall_mem_singleton.2 hc))

theorem guarded_opening {cs : List Char} (hcs : ends cs) (h : '(' ∉ cs) (rest : List Char) :
    Guarded ends (cs ++ '(' :: rest) := by
  intro _
  rw [lead_append_cons h]
  exact ⟨cs, hcs, List.suffix_refl _⟩

/-- A scan passes over a text without opening parentheses if nothing is found before a guarded text. -/
theorem render_scan_append {α : Type} {recognise : Recogniser α} {replace : α → List Char}
    (hnone : ∀ c cs, Guarded ends cs → recognise (c :: cs) = none) {cs rest : List Char} (hcs : '(' ∉ cs)
    (hrest : Guarded ends rest) :
    render replace (scan recognise (cs ++ rest)) = cs ++ render replace (scan recognise rest) := by
  rw [scan_append, render_append, render_map_char]
  rintro (_ | ⟨c, u⟩) hne hu
  · exact absurd rfl hne
  · exact hnone c _ (hrest.append fun hmem => hcs (hu.subset (List.mem_cons_of_mem c hmem)))

/-! ## One round -/

/-- The beginnings of calls. -/
def IsCallee (cs : List Char) : Prop := ∃ f : Function, f.Named ∧ cs = '%' :: f.label

/-- No call begins with a character if no label ends at the first opening parenthesis after it. -/
theorem call?_eq_none {c : Char} {cs : List Char} (h : '(' ∈ cs → ¬ IsCallee (c :: lead cs)) :
    call? (c :: cs) = none := by
  refine Option.eq_none_iff_forall_ne_some.2 fun p hp => ?_
  obtain ⟨rest, hcs, -, hnamed, -⟩ := exists_of_call? hp
  obtain ⟨rfl, rfl⟩ := List.cons.inj hcs
  refine h (List.mem_append_right _ List.mem_cons_self) ⟨_, hnamed, ?_⟩
  rw [lead_append_cons hnamed.flat.not_mem]

theorem call?_eq_none_of_guarded (c : Char) (cs : List Char) (h : Guarded IsCallee cs) : call? (c :: cs) = none := by
  refine call?_eq_none ?_
  rintro hmem ⟨g, hg, heq⟩
  obtain ⟨_, ⟨f, hf, rfl⟩, hsuffix⟩ := h hmem
  rw [(List.cons.inj heq).2] at hsuffix
  exact not_suffix_label hf hg hsuffix

/-- A text with an opening parenthesis, and no closing one before it. -/
def Opens (cs : List Char) : Prop := ∃ a b, Flat a ∧ cs = a ++ '(' :: b

theorem Opens.append {a cs : List Char} (ha : Flat a) (hcs : Opens cs) : Opens (a ++ cs) := by
  obtain ⟨x, y, hx, rfl⟩ := hcs
  exact ⟨a ++ x, y, ha.append hx, (List.append_assoc _ _ _).symm⟩

/-- A scan for calls passes over the label and the opening parenthesis of a call with a call in its argument. -/
theorem render_scan_label {replace : Call → List Char} {f : Function} (hf : f.Named) {inner : List Char}
    (hinner : Opens inner) (rest : List Char) :
    render replace (scan call? ('%' :: (f.label ++ '(' :: (inner ++ rest)))) =
      '%' :: (f.label ++ '(' :: render replace (scan call? (inner ++ rest))) := by
  obtain ⟨a, b, ha, rfl⟩ := hinner
  have hfirst : call? ('%' :: (f.label ++ '(' :: ((a ++ '(' :: b) ++ rest))) = none := by
    refine Option.eq_none_iff_forall_ne_some.2 fun p hp => ?_
    obtain ⟨after, hcs, -, hnamed, hargument⟩ := exists_of_call? hp
    -- the argument of the call would end where that of the inner call begins
    have hlabel := congrArg lead (List.cons.inj hcs).2
    rw [lead_append_cons hf.flat.not_mem, lead_append_cons hnamed.flat.not_mem] at hlabel
    rw [hlabel, List.cons_inj_right, List.append_cancel_left_eq, List.cons_inj_right, List.append_assoc,
      List.cons_append] at hcs
    have hends := congrArg (List.takeWhile (!isParenthesis ·)) hcs
    rw [takeWhile_argument ha rfl, takeWhile_argument hargument rfl] at hends
    rw [hends, List.append_cancel_left_eq] at hcs
    exact absurd (List.cons.inj hcs).1 (by decide)
  have hlabel : ∀ u, u ≠ [] → u <:+ f.label → call? (u ++ '(' :: ((a ++ '(' :: b) ++ rest)) = none := by
    intro u hne hu
    obtain ⟨c, u, rfl⟩ := List.exists_cons_of_ne_nil hne
    have hu' : '(' ∉ u := fun hmem => hf.flat.not_mem (hu.subset (List.mem_cons_of_mem c hmem))
    rw [List.cons_append]
    refine call?_eq_none ?_
    rintro - ⟨g, hg, heq⟩
    rw [lead_append_cons hu'] at heq
    exact not_suffix_label hg hf (heq ▸ hu)
  rw [scan_char hfirst, render_char, scan_append hlabel, render_append, render_map_char,
    scan_char (call?_of_ne (by decide) _), render_char]

namespace Tree

variable {t : Normalization} {capture : Nat → Option String} {e : Tree}

section

variable (hcapture : ∀ n text, capture n = some text → Flat text.toList) (ht : t.Flat)

include hcapture ht

theorem flat_evalTo {n : Nat} : ∀ {e : Tree}, e.WellFormed → e.height ≤ n → Flat (e.evalTo t capture n)
  | nil, _, _ => List.forall_mem_nil _
  | char _ _, he, h => List.forall_mem_cons.2 ⟨he.1, flat_evalTo he.2 h⟩
  | group digits _, he, h => (flat_captured hcapture digits).append (flat_evalTo he.2 h)
  | call _ _ _, he, h => by
    obtain ⟨hargument, hrest⟩ := max_le_iff.1 h
    rw [evalTo, if_pos (Nat.lt_of_succ_le hargument)]
    exact (flat_value ht (flat_evalTo he.2.1 (Nat.le_of_succ_le hargument))).append (flat_evalTo he.2.2 hrest)

/-- The text of a higher tree still has a call. -/
theorem opens_evalTo {n : Nat} : ∀ {e : Tree}, e.WellFormed → n < e.height → Opens (e.evalTo t capture n)
  | nil, _, h => absurd h (Nat.not_lt_zero n)
  | char _ _, he, h => Opens.append (List.forall_mem_singleton.2 he.1) (opens_evalTo he.2 h)
  | group digits _, he, h => (opens_evalTo he.2 h).append (flat_captured hcapture digits)
  | call f argument rest, he, h => by
    rw [evalTo]
    split
    next hlt =>
      have hrest : n < rest.height := (lt_max_iff.1 h).resolve_left (by omega)
      exact (opens_evalTo he.2.2 hrest).append (flat_value ht (flat_evalTo hcapture ht he.2.1 hlt.le))
    next => exact ⟨'%' :: f.label, _, List.forall_mem_cons.2 ⟨rfl, he.1.flat⟩, rfl⟩

/-- What stands before the first opening parenthesis of a tree, or after it, ends in the label of a call. -/
theorem guarded_evalTo {n : Nat} {after : List Char} (hafter : Guarded IsCallee after) : ∀ {e : Tree}, e.WellFormed →
    Guarded IsCallee (e.evalTo t capture n ++ after)
  | nil, _ => hafter
  | char _ _, he => (guarded_evalTo hafter he.2).cons he.1
  | group digits _, he => by
    rw [evalTo, List.append_assoc]
    exact (guarded_evalTo hafter he.2).append (flat_captured hcapture digits).not_mem
  | call f argument rest, he => by
    rw [evalTo]
    split
    next hlt =>
      have hvalue := flat_value ht (c := ⟨f, _⟩) (flat_evalTo hcapture ht he.2.1 hlt.le)
      rw [List.append_assoc]
      exact (guarded_evalTo hafter he.2.2).append hvalue.not_mem
    next =>
      rw [show '%' :: (f.label ++ '(' :: (argument.evalTo t capture n ++ ')' :: rest.evalTo t capture n)) ++ after =
        ('%' :: f.label) ++ '(' :: (argument.evalTo t capture n ++ ')' :: (rest.evalTo t capture n ++ after)) by simp]
      exact guarded_opening ⟨f, he.1, rfl⟩ (Flat.not_mem (List.forall_mem_cons.2 ⟨rfl, he.1.flat⟩)) _

/-- A round evaluates the calls of the next height, and no others. -/
theorem render_scan_evalTo {n : Nat} : ∀ {e : Tree}, e.WellFormed → ∀ {after : List Char}, Guarded IsCallee after →
    render (Call.value t) (scan call? (e.evalTo t capture n ++ after)) =
      e.evalTo t capture (n + 1) ++ render (Call.value t) (scan call? after)
  | nil, _, _, _ => rfl
  | char c rest, he, after, hafter => by
    have hguarded := guarded_evalTo hcapture ht (n := n) hafter he.2
    rw [evalTo, List.cons_append, scan_char (call?_eq_none_of_guarded c _ hguarded), render_char,
      render_scan_evalTo he.2 hafter]
    rfl
  | group digits rest, he, after, hafter => by
    have hguarded := guarded_evalTo hcapture ht (n := n) hafter he.2
    rw [evalTo, List.append_assoc, render_scan_append call?_eq_none_of_guarded
      (flat_captured hcapture digits).not_mem hguarded, render_scan_evalTo he.2 hafter, ← List.append_assoc]
    rfl
  | call f argument rest, ⟨hf, hargument, hrest⟩, after, hafter => by
    have hguarded := guarded_evalTo hcapture ht (n := n) hafter hrest
    rw [evalTo, evalTo]
    rcases Nat.lt_trichotomy argument.height n with hlt | rfl | hlt
    case inl =>
      -- evaluated before
      have hvalue := flat_value ht (c := ⟨f, _⟩) (flat_evalTo hcapture ht hargument hlt.le)
      rw [if_pos hlt, if_pos (Nat.lt_succ_of_lt hlt), List.append_assoc,
        render_scan_append call?_eq_none_of_guarded hvalue.not_mem hguarded, render_scan_evalTo hrest hafter,
        evalTo_eq_value hlt.le, evalTo_eq_value (Nat.le_succ_of_le hlt.le), List.append_assoc]
    case inr.inl =>
      have hflat := flat_evalTo hcapture ht hargument le_rfl
      rw [if_neg (Nat.lt_irrefl _), if_pos (Nat.lt_succ_self _), List.cons_append, List.append_assoc,
        List.cons_append, List.append_assoc, List.cons_append,
        scan_call hf.function?_label hflat, render_found, render_scan_evalTo hrest hafter,
        evalTo_eq_value le_rfl, evalTo_eq_value (Nat.le_succ _), List.append_assoc]
    case inr.inr =>
      have hinner : Guarded IsCallee (')' :: (rest.evalTo t capture n ++ after)) :=
        @Guarded.append _ [')'] _ hguarded (by decide)
      rw [if_neg hlt.not_gt, if_neg (by omega), List.cons_append, List.append_assoc, List.cons_append,
        List.append_assoc, List.cons_append, render_scan_label hf (opens_evalTo hcapture ht hargument hlt),
        render_scan_evalTo hargument hinner, scan_char (call?_of_ne (by decide) _), render_char,
        render_scan_evalTo hrest hafter]
      simp only [List.cons_append, List.append_assoc]

end

end Tree

/-! ## References -/

/-- What stands before the opening parentheses of a template. -/
def IsHead (cs : List Char) : Prop := cs = groupWord ∨ IsCallee cs

theorem not_mem_of_isHead {cs : List Char} (h : IsHead cs) : '(' ∉ cs := by
  rcases h with rfl | ⟨f, hf, rfl⟩
  · decide
  · exact Flat.not_mem (List.forall_mem_cons.2 ⟨rfl, hf.flat⟩)

theorem lead_of_groupReference? {cs digits : List Char} {n : Nat} (h : groupReference? cs = some (digits, n)) :
    lead cs = groupWord ∧ '(' ∈ cs := by
  obtain ⟨-, -, rest, rfl⟩ := groupReference?_eq_some_iff.1 h
  exact ⟨lead_append_cons (by decide) _, List.mem_append_right _ List.mem_cons_self⟩

theorem groupReference?_eq_none (c : Char) (cs : List Char) (h : Guarded IsHead cs) :
    groupReference? (c :: cs) = none := by
  refine Option.eq_none_iff_forall_ne_some.2 fun ⟨digits, n⟩ hread => ?_
  obtain ⟨-, -, rest, hcs⟩ := groupReference?_eq_some_iff.1 hread
  obtain ⟨rfl, rfl⟩ := List.cons.inj hcs
  have hlead : lead (['r', 'o', 'u', 'p'] ++ '(' :: (digits ++ ')' :: rest)) = ['r', 'o', 'u', 'p'] :=
    lead_append_cons (by decide) _
  obtain ⟨a, ha, hsuffix⟩ := h (List.mem_append_right ['r', 'o', 'u', 'p'] List.mem_cons_self)
  -- the head would end where the word that begins with the character does
  replace hsuffix : a <:+ ['r', 'o', 'u', 'p'] := hlead ▸ hsuffix
  rcases ha with rfl | ⟨f, -, rfl⟩
  · exact absurd hsuffix.length_le (by decide)
  · exact absurd (hsuffix.subset List.mem_cons_self) (by decide)

namespace Tree

variable {t : Normalization} {capture : Nat → Option String}

theorem flat_or_opens_write : ∀ {e : Tree}, e.WellFormed → Flat e.write ∨ Opens e.write
  | nil, _ => .inl (List.forall_mem_nil _)
  | char _ _, he => (flat_or_opens_write he.2).imp (fun h => List.forall_mem_cons.2 ⟨he.1, h⟩)
      (Opens.append (List.forall_mem_singleton.2 he.1))
  | group digits rest, _ => .inr ⟨groupWord, digits ++ ')' :: rest.write, by decide, rfl⟩
  | call f argument rest, he =>
    .inr ⟨'%' :: f.label, argument.write ++ ')' :: rest.write, List.forall_mem_cons.2 ⟨rfl, he.1.flat⟩, rfl⟩

theorem guarded_write {after : List Char} (hafter : Guarded IsHead after) : ∀ {e : Tree}, e.WellFormed →
    Guarded IsHead (e.write ++ after)
  | nil, _ => hafter
  | char c _, he => (guarded_write hafter he.2).cons he.1
  | group digits rest, _ => by
    rw [write, List.append_assoc]
    exact guarded_opening (Or.inl rfl : IsHead groupWord) (by decide) _
  | call f argument rest, he => by
    have hhead : IsHead ('%' :: f.label) := .inr ⟨f, he.1, rfl⟩
    rw [write, ← List.cons_append, List.append_assoc]
    exact guarded_opening hhead (not_mem_of_isHead hhead) _

/-- In a clear tree no reference is found in a label. -/
theorem groupReference?_label {f : Function} {argument : Tree} (hf : f.Named) (hargument : argument.WellFormed)
    (hclear : ¬ (groupWord <:+ f.label ∧ argument.write ≠ [] ∧ ∀ c ∈ argument.write, c.isDigit = true))
    (after : List Char) {u : List Char} (hu : u <:+ f.label) :
    groupReference? (u ++ '(' :: (argument.write ++ ')' :: after)) = none := by
  refine Option.eq_none_iff_forall_ne_some.2 fun ⟨digits, n⟩ hread => ?_
  have hlead := (lead_of_groupReference? hread).1
  rw [lead_append_cons fun hmem => hf.flat.not_mem (hu.subset hmem)] at hlead
  obtain ⟨⟨hne, hdigits⟩, -, rest, hrest⟩ := groupReference?_eq_some_iff.1 hread
  rw [hlead, List.append_cancel_left_eq, List.cons_inj_right] at hrest
  have hflat : Flat digits := fun c hc => by
    refine Bool.eq_false_iff.2 fun hparen => ?_
    have hdigit := hdigits c hc
    simp only [isParenthesis, Bool.or_eq_true, decide_eq_true_eq] at hparen
    rcases hparen with rfl | rfl <;> cases hdigit
  have htake := congrArg (List.takeWhile (!isParenthesis ·)) hrest
  rw [takeWhile_argument hflat rfl] at htake
  rcases flat_or_opens_write hargument with hwrite | ⟨a, b, ha, hwrite⟩
  · rw [takeWhile_argument hwrite rfl] at htake
    rw [htake] at hclear
    exact hclear ⟨hlead ▸ hu, hne, hdigits⟩
  · -- the argument would have to be closed where a parenthesis is opened
    rw [hwrite, List.append_assoc, List.cons_append] at htake hrest
    rw [takeWhile_argument ha rfl] at htake
    rw [htake, List.append_cancel_left_eq] at hrest
    exact absurd (List.cons.inj hrest).1 (by decide)

/-- Replacing the references of a clear tree leaves all of its calls. -/
theorem render_scan_write : ∀ {e : Tree}, e.WellFormed → e.Clear → ∀ {after : List Char}, Guarded IsHead after →
    render (captured capture) (scan groupReference? (e.write ++ after)) =
      e.evalTo t capture 0 ++ render (captured capture) (scan groupReference? after)
  | nil, _, _, _, _ => rfl
  | char c rest, he, hclear, after, hafter => by
    have hguarded := guarded_write hafter he.2
    rw [write, List.cons_append, scan_char (groupReference?_eq_none c _ hguarded), render_char,
      render_scan_write he.2 hclear hafter]
    rfl
  | group digits rest, he, hclear, after, hafter => by
    rw [write, List.append_assoc, List.cons_append, List.append_assoc, List.cons_append, scan_group he.1.1 he.1.2,
      render_found, render_scan_write he.2 hclear hafter, ← List.append_assoc]
    rfl
  | call f argument rest, ⟨hf, hargument, hrest⟩, ⟨hclear, hclearArgument, hclearRest⟩, after, hafter => by
    have hguarded := guarded_write hafter hrest
    have hinner : Guarded IsHead (')' :: (rest.write ++ after)) :=
      @Guarded.append _ [')'] _ hguarded (by decide)
    have hpercent : ∀ cs, groupReference? ('%' :: cs) = none := fun cs => rfl
    have hopening : ∀ cs, groupReference? ('(' :: cs) = none := fun cs => rfl
    have hclosing : groupReference? (')' :: (rest.write ++ after)) = none := rfl
    rw [write, evalTo, if_neg (Nat.not_lt_zero _), List.cons_append, List.append_assoc, List.cons_append,
      List.append_assoc, List.cons_append, scan_char (hpercent _), render_char,
      scan_append fun u _ hu => groupReference?_label hf hargument hclear _ hu, render_append, render_map_char,
      scan_char (hopening _), render_char, render_scan_write hargument hclearArgument hinner, scan_char hclosing,
      render_char, render_scan_write hrest hclearRest hafter]
    simp only [List.cons_append, List.append_assoc]

/-! ## All rounds -/

section

variable (hcapture : ∀ n text, capture n = some text → Flat text.toList) (ht : t.Flat)

include hcapture ht

theorem evaluate_evalTo {e : Tree} (he : e.WellFormed) : ∀ m n : Nat,
    evaluate t n (e.evalTo t capture m) = e.evalTo t capture (m + n)
  | _, 0 => rfl
  | m, n + 1 => by
    have hround := render_scan_evalTo hcapture ht (n := m) he (guarded_of_not_mem List.not_mem_nil)
    rw [List.append_nil, show render (Call.value t) (scan call? []) = [] from rfl, List.append_nil] at hround
    rw [evaluate, hround, evaluate_evalTo he (m + 1) n, Nat.add_right_comm, Nat.add_assoc]

/-- A template has the value of its tree if its calls nest no deeper than the limit; of a deeper one the calls up to
the limit are evaluated, and the calls above them stay. This asks that no call is read as a reference. -/
theorem expand_write {e : Tree} (he : e.WellFormed) (hclear : e.Clear) :
    expand (String.ofList e.write) capture t = String.ofList (e.evalTo t capture maxNesting) ∧
      (e.height ≤ maxNesting → expand (String.ofList e.write) capture t = String.ofList (e.value t capture)) := by
  have hfill : fillIn capture e.write = e.evalTo t capture 0 := by
    have hscan : render (captured capture) (scan groupReference? (e.write ++ [])) =
        e.evalTo t capture 0 ++ render (captured capture) (scan groupReference? []) :=
      render_scan_write he hclear (guarded_of_not_mem List.not_mem_nil)
    rwa [List.append_nil, show render (captured capture) (scan groupReference? []) = [] from rfl,
      List.append_nil] at hscan
  have hexpand : expand (String.ofList e.write) capture t = String.ofList (e.evalTo t capture maxNesting) := by
    rw [expand, String.toList_ofList, hfill, evaluate_evalTo hcapture ht he, Nat.zero_add]
  exact ⟨hexpand, fun h => by rw [hexpand, evalTo_eq_value h]⟩

end

/-- Two calls, one in the argument of the other: `%SUM%(group(1),%SUM%(1,2))`. -/
theorem expand_write_sum : expand "%SUM%(group(1),%SUM%(1,2))" (fun _ => some "4") Table.empty = "7" := by
  have hcapture : ∀ (n : Nat) (text : String), some "4" = some text → Flat text.toList := by
    rintro - _ ⟨⟩
    decide
  have ht : Normalization.Flat Table.empty := fun _ _ _ hlookup => by cases hlookup
  have hvalue := (expand_write hcapture ht
    (e := .call .sum (.group ['1'] (.char ',' (.call .sum (.char '1' (.char ',' (.char '2' .nil))) .nil))) .nil)
    (by decide) (by decide)).2 (by decide)
  exact hvalue

/-- A label and an argument that end in a reference are read as one: of `%normgroup(1)` the label loses its end. -/
theorem expand_write_ne_value : ∃ (e : Tree) (capture : Nat → Option String) (t : Normalization),
    e.WellFormed ∧ (∀ n text, capture n = some text → Flat text.toList) ∧ t.Flat ∧ e.height ≤ maxNesting ∧
      expand (String.ofList e.write) capture t ≠ String.ofList (e.value t capture) := by
  refine ⟨.call (.norm "normgroup") (.char '1' .nil) .nil, fun _ => none, Table.empty,
    by decide, ?_, ?_, by decide, by decide⟩
  · rintro - _ ⟨⟩
  · rintro _ _ _ ⟨⟩

end Tree

end Template

end TemporalTagger
