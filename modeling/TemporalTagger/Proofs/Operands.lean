/-
The operands of a sum. Each is an integer as it can be written, and is read exactly if it fits in 64 bits. They are
added up from left to right, and this goes on as long as the running total fits: in every order exactly if what all of
them add and what all of them take away fits, and in some order whenever the last total does. Main facts:
`sumFrom_eq_some_iff`, `forall_perm_runsFrom_iff` and `exists_perm_runsFrom`.
-/
import TemporalTagger.Proofs.Nesting
import TemporalTagger.Proofs.Text.Lines

namespace TemporalTagger

open Text

namespace Template

/-! ## Operands -/

/-- The integers of 64 bits. -/
def IsInt64 (n : Int) : Prop := -2 ^ 63 ≤ n ∧ n < 2 ^ 63

instance : DecidablePred IsInt64 := fun _ => inferInstanceAs (Decidable (_ ∧ _))

theorem fitsSigned_iff {n : Int} : fitsSigned 64 n = true ↔ IsInt64 n := by
  rw [fitsSigned, IsInt64, Bool.and_eq_true, decide_eq_true_eq, decide_eq_true_eq, and_comm]
  rfl

/-- An operand of a sum as it can be written: digits, a sign or none before them, and blanks around them. -/
structure Operand where
  left : List Char
  sign : List Char
  digits : List Char
  right : List Char
  left_isSpace : ∀ c ∈ left, Unicode.isSpace c = true
  right_isSpace : ∀ c ∈ right, Unicode.isSpace c = true
  sign_eq : sign = [] ∨ sign = ['+'] ∨ sign = ['-']
  digits_ne_nil : digits ≠ []
  isDigit : ∀ c ∈ digits, c.isDigit = true

namespace Operand

/-- The operand without the blanks. -/
def visible (op : Operand) : List Char := op.sign ++ op.digits

def text (op : Operand) : List Char := op.left ++ op.visible ++ op.right

/-- The integer that an operand denotes. -/
def value (op : Operand) : Int := if op.sign = ['-'] then -digitsValue op.digits else digitsValue op.digits

theorem trimChars_text (op : Operand) : trimChars op.text = op.visible := by
  have hvisible : ∀ c ∈ op.visible, Unicode.isSpace c = false := by
    intro c hc
    rcases List.mem_append.1 hc with hc | hc
    · have hsigns : Unicode.isSpace '+' = false ∧ Unicode.isSpace '-' = false := by decide +kernel
      rcases op.sign_eq with hsign | hsign | hsign <;> rw [hsign] at hc
      · cases hc
      · exact List.mem_singleton.1 hc ▸ hsigns.1
      · exact List.mem_singleton.1 hc ▸ hsigns.2
    · exact isSpace_of_isDigit (op.isDigit c hc)
  have hne : op.visible ≠ [] := List.append_ne_nil_of_right_ne_nil _ op.digits_ne_nil
  exact trimChars_between op.left_isSpace (List.head?_eq_some_head hne) (hvisible _ (List.head_mem hne))
    (List.getLast?_eq_some_getLast hne) (hvisible _ (List.getLast_mem hne)) op.right_isSpace

/-- An integer in decimal. -/
def ofInt (n : Int) : Operand where
  left := []
  sign := if n < 0 then ['-'] else []
  digits := Nat.toDigits 10 n.natAbs
  right := []
  left_isSpace := List.forall_mem_nil _
  right_isSpace := List.forall_mem_nil _
  sign_eq := by split <;> simp
  digits_ne_nil := Nat.toDigits_ne_nil
  isDigit := fun _ => isDigit_of_mem_toDigits

theorem text_ofInt (n : Int) : (ofInt n).text = (toString n).toList := by
  rw [toList_toString_int, text, ofInt, visible, List.nil_append, List.append_nil]

theorem value_ofInt (n : Int) : (ofInt n).value = n := by
  simp only [value, ofInt, digitsValue_toDigits]
  by_cases hneg : n < 0
  · simp only [hneg, if_true]
    omega
  · simp only [hneg, if_false, List.nil_eq, reduceCtorEq]
    omega

/-- An operand is written with blanks, signs and digits alone. -/
theorem of_mem_text {op : Operand} {c : Char} (h : c ∈ op.text) :
    Unicode.isSpace c = true ∨ c = '+' ∨ c = '-' ∨ c.isDigit = true := by
  rw [text, visible, List.mem_append, List.mem_append, List.mem_append] at h
  rcases h with (h | h | h) | h
  · exact .inl (op.left_isSpace c h)
  · rcases op.sign_eq with hsign | hsign | hsign <;> rw [hsign] at h
    · cases h
    · exact .inr (.inl (List.mem_singleton.1 h))
    · exact .inr (.inr (.inl (List.mem_singleton.1 h)))
  · exact .inr (.inr (.inr (op.isDigit c h)))
  · exact .inl (op.right_isSpace c h)

theorem flat_text (op : Operand) : Flat op.text := by
  refine flat_iff.2 fun p hp hmem => ?_
  have hnot : ¬ (Unicode.isSpace p = true ∨ p = '+' ∨ p = '-' ∨ p.isDigit = true) := by
    rcases hp with rfl | rfl <;> decide +kernel
  exact hnot (of_mem_text hmem)

theorem comma_not_mem_text (op : Operand) : ',' ∉ op.text := fun hmem => by
  have hnot : ¬ (Unicode.isSpace ',' = true ∨ ',' = '+' ∨ ',' = '-' ∨ ','.isDigit = true) := by decide +kernel
  exact hnot (of_mem_text hmem)

theorem forall_mem_map_text (ops : List Operand) : ∀ part ∈ ops.map text, Flat part ∧ ',' ∉ part := by
  simpa using fun op _ => ⟨op.flat_text, op.comma_not_mem_text⟩

end Operand

/-! ## Reading operands -/

theorem exists_of_readDigits? {sign digits : List Char} {n : Nat} (hsign : sign = [] ∨ sign = ['+'] ∨ sign = ['-'])
    (h : readDigits? digits = some n) : ∃ op : Operand, op.visible = sign ++ digits ∧
      op.value = if sign = ['-'] then -(n : Int) else n := by
  obtain ⟨hne, hdigits, rfl⟩ := readDigits?_eq_some_iff.1 h
  exact ⟨⟨[], sign, digits, [], List.forall_mem_nil _, List.forall_mem_nil _, hsign, hne, hdigits⟩, rfl, rfl⟩

theorem Operand.readDigits?_digits (op : Operand) : readDigits? op.digits = some (digitsValue op.digits) :=
  readDigits?_eq_some_iff.2 ⟨op.digits_ne_nil, op.isDigit, rfl⟩

/-- A text is read as a number if it is the visible part of an operand and the number fits. -/
theorem readSigned?_eq_some_iff {cs : List Char} {n : Int} : readSigned? 64 cs = some n ↔
    IsInt64 n ∧ ∃ op : Operand, op.visible = cs ∧ op.value = n := by
  unfold readSigned?
  rw [Option.filter_eq_some_iff, fitsSigned_iff, and_comm]
  refine and_congr_right fun _ => ⟨fun h => ?_, ?_⟩
  · split at h
    all_goals
      obtain ⟨m, hm, rfl⟩ := Option.map_eq_some_iff.1 h
      obtain ⟨k, hread, hk⟩ := Option.bind_eq_some_iff.1 hm
      obtain rfl := Option.some.inj hk
    · exact exists_of_readDigits? (.inr (.inr rfl)) hread
    · exact exists_of_readDigits? (.inr (.inl rfl)) hread
    · exact exists_of_readDigits? (.inl rfl) hread
  · rintro ⟨op, rfl, rfl⟩
    have hread := op.readDigits?_digits
    unfold Operand.visible Operand.value
    rcases op.sign_eq with hsign | hsign | hsign <;> rw [hsign]
    · -- a digit is no sign
      have hfirst : ∀ c rest, [] ++ op.digits = c :: rest → c.isDigit = true := fun c rest h =>
        op.isDigit c (by rw [← List.nil_append op.digits, h]; exact List.mem_cons_self)
      split
      next rest h => cases hfirst _ _ h
      next rest h => cases hfirst _ _ h
      next => rw [List.nil_append, hread]; rfl
    · simp [hread]
    · simp [hread]

/-- A part of a sum is read as a number exactly if it is written as an operand and the number fits. -/
theorem readSigned?_trimChars_eq_some_iff {part : List Char} {n : Int} : readSigned? 64 (trimChars part) = some n ↔
    IsInt64 n ∧ ∃ op : Operand, op.text = part ∧ op.value = n := by
  rw [readSigned?_eq_some_iff]
  refine and_congr_right fun _ => ⟨?_, ?_⟩
  · rintro ⟨op, hvisible, rfl⟩
    obtain ⟨left, right, hpart, hleft, hright⟩ := exists_blanks_around part
    exact ⟨{ op with left := left, right := right, left_isSpace := hleft, right_isSpace := hright },
      by rw [hpart, ← hvisible]; rfl, rfl⟩
  · rintro ⟨op, rfl, rfl⟩
    exact ⟨op, op.trimChars_text.symm, rfl⟩

/-! ## Running totals -/

/-- The exact sum. -/
def total (ops : List Operand) : Int := (ops.map Operand.value).sum

theorem total_cons (op : Operand) (ops : List Operand) : total (op :: ops) = op.value + total ops := List.sum_cons

theorem total_perm {a b : List Operand} (h : a.Perm b) : total a = total b := (h.map _).sum_eq

/-- Every total on the way from a start over the operands fits. -/
def RunsFrom (start : Int) (ops : List Operand) : Prop := ∀ front, front <+: ops → IsInt64 (start + total front)

theorem runsFrom_nil {start : Int} : RunsFrom start [] ↔ IsInt64 start := by
  simp [RunsFrom, total]

theorem RunsFrom.start {start : Int} {ops : List Operand} (h : RunsFrom start ops) : IsInt64 start := by
  simpa [total] using h [] List.nil_prefix

theorem runsFrom_cons {start : Int} {op : Operand} {ops : List Operand} :
    RunsFrom start (op :: ops) ↔ IsInt64 start ∧ RunsFrom (start + op.value) ops := by
  simp only [RunsFrom, List.prefix_cons_iff]
  constructor
  · intro h
    refine ⟨by simpa [total] using h [] (.inl rfl), fun front hfront => ?_⟩
    rw [Int.add_assoc, ← total_cons]
    exact h (op :: front) (.inr ⟨front, rfl, hfront⟩)
  · rintro ⟨hstart, h⟩ front (rfl | ⟨front, rfl, hfront⟩)
    · simpa [total] using hstart
    · rw [total_cons, ← Int.add_assoc]
      exact h front hfront

/-- Adding up operands that fit from left to right gives their total exactly if every total on the way fits. -/
theorem sumFrom_eq_some_iff {ops : List Operand} {start n : Int} (hfits : ∀ op ∈ ops, IsInt64 op.value)
    (hstart : IsInt64 start) :
    sumFrom start (ops.map Operand.text) = some n ↔ RunsFrom start ops ∧ n = start + total ops := by
  induction ops generalizing start with
  | nil =>
    rw [List.map_nil, sumFrom, Option.some.injEq, runsFrom_nil, total, List.map_nil, List.sum_nil, Int.add_zero]
    exact ⟨fun h => ⟨hstart, h.symm⟩, fun h => h.2.symm⟩
  | cons op ops ih =>
    obtain ⟨hfit, hfits⟩ := List.forall_mem_cons.1 hfits
    have hread := readSigned?_trimChars_eq_some_iff.2 ⟨hfit, op, rfl, rfl⟩
    rw [List.map_cons, sumFrom, hread, Option.bind_eq_bind, Option.bind_some, runsFrom_cons, total_cons,
      ← Int.add_assoc]
    by_cases hnext : IsInt64 (start + op.value)
    · rw [if_pos (fitsSigned_iff.2 hnext), ih hfits hnext]
      exact ⟨fun h => ⟨⟨hstart, h.1⟩, h.2⟩, fun h => ⟨h.1.2, h.2⟩⟩
    · rw [if_neg (mt fitsSigned_iff.1 hnext)]
      exact ⟨fun h => (by cases h), fun h => absurd h.1.2.start hnext⟩

/-- A part that is not written as an integer of 64 bits ends the sum. -/
theorem sumFrom_eq_none {parts : List (List Char)} {part : List Char} (hpart : part ∈ parts)
    (h : ∀ op : Operand, op.text = part → ¬ IsInt64 op.value) (start : Int) : sumFrom start parts = none := by
  induction parts generalizing start with
  | nil => cases hpart
  | cons first parts ih =>
    rw [sumFrom, Option.bind_eq_bind, Option.bind_eq_none_iff]
    intro n hread
    rcases List.mem_cons.1 hpart with rfl | hpart
    · obtain ⟨hfit, op, htext, rfl⟩ := readSigned?_trimChars_eq_some_iff.1 hread
      exact absurd hfit (h op htext)
    · rw [ih hpart, ite_self]

/-! ## Orders -/

/-- The total of the operands that add. -/
def gains (ops : List Operand) : Int := total (ops.filter (0 ≤ ·.value))

/-- The total of the operands that take away. -/
def losses (ops : List Operand) : Int := total (ops.filter (·.value < 0))

theorem gains_perm {a b : List Operand} (h : a.Perm b) : gains a = gains b := total_perm (h.filter _)

theorem losses_perm {a b : List Operand} (h : a.Perm b) : losses a = losses b := total_perm (h.filter _)

theorem gains_eq_zero {ops : List Operand} (h : ∀ op ∈ ops, op.value < 0) : gains ops = 0 := by
  rw [gains, List.filter_eq_nil_iff.2 (by simpa using h)]
  rfl

theorem losses_eq_zero {ops : List Operand} (h : ∀ op ∈ ops, 0 ≤ op.value) : losses ops = 0 := by
  rw [losses, List.filter_eq_nil_iff.2 (by simpa using h)]
  rfl

theorem gains_cons (op : Operand) (ops : List Operand) : gains (op :: ops) = max 0 op.value + gains ops := by
  unfold gains
  by_cases hsign : 0 ≤ op.value
  · rw [List.filter_cons_of_pos (by simpa using hsign), total_cons, max_eq_right hsign]
  · rw [List.filter_cons_of_neg (by simpa using hsign), max_eq_left (not_le.1 hsign).le, Int.zero_add]

theorem losses_cons (op : Operand) (ops : List Operand) : losses (op :: ops) = min 0 op.value + losses ops := by
  unfold losses
  by_cases hsign : op.value < 0
  · rw [List.filter_cons_of_pos (by simpa using hsign), total_cons, min_eq_right hsign.le]
  · rw [List.filter_cons_of_neg (by simpa using hsign), min_eq_left (not_lt.1 hsign), Int.zero_add]

/-- A choice of operands totals at least what all of them take away and at most what they add. -/
theorem total_bounds {front ops : List Operand} (h : front.Sublist ops) :
    losses ops ≤ total front ∧ total front ≤ gains ops := by
  induction h with
  | slnil => exact ⟨le_rfl, le_rfl⟩
  | cons op _ ih =>
    rw [losses_cons, gains_cons]
    omega
  | cons_cons op _ ih =>
    rw [losses_cons, gains_cons, total_cons]
    omega

/-- In all orders every total on the way fits exactly if what the operands add and what they take away does. -/
theorem forall_perm_runsFrom_iff {ops : List Operand} : (∀ ops', ops'.Perm ops → RunsFrom 0 ops') ↔
    IsInt64 (gains ops) ∧ IsInt64 (losses ops) := by
  constructor
  · intro h
    have hgains := List.filter_append_perm (fun op : Operand => decide (0 ≤ op.value)) ops
    have hlosses := List.filter_append_perm (fun op : Operand => decide (op.value < 0)) ops
    refine ⟨?_, ?_⟩
    · simpa [gains] using h _ hgains _ (List.prefix_append _ _)
    · simpa [losses] using h _ hlosses _ (List.prefix_append _ _)
  · rintro ⟨⟨-, hgains⟩, ⟨hlosses, -⟩⟩ ops' hperm front hfront
    obtain ⟨hlower, hupper⟩ := total_bounds hfront.sublist
    rw [losses_perm hperm] at hlower
    rw [gains_perm hperm] at hupper
    rw [Int.zero_add]
    exact ⟨hlosses.trans hlower, hupper.trans_lt hgains⟩

/-- On the way to a last total that fits there is always an operand to go on with: one that adds while the running
total is not positive, one that takes away while it is, and any operand when all left go the same way. -/
theorem exists_next {start : Int} {ops : List Operand} (hne : ops ≠ []) (hfits : ∀ op ∈ ops, IsInt64 op.value)
    (hstart : IsInt64 start) (hend : IsInt64 (start + total ops)) : ∃ op ∈ ops, IsInt64 (start + op.value) := by
  unfold IsInt64 at *
  obtain ⟨first, rest, rfl⟩ := List.exists_cons_of_ne_nil hne
  obtain ⟨hlower, hupper⟩ := total_bounds (List.Sublist.refl rest)
  rw [total_cons] at hend
  rcases le_or_gt start 0 with hsign | hsign
  · by_cases hadds : ∃ op ∈ first :: rest, 0 ≤ op.value
    · obtain ⟨op, hop, hvalue⟩ := hadds
      have hfit := hfits op hop
      exact ⟨op, hop, by omega, by omega⟩
    · push Not at hadds
      obtain ⟨hfirst, hrest⟩ := List.forall_mem_cons.1 hadds
      rw [gains_eq_zero hrest] at hupper
      exact ⟨first, List.mem_cons_self, by omega, by omega⟩
  · by_cases htakes : ∃ op ∈ first :: rest, op.value < 0
    · obtain ⟨op, hop, hvalue⟩ := htakes
      have hfit := hfits op hop
      exact ⟨op, hop, by omega, by omega⟩
    · push Not at htakes
      obtain ⟨hfirst, hrest⟩ := List.forall_mem_cons.1 htakes
      rw [losses_eq_zero hrest] at hlower
      exact ⟨first, List.mem_cons_self, by omega, by omega⟩

/-- Operands with a total that fits can be put in an order in which every total on the way does. -/
theorem exists_perm_runsFrom (ops : List Operand) {start : Int} (hfits : ∀ op ∈ ops, IsInt64 op.value)
    (hstart : IsInt64 start) (hend : IsInt64 (start + total ops)) : ∃ ops', ops'.Perm ops ∧ RunsFrom start ops' := by
  by_cases hne : ops = []
  · exact ⟨[], hne ▸ List.Perm.refl _, runsFrom_nil.2 hstart⟩
  · obtain ⟨op, hop, hnext⟩ := exists_next hne hfits hstart hend
    obtain ⟨a, b, rfl⟩ := List.append_of_mem hop
    have hfirst : (a ++ op :: b).Perm (op :: (a ++ b)) := List.perm_middle
    rw [total_perm hfirst, total_cons, ← Int.add_assoc] at hend
    have hrest : ∀ o ∈ a ++ b, IsInt64 o.value := fun o ho => hfits o (hfirst.symm.subset (List.mem_cons_of_mem op ho))
    obtain ⟨ops', hperm, hruns⟩ := exists_perm_runsFrom (a ++ b) hrest hnext hend
    exact ⟨op :: ops', (hperm.cons op).trans hfirst.symm, runsFrom_cons.2 ⟨hstart, hruns⟩⟩
termination_by ops.length

end Template

end TemporalTagger
