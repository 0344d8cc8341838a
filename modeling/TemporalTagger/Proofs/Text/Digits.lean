/-
Numbers of a fixed width. A number that fits is written in exactly so many digits, and these read back
as the number. Main facts: `isNumeral_padded` and `IsNumeral.unique`.
-/
import TemporalTagger.Text.Number
import Mathlib.Tactic

namespace TemporalTagger.Text

/-- A number is written in so many digits. -/
structure IsNumeral (width n : Nat) (cs : List Char) : Prop where
  length : cs.length = width
  digits : ∀ c ∈ cs, c.isDigit = true
  value : digitsValue cs = n

theorem digitsValue_eq_ofDigitChars (cs : List Char) : digitsValue cs = Nat.ofDigitChars 10 cs 0 :=
  Nat.ofDigitChars_eq_foldl.symm

theorem digitsValue_toDigits (n : Nat) : digitsValue (Nat.toDigits 10 n) = n := by
  rw [digitsValue_eq_ofDigitChars, Nat.ofDigitChars_toDigits (by decide) (by decide)]

theorem takeWhile_of_isDigit {ds : List Char} (h : ∀ c ∈ ds, c.isDigit = true) : ds.takeWhile Char.isDigit = ds := by
  rw [← List.append_nil ds, List.takeWhile_append_of_pos (by simpa using h), List.takeWhile_nil]

/-- Leading zeros do not count. -/
theorem digitsValue_zeros (k : Nat) (cs : List Char) : digitsValue (List.replicate k '0' ++ cs) = digitsValue cs := by
  induction k with
  | zero => rfl
  | succ k ih => rw [List.replicate_succ, List.cons_append, ← ih]; rfl

theorem toNat_of_isDigit {c : Char} (h : c.isDigit = true) : c.toNat - '0'.toNat ≤ 9 := by
  simp only [Char.isDigit, Bool.and_eq_true, decide_eq_true_eq, UInt32.le_iff_toNat_le] at h
  have hnine : c.toNat ≤ 57 := h.2
  show c.toNat - 48 ≤ 9
  omega

/-- So many digits denote a number below that power of ten. -/
theorem IsNumeral.lt {width n : Nat} {cs : List Char} (h : IsNumeral width n cs) : n < 10 ^ width := by
  have hfold : ∀ (cs : List Char) (n : Nat), (∀ c ∈ cs, c.isDigit = true) →
      cs.foldl (fun n c => 10 * n + (c.toNat - '0'.toNat)) n < (n + 1) * 10 ^ cs.length := by
    intro cs
    induction cs with
    | nil => intro n _; simp
    | cons c cs ih =>
      intro n hd
      obtain ⟨hc, hcs⟩ := List.forall_mem_cons.1 hd
      have hle := toNat_of_isDigit hc
      calc
        _ < (10 * n + (c.toNat - '0'.toNat) + 1) * 10 ^ cs.length := ih _ hcs
        _ ≤ ((n + 1) * 10) * 10 ^ cs.length := Nat.mul_le_mul_right _ (by omega)
        _ = (n + 1) * 10 ^ (c :: cs).length := by rw [List.length_cons, pow_succ]; ring
  have := hfold cs 0 h.digits
  rw [h.length, zero_add, one_mul] at this
  rw [← h.value]
  exact this

theorem isDigit_of_mem_toDigits {n : Nat} {c : Char} (h : c ∈ Nat.toDigits 10 n) : c.isDigit = true :=
  Nat.isDigit_of_mem_toDigits (by decide) (by decide) h

theorem length_toDigits_le {width n : Nat} (hw : 0 < width) (h : n < 10 ^ width) :
    (Nat.toDigits 10 n).length ≤ width :=
  (Nat.length_toDigits_le_iff (by decide) hw).2 h

theorem readDigits?_eq_some_iff {cs : List Char} {n : Nat} :
    readDigits? cs = some n ↔ cs ≠ [] ∧ (∀ c ∈ cs, c.isDigit = true) ∧ digitsValue cs = n := by
  rw [readDigits?, ite_eq_iff]
  simp [and_assoc]

/-- A number that fits in a word is read back from its digits. -/
theorem readWord?_toDigits {n : Nat} (h : n < UInt64.size) : readWord? (Nat.toDigits 10 n) = some n := by
  have hdigits : readDigits? (Nat.toDigits 10 n) = some n :=
    readDigits?_eq_some_iff.2 ⟨Nat.toDigits_ne_nil, fun _ => isDigit_of_mem_toDigits, digitsValue_toDigits n⟩
  rw [readWord?, hdigits]
  simp [h]

theorem toList_toString (n : Nat) : (toString n).toList = Nat.toDigits 10 n := by
  rw [Nat.toString_eq_ofList_toDigits, String.toList_ofList]

/-- An integer is written with a sign if it is negative, and digits. -/
theorem toList_toString_int (n : Int) :
    (toString n).toList = (if n < 0 then ['-'] else []) ++ Nat.toDigits 10 n.natAbs := by
  cases n with
  | ofNat k =>
    rw [if_neg (by simp)]
    exact toList_toString k
  | negSucc k =>
    rw [if_pos (Int.negSucc_lt_zero k)]
    show ("-" ++ toString (k + 1)).toList = _
    rw [String.toList_append, toList_toString]
    rfl

theorem toList_padded (width n : Nat) :
    (padded width n).toList = List.replicate (width - (Nat.toDigits 10 n).length) '0' ++ Nat.toDigits 10 n := by
  have hneg : ¬ (n : Int) < 0 := by omega
  simp only [padded, hneg, if_false, Int.natAbs_natCast, String.toList_append, String.toList_ofList, toList_toString,
    ← String.length_toList]
  rfl

theorem isDigit_of_mem_padded {width n : Nat} {c : Char} (h : c ∈ (padded width n).toList) : c.isDigit = true := by
  rw [toList_padded] at h
  rcases List.mem_append.1 h with h | h
  · rw [List.eq_of_mem_replicate h]; rfl
  · exact isDigit_of_mem_toDigits h

/-- A number that fits in a width is written in so many digits. -/
theorem isNumeral_padded {width n : Nat} (hw : 0 < width) (h : n < 10 ^ width) :
    IsNumeral width n (padded width n).toList := by
  refine ⟨?_, fun c => isDigit_of_mem_padded, ?_⟩
  · have := length_toDigits_le hw h
    rw [toList_padded, List.length_append, List.length_replicate]
    omega
  · rw [toList_padded, digitsValue_zeros, digitsValue_toDigits]

/-- A number below ten is one digit. -/
theorem isNumeral_toString {n : Nat} (h : n < 10) : IsNumeral 1 n (toString n).toList := by
  have hlen := @length_toDigits_le 1 n (by decide) (by omega)
  rw [toList_toString]
  refine ⟨?_, fun c => isDigit_of_mem_toDigits, digitsValue_toDigits n⟩
  have : Nat.toDigits 10 n ≠ [] := Nat.toDigits_ne_nil
  have := List.length_pos_of_ne_nil this
  omega

/-! ## One numeral a number -/

theorem digitsValue_append (cs ds : List Char) :
    digitsValue (cs ++ ds) = 10 ^ ds.length * digitsValue cs + digitsValue ds := by
  simp only [digitsValue_eq_ofDigitChars]
  rw [Nat.ofDigitChars_append, Nat.ofDigitChars_eq_ofDigitChars_zero]

namespace IsNumeral

variable {width a b n : Nat} {cs ds : List Char}

/-- The last digits of a number are what is left of it by that power of ten, and the first ones the rest. -/
theorem take_drop (h : IsNumeral (a + b) n cs) :
    IsNumeral a (n / 10 ^ b) (cs.take a) ∧ IsNumeral b (n % 10 ^ b) (cs.drop a) := by
  have hlength : (cs.take a).length = a := by rw [List.length_take, h.length, Nat.min_eq_left (Nat.le_add_right a b)]
  have hdrop : IsNumeral b (digitsValue (cs.drop a)) (cs.drop a) :=
    ⟨by rw [List.length_drop, h.length, Nat.add_sub_cancel_left], fun c hc => h.digits c (List.mem_of_mem_drop hc), rfl⟩
  have hvalue := digitsValue_append (cs.take a) (cs.drop a)
  rw [List.take_append_drop, h.value, hdrop.length] at hvalue
  refine ⟨⟨hlength, fun c hc => h.digits c (List.mem_of_mem_take hc), ?_⟩, hdrop.length, hdrop.digits, ?_⟩
  · rw [hvalue, Nat.mul_add_div (by positivity), Nat.div_eq_of_lt hdrop.lt, Nat.add_zero]
  · rw [hvalue, Nat.mul_add_mod, Nat.mod_eq_of_lt hdrop.lt]

theorem eq_singleton (h : IsNumeral 1 n cs) : cs = [Char.ofNat (48 + n)] := by
  obtain ⟨c, rfl⟩ := List.length_eq_one_iff.1 h.length
  have hc := h.digits c List.mem_cons_self
  simp only [Char.isDigit, Bool.and_eq_true, decide_eq_true_eq, UInt32.le_iff_toNat_le] at hc
  have hlo : 48 ≤ c.toNat := hc.1
  have hvalue : 10 * 0 + (c.toNat - 48) = n := h.value
  rw [show 48 + n = c.toNat by omega, Char.ofNat_toNat]

/-- A number is written in one way in so many digits. -/
theorem unique (h : IsNumeral width n cs) (h' : IsNumeral width n ds) : cs = ds := by
  induction width generalizing n cs ds with
  | zero => rw [List.eq_nil_of_length_eq_zero h.length, List.eq_nil_of_length_eq_zero h'.length]
  | succ width ih =>
    rw [← List.take_append_drop width cs, ← List.take_append_drop width ds, ih h.take_drop.1 h'.take_drop.1,
      h.take_drop.2.eq_singleton, h'.take_drop.2.eq_singleton]

/-- A number in so many digits is written so. -/
theorem toList_padded (h : IsNumeral width n cs) (hw : 0 < width) : (padded width n).toList = cs :=
  (isNumeral_padded hw h.lt).unique h

end IsNumeral

end TemporalTagger.Text
