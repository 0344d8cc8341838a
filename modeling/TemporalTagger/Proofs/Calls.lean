/-
When captured text is taken for a call. The references of a template are replaced before its calls are looked for,
so a call may also come out of the text of the document. The value of a call is a text without opening parentheses,
which every call has; so a call that stands in a filled template always shows. Main fact: `expand_eq_fillIn_iff`.
-/
import Mathlib.Data.List.TakeWhile
import TemporalTagger.Proofs.Text.Digits
import TemporalTagger.Proofs.Values.Texts

namespace TemporalTagger

open Text

/-! ## Case -/

namespace Unicode

/-- A code point that no run moves to comes from itself alone. -/
theorem Run.eq_of_moveBy_eq {runs : List Run} {c d : Nat} (hd : 0 < d) (h : ∀ r ∈ runs, r.source? d = none)
    (hc : moveBy runs c = d) : c = d := by
  rw [moveBy] at hc
  split at hc
  next r hr =>
    have hcovers := List.find?_some hr
    have hsource : (d - r.offset).toNat = c := by
      rw [move] at hc
      omega
    have hnone := h r (List.mem_of_find?_eq_some hr)
    rw [source?, hsource, hcovers, hc, beq_self_eq_true, Bool.true_and, if_pos rfl] at hnone
    cases hnone
  next => exact hc

theorem eq_of_ofNat_eq {n : Nat} {p : Char} (h : Char.ofNat n = p) (hp : p ≠ Char.ofNat 0) : n = p.toNat := by
  by_cases hn : n.isValidChar
  · rw [Char.ofNat, dif_pos hn] at h
    exact congrArg Char.toNat h
  · rw [Char.ofNat, dif_neg hn] at h
    exact absurd h.symm hp

/-! No letter becomes a parenthesis when its case is changed. -/

section

variable {p : Char} (hp : p = '(' ∨ p = ')')

include hp

theorem eq_of_mem_upperChar {c : Char} (h : p ∈ upperChar c) : c = p := by
  have hspecial : ∀ q ∈ CaseTables.upperSpecial, p ∉ q.2.map Char.ofNat := by rcases hp with rfl | rfl <;> decide +kernel
  have hruns : ∀ r ∈ CaseTables.upper, r.source? p.toNat = none := by rcases hp with rfl | rfl <;> decide +kernel
  have hpos : 0 < p.toNat ∧ p ≠ Char.ofNat 0 := by rcases hp with rfl | rfl <;> decide
  rw [upperChar] at h
  split at h
  next codes hcodes =>
    obtain ⟨_, _, hsplit, -⟩ := List.lookup_eq_some_iff.1 hcodes
    exact absurd h (hspecial (c.toNat, codes) (hsplit ▸ List.mem_append_right _ List.mem_cons_self))
  next =>
    have hn := eq_of_ofNat_eq (List.mem_singleton.1 h).symm hpos.2
    exact Char.toNat_inj.1 (Run.eq_of_moveBy_eq hpos.1 hruns hn)

theorem eq_of_mem_lowerChar {c : Char} (h : p ∈ lowerChar c) : c = p := by
  have hspecial : p ∉ ['i', '\u0307'] := by rcases hp with rfl | rfl <;> decide
  have hruns : ∀ r ∈ CaseTables.lower, r.source? p.toNat = none := by rcases hp with rfl | rfl <;> decide +kernel
  have hpos : 0 < p.toNat ∧ p ≠ Char.ofNat 0 := by rcases hp with rfl | rfl <;> decide
  rw [lowerChar] at h
  split at h
  · exact absurd h hspecial
  · have hn := eq_of_ofNat_eq (List.mem_singleton.1 h).symm hpos.2
    exact Char.toNat_inj.1 (Run.eq_of_moveBy_eq hpos.1 hruns hn)

theorem mem_of_mem_lowerFrom : ∀ (before : List Char) {cs : List Char}, p ∈ lowerFrom before cs → p ∈ cs
  | before, c :: cs, h => by
    have hsigma : p ∉ ['ς'] ∧ p ∉ ['σ'] := by rcases hp with rfl | rfl <;> decide
    rw [lowerFrom] at h
    rcases List.mem_append.1 h with h | h
    · split at h
      · split at h
        · exact absurd h hsigma.1
        · exact absurd h hsigma.2
      · rw [eq_of_mem_lowerChar hp h]
        exact List.mem_cons_self
    · exact List.mem_cons_of_mem c (mem_of_mem_lowerFrom (c :: before) h)

end

end Unicode

/-- A table that gives no text with an opening parenthesis. -/
def Normalization.Plain (t : Normalization) : Prop :=
  ∀ function surface value, t.lookup function surface = some value → '(' ∉ value.toList

namespace Template

/-! ## Values of calls -/

variable {t : Normalization} {cs : List Char}

theorem not_mem_toString (n : Int) {p : Char} (hp : p = '(' ∨ p = ')') : p ∉ (toString n).toList := by
  have hsign : p ∉ ['-'] := by rcases hp with rfl | rfl <;> decide
  have hdigit : p.isDigit = false := by rcases hp with rfl | rfl <;> decide
  rw [toList_toString_int, List.mem_append, not_or]
  constructor
  · split
    · exact hsign
    · exact List.not_mem_nil
  · intro h
    rw [isDigit_of_mem_toDigits h] at hdigit
    cases hdigit

theorem mem_of_cutLastComma? {a b : List Char} (h : cutLastComma? cs = some (a, b)) {c : Char} (hc : c ∈ a) :
    c ∈ cs := by
  obtain ⟨⟨u, v⟩, hcut, huv⟩ := Option.map_eq_some_iff.1 h
  obtain ⟨rfl, rfl⟩ := Prod.mk.inj huv
  rw [← List.mem_reverse, eq_append_of_cutAt? hcut]
  exact List.mem_append_right _ (List.mem_reverse.1 hc)

theorem mem_of_substring? {argument : List Char} (h : substring? argument = some cs) {c : Char} (hc : c ∈ cs) :
    c ∈ argument := by
  simp only [substring?, Option.bind_eq_bind, Option.bind_eq_some_iff, Prod.exists] at h
  obtain ⟨rest, _, hrest, stop, -, text, _, htext, start, -, hcs⟩ := h
  obtain rfl := Option.some.inj hcs
  exact mem_of_cutLastComma? hrest (mem_of_cutLastComma? htext (List.mem_of_mem_drop (List.mem_of_mem_take hc)))

/-- No value brings back a parenthesis that neither the argument nor the table has. -/
theorem not_mem_value {p : Char} (hp : p = '(' ∨ p = ')')
    (ht : ∀ function surface value, t.lookup function surface = some value → p ∉ value.toList) {c : Call}
    (hc : p ∉ c.argument) : p ∉ c.value t := by
  rw [Call.value]
  split
  · intro h
    obtain ⟨d, hd, hmem⟩ := List.mem_flatMap.1 h
    exact hc (Unicode.eq_of_mem_upperChar hp hmem ▸ hd)
  · exact fun h => hc (Unicode.mem_of_mem_lowerFrom hp [] h)
  · cases sum? c.argument with
    | none => exact hc
    | some n => exact not_mem_toString n hp
  · cases hsub : substring? c.argument with
    | none => exact hc
    | some cs => exact fun h => hc (mem_of_substring? hsub h)
  next name _ =>
    cases hlookup : t.lookup name (String.ofList c.argument) with
    | none => exact hc
    | some value => exact ht _ _ _ hlookup

/-! ## Calls in a text -/

/-- How a function is written after its percent sign. -/
def Function.label : Function → List Char
  | norm name => name.toList
  | upper => "UPPERCASE%".toList
  | lower => "LOWERCASE%".toList
  | sum => "SUM%".toList
  | substring => "SUBSTRING%".toList

theorem Function.label_norm (name : String) : (norm name).label = name.toList := rfl

/-- A function that can be written: the name of a table begins with `norm` and has letters and digits alone. -/
def Function.Named : Function → Prop
  | norm name => ['n', 'o', 'r', 'm'] <+: name.toList ∧ ∀ c ∈ name.toList, c.isAlphanum = true
  | _ => True

instance : DecidablePred Function.Named
  | .norm name =>
    have : Decidable (∀ c ∈ name.toList, c.isAlphanum = true) := List.decidableBAll _ _
    inferInstanceAs (Decidable (_ ∧ _))
  | .upper | .lower | .sum | .substring => inferInstanceAs (Decidable True)

theorem exists_of_function? {f : Function} {n : Nat} (h : function? cs = some (f, n)) :
    f.Named ∧ n = f.label.length ∧ ∃ rest, cs = f.label ++ rest := by
  rw [function?] at h
  split at h
  next rest hrest =>
    obtain ⟨rfl, rfl⟩ := Prod.mk.inj (Option.some.inj h)
    rw [show "norm".toList = ['n', 'o', 'r', 'm'] from rfl] at hrest ⊢
    rw [Function.Named, Function.label_norm, String.toList_ofList]
    have hnorm : ∀ c ∈ ['n', 'o', 'r', 'm'], c.isAlphanum = true := List.all_eq_true.1 rfl
    refine ⟨⟨List.prefix_append _ _, fun c hc => ?_⟩, rfl, rest.dropWhile Char.isAlphanum, ?_⟩
    · exact (List.mem_append.1 hc).elim (hnorm c) fun hc => List.mem_takeWhile_imp hc
    · rw [List.append_assoc, List.takeWhile_append_dropWhile]
      exact after?_eq_some_iff.1 hrest
  next =>
    have hnamed : ∀ {g : Function} {label : String}, g.Named → g.label = label.toList →
        ((after? label.toList cs).map fun _ => (g, label.length)) = some (f, n) →
        f.Named ∧ n = f.label.length ∧ ∃ rest, cs = f.label ++ rest := by
      intro g label hg hlabel h
      obtain ⟨rest, hrest, hn⟩ := Option.map_eq_some_iff.1 h
      obtain ⟨rfl, rfl⟩ := Prod.mk.inj hn
      rw [hlabel]
      exact ⟨hg, String.length_toList.symm, rest, after?_eq_some_iff.1 hrest⟩
    simp only [Option.orElse_eq_orElse, Option.orElse_eq_or, Option.or_eq_some_iff] at h
    rcases h with h | ⟨-, h | ⟨-, h | ⟨-, h⟩⟩⟩
    · exact @hnamed .upper _ trivial rfl h
    · exact @hnamed .lower _ trivial rfl h
    · exact @hnamed .sum _ trivial rfl h
    · exact @hnamed .substring _ trivial rfl h

theorem Function.Named.not_mem_label {f : Function} (hf : f.Named) {p : Char} (hp : p = '(' ∨ p = ')') :
    p ∉ f.label := by
  have hfixed : ∀ g ∈ [Function.upper, .lower, .sum, .substring], p ∉ g.label := by
    rcases hp with rfl | rfl <;> decide
  have hletter : p.isAlphanum = false := by rcases hp with rfl | rfl <;> decide
  cases f with
  | norm name =>
    intro hmem
    rw [hf.2 p hmem] at hletter
    cases hletter
  | upper | lower | sum | substring => exact hfixed _ (by simp)

theorem Function.Named.function?_label {f : Function} (hf : f.Named) (rest : List Char) :
    function? (f.label ++ '(' :: rest) = some (f, f.label.length) := by
  cases f with
  | norm name =>
    obtain ⟨⟨letters, hname⟩, hletters⟩ := hf
    have hall : letters.all Char.isAlphanum = true :=
      List.all_eq_true.2 fun c hc => hletters c (hname ▸ List.mem_append_right _ hc)
    rw [label_norm, ← hname, function?_norm hall, hname, String.ofList_toList]
  | upper | lower | sum | substring => rfl

/-- A call is a percent sign, the label of its function, and an argument between two parentheses. -/
theorem exists_of_call? {c : Call} {n : Nat} (h : call? cs = some (c, n)) :
    ∃ rest, cs = '%' :: (c.function.label ++ '(' :: (c.argument ++ ')' :: rest)) ∧
      n = c.function.label.length + c.argument.length + 3 ∧ c.function.Named ∧ Flat c.argument := by
  simp only [call?, Option.bind_eq_bind, Option.bind_eq_some_iff, Prod.exists, after?_eq_some_iff] at h
  obtain ⟨after, rfl, f, taken, hf, opened, hopened, closed, hclosed, h⟩ := h
  obtain ⟨hnamed, rfl, rest, rfl⟩ := exists_of_function? hf
  obtain ⟨rfl, rfl⟩ := Prod.mk.inj (Option.some.inj h)
  rw [List.drop_left] at hopened
  refine ⟨closed, ?_, rfl, hnamed, fun c hc => by simpa using List.mem_takeWhile_imp hc⟩
  -- what follows the argument is the closing parenthesis
  have hargument := List.prefix_iff_eq_append.1 (List.takeWhile_prefix (l := opened) (!isParenthesis ·))
  rw [hclosed] at hargument
  rw [hopened]
  exact congrArg (fun u => '%' :: (f.label ++ '(' :: u)) hargument.symm

theorem exists_scan_eq {c : Call} {n : Nat} (h : call? cs = some (c, n)) :
    ∃ name rest, cs = '%' :: (name ++ '(' :: (c.argument ++ ')' :: rest)) ∧ '(' ∉ name ∧ '(' ∉ c.argument ∧
      scan call? cs = .found c :: scan call? rest := by
  obtain ⟨rest, rfl, rfl, hnamed, hargument⟩ := exists_of_call? h
  generalize hlabel : c.function.label = name at h ⊢
  refine ⟨name, rest, rfl, hlabel ▸ hnamed.not_mem_label (.inl rfl), fun hmem => ?_, ?_⟩
  · exact absurd (hargument _ hmem) (by decide)
  have hsplit : name ++ '(' :: (c.argument ++ ')' :: rest) = (name ++ '(' :: (c.argument ++ [')'])) ++ rest := by simp
  have hlength : name.length + c.argument.length + 3 = (name ++ '(' :: (c.argument ++ [')'])).length + 1 := by
    simp only [List.length_append, List.length_cons, List.length_nil]
    omega
  rw [hsplit, hlength] at h
  rw [hsplit, scan_found h]

/-- A round of evaluation takes away one opening parenthesis for each call. -/
theorem count_render_scan (ht : t.Plain) : ∀ cs : List Char,
    (render (Call.value t) (scan call? cs)).count '(' + (found (scan call? cs)).length = cs.count '('
  | [] => rfl
  | c :: cs => by
    cases hcall : call? (c :: cs) with
    | none =>
      have ih := count_render_scan ht cs
      rw [scan_char hcall, render_char, found_char, List.count_cons, List.count_cons, ← ih]
      omega
    | some p =>
      obtain ⟨name, rest, hcs, hname, hargument, hscan⟩ := exists_scan_eq hcall
      have hlt : rest.length < (c :: cs).length := by
        rw [hcs]
        simp only [List.length_cons, List.length_append]
        omega
      have ih := count_render_scan ht rest
      -- the parenthesis of the call is gone, and its value has none
      have hvalue := List.count_eq_zero.2 (not_mem_value (.inl rfl) ht hargument)
      have hopening : (c :: cs).count '(' = rest.count '(' + 1 := by
        simp [hcs, List.count_eq_zero.2 hname, List.count_eq_zero.2 hargument]
      rw [hscan, render_found, found_found, List.count_append, hvalue, List.length_cons, hopening, ← ih]
      omega
termination_by cs => cs.length
decreasing_by
  · exact Nat.lt_succ_self _
  · exact hlt

theorem count_evaluate_le (ht : t.Plain) : ∀ (n : Nat) (cs : List Char), (evaluate t n cs).count '(' ≤ cs.count '('
  | 0, _ => le_rfl
  | n + 1, cs => by
    rw [evaluate, ← count_render_scan ht cs]
    exact (count_evaluate_le ht n _).trans (Nat.le_add_right _ _)

/-! ## Captured text and calls -/

/-- The calls in a template when its references are replaced. -/
def filledCalls (capture : Nat → Option String) (template : String) : List Call :=
  found (scan call? (fillIn capture template.toList))

section

variable {capture : Nat → Option String} (hcapture : ∀ n text, capture n = some text → '%' ∉ text.toList)

include hcapture

theorem not_mem_captured (digits : List Char) : '%' ∉ captured capture digits := by
  unfold captured
  split
  next text htext =>
    obtain ⟨n, -, hn⟩ := Option.bind_eq_some_iff.1 htext
    intro hmem
    exact hcapture n text hn ((mem_of_mem_collapse false hmem).resolve_left (by decide))
  next => exact List.not_mem_nil

theorem not_mem_fillIn (h : '%' ∉ cs) : '%' ∉ fillIn capture cs := by
  intro hmem
  obtain ⟨piece, hpiece, hmem⟩ := List.mem_flatMap.1 hmem
  cases piece with
  | char c =>
    obtain rfl := List.mem_singleton.1 hmem
    exact h (mem_of_char_mem_scanFrom 0 hpiece)
  | found digits => exact not_mem_captured hcapture digits hmem

end

/-- The value of a template is the template with its references replaced if no call stands in that text; if one
does, the value is another one for every table without parentheses. Where neither the template nor what was captured
has a percent sign there is no call. -/
theorem expand_eq_fillIn_iff (template : String) (capture : Nat → Option String) :
    (filledCalls capture template = [] →
      ∀ t, expand template capture t = String.ofList (fillIn capture template.toList)) ∧
    (filledCalls capture template ≠ [] →
      ∀ t : Normalization, t.Plain → expand template capture t ≠ String.ofList (fillIn capture template.toList)) ∧
    ('%' ∉ template.toList → (∀ n text, capture n = some text → '%' ∉ text.toList) →
      filledCalls capture template = []) := by
  refine ⟨fun hnone t => ?_, fun hcalls t ht heq => ?_, fun htemplate hcapture => ?_⟩
  · rw [expand, evaluate_of_found_eq_nil t hnone]
  · have hfirst := count_render_scan ht (fillIn capture template.toList)
    have hlater := count_evaluate_le ht 7 (render (Call.value t) (scan call? (fillIn capture template.toList)))
    rw [expand, maxNesting, evaluate, String.ofList_inj] at heq
    rw [heq] at hlater
    have := List.length_pos_of_ne_nil hcalls
    rw [filledCalls] at this
    omega
  · refine found_scan_of_ne ?_
    rintro c hc rfl
    exact not_mem_fillIn hcapture htemplate hc

/-- The text of the document is taken for a call. -/
example : expand "group(1)" (fun _ => some "%SUM%(1,2)") Table.empty = "3" := by decide

end Template

end TemporalTagger
