/-
Upper case, lower case and case folding of text. The mappings are the full ones of the Unicode
standard: a character may become several, and a capital sigma that ends a word becomes the final
form.
-/
import TemporalTagger.Unicode.Additions
import TemporalTagger.Unicode.CaseTables
import TemporalTagger.Unicode.Intervals
import TemporalTagger.Unicode.Properties

namespace TemporalTagger.Unicode

/-! ## Single characters -/

/-- The lowercase mapping of one character, out of context. -/
def lowerChar (c : Char) : List Char :=
  if c = 'İ' then ['i', '\u0307'] else [Char.ofNat (Run.moveBy CaseTables.lower c.toNat)]

/-- The uppercase mapping of one character. -/
def upperChar (c : Char) : List Char :=
  match CaseTables.upperSpecial.lookup c.toNat with
  | some codes => codes.map Char.ofNat
  | none => [Char.ofNat (Run.moveBy CaseTables.upper c.toNat)]

/-- The code point that stands for all case variants of `c`. -/
def foldCode (c : Nat) : Nat := Run.moveBy CaseTables.fold c

/-- The code points that differ from `c` by case alone, `c` included. -/
def caseVariants (c : Nat) : List Nat :=
  let key := foldCode c
  key :: CaseTables.fold.filterMap (·.source? key)

/-- The code points that have case variants. -/
def casedCodes : List Nat := CaseTables.fold.flatMap fun r => r.codes ++ r.codes.map r.move

theorem caseVariants_of_not_mem {c : Nat} (h : c ∉ casedCodes) : caseVariants c = [c] := by
  simp only [casedCodes, List.mem_flatMap, List.mem_append, not_exists, not_and, not_or] at h
  have hkey : foldCode c = c := by
    rw [foldCode, Run.moveBy, List.find?_eq_none.mpr fun r hr hc => (h r hr).1 (r.mem_codes hc)]
  rw [caseVariants, hkey, List.cons.injEq, List.filterMap_eq_nil_iff]
  refine ⟨rfl, fun r hr => ?_⟩
  simp only [Run.source?, ite_eq_right_iff, reduceCtorEq, imp_false, Bool.and_eq_true,
    beq_iff_eq, not_and]
  exact fun hc hm => (h r hr).2 (List.mem_map.mpr ⟨_, r.mem_codes hc, hm⟩)

/-! ## Text -/

/-- Characters skipped when the case of a neighbour is looked for. -/
def isCaseIgnorable (c : Char) : Bool :=
  inside Properties.caseIgnorable c.toNat || inside Additions.caseIgnorable c.toNat

/-- Characters that have a case. The pharyngeal fricative lost it with Unicode 17.0. -/
def isCased (c : Char) : Bool :=
  (inside Properties.cased c.toNat && c != 'ʕ') || inside Additions.cased c.toNat

/-- Whether the first character of `cs` that is not case-ignorable is cased. -/
def startsCased (cs : List Char) : Bool := (cs.dropWhile isCaseIgnorable).head?.any isCased

/-- Lowercases the text `rest`, which follows the reversed text `before`. -/
def lowerFrom (before : List Char) : List Char → List Char
  | [] => []
  | c :: rest =>
    let mapped :=
      if c = 'Σ' then
        if startsCased before && !startsCased rest then ['ς'] else ['σ']
      else lowerChar c
    mapped ++ lowerFrom (c :: before) rest

/-- The text in lower case. -/
def lowercase (s : String) : String := String.ofList (lowerFrom [] s.toList)

/-- The text in upper case. -/
def uppercase (s : String) : String := String.ofList (s.toList.flatMap upperChar)

end TemporalTagger.Unicode
