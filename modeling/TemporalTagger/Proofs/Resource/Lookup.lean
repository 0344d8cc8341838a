/-
What a normalization table that is made of sections finds: the last entry of a surface text in the
sections of a function. Main facts: `find?_ofSections` and, over lists of characters,
`lookup_ofSections`.
-/
import TemporalTagger.Resource.Normalization
import TemporalTagger.Proofs.Rule.Spelling

namespace TemporalTagger.Normalization

/-! ## Entries -/

/-- The normal form of a surface text under the text itself. -/
def find? (t : Normalization) (function surface : String) : Option String := (t.get? function).bind (·.get? surface)

theorem lookup_eq (t : Normalization) (function surface : String) :
    t.lookup function surface = (t.find? function surface).or (t.find? function (Unicode.lowercase surface)) := by
  unfold lookup find?
  cases t.get? function with
  | none => rfl
  | some entries =>
    simp only [Option.bind_eq_bind, Option.bind_some]
    cases entries.get? surface <;> rfl

theorem find?_addFunction (t : Normalization) (f g k : String) : (t.addFunction f).find? g k = t.find? g k := by
  unfold addFunction find?
  split
  · rfl
  next hnew =>
    rw [Table.get?_insert]
    split
    next h =>
      rw [h, Option.not_isSome_iff_eq_none.1 hnew]
      rfl
    next => rfl

theorem find?_addEntry (t : Normalization) (f s n g k : String) :
    (t.addEntry f s n).find? g k = if g = f ∧ k = s then some n else t.find? g k := by
  unfold addEntry find?
  rw [Table.get?_insert]
  by_cases hg : g = f
  · rw [if_pos hg, Option.bind_some, Table.get?_insert, hg]
    by_cases hk : k = s
    · rw [if_pos hk, if_pos ⟨rfl, hk⟩]
    · rw [if_neg hk, if_neg fun h => hk h.2]
      cases t.get? f <;> rfl
  · rw [if_neg hg, if_neg fun h => hg h.1]

theorem find?_addEntries (f g k : String) : ∀ (es : List (String × String)) (t : Normalization),
    (es.foldl (fun t (s, n) => t.addEntry f s n) t).find? g k =
      (if g = f then es.reverse.lookup k else none).or (t.find? g k)
  | [], t => by rw [List.foldl_nil, List.reverse_nil, List.lookup_nil, ite_self, Option.none_or]
  | (s, n) :: es, t => by
    rw [List.foldl_cons, find?_addEntries f g k es, find?_addEntry, List.reverse_cons, List.lookup_append,
      Table.lookup_cons_ite, List.lookup_nil]
    by_cases hg : g = f
    · by_cases hk : k = s <;> simp [hg, hk]
    · simp [hg]

/-- The entries of the sections of a function. -/
def entriesOf {α : Type} [DecidableEq α] (function : α) (sections : List (α × List (α × α))) : List (α × α) :=
  sections.flatMap fun (f, es) => if function = f then es else []

theorem entriesOf_cons {α : Type} [DecidableEq α] (function f : α) (es : List (α × α))
    (sections : List (α × List (α × α))) :
    entriesOf function ((f, es) :: sections) = (if function = f then es else []) ++ entriesOf function sections := rfl

theorem find?_foldl (g k : String) : ∀ (sections : List (String × List (String × String))) (t : Normalization),
    (sections.foldl (fun t (f, es) => es.foldl (fun t (s, n) => t.addEntry f s n) (t.addFunction f)) t).find? g k =
      ((entriesOf g sections).reverse.lookup k).or (t.find? g k)
  | [], t => rfl
  | (f, es) :: sections, t => by
    rw [List.foldl_cons, find?_foldl g k sections, find?_addEntries, find?_addFunction, entriesOf_cons,
      List.reverse_append, List.lookup_append, Option.or_assoc]
    split <;> rfl

theorem find?_ofSections (sections : List (String × List (String × String))) (g k : String) :
    (ofSections sections).find? g k = (entriesOf g sections).reverse.lookup k := by
  rw [ofSections, find?_foldl]
  exact Option.or_none

/-! ## Lists of characters -/

/-- Writes a section. -/
abbrev writeSection : List Char × List (List Char × List Char) → String × List (String × String) :=
  Prod.map String.ofList (List.map writeEntry)

/-- A number that tells texts apart, as numbers are compared faster. -/
def code : List Char → Nat
  | [] => 0
  | c :: cs => code cs * 2 ^ 32 + c.toNat + 1

theorem code_injective : ∀ {cs ds : List Char}, code cs = code ds → cs = ds
  | [], [], _ => rfl
  | [], d :: ds, h => by simp [code] at h
  | c :: cs, [], h => by simp [code] at h
  | c :: cs, d :: ds, h => by
    have hc : c.toNat < 2 ^ 32 := c.val.toNat_lt
    have hd : d.toNat < 2 ^ 32 := d.val.toNat_lt
    simp only [code] at h
    rw [@code_injective cs ds (by omega), Char.toNat_inj.1 (show c.toNat = d.toNat by omega)]

/-- The first entry of a text that has the given number. -/
def findCode (n : Nat) : List (List Char × List Char) → Option (List Char)
  | [] => none
  | (k, v) :: es => if Nat.beq (code k) n then some v else findCode n es

theorem findCode_eq (k : List Char) : ∀ es : List (List Char × List Char), findCode (code k) es = es.lookup k
  | [] => rfl
  | (a, v) :: es => by
    rw [findCode, List.lookup_cons, findCode_eq k es]
    by_cases h : k = a
    · rw [h, Nat.beq_refl, beq_self_eq_true]
      rfl
    · rw [beq_eq_false_iff_ne.2 h, if_neg fun h' => h (code_injective (Nat.eq_of_beq_eq_true h')).symm]

/-- The normal form of a surface text among entries, the last of which counts. -/
def lookupChars? (entries : List (List Char × List Char)) (surface : List Char) : Option (List Char) :=
  let es := entries.reverse
  let lower := Unicode.lowerFrom [] surface
  (findCode (code surface) es).or (if Nat.beq (code lower) (code surface) then none else findCode (code lower) es)

theorem lookupChars?_eq (entries : List (List Char × List Char)) (surface : List Char) :
    lookupChars? entries surface =
      (entries.reverse.lookup surface).or (entries.reverse.lookup (Unicode.lowerFrom [] surface)) := by
  rw [lookupChars?, findCode_eq, findCode_eq]
  split
  next h =>
    rw [code_injective (Nat.eq_of_beq_eq_true h)]
    cases entries.reverse.lookup surface <;> rfl
  next => rfl

theorem entriesOf_map_writeSection (function : List Char) : ∀ sections : List (List Char × List (List Char × List Char)),
    entriesOf (String.ofList function) (sections.map writeSection) = (entriesOf function sections).map writeEntry
  | [] => rfl
  | (f, es) :: sections => by
    rw [List.map_cons, show writeSection (f, es) = (String.ofList f, es.map writeEntry) from rfl, entriesOf_cons,
      entriesOf_cons, List.map_append, entriesOf_map_writeSection function sections]
    by_cases h : function = f
    · rw [if_pos (congrArg _ h), if_pos h]
    · rw [if_neg fun h' => h (String.ofList_injective h'), if_neg h, List.map_nil]

theorem find?_ofList (sections : List (List Char × List (List Char × List Char))) (function surface : List Char) :
    (ofSections (sections.map writeSection)).find? (String.ofList function) (String.ofList surface) =
      ((entriesOf function sections).reverse.lookup surface).map String.ofList := by
  rw [find?_ofSections, entriesOf_map_writeSection, ← List.map_reverse, Table.lookup_map_writeEntry]

theorem lookup_ofSections (sections : List (List Char × List (List Char × List Char))) (function surface : List Char) :
    (ofSections (sections.map writeSection)).lookup (String.ofList function) (String.ofList surface) =
      (lookupChars? (entriesOf function sections) surface).map String.ofList := by
  rw [lookup_eq, find?_ofList, show Unicode.lowercase (String.ofList surface) =
    String.ofList (Unicode.lowerFrom [] surface) by rw [Unicode.lowercase, String.toList_ofList], find?_ofList,
    lookupChars?_eq]
  cases (entriesOf function sections).reverse.lookup surface <;> rfl

end TemporalTagger.Normalization
