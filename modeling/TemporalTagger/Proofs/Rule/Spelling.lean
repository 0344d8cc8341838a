/-
Texts as lists of characters. What is written out as a text is turned into its list once, and what is
read from the text is then computed from the list: entries of tables, variables in patterns, patterns.
Main fact: `Expansion.pattern_ofList`.
-/
import TemporalTagger.Rule.Compile
import Mathlib.Tactic

namespace TemporalTagger

open Text

/-! ## Spelled values -/

/-- A value with a form that writes it. -/
structure Spelled {α β : Type} (write : β → α) (a : α) where
  form : β
  eq : a = write form

/-- Writes both parts of an entry. -/
abbrev writeEntry : List Char × List Char → String × String := Prod.map String.ofList String.ofList

namespace Spelled

variable {α β α' β' : Type} {write : β → α} {write' : β' → α'}

def text {cs : List Char} : Spelled String.ofList (String.ofList cs) := ⟨cs, rfl⟩

def append {s t : String} (a : Spelled String.ofList s) (b : Spelled String.ofList t) : Spelled String.ofList (s ++ t) :=
  ⟨a.form ++ b.form, by rw [String.ofList_append, ← a.eq, ← b.eq]⟩

def pair {x : α} {y : α'} (a : Spelled write x) (b : Spelled write' y) : Spelled (Prod.map write write') (x, y) :=
  ⟨(a.form, b.form), by rw [Prod.map_apply, ← a.eq, ← b.eq]⟩

def nil : Spelled (List.map write) [] := ⟨[], rfl⟩

def cons {x : α} {xs : List α} (a : Spelled write x) (as : Spelled (List.map write) xs) :
    Spelled (List.map write) (x :: xs) :=
  ⟨a.form :: as.form, by rw [List.map_cons, ← a.eq, ← as.eq]⟩

def none : Spelled (Option.map write) .none := ⟨.none, rfl⟩

def some {x : α} (a : Spelled write x) : Spelled (Option.map write) (.some x) :=
  ⟨.some a.form, by rw [Option.map_some, ← a.eq]⟩

end Spelled

/-! ## Tables -/

namespace Table

theorem lookup_map_writeEntry (k : List Char) : ∀ es : List (List Char × List Char),
    (es.map writeEntry).lookup (String.ofList k) = (es.lookup k).map String.ofList
  | [] => rfl
  | (a, v) :: es => by
    rw [List.map_cons, show writeEntry (a, v) = (String.ofList a, String.ofList v) from rfl, List.lookup_cons,
      List.lookup_cons, lookup_map_writeEntry k es]
    by_cases h : k = a
    · simp [h]
    · rw [beq_eq_false_iff_ne.2 h, beq_eq_false_iff_ne.2 fun h' => h (String.ofList_injective h')]

variable {α : Type}

theorem get?_foldl_insert (k : String) : ∀ (es : List (String × α)) (t : Table α),
    (es.foldl (fun t (key, value) => t.insert key value) t).get? k = (es.reverse.lookup k).or (t.get? k)
  | [], _ => rfl
  | (a, v) :: es, t => by
    rw [List.foldl_cons, get?_foldl_insert k es, List.reverse_cons, List.lookup_append, Option.or_assoc, get?_insert,
      lookup_cons_ite, List.lookup_nil]
    split <;> rfl

/-- Of several entries of a key the last one counts. -/
theorem get?_ofList (es : List (String × α)) (k : String) : (ofList es).get? k = es.reverse.lookup k := by
  rw [ofList, get?_foldl_insert, get?_empty, Option.or_none]

theorem get?_ofList_map_writeEntry (es : List (List Char × List Char)) (k : List Char) :
    (ofList (es.map writeEntry)).get? (String.ofList k) = (es.reverse.lookup k).map String.ofList := by
  rw [get?_ofList, ← List.map_reverse, lookup_map_writeEntry]

end Table

/-! ## Patterns -/

namespace Regex

/-- Reads an expression from a list of characters. -/
def readChars? (cs : List Char) : Option Regex := do
  let whole ← whole? cs
  if whole.depth ≤ maxDepth && whole.size ≤ maxSize then some whole.form.unfold else none

theorem read?_ofList (cs : List Char) : read? (String.ofList cs) = readChars? cs := by
  rw [read?, String.toList_ofList]; rfl

end Regex

namespace Expansion

/-- Expands a pattern whose variables are all known; of several values of a variable the last counts. -/
def expandChars? (vars : List (List Char × List Char)) (cs : List Char) : Option (List Char) :=
  let pieces := scan reference? cs
  let value? (name : List Char) : Option (List Char) := vars.reverse.lookup name
  if (found pieces).all fun name => (value? name).isSome then
    some (widen (render (fun name => (value? name).getD []) pieces))
  else none

/-- Expands and reads a pattern: its source and its expression. -/
def readChars? (vars : List (List Char × List Char)) (cs : List Char) : Option (List Char × Regex) := do
  let source ← expandChars? vars cs
  let r ← Regex.readChars? source
  some (source, r)

theorem expand_ofList {vars : List (List Char × List Char)} {cs source : List Char}
    (h : expandChars? vars cs = some source) (rule : String) :
    expand rule (String.ofList cs) (Table.ofList (vars.map writeEntry)) = .ok (String.ofList source) := by
  unfold expandChars? at h
  simp only at h
  split at h
  next hall =>
    obtain rfl := Option.some.inj h
    have hknown : ((found (scan reference? cs)).map String.ofList).find?
        (!(Table.ofList (vars.map writeEntry)).contains ·) = none := by
      rw [List.find?_eq_none]
      intro name hname
      obtain ⟨cs, hcs, rfl⟩ := List.mem_map.1 hname
      rw [Table.contains, Table.get?_ofList_map_writeEntry, Option.isSome_map, List.all_eq_true.1 hall cs hcs]
      exact Bool.false_ne_true
    have hvalue : (fun name => (((Table.ofList (vars.map writeEntry)).get? (String.ofList name)).getD "").toList) =
        fun name => (vars.reverse.lookup name).getD [] := by
      funext name
      rw [Table.get?_ofList_map_writeEntry]
      cases vars.reverse.lookup name <;> simp
    unfold expand
    simp only [String.toList_ofList, hknown, hvalue]
  next => cases h

theorem pattern_ofList {vars : List (List Char × List Char)} {cs source : List Char} {r : Regex}
    (h : readChars? vars cs = some (source, r)) (rule : String) :
    pattern rule (String.ofList cs) (Table.ofList (vars.map writeEntry)) =
      .ok (Pattern.ofRegex (String.ofList source) r) := by
  obtain ⟨source', hsource, h⟩ := Option.bind_eq_some_iff.1 h
  obtain ⟨r', hr, h⟩ := Option.bind_eq_some_iff.1 h
  obtain ⟨rfl, rfl⟩ := Prod.mk.inj (Option.some.inj h)
  have hp : Pattern.ofText? (String.ofList source') = some (Pattern.ofRegex (String.ofList source') r') := by
    rw [Pattern.ofText?, Regex.read?_ofList, hr, Option.map_some]
  simp only [pattern, expand_ofList hsource, bind, Except.bind, hp]

end Expansion

/-! ## Rule lines -/

/-- The texts of a rule line that its patterns and its value are made of. -/
structure RuleLine.Spelled (line : RuleLine) where
  extraction : TemporalTagger.Spelled String.ofList line.extraction
  value : TemporalTagger.Spelled String.ofList line.value
  fastCheck : TemporalTagger.Spelled (Option.map String.ofList) line.fastCheck

end TemporalTagger
