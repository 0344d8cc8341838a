/-
Tables from text to values, as association lists with one entry a key.
-/

namespace TemporalTagger

/-- A table; each key occurs once. -/
structure Table (α : Type) where
  entries : List (String × α)

namespace Table

variable {α : Type}

def empty : Table α := ⟨[]⟩

instance : Inhabited (Table α) := ⟨empty⟩

/-- The value of a key. -/
def get? (t : Table α) (key : String) : Option α := t.entries.lookup key

def contains (t : Table α) (key : String) : Bool := (t.get? key).isSome

/-- Replaces the value of a key where it stands, or adds it at the end. -/
def put (key : String) (value : α) : List (String × α) → List (String × α)
  | [] => [(key, value)]
  | (k, v) :: rest => if key == k then (k, value) :: rest else (k, v) :: put key value rest

/-- Adds an entry; an entry of the same key is replaced. -/
def insert (t : Table α) (key : String) (value : α) : Table α := ⟨put key value t.entries⟩

/-- The table of a list of entries, in which later ones replace earlier ones. -/
def ofList (entries : List (String × α)) : Table α :=
  entries.foldl (fun t (key, value) => t.insert key value) empty

def size (t : Table α) : Nat := t.entries.length

theorem lookup_cons_ite (k key : String) (value : α) (rest : List (String × α)) :
    List.lookup k ((key, value) :: rest) = if k = key then some value else rest.lookup k := by
  rw [List.lookup_cons]
  by_cases h : k = key
  · simp [h]
  · simp [h, beq_eq_false_iff_ne.mpr h]

theorem lookup_put (key : String) (value : α) (entries : List (String × α)) (k : String) :
    (put key value entries).lookup k = if k = key then some value else entries.lookup k := by
  induction entries with
  | nil => simp only [put, lookup_cons_ite, List.lookup_nil]
  | cons e rest ih =>
    obtain ⟨k', v⟩ := e
    simp only [put]
    split
    next heq =>
      obtain rfl := eq_of_beq heq
      simp only [lookup_cons_ite]
      split <;> rfl
    next hne =>
      simp only [lookup_cons_ite, ih]
      by_cases h : k = key
      · subst h
        have : k ≠ k' := by simpa using hne
        simp [this]
      · simp [h]

@[simp] theorem get?_empty (k : String) : (empty : Table α).get? k = none := rfl

/-- An entry is found under its own key, and no other key is touched. -/
theorem get?_insert (t : Table α) (key : String) (value : α) (k : String) :
    (t.insert key value).get? k = if k = key then some value else t.get? k :=
  lookup_put key value t.entries k

end Table

end TemporalTagger
