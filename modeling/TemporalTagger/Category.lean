/-
The kinds of time expressions, in order of priority, and sets of them.
-/

namespace TemporalTagger

/-- The kind of a time expression. Rules of an earlier kind come before those of a later one. -/
inductive Category
  | date
  | time
  | duration
  | set
  | temponym
  deriving DecidableEq, Repr

namespace Category

/-- All categories, the one of highest priority first. -/
def all : List Category := [date, time, duration, set, temponym]

theorem mem_all (c : Category) : c ∈ all := by cases c <;> decide

def name : Category → String
  | date => "DATE"
  | time => "TIME"
  | duration => "DURATION"
  | set => "SET"
  | temponym => "TEMPONYM"

/-- The name of the resource that holds the rules of the category. -/
def resourceName : Category → String
  | date => "daterules"
  | time => "timerules"
  | duration => "durationrules"
  | set => "setrules"
  | temponym => "temponymrules"

/-- The place in the order of priority. -/
def rank : Category → Nat
  | date => 0
  | time => 1
  | duration => 2
  | set => 3
  | temponym => 4

theorem rank_inj {a b : Category} : a.rank = b.rank ↔ a = b := by cases a <;> cases b <;> decide

/-- The category of a name. -/
def ofName? (s : String) : Option Category := all.find? (·.name == s)

end Category

/-- A set of categories. -/
structure CategorySet where
  has : Category → Bool

namespace CategorySet

/-- The set of the listed categories. -/
def ofList (cs : List Category) : CategorySet := ⟨fun c => cs.contains c⟩

/-- The categories that are tagged unless others are asked for: all but temponyms. -/
def default : CategorySet := ⟨fun c => c != .temponym⟩

/-- The members, by priority. -/
def toList (s : CategorySet) : List Category := Category.all.filter s.has

/-- The members as bits, the category of highest priority in the lowest bit. -/
def bits (s : CategorySet) : Nat := s.toList.foldl (fun n c => n ||| 1 <<< c.rank) 0

/-- Whether every category is in the set. -/
def isAll (s : CategorySet) : Bool := Category.all.all s.has

/-- Whether `t` lies in `s`. -/
def includes (s t : CategorySet) : Bool := Category.all.all fun c => !t.has c || s.has c

/-- The members of `s` that are not in `t`. -/
def minus (s t : CategorySet) : CategorySet := ⟨fun c => s.has c && !t.has c⟩

end CategorySet

end TemporalTagger
