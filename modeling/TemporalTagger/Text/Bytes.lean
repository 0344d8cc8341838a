/-
Cutting texts at byte offsets. All offsets of the library count the bytes of the UTF-8 form, so a
cut can fall past the end of a text or inside a character; such a cut gives nothing. What a cut
gives is said in terms of the parts that a text is put together from.
-/
import TemporalTagger.Unicode.Classes

namespace TemporalTagger

/-- A range of bytes, from `start` up to `stop`. -/
structure Span where
  start : Nat
  stop : Nat
  deriving DecidableEq, Repr

namespace Text

/-! ## Lengths -/

/-- The number of bytes of a list of characters. -/
def byteLength (cs : List Char) : Nat := cs.foldr (fun c n => c.utf8Size + n) 0

@[simp] theorem byteLength_nil : byteLength [] = 0 := rfl

@[simp] theorem byteLength_cons (c : Char) (cs : List Char) :
    byteLength (c :: cs) = c.utf8Size + byteLength cs := rfl

@[simp] theorem byteLength_append (a b : List Char) :
    byteLength (a ++ b) = byteLength a + byteLength b := by
  induction a with
  | nil => simp
  | cons c a ih => simp [ih, Nat.add_assoc]

/-! ## Cuts -/

/-- The place in a text at a byte offset, if the offset is one between two characters. -/
def place? (s : String) (offset : Nat) : Option s.Pos :=
  if h : (String.Pos.Raw.mk offset).IsValid s then some (s.pos _ h) else none

/-- What lies before a byte offset. -/
def upTo? (s : String) (offset : Nat) : Option String :=
  (place? s offset).map fun p => (s.sliceTo p).copy

/-- What lies after a byte offset. -/
def from? (s : String) (offset : Nat) : Option String :=
  (place? s offset).map fun p => (s.sliceFrom p).copy

/-- The part of a text that a span covers. -/
def slice? (s : String) (span : Span) : Option String :=
  match place? s span.start, place? s span.stop with
  | some p, some q => if h : p ≤ q then some (s.slice p q h).copy else none
  | _, _ => none

theorem place?_eq_some_iff {s : String} {offset : Nat} {p : s.Pos} :
    place? s offset = some p ↔ p.offset.byteIdx = offset := by
  unfold place?
  split
  next h =>
    simp only [Option.some.injEq]
    constructor
    · rintro rfl; rfl
    · rintro rfl; exact String.Pos.ext rfl
  next h =>
    simp only [reduceCtorEq, false_iff]
    rintro rfl
    exact h p.isValid

theorem byteIdx_of_splits {s a b : String} {p : s.Pos} (h : p.Splits a b) :
    p.offset.byteIdx = a.utf8ByteSize :=
  congrArg String.Pos.Raw.byteIdx h.offset_eq_rawEndPos

/-- A text is cut off where a part of it of the right length ends. -/
theorem upTo?_eq_some_iff {s a : String} {offset : Nat} :
    upTo? s offset = some a ↔ ∃ b, s = a ++ b ∧ a.utf8ByteSize = offset := by
  simp only [upTo?, Option.map_eq_some_iff, place?_eq_some_iff]
  constructor
  · rintro ⟨p, rfl, rfl⟩
    exact ⟨_, p.splits.eq_append, (byteIdx_of_splits p.splits).symm⟩
  · rintro ⟨b, rfl, rfl⟩
    have h := @String.Pos.splits_append_rawEndPos a b
    exact ⟨_, rfl, h.copy_sliceTo_eq⟩

theorem from?_eq_some_iff {s b : String} {offset : Nat} :
    from? s offset = some b ↔ ∃ a, s = a ++ b ∧ a.utf8ByteSize = offset := by
  simp only [from?, Option.map_eq_some_iff, place?_eq_some_iff]
  constructor
  · rintro ⟨p, rfl, rfl⟩
    exact ⟨_, p.splits.eq_append, (byteIdx_of_splits p.splits).symm⟩
  · rintro ⟨a, rfl, rfl⟩
    have h := @String.Pos.splits_append_rawEndPos a b
    exact ⟨_, rfl, h.copy_sliceFrom_eq⟩

/-- A span covers a part when the part stands between two others of the right lengths. -/
theorem slice?_eq_some_iff {s t : String} {span : Span} :
    slice? s span = some t ↔
      ∃ a b, s = a ++ t ++ b ∧ a.utf8ByteSize = span.start ∧
        (a ++ t).utf8ByteSize = span.stop := by
  unfold slice?
  constructor
  · intro h
    split at h
    next p q hp hq =>
      split at h
      next hpq =>
        obtain ⟨a, b, h₁, h₂⟩ := String.copy_slice_eq_iff_splits.mp ⟨hpq, Option.some.inj h⟩
        rw [place?_eq_some_iff] at hp hq
        exact ⟨a, b, h₂.eq_append, (byteIdx_of_splits h₁).symm.trans hp,
          (byteIdx_of_splits h₂).symm.trans hq⟩
      next => simp at h
    next => simp at h
  · rintro ⟨a, b, rfl, h₁, h₂⟩
    have e : a ++ t ++ b = a ++ (t ++ b) := String.append_assoc
    have hp := String.Pos.splits_ofEqAppend e
    have hq := @String.Pos.splits_append_rawEndPos (a ++ t) b
    obtain ⟨hpq, h⟩ := String.copy_slice_eq_iff_splits.mpr ⟨_, _, hp, hq⟩
    rw [place?_eq_some_iff.mpr ((byteIdx_of_splits hp).trans h₁),
      place?_eq_some_iff.mpr ((byteIdx_of_splits hq).trans h₂)]
    simp [hpq, h]

end Text

end TemporalTagger
