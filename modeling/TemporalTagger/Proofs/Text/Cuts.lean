/-
The offsets between two characters of a text, over lists of characters: where one lies, that a text
is cut there, and that two of them in order cut out a part.
-/
import TemporalTagger.Text.Bytes
import Mathlib.Tactic

namespace TemporalTagger.Text

theorem byteLength_ofList (cs : List Char) : (String.ofList cs).utf8ByteSize = byteLength cs := by
  induction cs with
  | nil => rfl
  | cons c cs ih =>
    rw [← List.singleton_append, String.ofList_append, String.utf8ByteSize_append, ih, byteLength_append,
      ← String.singleton_eq_ofList, String.utf8ByteSize_singleton]
    rfl

theorem byteLength_toList (s : String) : byteLength s.toList = s.utf8ByteSize := by
  rw [← byteLength_ofList, String.ofList_toList]

theorem byteLength_pos {cs : List Char} (h : cs ≠ []) : 0 < byteLength cs := by
  cases cs with
  | nil => exact absurd rfl h
  | cons c cs => have := c.utf8Size_pos; rw [byteLength_cons]; omega

theorem byteLength_eq_zero {cs : List Char} : byteLength cs = 0 ↔ cs = [] := by
  refine ⟨fun h => ?_, fun h => by rw [h, byteLength_nil]⟩
  by_contra hc
  have := byteLength_pos hc
  omega

/-- An offset lies between two characters of a text, or at one of its ends. -/
def IsCut (text : List Char) (offset : Nat) : Prop := ∃ t, t <+: text ∧ byteLength t = offset

theorem IsCut.le {text : List Char} {offset : Nat} (h : IsCut text offset) : offset ≤ byteLength text := by
  obtain ⟨t, ⟨s, rfl⟩, rfl⟩ := h
  rw [byteLength_append]; omega

/-- Of two beginnings of a text the shorter one is a beginning of the other. -/
theorem isPrefix_of_byteLength_le {s t text : List Char} (hs : s <+: text) (ht : t <+: text)
    (hle : byteLength s ≤ byteLength t) : s <+: t := by
  rcases List.prefix_or_prefix_of_prefix hs ht with h | ⟨u, rfl⟩
  · exact h
  · rw [byteLength_append] at hle
    obtain rfl := byteLength_eq_zero.1 (show byteLength u = 0 by omega)
    exact ⟨[], by simp⟩

theorem eq_of_byteLength_eq {s t text : List Char} (hs : s <+: text) (ht : t <+: text)
    (heq : byteLength s = byteLength t) : s = t :=
  (isPrefix_of_byteLength_le hs ht heq.le).eq_of_length_le (isPrefix_of_byteLength_le ht hs heq.ge).length_le

/-- Two cuts in order have a part between them. -/
theorem IsCut.between {text : List Char} {a b : Nat} (ha : IsCut text a) (hb : IsCut text b) (hab : a ≤ b) :
    ∃ pre mid post, text = pre ++ mid ++ post ∧ byteLength pre = a ∧ byteLength (pre ++ mid) = b := by
  obtain ⟨s, hs, rfl⟩ := ha
  obtain ⟨t, ht, rfl⟩ := hb
  obtain ⟨mid, rfl⟩ := isPrefix_of_byteLength_le hs ht hab
  obtain ⟨post, rfl⟩ := ht
  exact ⟨s, mid, post, rfl, rfl, rfl⟩

theorem slice?_ofList (pre mid post : List Char) :
    slice? (String.ofList (pre ++ mid ++ post)) ⟨byteLength pre, byteLength (pre ++ mid)⟩ =
      some (String.ofList mid) :=
  slice?_eq_some_iff.2 ⟨String.ofList pre, String.ofList post, by rw [String.ofList_append, String.ofList_append],
    byteLength_ofList pre, by rw [← String.ofList_append, byteLength_ofList]⟩

theorem slice?_of_isCut {s : String} {span : Span} (ha : IsCut s.toList span.start)
    (hb : IsCut s.toList span.stop) (hab : span.start ≤ span.stop) :
    ∃ pre mid post, s = String.ofList (pre ++ mid ++ post) ∧ span = ⟨byteLength pre, byteLength (pre ++ mid)⟩ ∧
      slice? s span = some (String.ofList mid) := by
  obtain ⟨pre, mid, post, hs, h₁, h₂⟩ := ha.between hb hab
  have hs : s = String.ofList (pre ++ mid ++ post) := by rw [← hs, String.ofList_toList]
  have hspan : span = ⟨byteLength pre, byteLength (pre ++ mid)⟩ := by rw [h₁, h₂]
  exact ⟨pre, mid, post, hs, hspan, by rw [hs, hspan, slice?_ofList]⟩

/-- What a span covers stands between two parts of the text. -/
theorem exists_parts_of_slice? {s t : String} {span : Span} (h : slice? s span = some t) :
    ∃ pre post, s = String.ofList (pre ++ t.toList ++ post) ∧ span = ⟨byteLength pre, byteLength (pre ++ t.toList)⟩ := by
  obtain ⟨a, b, rfl, hstart, hstop⟩ := slice?_eq_some_iff.1 h
  refine ⟨a.toList, b.toList, ?_, ?_⟩
  · rw [← String.toList_append, ← String.toList_append, String.ofList_toList]
  · rw [← String.toList_append, byteLength_toList, byteLength_toList, hstart, hstop]

/-- The sides of a part of a text. -/
theorem upTo?_part (pre mid post : List Char) :
    upTo? (String.ofList (pre ++ mid ++ post)) (byteLength pre) = some (String.ofList pre) :=
  upTo?_eq_some_iff.2 ⟨String.ofList (mid ++ post), by rw [← String.ofList_append, List.append_assoc],
    byteLength_ofList pre⟩

theorem from?_part (pre mid post : List Char) :
    from? (String.ofList (pre ++ mid ++ post)) (byteLength (pre ++ mid)) = some (String.ofList post) :=
  from?_eq_some_iff.2 ⟨String.ofList (pre ++ mid), by rw [← String.ofList_append], byteLength_ofList _⟩

theorem isCut_of_upTo? {s a : String} {offset : Nat} (h : upTo? s offset = some a) : IsCut s.toList offset := by
  obtain ⟨b, rfl, rfl⟩ := upTo?_eq_some_iff.1 h
  exact ⟨a.toList, by rw [String.toList_append]; exact List.prefix_append _ _, byteLength_toList a⟩

theorem isCut_of_from? {s b : String} {offset : Nat} (h : from? s offset = some b) : IsCut s.toList offset := by
  obtain ⟨a, rfl, rfl⟩ := from?_eq_some_iff.1 h
  exact ⟨a.toList, by rw [String.toList_append]; exact List.prefix_append _ _, byteLength_toList a⟩

theorem upTo?_isSome {s : String} {offset : Nat} (h : IsCut s.toList offset) :
    (upTo? s offset).isSome = true := by
  obtain ⟨t, ⟨u, hu⟩, ht⟩ := h
  have : upTo? s offset = some (String.ofList t) := upTo?_eq_some_iff.2
    ⟨String.ofList u, by rw [← String.ofList_append, hu, String.ofList_toList], by rw [byteLength_ofList, ht]⟩
  rw [this, Option.isSome_some]

theorem place?_isSome {s : String} {offset : Nat} (h : IsCut s.toList offset) :
    (place? s offset).isSome = true := by
  rw [← upTo?_isSome h, upTo?, Option.isSome_map]

theorem from?_isSome {s : String} {offset : Nat} (h : IsCut s.toList offset) :
    (from? s offset).isSome = true := by
  rw [from?, Option.isSome_map]; exact place?_isSome h

end TemporalTagger.Text
