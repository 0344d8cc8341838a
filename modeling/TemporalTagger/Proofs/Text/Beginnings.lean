/-
Fixed beginnings of texts, and separators: which texts a beginning is cut off, and what a text holds that
is cut at a separator.
-/
import TemporalTagger.Text.Scan

namespace TemporalTagger.Text

theorem after?_append (a rest : List Char) : after? a (a ++ rest) = some rest := by
  rw [after?, if_pos (List.isPrefixOf_iff_prefix.2 (List.prefix_append a rest)), List.drop_left]

theorem after?_eq_some_iff {a cs rest : List Char} : after? a cs = some rest ↔ cs = a ++ rest := by
  refine ⟨fun h => ?_, fun h => by rw [h, after?_append]⟩
  unfold after? at h
  split at h
  next hp =>
    obtain ⟨t, rfl⟩ := List.isPrefixOf_iff_prefix.1 hp
    rw [List.drop_left] at h
    rw [Option.some.inj h]
  next => cases h

/-- A text that is cut at a separator holds the separator's first character. -/
theorem mem_of_cutAt? {c : Char} {sep : List Char} : ∀ {cs : List Char}, (cutAt? (c :: sep) cs).isSome = true → c ∈ cs
  | [], h => by cases h
  | d :: cs, h => by
    rw [cutAt?] at h
    split at h
    next rest hafter =>
      obtain ⟨rfl, -⟩ := List.cons.inj (after?_eq_some_iff.1 hafter)
      exact List.mem_cons_self
    next => exact List.mem_cons_of_mem d (mem_of_cutAt? (by simpa using h))

theorem eq_append_of_cutAt? {sep : List Char} : ∀ {cs a b : List Char}, cutAt? sep cs = some (a, b) → cs = a ++ sep ++ b
  | [], a, b, h => by
    rw [cutAt?] at h
    split at h
    next hsep =>
      cases h
      rw [List.isEmpty_iff.1 hsep]
      rfl
    next => cases h
  | c :: cs, a, b, h => by
    rw [cutAt?] at h
    split at h
    next rest hrest =>
      cases h
      exact after?_eq_some_iff.1 hrest
    next =>
      obtain ⟨⟨a', b'⟩, hcut, hab⟩ := Option.map_eq_some_iff.1 h
      obtain ⟨rfl, rfl⟩ := Prod.mk.inj hab
      rw [eq_append_of_cutAt? hcut]
      rfl

/-- What is cut off at a character does not hold it. -/
theorem not_mem_of_cutAt? {c : Char} : ∀ {cs a b : List Char}, cutAt? [c] cs = some (a, b) → c ∉ a
  | [], _, _, h => by cases h
  | d :: cs, a, b, h => by
    rw [cutAt?] at h
    split at h
    next =>
      cases h
      exact List.not_mem_nil
    next hafter =>
      obtain ⟨⟨a', b'⟩, hcut, hab⟩ := Option.map_eq_some_iff.1 h
      obtain ⟨rfl, rfl⟩ := Prod.mk.inj hab
      refine List.not_mem_cons_of_ne_of_not_mem ?_ (not_mem_of_cutAt? hcut)
      rintro rfl
      rw [after?_eq_some_iff.2 (List.singleton_append.symm : c :: cs = [c] ++ cs)] at hafter
      cases hafter

/-- A text with a separator is cut there or before. -/
theorem exists_cutAt?_append (sep b : List Char) : ∀ a : List Char,
    ∃ a' b', cutAt? sep (a ++ (sep ++ b)) = some (a', b') ∧ b <:+ b'
  | [] => by
    rw [List.nil_append]
    cases hcs : sep ++ b with
    | nil =>
      obtain ⟨rfl, rfl⟩ := List.append_eq_nil_iff.1 hcs
      exact ⟨[], [], rfl, List.suffix_refl _⟩
    | cons c cs =>
      have hafter : after? sep (c :: cs) = some b := after?_eq_some_iff.2 hcs.symm
      exact ⟨[], b, by rw [cutAt?, hafter], List.suffix_refl _⟩
  | c :: a => by
    rw [List.cons_append, cutAt?]
    cases hafter : after? sep (c :: (a ++ (sep ++ b))) with
    | none =>
      obtain ⟨a', b', hcut, hb⟩ := exists_cutAt?_append sep b a
      exact ⟨c :: a', b', by rw [hcut, Option.map_some], hb⟩
    | some rest =>
      refine ⟨[], rest, rfl, ?_⟩
      have hsplit := after?_eq_some_iff.1 hafter
      -- the separator stands in front, and what follows it ends in what follows the later one
      have hlength := congrArg List.length hsplit
      simp only [List.length_cons, List.length_append] at hlength
      have hb : b <:+ sep ++ rest := hsplit ▸ ⟨c :: (a ++ sep), by simp⟩
      exact List.suffix_of_suffix_length_le hb (List.suffix_append sep rest) (by omega)

/-- A text is cut at a separator whose first character does not stand before it. -/
theorem cutAt?_append {c : Char} {sep b : List Char} (hsep : sep.head? = some c) : ∀ {a : List Char}, c ∉ a →
    cutAt? sep (a ++ (sep ++ b)) = some (a, b)
  | [], _ => by
    obtain ⟨sep, rfl⟩ := List.head?_eq_some_iff.1 hsep
    rw [List.nil_append, List.cons_append, cutAt?, ← List.cons_append, after?_append]
  | d :: a, h => by
    obtain ⟨hne, ha⟩ := List.ne_and_not_mem_of_not_mem_cons h
    have hafter : after? sep (d :: (a ++ (sep ++ b))) = none := by
      refine if_neg ?_
      intro hp
      obtain ⟨t, ht⟩ := List.isPrefixOf_iff_prefix.1 hp
      obtain ⟨sep, rfl⟩ := List.head?_eq_some_iff.1 hsep
      exact hne (List.cons.inj ht).1
    rw [List.cons_append, cutAt?, hafter, cutAt?_append hsep ha]
    rfl

theorem cutAt?_append_cons {c : Char} {a : List Char} (h : c ∉ a) (b : List Char) :
    cutAt? [c] (a ++ c :: b) = some (a, b) := @cutAt?_append c [c] b rfl a h

end TemporalTagger.Text
