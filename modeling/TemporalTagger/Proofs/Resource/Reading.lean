/-
Reading resources. The lines of a resource are taken in turn, and the first one that is refused is reported with its
number; so a resource is read exactly if every content line of it fits, and else the report is about the first one
that does not. What is read is put into a table, in which no key stands twice. Main fact: `readLines_contentLines`.
-/
import TemporalTagger.Error
import TemporalTagger.Proofs.Text.Lines
import TemporalTagger.Table

namespace TemporalTagger

/-! ## Tables -/

namespace Table

variable {α : Type}

/-- A table is that of a map: each key of it stands there once, with its value. -/
structure Holds (t : Table α) (m : String → Option α) : Prop where
  keys : (t.entries.map Prod.fst).Nodup
  value : ∀ key, t.get? key = m key

theorem map_fst_put (key : String) (value : α) : ∀ es : List (String × α),
    (put key value es).map Prod.fst = if key ∈ es.map Prod.fst then es.map Prod.fst else es.map Prod.fst ++ [key]
  | [] => rfl
  | (k, v) :: es => by
    rw [put]
    by_cases hk : key = k
    · simp [hk]
    · rw [if_neg (by simpa using hk), List.map_cons, map_fst_put key value es]
      simp only [List.map_cons, List.mem_cons, hk, false_or]
      split <;> rfl

theorem nodup_insert {t : Table α} (h : (t.entries.map Prod.fst).Nodup) (key : String) (value : α) :
    ((t.insert key value).entries.map Prod.fst).Nodup := by
  rw [insert, map_fst_put]
  split
  next => exact h
  next hnew => exact List.nodup_append.2 ⟨h, List.nodup_singleton key, by
    rintro k hk _ hkey rfl
    exact hnew (List.mem_singleton.1 hkey ▸ hk)⟩

theorem nodup_ofList (es : List (String × α)) : ((ofList es).entries.map Prod.fst).Nodup := by
  rw [ofList]
  refine List.foldlRecOn (motive := fun t : Table α => (t.entries.map Prod.fst).Nodup) es _ List.nodup_nil ?_
  exact fun t ht e _ => nodup_insert ht e.1 e.2

end Table

namespace Resource

open Text

/-! ## Lines in turn -/

section

variable {σ : Type} (step : σ → List Char → Except ResourceFault σ) (resource : String)

/-- Takes numbered lines in turn. -/
def readLines (s : σ) : List (Nat × List Char) → Except TaggerError σ
  | [] => .ok s
  | (number, line) :: rest =>
    match step s line with
    | .ok s => readLines s rest
    | .error fault => .error (.invalidResource resource number fault)

/-- Lines are all taken, or the first one that is refused is reported. -/
theorem readLines_cases : ∀ (s : σ) (ls : List (Nat × List Char)),
    (∃ s', (ls.map Prod.snd).foldlM step s = .ok s' ∧ readLines step resource s ls = .ok s') ∨
      ∃ pre number line post s' fault, ls = pre ++ (number, line) :: post ∧
        (pre.map Prod.snd).foldlM step s = .ok s' ∧ step s' line = .error fault ∧
        readLines step resource s ls = .error (.invalidResource resource number fault)
  | s, [] => .inl ⟨s, rfl, rfl⟩
  | s, (number, line) :: rest => by
    cases hstep : step s line with
    | error fault =>
      exact .inr ⟨[], number, line, rest, s, fault, rfl, rfl, hstep, by rw [readLines, hstep]⟩
    | ok s₁ =>
      have hfold : ∀ ls : List (Nat × List Char),
          (((number, line) :: ls).map Prod.snd).foldlM step s = (ls.map Prod.snd).foldlM step s₁ := by
        intro ls
        rw [List.map_cons, List.foldlM_cons, hstep]
        rfl
      have hread : readLines step resource s ((number, line) :: rest) = readLines step resource s₁ rest := by
        rw [readLines, hstep]
      rcases readLines_cases s₁ rest with ⟨s', hrun, hok⟩ | ⟨pre, n, l, post, s', fault, rfl, hrun, hbad, herror⟩
      · exact .inl ⟨s', by rw [hfold, hrun], by rw [hread, hok]⟩
      · exact .inr ⟨(number, line) :: pre, n, l, post, s', fault, rfl, by rw [hfold, hrun], hbad, by rw [hread, herror]⟩

theorem readLines_of_foldlM {s s' : σ} {ls : List (Nat × List Char)}
    (h : (ls.map Prod.snd).foldlM step s = .ok s') : readLines step resource s ls = .ok s' := by
  rcases readLines_cases step resource s ls with
    ⟨s'', hrun, hok⟩ | ⟨pre, number, line, post, s'', fault, rfl, hrun, hbad, -⟩
  · rw [hok, Except.ok.inj (hrun.symm.trans h)]
  · rw [List.map_append, List.foldlM_append, hrun, List.map_cons] at h
    change ((line :: post.map Prod.snd).foldlM step s'' : Except ResourceFault σ) = .ok s' at h
    rw [List.foldlM_cons, hbad] at h
    cases h

end

/-! ## Lines that fit -/

/-- The first content line of a text that does not fit. -/
structure FirstMisfit (text : String) (Fits : Nat → List Char → Prop) (number : Nat) (line : List Char) : Prop where
  hasLine : HasLine text number line
  misfit : ¬ Fits number line
  before : ∀ m l, m < number → HasLine text m l → Fits m l

theorem FirstMisfit.unique {text : String} {Fits : Nat → List Char → Prop} {m n : Nat} {l l' : List Char}
    (h : FirstMisfit text Fits m l) (h' : FirstMisfit text Fits n l') : m = n ∧ l = l' := by
  rcases lt_trichotomy m n with hlt | rfl | hlt
  · exact absurd (h'.before m l hlt h.hasLine) h.misfit
  · exact ⟨rfl, h.hasLine.unique h'.hasLine⟩
  · exact absurd (h.before n l' hlt h'.hasLine) h'.misfit

section

variable {σ : Type} {step : σ → List Char → Except ResourceFault σ} {s : σ} {text : String}
  {Fits : Nat → List Char → Prop} {fault : List Char → ResourceFault}

/-- What stands before a content line are those of smaller numbers. -/
theorem mem_before_iff {pre post : List (Nat × List Char)} {number : Nat} {line : List Char}
    (htext : contentLines text = pre ++ (number, line) :: post) {m : Nat} {l : List Char} :
    (m, l) ∈ pre ↔ m < number ∧ HasLine text m l := by
  have hordered := contentLines_pairwise text
  rw [htext, List.pairwise_append, List.pairwise_cons] at hordered
  obtain ⟨-, ⟨hafter, -⟩, hbefore⟩ := hordered
  rw [← mem_contentLines_iff, htext, List.mem_append, List.mem_cons]
  constructor
  · exact fun hpre => ⟨hbefore _ hpre _ List.mem_cons_self, .inl hpre⟩
  · rintro ⟨hlt, hpre | heq | hpost⟩
    · exact hpre
    · exact absurd hlt (Prod.mk.inj heq).1.not_lt
    · exact absurd hlt (hafter _ hpost).asymm

variable (hstep : ∀ pre number line post s', contentLines text = pre ++ (number, line) :: post →
  (pre.map Prod.snd).foldlM step s = .ok s' →
    (∃ s'', step s' line = .ok s'') ∧ Fits number line ∨ step s' line = .error (fault line) ∧ ¬ Fits number line)

include hstep

/-- Lines that are all taken fit. -/
theorem fits_of_run {pre post : List (Nat × List Char)} {s' : σ} (htext : contentLines text = pre ++ post)
    (hrun : (pre.map Prod.snd).foldlM step s = .ok s') : ∀ x ∈ pre, Fits x.1 x.2 := by
  intro x hx
  obtain ⟨a, b, rfl⟩ := List.append_of_mem hx
  rw [List.map_append, List.foldlM_append] at hrun
  cases ha : (a.map Prod.snd).foldlM step s with
  | error e => rw [ha] at hrun; cases hrun
  | ok s₁ =>
    have hsplit : contentLines text = a ++ x :: (b ++ post) := by rw [htext, List.append_assoc, List.cons_append]
    rcases hstep a x.1 x.2 (b ++ post) s₁ hsplit ha with ⟨-, hfits⟩ | ⟨hbad, -⟩
    · exact hfits
    · rw [ha, List.map_cons, show ∀ f, (Except.ok s₁ : Except ResourceFault σ) >>= f = f s₁ from fun _ => rfl,
        List.foldlM_cons, hbad] at hrun
      cases hrun

/-- A text is read exactly if all its content lines fit, and else the first one that does not is reported. -/
theorem readLines_contentLines (resource : String) :
    ((∃ s', readLines step resource s (contentLines text) = .ok s') ↔
        ∀ number line, HasLine text number line → Fits number line) ∧
      ∀ e, readLines step resource s (contentLines text) = .error e ↔
        ∃ number line, FirstMisfit text Fits number line ∧ e = .invalidResource resource number (fault line) := by
  rcases readLines_cases step resource s (contentLines text) with
    ⟨s', hrun, hok⟩ | ⟨pre, number, line, post, s', f, htext, hrun, hbad, herror⟩
  · have hfits : ∀ number line, HasLine text number line → Fits number line := fun number line hl =>
      fits_of_run hstep (List.append_nil _).symm hrun _ (mem_contentLines_iff.2 hl)
    refine ⟨⟨fun _ => hfits, fun _ => ⟨s', hok⟩⟩, fun e => ⟨fun h => ?_, ?_⟩⟩
    · rw [hok] at h
      cases h
    · rintro ⟨number, line, hfirst, -⟩
      exact absurd (hfits number line hfirst.hasLine) hfirst.misfit
  · have hline : HasLine text number line :=
      mem_contentLines_iff.1 (htext ▸ List.mem_append_right pre List.mem_cons_self)
    obtain ⟨hfault, hmisfit⟩ : step s' line = .error (fault line) ∧ ¬ Fits number line := by
      refine (hstep pre number line post s' htext hrun).resolve_left ?_
      rintro ⟨⟨s'', hok⟩, -⟩
      rw [hbad] at hok
      cases hok
    obtain rfl : f = fault line := Except.error.inj (hbad.symm.trans hfault)
    have hfirst : FirstMisfit text Fits number line :=
      ⟨hline, hmisfit, fun m l hlt hl => fits_of_run hstep htext hrun _ ((mem_before_iff htext).2 ⟨hlt, hl⟩)⟩
    refine ⟨⟨?_, fun h => absurd (h number line hline) hmisfit⟩, fun e => ⟨fun h => ?_, ?_⟩⟩
    · rintro ⟨s'', hok⟩
      rw [herror] at hok
      cases hok
    · exact ⟨number, line, hfirst, Except.error.inj (h.symm.trans herror)⟩
    · rintro ⟨number', line', hfirst', rfl⟩
      obtain ⟨rfl, rfl⟩ := hfirst.unique hfirst'
      exact herror

end

end Resource

end TemporalTagger
