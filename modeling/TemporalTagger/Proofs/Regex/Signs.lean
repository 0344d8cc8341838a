/-
Reading a text sign by sign. A sign is read the same whatever comes after it, as long as it takes in no more, so what a
text is read as can be followed through a longer text or one that is changed between its signs. Main facts:
`sign?_local` and `Scans.readAll`.
-/
import TemporalTagger.Proofs.Regex.Classes

namespace TemporalTagger.Regex

variable {fl : Flags} {rest : List Char}

/-! ## Signs -/

theorem repetition_eq (min : Nat) (max : Option Nat) (h : asksForFew rest = false) :
    repetition min max rest = (.repetition min max true, rest) := by
  unfold repetition
  split
  next => cases h
  next => rfl

/-- A repetition takes in the question mark after it. -/
theorem repetition_local (min : Nat) (max : Option Nat) : Local Seam fun cs => some (repetition min max cs) := by
  intro cs sign rest h
  have h := Option.some.inj h
  cases hfew : asksForFew cs with
  | true =>
    obtain ⟨r, rfl⟩ := List.head?_eq_some_iff.1 (beq_iff_eq.1 hfew)
    cases h
    exact ⟨['?'], rfl, fun rest' _ => rfl⟩
  | false =>
    rw [repetition_eq min max hfew] at h
    cases h
    refine ⟨[], rfl, fun rest' hrest => congrArg some (repetition_eq min max ?_)⟩
    exact Bool.eq_false_iff.2 fun hfew' => Bool.eq_false_iff.1 hfew (hrest.few hfew')

theorem countedRepetition_local (hfl : fl.spaced = false) :
    Local Seam fun cs => (counted fl cs).map fun ((min, max), rest) => repetition min max rest := by
  intro cs sign rest h
  obtain ⟨⟨⟨min, max⟩, r⟩, hread, h⟩ := Option.map_eq_some_iff.1 h
  obtain ⟨y, rfl, hy⟩ := repetition_local min max (congrArg some h)
  obtain ⟨x, rfl, hx⟩ := counted_local hfl (S := fun _ _ => True) hread
  refine ⟨x ++ y, by rw [List.append_assoc], fun rest' hrest => ?_⟩
  rw [List.append_assoc]
  simp only [hx _ trivial, Option.map_some]
  exact hy rest' hrest

/-- A character that has no meaning of its own. -/
def isLiteral (c : Char) : Bool := c ∉ ['(', ')', '|', '[', '?', '*', '+', '\x7b', '\\', '.', '^', '$']

theorem sign?_of_isLiteral {c : Char} (h : isLiteral c = true) (cs : List Char) :
    sign? fl (c :: cs) = some (.part (charPiece fl c), cs) := by
  simp only [isLiteral, List.mem_cons, List.not_mem_nil, or_false, not_or, decide_eq_true_eq] at h
  simp [sign?, h]

theorem sign?_local (hfl : fl.spaced = false) : LocalCons Seam (sign? fl) := by
  refine .of_cons rfl fun c => ?_
  by_cases hc : isLiteral c = true
  · exact ⟨_, .pure (some (.part (charPiece fl c))), sign?_of_isLiteral hc⟩
  · have hmem : c ∈ ['(', ')', '|', '[', '?', '*', '+', '\x7b', '\\', '.', '^', '$'] := by
      simpa only [isLiteral, decide_not, Bool.not_eq_true', decide_eq_false_iff_not, not_not] using hc
    simp only [List.mem_cons, List.not_mem_nil, or_false] at hmem
    rcases hmem with rfl | rfl | rfl | rfl | rfl | rfl | rfl | rfl | rfl | rfl | rfl | rfl
    · exact ⟨_, opening?_local hfl, fun _ => rfl⟩
    · exact ⟨_, .pure (some .stop), fun _ => rfl⟩
    · exact ⟨_, .pure (some .bar), fun _ => rfl⟩
    · exact ⟨_, (readClass_local hfl).map fun s => .part ⟨.ofSet s.chars, s.depth, s.chars.size, false⟩, fun _ => rfl⟩
    · exact ⟨_, repetition_local 0 (some 1), fun _ => rfl⟩
    · exact ⟨_, repetition_local 0 none, fun _ => rfl⟩
    · exact ⟨_, repetition_local 1 none, fun _ => rfl⟩
    · exact ⟨_, countedRepetition_local hfl, fun _ => rfl⟩
    · exact ⟨_, (escape_local hfl).toLocal.map fun atom => .part (atomPiece fl atom), fun _ => rfl⟩
    · exact ⟨_, .pure ((dotPiece fl).map .part), fun cs => by rw [sign?, Option.map_map]; rfl⟩
    · exact ⟨_, .pure (some (.part (lookPiece (if fl.multiLine then .lineStart fl.crlf else .textStart)))),
        fun _ => rfl⟩
    · exact ⟨_, .pure (some (.part (lookPiece (if fl.multiLine then .lineEnd fl.crlf else .textEnd)))), fun _ => rfl⟩

/-! ## Reading a text -/

/-- What may be asked of a step of the reader: of the states before and after it, and of what is left to read. -/
abbrev StepProperty := ReaderState → List Char → ReaderState → List Char → Prop

/-- From one state and text the reader comes to another sign by sign. Blanks are not free on the way, and each step has
the property. -/
inductive Scans (P : StepProperty) : ReaderState → List Char → ReaderState → List Char → Prop
  | done {st : ReaderState} {cs : List Char} : Scans P st cs st cs
  | step {st st₁ st₂ : ReaderState} {sign : Sign} {cs cs₁ cs₂ : List Char} (hfl : st.level.flags.spaced = false)
    (hsign : sign? st.level.flags cs = some (sign, cs₁)) (htake : st.take sign = some st₁) (hP : P st cs st₁ cs₁)
    (hrest : Scans P st₁ cs₁ st₂ cs₂) : Scans P st cs st₂ cs₂

namespace Scans

variable {P : StepProperty} {st st₁ st₂ : ReaderState} {cs cs₁ cs₂ : List Char}

theorem trans (h : Scans P st cs st₁ cs₁) (h₁ : Scans P st₁ cs₁ st₂ cs₂) : Scans P st cs st₂ cs₂ := by
  induction h with
  | done => exact h₁
  | step hfl hsign htake hP _ ih => exact .step hfl hsign htake hP (ih h₁)

/-- What can be read is read, in at most as many rounds as the text has characters. -/
theorem readAll (h : Scans P st cs st₁ cs₁) (hcs : cs₁ = []) :
    ∀ fuel, cs.length ≤ fuel → readAll fuel st cs = some st₁ := by
  induction h with
  | done =>
    subst hcs
    rintro (_ | fuel) -
    · rfl
    · simp [Regex.readAll, Flags.skip, Flags.dropBlank]
  | @step st st₁ st₂ sign cs cs₁ cs₂ hfl hsign htake hP hrest ih =>
    obtain ⟨c, x, rfl, -⟩ := sign?_local hfl hsign
    rintro (_ | fuel) hfuel
    · cases hfuel
    · have hlength : cs₁.length ≤ fuel := by simp at hfuel; omega
      rw [Regex.readAll, Flags.skip_eq hfl]
      simp only [hsign, Option.bind_eq_bind, Option.bind_some, htake]
      exact ih hcs fuel hlength

end Scans

/-- Whether the reader reads a text sign by sign, blanks never being free, with a property of each step. -/
def scansBy (P : ReaderState → List Char → ReaderState → List Char → Bool) :
    (fuel : Nat) → ReaderState → List Char → Bool
  | _, st, [] => !st.level.flags.spaced
  | 0, _, _ => false
  | fuel + 1, st, c :: cs =>
    !st.level.flags.spaced && match sign? st.level.flags (c :: cs) with
    | none => false
    | some (sign, rest) =>
      match st.take sign with
      | none => false
      | some st' => P st (c :: cs) st' rest && scansBy P fuel st' rest

theorem scans_of_scansBy {P : ReaderState → List Char → ReaderState → List Char → Bool} :
    ∀ {fuel : Nat} {st : ReaderState} {cs : List Char}, scansBy P fuel st cs = true →
      ∃ st', Scans (fun st cs st' rest => P st cs st' rest = true) st cs st' [] ∧ st'.level.flags.spaced = false
  | _, st, [], h => ⟨st, .done, by simpa [scansBy] using h⟩
  | 0, _, _ :: _, h => by cases h
  | fuel + 1, st, c :: cs, h => by
    rw [scansBy, Bool.and_eq_true, Bool.not_eq_true'] at h
    obtain ⟨hfl, h⟩ := h
    split at h
    next => cases h
    next sign rest hsign =>
      split at h
      next => cases h
      next st₁ htake =>
        obtain ⟨hP, h⟩ := Bool.and_eq_true_iff.1 h
        obtain ⟨st', hst', htight⟩ := scans_of_scansBy h
        exact ⟨st', .step hfl hsign htake hP hst', htight⟩

/-! ## Whole texts -/

/-- What is read to its end with all groups closed is the whole. -/
theorem Scans.whole? {P : StepProperty} {cs : List Char} {st : ReaderState} (h : Scans P .start cs st [])
    (hstack : st.stack = []) : whole? cs = some st.level.close := by
  rw [Regex.whole?, h.readAll rfl _ (Nat.le_refl _)]
  exact if_pos (List.isEmpty_iff.2 hstack)

theorem exists_scans_of_whole? {P : ReaderState → List Char → ReaderState → List Char → Bool} {cs : List Char}
    {whole : Piece} (hscans : scansBy P cs.length .start cs = true) (h : whole? cs = some whole) :
    ∃ st, Scans (fun st cs st' rest => P st cs st' rest = true) .start cs st [] ∧ st.stack = [] ∧
      st.level.flags.spaced = false ∧ whole = st.level.close := by
  obtain ⟨st, hst, htight⟩ := scans_of_scansBy hscans
  obtain ⟨st', hst', h⟩ := Option.bind_eq_some_iff.1 h
  obtain ⟨hstack, h⟩ := Option.ite_none_right_eq_some.1 h
  cases h
  obtain rfl : st = st' := Option.some.inj ((hst.readAll rfl _ (Nat.le_refl _)).symm.trans hst')
  exact ⟨st, hst, List.isEmpty_iff.1 hstack, htight, rfl⟩

theorem read?_of_whole? {text : String} {whole : Piece} (h : whole? text.toList = some whole)
    (hdepth : whole.depth ≤ maxDepth) (hsize : whole.size ≤ maxSize) : read? text = some whole.form.unfold := by
  have hfits : (whole.depth ≤ maxDepth && whole.size ≤ maxSize) = true := by
    simp only [Bool.and_eq_true, decide_eq_true_eq]
    exact ⟨hdepth, hsize⟩
  rw [read?, h]
  exact if_pos hfits

end TemporalTagger.Regex
