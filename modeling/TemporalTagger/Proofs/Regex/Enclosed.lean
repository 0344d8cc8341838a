/-
Patterns that have to match a whole text. Such a pattern is read between two assertions and in a group of its own; if it
can be read alone, it is read there as the same expression, and so it matches what the expression matches in full. Main
facts: `whole?_enclosed` and `exists_wholeText`.
-/
import TemporalTagger.Proofs.Regex.Forms
import TemporalTagger.Proofs.Regex.Occurrence
import TemporalTagger.Proofs.Regex.Signs

namespace TemporalTagger.Regex

/-! ## Groups around what is read -/

/-- The state with more groups around it. -/
def ReaderState.within (st : ReaderState) (outside : List Waiting) : ReaderState :=
  { st with stack := st.stack ++ outside }

theorem ReaderState.take_within {st st' : ReaderState} {sign : Sign} (h : st.take sign = some st')
    (outside : List Waiting) : (st.within outside).take sign = some (st'.within outside) := by
  cases sign with
  | part | bar | plainGroup | switch =>
    cases h
    rfl
  | repetition min max greedy =>
    obtain ⟨level, stack, groups, names⟩ := st
    obtain ⟨flags, branches, _ | ⟨piece, items⟩⟩ := level
    · cases h
    · obtain ⟨repeated, hrepeated, h⟩ := Option.map_eq_some_iff.1 h
      cases h
      exact congrArg (Option.map _) hrepeated
  | capture name =>
    obtain ⟨hnew, h⟩ := Option.ite_none_left_eq_some.1 h
    cases h
    exact if_neg hnew
  | stop =>
    obtain ⟨level, _ | ⟨waiting, stack⟩, groups, names⟩ := st
    · cases h
    · cases h
      rfl

/-- The end of what stands around a pattern for a whole text. -/
def wholeStop : List Char := [')', '$']

theorem seam_wholeStop : ∀ cs : List Char, Seam cs (cs ++ wholeStop)
  | [] => ⟨by decide, by decide⟩
  | [c] => ⟨id, fun h => by simp [namesEdge, wholeStop, isEdgeChar] at h⟩
  | _ :: _ :: _ => ⟨id, id⟩

/-- What is read of a text is read of it with more around it. -/
theorem Scans.within {P : StepProperty} {st st' : ReaderState} {cs rest : List Char} (h : Scans P st cs st' rest)
    (outside : List Waiting) : Scans (fun _ _ _ _ => True) (st.within outside) (cs ++ wholeStop)
      (st'.within outside) (rest ++ wholeStop) := by
  induction h with
  | done => exact .done
  | @step st st₁ st₂ sign cs cs₁ cs₂ hfl hsign htake _ _ ih =>
    obtain ⟨c, x, rfl, hlocal⟩ := sign?_local hfl hsign
    refine .step hfl ?_ (ReaderState.take_within htake outside) trivial ih
    rw [List.cons_append, List.append_assoc]
    exact hlocal _ (seam_wholeStop cs₁)

/-! ## The whole text -/

/-- A text in which blanks are never free is read sign by sign. -/
def Tight (cs : List Char) : Prop := scansBy (fun _ _ _ _ => true) cs.length .start cs = true

instance (cs : List Char) : Decidable (Tight cs) := inferInstanceAs (Decidable (_ = true))

/-- A piece in a group without number. -/
def Piece.grouped (inner : Piece) : Piece := { inner with depth := inner.depth + 1, directive := false }

/-- A piece between the ends of a text. -/
def Piece.whole (inner : Piece) : Piece :=
  ⟨.sequence [.look .textStart, inner.form, .look .textEnd], inner.depth + 2, inner.size + 2 * stepSize, false⟩

/-- The level around a pattern for a whole text, before and after the pattern. -/
def wholeLevel (inner : List Piece) : Level := ⟨{}, [], inner ++ [lookPiece .textStart]⟩

theorem close_wholeLevel (inner : Piece) :
    (wholeLevel [lookPiece .textEnd, inner.grouped]).close = inner.whole := by
  simp [wholeLevel, Level.close, Piece.sequence, Piece.whole, Piece.grouped, lookPiece, joinDepth]
  omega

theorem whole?_enclosed {cs : List Char} (htight : Tight cs) {inner : Piece} (h : whole? cs = some inner) :
    whole? (['^', '(', '?', ':'] ++ (cs ++ wholeStop)) = some inner.whole := by
  obtain ⟨⟨level, stack, groups, names⟩, hscans, hstack, hfl, rfl⟩ := exists_scans_of_whole? htight h
  obtain rfl : stack = [] := hstack
  have hopen : Scans (fun _ _ _ _ => True) .start (['^', '(', '?', ':'] ++ (cs ++ wholeStop))
      (ReaderState.start.within [⟨wholeLevel [], none⟩]) (cs ++ wholeStop) :=
    .step rfl rfl rfl trivial (.step rfl rfl rfl trivial .done)
  have hclose : Scans (fun _ _ _ _ => True) (ReaderState.within ⟨level, [], groups, names⟩ [⟨wholeLevel [], none⟩])
      wholeStop ⟨wholeLevel [lookPiece .textEnd, level.close.grouped], [], groups, names⟩ [] :=
    .step hfl rfl rfl trivial (.step rfl rfl rfl trivial .done)
  have hall := hopen.trans ((hscans.within [⟨wholeLevel [], none⟩]).trans hclose)
  rw [hall.whole? rfl]
  exact congrArg some (close_wholeLevel level.close)

/-! ## Matches in full -/

/-- An expression matches a text in full. -/
def MatchesAll (r : Regex) (w : String) : Prop := ∃ q, r.Runs (Place.ofText w) q ∧ q.rest = []

theorem runs_look {l : Look} {p q : Place} : (look l).Runs p q ↔ p.satisfies l = true ∧ p = q := by
  constructor
  · intro h
    cases h with
    | look hl => exact ⟨hl, rfl⟩
  · rintro ⟨hl, rfl⟩
    exact .look hl

theorem runs_whole {inner : Piece} {p q : Place} : inner.whole.form.unfold.Runs p q ↔
    p.before = none ∧ inner.form.unfold.Runs p q ∧ q.rest = [] := by
  have hstart : p.satisfies .textStart = true ↔ p.before = none := Option.isNone_iff_eq_none
  have hend : q.satisfies .textEnd = true ↔ q.rest = [] := Option.isNone_iff_eq_none.trans List.head?_eq_none_iff
  rw [Piece.whole, Form.runs_sequence]
  simp only [Form.unfoldAll, List.map_cons, List.map_nil, RunsAll, Form.unfold, runs_look]
  constructor
  · rintro ⟨_, ⟨hp, rfl⟩, _, hruns, _, ⟨hq, rfl⟩, rfl⟩
    exact ⟨hstart.1 hp, hruns, hend.1 hq⟩
  · rintro ⟨hp, hruns, hq⟩
    exact ⟨p, ⟨hstart.2 hp, rfl⟩, q, hruns, q, ⟨hend.2 hq, rfl⟩, rfl⟩

theorem runsFrom_whole_iff {inner : Piece} (w : String) :
    inner.whole.form.unfold.RunsFrom (Place.ofText w) ↔ inner.form.unfold.MatchesAll w := by
  constructor
  · rintro ⟨t, -, q, h⟩
    obtain ⟨hbefore, hruns, hrest⟩ := runs_whole.1 h
    obtain rfl : t = [] := by simpa [Place.past, Place.ofText] using hbefore
    rw [Place.past_nil] at hruns
    exact ⟨q, hruns, hrest⟩
  · rintro ⟨q, hruns, hrest⟩
    refine ⟨[], List.nil_prefix, q, ?_⟩
    rw [Place.past_nil]
    exact runs_whole.2 ⟨rfl, hruns, hrest⟩

end TemporalTagger.Regex

namespace TemporalTagger.Pattern

open Regex

/-- A text can be read alone, blanks in it are never free, and what it is read as leaves room for a group around it. -/
structure Encloseable (text : String) : Prop where
  tight : Tight text.toList
  room : (whole? text.toList).any fun inner => inner.depth + 2 ≤ maxDepth ∧ inner.size + 2 * stepSize ≤ maxSize

instance (text : String) : Decidable (Encloseable text) :=
  decidable_of_iff (Tight text.toList ∧ _ = true) ⟨fun h => ⟨h.1, h.2⟩, fun h => ⟨h.1, h.2⟩⟩

/-- A text that can be read alone can be read as a pattern for a whole text, which occurs where the expression matches
in full. -/
theorem exists_wholeText {text : String} (h : Encloseable text) : ∃ r whole, Regex.read? text = some r ∧
    wholeText? text = some whole ∧ ∀ w, whole.occursIn w = true ↔ r.MatchesAll w := by
  obtain ⟨inner, hinner, hdepth, hsize⟩ : ∃ inner, whole? text.toList = some inner ∧
      inner.depth + 2 ≤ maxDepth ∧ inner.size + 2 * stepSize ≤ maxSize := by
    simpa only [Option.any_eq_true, decide_eq_true_eq] using h.room
  have hread : Regex.read? text = some inner.form.unfold := read?_of_whole? hinner (by omega) (by omega)
  have hwhole : Regex.read? ("^(?:" ++ text ++ ")$") = some inner.whole.form.unfold := by
    have htext : ("^(?:" ++ text ++ ")$").toList = ['^', '(', '?', ':'] ++ (text.toList ++ wholeStop) := by
      rw [String.toList_append, String.toList_append, List.append_assoc]
      rfl
    exact read?_of_whole? (by rw [htext, whole?_enclosed h.tight hinner]) hdepth hsize
  refine ⟨_, _, hread, by rw [wholeText?, ofText?, hwhole]; rfl, fun w => ?_⟩
  rw [occursIn_iff_runs, runsFrom_whole_iff]

end TemporalTagger.Pattern
