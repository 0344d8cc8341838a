/-
What becomes of an expression when the spaces of its text are widened to runs of whitespace. The reader is followed
through both texts: where every space is read as a character of its own, and no question mark comes after it, each part
read from the wider text runs wherever the part from the given text does, and is not much deeper and larger. Main facts:
`ReaderState.Widens.take` and `exists_widened`.
-/
import TemporalTagger.Proofs.Regex.Forms
import TemporalTagger.Proofs.Regex.Signs
import TemporalTagger.Resource.Variables
import TemporalTagger.Rule.Compile

namespace TemporalTagger.Regex

/-! ## Wider pieces -/

/-- One piece runs wherever another one does, and exceeds it by as much as a widened space at most: a class of two items
that is repeated, and large if case is ignored. -/
structure Piece.Widens (wide narrow : Piece) : Prop where
  form : wide.form.unfold.Includes narrow.form.unfold
  widthless : wide.form.widthless = narrow.form.widthless
  directive : wide.directive = narrow.directive
  depth : wide.depth ≤ narrow.depth + 3
  size : wide.size ≤ 49 * narrow.size

namespace Piece

theorem Widens.refl (piece : Piece) : piece.Widens piece := ⟨.refl _, rfl, rfl, by omega, by omega⟩

/-- Pieces that are wider one by one. -/
abbrev AllWiden (wides narrows : List Piece) : Prop := List.Forall₂ Widens wides narrows

variable {wides narrows : List Piece}

theorem AllWiden.runsAll (h : AllWiden wides narrows) : ∀ {p q : Place},
    RunsAll (Form.unfoldAll (narrows.map (·.form))) p q → RunsAll (Form.unfoldAll (wides.map (·.form))) p q := by
  induction h with
  | nil => exact id
  | cons h _ ih =>
    rintro p q ⟨e, hp, hq⟩
    exact ⟨e, h.form hp, ih hq⟩

theorem AllWiden.runs_any (h : AllWiden wides narrows) {p q : Place}
    (hruns : ∃ f ∈ narrows.map (·.form), f.unfold.Runs p q) : ∃ f ∈ wides.map (·.form), f.unfold.Runs p q := by
  induction h with
  | nil => exact hruns
  | cons h _ ih =>
    rw [List.map_cons, List.exists_mem_cons_iff] at hruns ⊢
    exact hruns.imp (fun hp => h.form hp) ih

theorem AllWiden.widthless (h : AllWiden wides narrows) :
    (wides.map (·.form)).all Form.widthless = (narrows.map (·.form)).all Form.widthless := by
  induction h with
  | nil => rfl
  | cons h _ ih => simp only [List.map_cons, List.all_cons, h.widthless, ih]

theorem AllWiden.joinDepth_le (h : AllWiden wides narrows) : joinDepth wides ≤ joinDepth narrows + 3 := by
  have hmax : ∀ {m n : Nat}, m ≤ n + 3 →
      (wides.map (·.depth)).foldl max m ≤ (narrows.map (·.depth)).foldl max n + 3 := by
    induction h with
    | nil => exact id
    | cons h _ ih =>
      intro m n hmn
      have hdepth := h.depth
      rw [List.map_cons, List.map_cons, List.foldl_cons, List.foldl_cons]
      exact ih (by omega)
  have := hmax (Nat.zero_le (0 + 3))
  unfold joinDepth
  rw [h.length_eq]
  dsimp only
  split <;> omega

theorem AllWiden.size_le (h : AllWiden wides narrows) (more : Nat) :
    wides.foldl (fun n p => n + (p.size + more)) 0 ≤ 49 * narrows.foldl (fun n p => n + (p.size + more)) 0 := by
  have hsum : ∀ {m n : Nat}, m ≤ 49 * n →
      wides.foldl (fun n p => n + (p.size + more)) m ≤ 49 * narrows.foldl (fun n p => n + (p.size + more)) n := by
    induction h with
    | nil => exact id
    | cons h _ ih =>
      intro m n hmn
      have hsize := h.size
      rw [List.foldl_cons, List.foldl_cons]
      exact ih (by omega)
  exact hsum (Nat.zero_le _)

theorem Widens.sequence (h : AllWiden wides narrows) : (sequence wides).Widens (sequence narrows) where
  form _ _ hruns := Form.runs_sequence.2 (h.runsAll (Form.runs_sequence.1 hruns))
  widthless := by
    show (Form.sequence _).widthless = (Form.sequence _).widthless
    rw [Form.widthless_sequence, Form.widthless_sequence, h.widthless]
  directive := rfl
  depth := h.joinDepth_le
  size := h.size_le 0

theorem Widens.repeated? {wide narrow narrow' : Piece} (h : wide.Widens narrow) {min : Nat} {max : Option Nat}
    {greedy : Bool} (hnarrow : narrow.repeated? min max greedy = some narrow') (hroom : 49 * narrow'.size ≤ maxSize) :
    ∃ wide', wide.repeated? min max greedy = some wide' ∧ wide'.Widens narrow' := by
  obtain ⟨hdirective, hnarrow⟩ := Option.ite_none_left_eq_some.1 hnarrow
  obtain ⟨-, hnarrow⟩ := Option.ite_none_left_eq_some.1 hnarrow
  cases hnarrow
  unfold Piece.repeated?
  rw [h.directive, if_neg hdirective, h.widthless]
  generalize (if narrow.form.widthless then 1 else max.getD (Nat.max min 1)) = rounds at hroom ⊢
  have hsize : rounds * wide.size + (rounds - min + 1) * stepSize ≤
      49 * (rounds * narrow.size + (rounds - min + 1) * stepSize) := by
    have hrounds := Nat.mul_le_mul_left rounds h.size
    rw [Nat.mul_left_comm] at hrounds
    omega
  have hfits : ¬ rounds * wide.size + (rounds - min + 1) * stepSize > maxSize := by
    dsimp only at hroom
    omega
  refine ⟨_, if_neg hfits, ?_⟩
  exact ⟨Form.includes_repeated h.form h.widthless min max greedy, Form.widthless_repeated h.widthless min max greedy,
    rfl, Nat.add_le_add_right h.depth 1, hsize⟩

end Piece

/-! ## Wider states -/

/-- A level that was read from a wider text. -/
structure Level.Widens (wide narrow : Level) : Prop where
  flags : wide.flags = narrow.flags
  branches : Piece.AllWiden wide.branches narrow.branches
  items : Piece.AllWiden wide.items narrow.items

theorem Level.Widens.close {wide narrow : Level} (h : wide.Widens narrow) : wide.close.Widens narrow.close := by
  have hcurrent := Piece.Widens.sequence (List.rel_reverse h.items)
  have hall : Piece.AllWiden (Piece.sequence wide.items.reverse :: wide.branches).reverse
      (Piece.sequence narrow.items.reverse :: narrow.branches).reverse :=
    List.rel_reverse (List.Forall₂.cons hcurrent h.branches)
  unfold Level.close
  dsimp only
  rw [hall.length_eq]
  split
  next => exact hcurrent
  next hlength =>
    have hne : ∀ {level : Level},
        ((Piece.sequence level.items.reverse :: level.branches).reverse.map (·.form)) ≠ [] := by simp
    constructor
    · exact fun p q hruns => (Form.runs_alternation hne).2 (hall.runs_any ((Form.runs_alternation hne).1 hruns))
    · exact (Form.widthless_alternation hne).trans (hall.widthless.trans (Form.widthless_alternation hne).symm)
    · rfl
    · exact hall.joinDepth_le
    · exact hall.size_le stepSize

/-- A state that was read from a wider text. -/
structure ReaderState.Widens (wide narrow : ReaderState) : Prop where
  level : wide.level.Widens narrow.level
  stack : List.Forall₂ (fun w n : Waiting => w.outer.Widens n.outer ∧ w.number = n.number) wide.stack narrow.stack
  groups : wide.groups = narrow.groups
  names : wide.names = narrow.names

namespace ReaderState

theorem Widens.refl (st : ReaderState) : st.Widens st := by
  have hpieces : ∀ ps : List Piece, Piece.AllWiden ps ps := fun ps => List.forall₂_same.2 fun p _ => .refl p
  have hlevel : ∀ level : Level, level.Widens level := fun level => ⟨rfl, hpieces _, hpieces _⟩
  exact ⟨hlevel _, List.forall₂_same.2 fun w _ => ⟨hlevel w.outer, rfl⟩, rfl, rfl⟩

theorem Widens.push {wide narrow : ReaderState} (h : wide.Widens narrow) {p q : Piece} (hp : p.Widens q) :
    (wide.push p).Widens (narrow.push q) :=
  ⟨⟨h.level.flags, h.level.branches, .cons hp h.level.items⟩, h.stack, h.groups, h.names⟩

/-- Whether the last part of a level leaves room for spaces to be widened. -/
def hasRoom (st : ReaderState) : Bool := st.level.items.head?.all fun p => 49 * p.size ≤ maxSize

/-- What is done with a sign is done alike in a wider state. -/
theorem Widens.take {wide narrow narrow' : ReaderState} (h : wide.Widens narrow) {sign : Sign}
    (hnarrow : narrow.take sign = some narrow') (hroom : narrow'.hasRoom = true) :
    ∃ wide', wide.take sign = some wide' ∧ wide'.Widens narrow' := by
  obtain ⟨⟨hflags, hbranches, hitems⟩, hstack, hgroups, hnames⟩ := h
  cases sign with
  | part piece =>
    cases hnarrow
    exact ⟨_, rfl, ⟨hflags, hbranches, .cons (.refl piece) hitems⟩, hstack, hgroups, hnames⟩
  | bar =>
    cases hnarrow
    exact ⟨_, rfl, ⟨hflags, .cons (.sequence (List.rel_reverse hitems)) hbranches, .nil⟩, hstack, hgroups, hnames⟩
  | repetition min max greedy =>
    obtain ⟨⟨flags, branches, items⟩, stack, groups, names⟩ := narrow
    obtain ⟨⟨flags', branches', items'⟩, stack', groups', names'⟩ := wide
    dsimp only at hflags hbranches hitems hstack hgroups hnames
    subst hflags
    cases hitems with
    | nil => cases hnarrow
    | @cons w n ws ns hpiece hitems =>
      obtain ⟨repeated, hrepeated, hnarrow⟩ := Option.map_eq_some_iff.1 hnarrow
      cases hnarrow
      obtain ⟨repeated', hrepeated', hwide⟩ := hpiece.repeated? hrepeated (by simpa [hasRoom] using hroom)
      exact ⟨_, congrArg (Option.map _) hrepeated', ⟨rfl, hbranches, .cons hwide hitems⟩, hstack, hgroups, hnames⟩
  | plainGroup flags =>
    cases hnarrow
    exact ⟨_, rfl, ⟨rfl, .nil, .nil⟩, .cons ⟨⟨hflags, hbranches, hitems⟩, rfl⟩ hstack, hgroups, hnames⟩
  | capture name =>
    obtain ⟨hnew, hnarrow⟩ := Option.ite_none_left_eq_some.1 hnarrow
    cases hnarrow
    rw [← hnames] at hnew
    refine ⟨_, if_neg hnew, ⟨hflags, .nil, .nil⟩, .cons ⟨⟨hflags, hbranches, hitems⟩, ?_⟩ hstack, ?_, ?_⟩
    · rw [hgroups]
    · dsimp only
      rw [hgroups]
    · dsimp only
      rw [hnames]
  | switch flags =>
    cases hnarrow
    exact ⟨_, rfl, ⟨rfl, hbranches, .cons (.refl _) hitems⟩, hstack, hgroups, hnames⟩
  | stop =>
    obtain ⟨level, stack, groups, names⟩ := narrow
    obtain ⟨level', stack', groups', names'⟩ := wide
    dsimp only at hflags hbranches hitems hstack hgroups hnames
    cases hstack with
    | nil => cases hnarrow
    | @cons w n ws ns hwaiting hstack =>
      cases hnarrow
      obtain ⟨hlevel, hnumber⟩ := hwaiting
      have hlevels : level'.Widens level := ⟨hflags, hbranches, hitems⟩
      have hclose := hlevels.close
      refine ⟨_, rfl, ⟨hlevel.flags, hlevel.branches, .cons ?_ hlevel.items⟩, hstack, hgroups, hnames⟩
      rw [hnumber]
      cases n.number with
      | none => exact ⟨hclose.form, hclose.widthless, rfl, Nat.add_le_add_right hclose.depth 1, hclose.size⟩
      | some number =>
        have hsize := hclose.size
        refine ⟨hclose.form.group number, hclose.widthless, rfl, Nat.add_le_add_right hclose.depth 1, ?_⟩
        show level'.close.size + 2 * stepSize ≤ 49 * (level.close.size + 2 * stepSize)
        omega

end ReaderState

/-! ## Widened spaces -/

section

variable {fl : Flags}

/-- The class that a space is widened to, after its opening bracket. -/
def spaceClass : List Char := ['\\', 's', '\\', 'u', '\x7b', '1', '8', '0', 'E', '\x7d', ']']

/-- The whitespace that the class holds. -/
def spaceSet : CharSet := .union .space (.single '\u180E')

theorem readClass_spaceClass (hfl : fl.spaced = false) (hunicode : fl.unicode = true) (rest : List Char) :
    readClass fl (spaceClass ++ rest) = some (⟨if fl.ignoreCase then .folded spaceSet else spaceSet, 2⟩, rest) := by
  have hread : readClass fl spaceClass = some (⟨if fl.ignoreCase then .folded spaceSet else spaceSet, 2⟩, []) := by
    obtain ⟨ignoreCase, _, _, _, unicode, _, spaced⟩ := fl
    dsimp only at hfl hunicode
    subst hfl hunicode
    cases ignoreCase <;> rfl
  obtain ⟨x, hx, hlocal⟩ := readClass_local hfl (S := fun _ _ => True) hread
  rw [List.append_nil] at hx
  rw [hx]
  exact hlocal rest trivial

/-- The class is of a size that the piece for a space may be widened to. -/
theorem size_spaceSet : spaceSet.size + stepSize ≤ 49 * stepSize ∧
    (CharSet.folded spaceSet).size + stepSize ≤ 49 * stepSize := by decide

theorem holds_spaceSet : spaceSet.holds ' ' = true ∧ (CharSet.folded spaceSet).holds ' ' = true := by decide

theorem charPiece_space : charPiece fl ' ' = ⟨.literal [' '], 0, stepSize, false⟩ := by
  have hcase : (Unicode.caseVariants ' '.toNat).all (· == ' '.toNat) = true := by decide
  rw [charPiece, hcase, Bool.or_true]
  rfl

/-- At least one character of a set is wider than a space in it. -/
theorem exists_repeated_widens {set : CharSet} (hsize : set.size + stepSize ≤ 49 * stepSize)
    (hspace : set.holds ' ' = true) (greedy : Bool) :
    ∃ wide, Piece.repeated? ⟨.ofSet set, 2, set.size, false⟩ 1 none greedy = some wide ∧
      wide.Widens (charPiece fl ' ') := by
  have hfits : ¬ 1 * set.size + (1 - 1 + 1) * stepSize > maxSize := by
    have hmax : 49 * stepSize ≤ maxSize := by decide
    omega
  have hform : ((Form.ofSet set).repeated 1 none greedy).unfold = .plus (Form.ofSet set).unfold greedy := by
    rw [Form.repeated, Form.widthless_ofSet]
    rfl
  have hrepeated : Piece.repeated? ⟨.ofSet set, 2, set.size, false⟩ 1 none greedy =
      some ⟨(Form.ofSet set).repeated 1 none greedy, 3, 1 * set.size + (1 - 1 + 1) * stepSize, false⟩ := by
    rw [Piece.repeated?, if_neg Bool.false_ne_true, Form.widthless_ofSet]
    exact if_neg hfits
  refine ⟨_, hrepeated, ?_⟩
  rw [charPiece_space]
  constructor
  · intro p q h
    obtain ⟨ch, rest, hp, hch, rfl⟩ := runs_set.1 (Form.runs_literal_singleton.1 h)
    obtain rfl := CharSet.holds_single_iff.1 hch
    rw [hform]
    exact .plus (Form.runs_ofSet.2 (runs_set.2 ⟨_, rest, hp, hspace, rfl⟩)) .stop
  · show ((Form.ofSet set).repeated 1 none greedy).widthless = false
    rw [Form.repeated, Form.widthless_ofSet]
    exact Form.widthless_ofSet set
  · rfl
  · exact Nat.le_refl _
  · show 1 * set.size + (1 - 1 + 1) * stepSize ≤ 49 * stepSize
    omega

end

/-- A widened space is read as a class that is repeated. -/
theorem ReaderState.Widens.scans_space {wide narrow : ReaderState} (h : wide.Widens narrow)
    (hfl : narrow.level.flags.spaced = false) (hunicode : narrow.level.flags.unicode = true) {rest : List Char}
    (hrest : asksForFew rest = false) :
    ∃ wide', Scans (fun _ _ _ _ => True) wide (Expansion.anySpaces ++ rest) wide' rest ∧
      wide'.Widens (narrow.push (charPiece narrow.level.flags ' ')) := by
  rw [← h.level.flags] at hfl hunicode ⊢
  have hclass : sign? wide.level.flags ('[' :: (spaceClass ++ '+' :: rest)) = _ :=
    congrArg (Option.map _) (readClass_spaceClass hfl hunicode ('+' :: rest))
  generalize hset : (if wide.level.flags.ignoreCase then CharSet.folded spaceSet else spaceSet) = set at hclass
  have hset' : set.size + stepSize ≤ 49 * stepSize ∧ set.holds ' ' = true := by
    rw [← hset]
    split
    · exact ⟨size_spaceSet.2, holds_spaceSet.2⟩
    · exact ⟨size_spaceSet.1, holds_spaceSet.1⟩
  obtain ⟨piece, hpiece, hwide⟩ :=
    @exists_repeated_widens wide.level.flags set hset'.1 hset'.2 (true != wide.level.flags.swapGreed)
  have htake : (wide.push ⟨.ofSet set, 2, set.size, false⟩).take (.repetition 1 none true) =
      some (wide.push piece) := by
    show Option.map _ (Piece.repeated? _ 1 none (true != wide.level.flags.swapGreed)) = _
    rw [hpiece]
    rfl
  have hplus : sign? wide.level.flags ('+' :: rest) = some (.repetition 1 none true, rest) :=
    congrArg some (repetition_eq 1 none hrest)
  have hany : Expansion.anySpaces ++ rest = '[' :: (spaceClass ++ '+' :: rest) := rfl
  rw [hany]
  exact ⟨wide.push piece, .step hfl hclass rfl trivial (.step hfl hplus htake trivial .done), h.push hwide⟩

/-! ## Widened texts -/

theorem widen_cons_of_ne {c : Char} (h : c ≠ ' ') (cs : List Char) :
    Expansion.widen (c :: cs) = c :: Expansion.widen cs := by
  rw [Expansion.widen, List.flatMap_cons, if_neg h]
  rfl

theorem widen_append_of_not_mem : ∀ {x : List Char}, ' ' ∉ x → ∀ cs : List Char,
    Expansion.widen (x ++ cs) = x ++ Expansion.widen cs
  | [], _, _ => rfl
  | c :: x, h, cs => by
    rw [List.mem_cons, not_or] at h
    rw [List.cons_append, widen_cons_of_ne (Ne.symm h.1), widen_append_of_not_mem h.2 cs]
    rfl

/-- Widening adds nothing that a sign takes in: in the place of a space comes the bracket of a class. -/
theorem seam_widen : ∀ cs : List Char, Seam cs (Expansion.widen cs)
  | [] => ⟨id, id⟩
  | c :: cs => by
    by_cases hc : c = ' '
    · subst hc
      constructor
      · intro h
        cases h
      · intro h
        cases h
    · rw [widen_cons_of_ne hc]
      refine ⟨id, fun h => ?_⟩
      obtain ⟨hbrace, hnext⟩ := Bool.and_eq_true_iff.1 h
      refine Bool.and_eq_true_iff.2 ⟨hbrace, ?_⟩
      cases cs with
      | nil => rfl
      | cons d cs =>
        by_cases hd : d = ' '
        · subst hd
          cases hnext
        · rwa [widen_cons_of_ne hd] at hnext

/-- A step that reads a space reads nothing else, takes the space for a character and is not made optional, and every
step leaves room for spaces to be widened. -/
def spaceFree (st : ReaderState) (cs : List Char) (st' : ReaderState) (rest : List Char) : Bool :=
  (' ' ∉ cs.take (cs.length - rest.length) || cs == ' ' :: rest && st.level.flags.unicode && !asksForFew rest) &&
    st'.hasRoom

theorem Scans.widen {st st' : ReaderState} {cs rest : List Char}
    (h : Scans (fun st cs st' rest => spaceFree st cs st' rest = true) st cs st' rest) (hrest : rest = []) :
    ∀ {wide : ReaderState}, wide.Widens st →
      ∃ wide', Scans (fun _ _ _ _ => True) wide (Expansion.widen cs) wide' [] ∧ wide'.Widens st' := by
  induction h with
  | done =>
    subst hrest
    exact fun hwide => ⟨_, .done, hwide⟩
  | @step st st₁ st₂ sign cs cs₁ cs₂ hfl hsign htake hP hscans ih =>
    intro wide hwide
    obtain ⟨hspace, hroom⟩ := Bool.and_eq_true_iff.1 hP
    rcases Bool.or_eq_true_iff.1 hspace with hspace | hspace
    · -- a sign without spaces
      obtain ⟨c, x, rfl, hlocal⟩ := sign?_local hfl hsign
      have hx : ' ' ∉ c :: x := by
        have htaken : (c :: (x ++ cs₁)).take ((c :: (x ++ cs₁)).length - cs₁.length) = c :: x := by
          rw [← List.cons_append, List.length_append, Nat.add_sub_cancel, List.take_left]
        rw [htaken] at hspace
        simpa using hspace
      obtain ⟨wide₁, htake', hwide₁⟩ := hwide.take htake hroom
      obtain ⟨wide', hscans', hwide'⟩ := ih hrest hwide₁
      have hsign' := hlocal _ (seam_widen cs₁)
      rw [← hwide.level.flags] at hfl hsign'
      rw [← List.cons_append, widen_append_of_not_mem hx]
      exact ⟨wide', .step hfl hsign' htake' trivial hscans', hwide'⟩
    · -- a space
      simp only [Bool.and_eq_true, beq_iff_eq, Bool.not_eq_true'] at hspace
      obtain ⟨⟨rfl, hunicode⟩, hfew⟩ := hspace
      have hfew' : asksForFew (Expansion.widen cs₁) = false :=
        Bool.eq_false_iff.2 fun h => Bool.eq_false_iff.1 hfew ((seam_widen cs₁).few h)
      rw [sign?_of_isLiteral rfl] at hsign
      cases hsign
      cases htake
      obtain ⟨wide₁, hscans₁, hwide₁⟩ := hwide.scans_space hfl hunicode hfew'
      obtain ⟨wide', hscans', hwide'⟩ := ih hrest hwide₁
      exact ⟨wide', hscans₁.trans hscans', hwide'⟩

/-- Every space of a text is read as a character of its own that can be widened, blanks in the text are never free, and
what the text is read as leaves room for the widened spaces. -/
structure SpaceFree (cs : List Char) : Prop where
  scans : scansBy spaceFree cs.length .start cs = true
  room : (whole? cs).any fun whole => whole.depth + 3 ≤ maxDepth ∧ 49 * whole.size ≤ maxSize

instance (cs : List Char) : Decidable (SpaceFree cs) :=
  decidable_of_iff (_ = true ∧ _ = true) ⟨fun h => ⟨h.1, h.2⟩, fun h => ⟨h.1, h.2⟩⟩

/-- A text whose spaces are widened is read as an expression that runs wherever that of the text does. -/
theorem exists_widened {cs : List Char} (h : SpaceFree cs) {r : Regex} (hr : read? (String.ofList cs) = some r) :
    ∃ wide, read? (String.ofList (Expansion.widen cs)) = some wide ∧ wide.Includes r := by
  obtain ⟨whole, hwhole, hdepth, hsize⟩ : ∃ whole, whole? cs = some whole ∧
      whole.depth + 3 ≤ maxDepth ∧ 49 * whole.size ≤ maxSize := by
    simpa only [Option.any_eq_true, decide_eq_true_eq] using h.room
  have hread : read? (String.ofList cs) = some whole.form.unfold :=
    read?_of_whole? (by rwa [String.toList_ofList]) (by omega) (by omega)
  obtain rfl := Option.some.inj (hread.symm.trans hr)
  obtain ⟨st, hscans, hstack, -, rfl⟩ := exists_scans_of_whole? h.scans hwhole
  obtain ⟨wide, hwide, hwidens⟩ := hscans.widen rfl (.refl .start)
  have hstackWide : wide.stack = [] := by
    have hlength := hwidens.stack.length_eq
    rw [hstack] at hlength
    exact List.length_eq_zero_iff.1 hlength
  have hclose := hwidens.level.close
  have hdepthWide := hclose.depth
  have hsizeWide := hclose.size
  refine ⟨wide.level.close.form.unfold, read?_of_whole? ?_ (by omega) (by omega), hclose.form⟩
  rw [String.toList_ofList, hwide.whole? hstackWide]

end TemporalTagger.Regex
