/-
What scanning a text gives: the pieces put together are the text again, and those found stand in it
one after another, each where `placed` says. Every place in the text lies between two pieces or within one (`lies`).
-/
import TemporalTagger.Proofs.Text.Cuts
import TemporalTagger.Text.Scan

namespace TemporalTagger.Text

section

variable {α : Type} {recognise : Recogniser α}

theorem render_append (replace : α → List Char) (a b : List (Piece α)) :
    render replace (a ++ b) = render replace a ++ render replace b := List.flatMap_append

theorem render_char (replace : α → List Char) (c : Char) (ps : List (Piece α)) :
    render replace (.char c :: ps) = c :: render replace ps := rfl

theorem render_found (replace : α → List Char) (a : α) (ps : List (Piece α)) :
    render replace (.found a :: ps) = replace a ++ render replace ps := rfl

theorem found_char (c : Char) (ps : List (Piece α)) : found (.char c :: ps) = found ps := rfl

theorem found_found (a : α) (ps : List (Piece α)) : found (.found a :: ps) = a :: found ps := rfl

theorem render_map_char (replace : α → List Char) : ∀ cs : List Char, render replace (cs.map Piece.char) = cs
  | [] => rfl
  | c :: cs => congrArg (c :: ·) (render_map_char replace cs)

/-- What the piece before covers is passed over. -/
theorem scanFrom_eq_scan : ∀ (skip : Nat) (cs : List Char), scanFrom recognise skip cs = scan recognise (cs.drop skip)
  | 0, _ => rfl
  | _ + 1, [] => rfl
  | skip + 1, _ :: cs => scanFrom_eq_scan skip cs

theorem scan_found {c : Char} {cs rest : List Char} {a : α}
    (h : recognise (c :: (cs ++ rest)) = some (a, cs.length + 1)) :
    scan recognise (c :: (cs ++ rest)) = .found a :: scan recognise rest := by
  rw [scan, scanFrom, h]
  dsimp only
  rw [Nat.add_sub_cancel, scanFrom_eq_scan, List.drop_left]

theorem scan_char {c : Char} {rest : List Char} (h : recognise (c :: rest) = none) :
    scan recognise (c :: rest) = .char c :: scan recognise rest := by
  rw [scan, scanFrom, h]
  rfl

/-- Where nothing is found over a stretch, scanning passes over it. -/
theorem scan_append {rest : List Char} : ∀ {cs : List Char}, (∀ u, u ≠ [] → u <:+ cs → recognise (u ++ rest) = none) →
    scan recognise (cs ++ rest) = cs.map Piece.char ++ scan recognise rest
  | [], _ => rfl
  | c :: cs, h => by
    have hnone : recognise (c :: (cs ++ rest)) = none := h (c :: cs) (List.cons_ne_nil c cs) (List.suffix_refl _)
    rw [List.cons_append, scan_char hnone, scan_append fun u hne hu => h u hne (hu.trans (List.suffix_cons c cs))]
    rfl

/-- Where nothing is found the pieces are the characters. -/
theorem scan_eq_map_char : ∀ {cs : List Char}, found (scan recognise cs) = [] → scan recognise cs = cs.map Piece.char
  | [], _ => rfl
  | c :: cs, h => by
    cases hr : recognise (c :: cs) with
    | none =>
      rw [scan_char hr] at h ⊢
      exact congrArg (Piece.char c :: ·) (scan_eq_map_char h)
    | some p =>
      rw [scan, scanFrom, hr] at h
      cases h

theorem found_map_char (cs : List Char) : found (cs.map (Piece.char (α := α))) = [] := by
  induction cs with
  | nil => rfl
  | cons c cs ih => exact ih

theorem found_scan_append {cs rest : List Char} (h : ∀ u, u ≠ [] → u <:+ cs → recognise (u ++ rest) = none) :
    found (scan recognise (cs ++ rest)) = found (scan recognise rest) := by
  rw [scan_append h, found, List.filterMap_append, ← found, ← found, found_map_char, List.nil_append]

/-- What no piece covers stands in the text. -/
theorem mem_of_char_mem_scanFrom {c : Char} : ∀ (skip : Nat) {cs : List Char},
    .char c ∈ scanFrom recognise skip cs → c ∈ cs
  | 0, [], h => by cases h
  | _ + 1, [], h => by cases h
  | skip + 1, d :: cs, h => List.mem_cons_of_mem d (mem_of_char_mem_scanFrom skip h)
  | 0, d :: cs, h => by
    rw [scanFrom] at h
    split at h
    next a length _ =>
      rcases List.mem_cons.1 h with h | h
      · cases h
      · exact List.mem_cons_of_mem d (mem_of_char_mem_scanFrom (length - 1) h)
    next =>
      rcases List.mem_cons.1 h with h | h
      · cases h
        exact List.mem_cons_self
      · exact List.mem_cons_of_mem d (mem_of_char_mem_scanFrom 0 h)

/-- What is left as a character is where nothing is found. -/
theorem exists_of_char_mem_scan {c : Char} : ∀ {cs : List Char}, .char c ∈ scan recognise cs →
    ∃ rest, recognise (c :: rest) = none
  | [], h => by cases h
  | d :: cs, h => by
    cases hr : recognise (d :: cs) with
    | none =>
      rw [scan_char hr] at h
      rcases List.mem_cons.1 h with h | h
      · cases h
        exact ⟨cs, hr⟩
      · exact exists_of_char_mem_scan h
    | some found =>
      obtain ⟨a, n⟩ := found
      rw [scan, scanFrom, hr] at h
      dsimp only at h
      rw [scanFrom_eq_scan] at h
      rcases List.mem_cons.1 h with h | h
      · cases h
      · exact exists_of_char_mem_scan h
termination_by cs => cs.length
decreasing_by all_goals simp only [List.length_cons, List.length_drop]; omega

end

/-- A recogniser finds the very text that stands at the front, and not nothing. -/
def Recogniser.Exact (recognise : Recogniser (List Char)) : Prop :=
  ∀ cs a n, recognise cs = some (a, n) → 0 < n ∧ a = cs.take n

/-- A piece found at the front, and what is scanned after it. -/
theorem scan_of_exact {recognise : Recogniser (List Char)} (hexact : recognise.Exact) {c : Char} {cs a : List Char}
    {n : Nat} (h : recognise (c :: cs) = some (a, n)) :
    ∃ t rest, cs = t ++ rest ∧ a = c :: t ∧ scan recognise (c :: cs) = .found (c :: t) :: scan recognise rest := by
  obtain ⟨hn, rfl⟩ := hexact _ _ _ h
  obtain ⟨k, rfl⟩ : ∃ k, n = k + 1 := ⟨n - 1, by omega⟩
  refine ⟨cs.take k, cs.drop k, (List.take_append_drop k cs).symm, List.take_succ_cons, ?_⟩
  rw [scan, scanFrom, h]
  dsimp only
  rw [Nat.add_sub_cancel, scanFrom_eq_scan, List.take_succ_cons]

theorem render_scanFrom {recognise : Recogniser (List Char)} (h : recognise.Exact) :
    ∀ (skip : Nat) (cs : List Char), render id (scanFrom recognise skip cs) = cs.drop skip
  | 0, [] => rfl
  | _ + 1, [] => rfl
  | skip + 1, c :: cs => by rw [scanFrom, render_scanFrom h skip cs, List.drop_succ_cons]
  | 0, c :: cs => by
    rw [scanFrom, List.drop_zero]
    split
    next a n hr =>
      obtain ⟨hn, rfl⟩ := h _ _ _ hr
      show (c :: cs).take n ++ render id (scanFrom recognise (n - 1) cs) = _
      rw [render_scanFrom h (n - 1) cs]
      obtain ⟨n, rfl⟩ : ∃ k, n = k + 1 := ⟨n - 1, by omega⟩
      rw [Nat.add_sub_cancel, List.take_succ_cons, List.cons_append, List.take_append_drop]
    next hr =>
      show c :: render id (scanFrom recognise 0 cs) = _
      rw [render_scanFrom h 0 cs, List.drop_zero]

/-- Nothing of a text is lost in its pieces. -/
theorem render_scan {recognise : Recogniser (List Char)} (h : recognise.Exact) (cs : List Char) :
    render id (scan recognise cs) = cs := render_scanFrom h 0 cs

/-- Where a place in a text lies among the pieces of it: between two of them or within one that is found. -/
inductive Lies (recognise : Recogniser (List Char)) (a b : List Char) : Prop
  | between (ps : List (Piece (List Char))) (pieces : scan recognise (a ++ b) = ps ++ scan recognise b)
      (before : render id ps = a)
  | within (ps : List (Piece (List Char))) (t u post : List Char) (n : Nat)
      (pieces : scan recognise (a ++ b) = ps ++ .found (t ++ u) :: scan recognise post)
      (before : a = render id ps ++ t) (after : b = u ++ post) (left : t ≠ []) (right : u ≠ [])
      (found : recognise (t ++ u ++ post) = some (t ++ u, n))

/-- A piece in front of those before a place. -/
theorem Lies.cons {recognise : Recogniser (List Char)} {a b text : List Char} {p : Piece (List Char)}
    (hscan : scan recognise (text ++ b) = p :: scan recognise (a ++ b)) (htext : render id [p] ++ a = text)
    (h : Lies recognise a b) : Lies recognise text b := by
  cases h with
  | between ps pieces before =>
    exact .between (p :: ps) (by rw [hscan, pieces, List.cons_append])
      (by rw [← List.singleton_append, render_append, before, htext])
  | within ps t u post n pieces before after left right found =>
    refine .within (p :: ps) t u post n (by rw [hscan, pieces, List.cons_append]) ?_ after left right found
    rw [← List.singleton_append, render_append, List.append_assoc, ← before, htext]

/-- Every place in a text lies between two pieces or within one. -/
theorem lies {recognise : Recogniser (List Char)} (hexact : recognise.Exact) : ∀ a b : List Char, Lies recognise a b
  | [], _ => .between [] rfl rfl
  | c :: a, b => by
    cases hr : recognise (c :: (a ++ b)) with
    | none => exact (lies hexact a b).cons (scan_char hr) rfl
    | some found =>
      obtain ⟨x, n⟩ := found
      obtain ⟨t, rest, hsplit, rfl, hscan⟩ := scan_of_exact hexact hr
      rcases List.append_eq_append_iff.1 hsplit with ⟨u, rfl, rfl⟩ | ⟨a', ha, rfl⟩
      · -- the piece reaches up to the place or beyond it
        cases u with
        | nil => exact .between [.found (c :: a)] (by simpa using hscan) (by simp [render])
        | cons d u =>
          rw [← List.append_assoc] at hr
          exact .within [] (c :: a) (d :: u) rest n hscan rfl rfl (List.cons_ne_nil _ _) (List.cons_ne_nil _ _) hr
      · have hlt : a'.length < (c :: a).length := by
          rw [ha, List.length_cons, List.length_append]
          omega
        exact (lies hexact a' b).cons hscan (by simp [render, ha])
termination_by a => a.length
decreasing_by
  · exact Nat.lt_succ_self _
  · exact hlt

/-- Pieces after others are placed where the text of those ends. -/
theorem placed_append : ∀ (offset : Nat) (ps qs : List (Piece (List Char))),
    placed offset (ps ++ qs) = placed offset ps ++ placed (offset + byteLength (render id ps)) qs
  | _, [], _ => rfl
  | offset, .char c :: ps, qs => by
    rw [List.cons_append, placed, placed_append, render_char, byteLength_cons, Nat.add_assoc]
    rfl
  | offset, .found cs :: ps, qs => by
    rw [List.cons_append, placed, placed_append, render_found, id, byteLength_append, Nat.add_assoc]
    rfl

/-- Where the first piece is moved, all pieces are. -/
theorem placed_add (k : Nat) : ∀ (offset : Nat) (ps : List (Piece (List Char))),
    placed (k + offset) ps = (placed offset ps).map fun x => (k + x.1, x.2)
  | _, [] => rfl
  | offset, .char c :: ps => by rw [placed, placed, Nat.add_assoc, placed_add]
  | offset, .found cs :: ps => by rw [placed, placed, Nat.add_assoc, placed_add, List.map_cons]

/-- What is found after other pieces is placed where the text of those ends. -/
theorem mem_placed_append (offset : Nat) (ps : List (Piece (List Char))) (a : List Char) (qs : List (Piece (List Char))) :
    (offset + byteLength (render id ps), a) ∈ placed offset (ps ++ .found a :: qs) := by
  rw [placed_append]
  exact List.mem_append_right _ List.mem_cons_self

/-- What is found stands at its offset. -/
theorem placed_at : ∀ (offset : Nat) (pieces : List (Piece (List Char))), ∀ x ∈ placed offset pieces,
    ∃ pre post, render id pieces = pre ++ x.2 ++ post ∧ x.1 = offset + byteLength pre
  | _, [], x, hx => by cases hx
  | offset, .char c :: pieces, x, hx => by
    obtain ⟨pre, post, hr, ho⟩ := placed_at _ pieces x hx
    refine ⟨c :: pre, post, ?_, by rw [ho, byteLength_cons, Nat.add_assoc]⟩
    show c :: render id pieces = _
    rw [hr]; rfl
  | offset, .found cs :: pieces, x, hx => by
    rcases List.mem_cons.1 hx with rfl | hx
    · exact ⟨[], render id pieces, rfl, rfl⟩
    · obtain ⟨pre, post, hr, ho⟩ := placed_at _ pieces x hx
      refine ⟨cs ++ pre, post, ?_, by rw [ho, byteLength_append, Nat.add_assoc]⟩
      show cs ++ render id pieces = _
      rw [hr]; simp only [List.append_assoc]

/-- What holds of the text before each piece, and how each piece was found. The property is that of a
prefix of the text, and lasts over a piece that more text follows. -/
theorem placed_scan {recognise : Recogniser (List Char)} (hexact : recognise.Exact) {P : List Char → Prop}
    (hchar : ∀ pre c rest, P pre → recognise (c :: rest) = none → P (pre ++ [c]))
    (hfound : ∀ pre a n post, P pre → post ≠ [] → recognise (a ++ post) = some (a, n) → P (pre ++ a)) :
    ∀ cs pre, P pre → ∀ x ∈ placed (byteLength pre) (scan recognise cs),
      ∃ mid post n, cs = mid ++ x.2 ++ post ∧ x.1 = byteLength (pre ++ mid) ∧ P (pre ++ mid) ∧
        recognise (x.2 ++ post) = some (x.2, n)
  | [], _, _, _, hx => by cases hx
  | c :: cs, pre, hP, x, hx => by
    cases hr : recognise (c :: cs) with
    | none =>
      rw [scan_char hr, placed, show byteLength pre + c.utf8Size = byteLength (pre ++ [c]) by
        rw [byteLength_append, byteLength_cons, byteLength_nil, Nat.add_zero]] at hx
      obtain ⟨mid, post, n, rfl, ho, hmid, hrec⟩ :=
        placed_scan hexact hchar hfound cs _ (hchar pre c cs hP hr) x hx
      refine ⟨c :: mid, post, n, rfl, ?_, ?_, hrec⟩
      · rw [ho, List.append_assoc, List.singleton_append]
      · rwa [← List.singleton_append, ← List.append_assoc]
    | some found =>
      obtain ⟨a, n⟩ := found
      obtain ⟨t, rest, hsplit, rfl, hscan⟩ := scan_of_exact hexact hr
      rw [hsplit] at hr
      rw [hscan, placed, ← byteLength_append] at hx
      rcases List.mem_cons.1 hx with rfl | hx
      · exact ⟨[], rest, n, congrArg (c :: ·) hsplit, by rw [List.append_nil], by rwa [List.append_nil], hr⟩
      have hrest : rest ≠ [] := by
        rintro rfl
        cases hx
      have hlt : rest.length < (c :: cs).length := by
        rw [hsplit, List.length_cons, List.length_append]
        omega
      obtain ⟨mid, post, n, hmid, ho, hpre, hrec⟩ :=
        placed_scan hexact hchar hfound rest _ (hfound pre (c :: t) _ _ hP hrest hr) x hx
      refine ⟨c :: t ++ mid, post, n, ?_, ?_, ?_, hrec⟩
      · rw [hsplit, hmid]
        simp only [List.cons_append, List.append_assoc]
      · rw [ho, List.append_assoc]
      · rwa [← List.append_assoc]
termination_by cs => cs.length
decreasing_by
  · exact Nat.lt_succ_self _
  · exact hlt

/-- What is found does not overlap. -/
theorem placed_pairwise : ∀ (offset : Nat) (pieces : List (Piece (List Char))),
    (placed offset pieces).Pairwise fun x y => x.1 + byteLength x.2 ≤ y.1
  | _, [] => List.Pairwise.nil
  | _, .char _ :: pieces => placed_pairwise _ pieces
  | offset, .found cs :: pieces => by
    refine List.pairwise_cons.2 ⟨fun y hy => ?_, placed_pairwise _ pieces⟩
    obtain ⟨pre, -, -, ho⟩ := placed_at _ pieces y hy
    show offset + byteLength cs ≤ y.1
    omega

end TemporalTagger.Text
