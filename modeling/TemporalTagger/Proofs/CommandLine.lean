/-
The two spellings of an option with a value. As one argument, `--type=news`, and as two, `--type news`, an option is
read alike, except that in one argument its spelling may be repeated before the value. Arguments are read in turn, and
what complete ones do does not depend on what follows them (`complete_of_keepsReading`). Main fact: `run_spellings`.
-/
import TemporalTagger.CommandLine
import TemporalTagger.Proofs.Text.Beginnings
import TemporalTagger.Proofs.Text.Lines

namespace TemporalTagger.CommandLine

open Text

/-! ## Spellings of an option -/

namespace ValueOption

/-- What an argument begins with that holds an option and its value. -/
def beginning (o : ValueOption) : List Char := o.name.toList ++ ['=']

/-- An option and its value in one argument. -/
def assignment (o : ValueOption) (value : String) : String := o.name ++ "=" ++ value

theorem toList_assignment (o : ValueOption) (value : String) :
    (o.assignment value).toList = o.beginning ++ value.toList := by
  rw [assignment, String.toList_append, String.toList_append]
  rfl

/-- The value that is read from one argument. -/
def bare (o : ValueOption) (value : String) : String :=
  String.ofList (dropRepeated o.beginning value.toList.length value.toList)

theorem mem_all (o : ValueOption) : o ∈ all := by cases o <;> decide

theorem equalsSign_not_mem_name (o : ValueOption) : '=' ∉ o.name.toList := by cases o <;> decide

theorem name_injective {o o' : ValueOption} (h : o.name = o'.name) : o = o' := by
  revert h
  cases o <;> cases o' <;> decide

theorem equalsSign_mem_assignment (o : ValueOption) (value : String) : '=' ∈ (o.assignment value).toList := by
  rw [toList_assignment, beginning]
  simp

/-- An argument that assigns a value is no text without an equals sign. -/
theorem assignment_ne (o : ValueOption) (value : String) {arg : String} (h : '=' ∉ arg.toList) :
    o.assignment value ≠ arg := by
  rintro rfl
  exact h (o.equalsSign_mem_assignment value)

/-- An argument assigns to one option alone. -/
theorem after?_assignment (o o' : ValueOption) (value : String) :
    after? o'.beginning (o.assignment value).toList = if o' = o then some value.toList else none := by
  rw [toList_assignment]
  split
  next h => rw [h, after?_append]
  next hne =>
    by_contra h
    obtain ⟨rest, hrest⟩ := Option.ne_none_iff_exists'.1 h
    have hsplit := after?_eq_some_iff.1 hrest
    simp only [beginning, List.append_assoc, List.singleton_append] at hsplit
    -- both names end at the first equals sign
    have hcut := cutAt?_append_cons o.equalsSign_not_mem_name value.toList
    rw [hsplit, cutAt?_append_cons o'.equalsSign_not_mem_name] at hcut
    exact hne (name_injective (String.toList_inj.1 (Prod.mk.inj (Option.some.inj hcut)).1))

theorem ofAssignment?_assignment (o : ValueOption) (value : String) :
    ofAssignment? (o.assignment value) = some (o, o.bare value) := by
  have hread : ∀ o' : ValueOption, ((after? (o'.name.toList ++ ['=']) (o.assignment value).toList).map fun rest =>
      (o', String.ofList (dropRepeated (o'.name.toList ++ ['=']) rest.length rest))) =
        if o' = o then some (o, o.bare value) else none := by
    intro o'
    rw [← beginning, after?_assignment]
    split
    next h => rw [h]; rfl
    next => rfl
  simp only [ofAssignment?, hread]
  cases o <;> rfl

theorem ofArgument?_assignment (o : ValueOption) (value : String) : ofArgument? (o.assignment value) = none := by
  rw [ofArgument?, if_neg (by simpa using o.assignment_ne value (by decide)),
    if_neg (by simpa using o.assignment_ne value (by decide)), List.find?_eq_none]
  intro o' _ h
  exact o.assignment_ne value o'.equalsSign_not_mem_name (beq_iff_eq.1 h).symm

theorem ofArgument?_name (o : ValueOption) : ofArgument? o.name = some o := by cases o <;> decide

end ValueOption

/-! ## Reading arguments -/

/-- The arguments that neither take a value nor set one. -/
def flags : List String := ["-h", "--help", "-V", "--version", "--color", "--no-color", "--temponyms", "--"]

theorem parseArguments_option {arg : String} {o : ValueOption} (h : ValueOption.ofArgument? arg = some o) (r : Request)
    (value : String) (rest : List String) :
    parseArguments r (arg :: value :: rest) = (r.setOption o value).bind (parseArguments · rest) := by
  have hnone : ∀ flag ∈ flags, ValueOption.ofArgument? flag = none := by decide
  have hflags : ∀ flag ∈ flags, (arg == flag) = false := by
    intro flag hflag
    refine beq_eq_false_iff_ne.2 ?_
    rintro rfl
    rw [hnone arg hflag] at h
    cases h
  simp only [flags, List.forall_mem_cons] at hflags
  rw [parseArguments]
  simp only [hflags, h, Bool.or_self, Bool.false_eq_true, if_false]
  rfl

theorem parseArguments_assignment (r : Request) (o : ValueOption) (value : String) (rest : List String) :
    parseArguments r (o.assignment value :: rest) = (r.setOption o (o.bare value)).bind (parseArguments · rest) := by
  have hsign : ∀ flag ∈ flags, '=' ∉ flag.toList := by decide
  have hflags : ∀ flag ∈ flags, (o.assignment value == flag) = false := fun flag hflag =>
    beq_eq_false_iff_ne.2 (o.assignment_ne value (hsign flag hflag))
  simp only [flags, List.forall_mem_cons] at hflags
  rw [parseArguments]
  simp only [hflags, o.ofArgument?_assignment, o.ofAssignment?_assignment, Bool.or_self, Bool.false_eq_true, if_false]
  rfl

/-- The two spellings of an option ask for the same, the value in one argument without its repeated beginnings. -/
theorem parseArguments_assignment_eq (r : Request) (o : ValueOption) (value : String) (rest : List String) :
    parseArguments r (o.assignment value :: rest) = parseArguments r (o.name :: o.bare value :: rest) := by
  rw [parseArguments_assignment, parseArguments_option o.ofArgument?_name]

/-- What arguments do whatever follows them: they change what is asked for, or they settle the answer. -/
def Complete (r : Request) (args : List String) : Prop :=
  (∃ r', ∀ rest, parseArguments r (args ++ rest) = parseArguments r' rest) ∨
    ∃ answer, (∀ r', answer ≠ .ok (.tag r')) ∧ ∀ rest, parseArguments r (args ++ rest) = answer

theorem Complete.append {r : Request} {a b : List String} (ha : Complete r a) (hb : ∀ r, Complete r b) :
    Complete r (a ++ b) := by
  rcases ha with ⟨r', hr'⟩ | ⟨answer, hne, hanswer⟩
  · refine (hb r').imp ?_ ?_
    · rintro ⟨r'', hr''⟩
      exact ⟨r'', fun rest => by rw [List.append_assoc, hr', hr'']⟩
    · rintro ⟨answer, hne, hanswer⟩
      exact ⟨answer, hne, fun rest => by rw [List.append_assoc, hr', hanswer]⟩
  · exact .inr ⟨answer, hne, fun rest => by rw [List.append_assoc, hanswer]⟩

theorem complete_of_bind {r : Request} {args : List String} {x : Except ArgumentError Request}
    (h : ∀ rest, parseArguments r (args ++ rest) = x.bind (parseArguments · rest)) : Complete r args := by
  cases x with
  | error e => exact .inr ⟨.error e, fun _ => by simp, h⟩
  | ok r' => exact .inl ⟨r', h⟩

/-- An argument that begins with a dash and is no option with a value stands alone, unless it ends the options. -/
theorem complete_dash {arg : String} (h : ValueOption.ofArgument? arg = none) (hends : (arg == "--") = false)
    (hdash : arg.startsWith "-" = true) (r : Request) : Complete r [arg] := by
  have hread : ∀ rest, parseArguments r ([arg] ++ rest) =
      if arg == "-h" || arg == "--help" then .ok .help
      else if arg == "-V" || arg == "--version" then .ok .version
      else if arg == "--color" then parseArguments { r with colours := true } rest
      else if arg == "--no-color" then parseArguments { r with colours := false } rest
      else if arg == "--temponyms" then parseArguments { r with temponyms := true } rest
      else (ValueOption.ofAssignment? arg).elim (.error (.unknownOption arg)) fun p =>
        (r.setOption p.1 p.2).bind (parseArguments · rest) := by
    intro rest
    rw [List.singleton_append, parseArguments]
    simp only [h, hends, hdash, Bool.false_eq_true, if_false, if_true]
    cases ValueOption.ofAssignment? arg <;> rfl
  split_ifs at hread with hhelp hversion
  · exact .inr ⟨_, fun _ => by simp, hread⟩
  · exact .inr ⟨_, fun _ => by simp, hread⟩
  · exact .inl ⟨_, hread⟩
  · exact .inl ⟨_, hread⟩
  · exact .inl ⟨_, hread⟩
  · cases hvalue : ValueOption.ofAssignment? arg with
    | none =>
      rw [hvalue] at hread
      exact .inr ⟨_, fun _ => by simp, hread⟩
    | some p =>
      rw [hvalue] at hread
      exact complete_of_bind hread

/-- Whether options are still read after arguments: none of them is the first of the input or ends the options, and
none still waits for its value. -/
def keepsReading : List String → Bool
  | [] => true
  | arg :: rest =>
    match ValueOption.ofArgument? arg, rest with
    | some _, [] => false
    | some _, _ :: rest => keepsReading rest
    | none, rest => arg != "--" && arg.startsWith "-" && keepsReading rest

theorem complete_of_keepsReading {before : List String} (h : keepsReading before = true) (r : Request) :
    Complete r before := by
  fun_induction keepsReading before generalizing r with
  | case1 => exact .inl ⟨r, fun _ => rfl⟩
  | case2 => cases h
  | case3 arg o value before hoption ih =>
    have hvalue : Complete r [arg, value] := complete_of_bind (parseArguments_option hoption r value)
    exact hvalue.append (ih h)
  | case4 arg before hoption ih =>
    simp only [Bool.and_eq_true, bne, Bool.not_eq_true'] at h
    exact (complete_dash hoption h.1.1 h.1.2 r).append (ih h.2)

/-- What follows arguments after which options are still read is read from what these ask for, unless they settle the
answer. -/
theorem parseArguments_append {before : List String} (h : keepsReading before = true) (r : Request)
    (rest : List String) : parseArguments r (before ++ rest) =
      match parseArguments r before with
      | .ok (.tag r) => parseArguments r rest
      | answer => answer := by
  rcases complete_of_keepsReading h r with ⟨r', hr'⟩ | ⟨answer, hne, hanswer⟩
  · have hbefore := hr' []
    rw [List.append_nil] at hbefore
    rw [hr', hbefore]
    rfl
  · have hbefore := hanswer []
    rw [List.append_nil] at hbefore
    rw [hanswer, hbefore]
    cases answer with
    | error => rfl
    | ok command =>
      cases command with
      | tag r' => exact absurd rfl (hne r')
      | help => rfl
      | version => rfl


/-! ## Values with repeated beginnings -/

theorem ValueOption.dropRepeated_eq_self {b cs : List Char} (h : ¬ b <+: cs) : ∀ fuel, dropRepeated b fuel cs = cs
  | 0 => rfl
  | fuel + 1 => by
    rw [dropRepeated, after?, if_neg (by rwa [List.isPrefixOf_iff_prefix])]

theorem ValueOption.exists_replicate {b : List Char} (hb : b ≠ []) : ∀ {fuel : Nat} {cs : List Char}, cs.length ≤ fuel →
    ∃ k, cs = (List.replicate k b).flatten ++ dropRepeated b fuel cs ∧ ¬ b <+: dropRepeated b fuel cs
  | 0, cs, h => by
    obtain rfl := List.eq_nil_of_length_eq_zero (Nat.le_zero.1 h)
    exact ⟨0, rfl, fun hbegins => hb (List.prefix_nil.1 hbegins)⟩
  | fuel + 1, cs, h => by
    by_cases hbegins : b <+: cs
    · obtain ⟨rest, rfl⟩ := hbegins
      have hlength : rest.length ≤ fuel := by
        have := List.length_pos_of_ne_nil hb
        rw [List.length_append] at h
        omega
      obtain ⟨k, hrest, hnone⟩ := exists_replicate hb hlength
      have hdrop : dropRepeated b (fuel + 1) (b ++ rest) = dropRepeated b fuel rest := by
        rw [dropRepeated, after?_append]
      refine ⟨k + 1, ?_, hdrop ▸ hnone⟩
      rw [hdrop, List.replicate_succ, List.flatten_cons, List.append_assoc, ← hrest]
    · rw [dropRepeated_eq_self hbegins]
      exact ⟨0, rfl, hbegins⟩

/-- The value that is read from one argument is what follows all beginnings that stand before it. -/
theorem ValueOption.exists_bare (o : ValueOption) (value : String) :
    ∃ k, value.toList = (List.replicate k o.beginning).flatten ++ (o.bare value).toList ∧
      ¬ o.beginning <+: (o.bare value).toList := by
  rw [bare, String.toList_ofList]
  exact exists_replicate (List.append_ne_nil_of_right_ne_nil _ (List.cons_ne_nil _ _)) le_rfl

theorem ValueOption.bare_eq_self_iff (o : ValueOption) (value : String) :
    o.bare value = value ↔ ¬ o.beginning <+: value.toList := by
  constructor
  · intro h
    obtain ⟨k, -, hnone⟩ := o.exists_bare value
    rwa [h] at hnone
  · intro h
    rw [bare, dropRepeated_eq_self h, String.ofList_toList]

/-! ## Refused values -/

/-- The complaint about a value that an option cannot take. -/
def ValueOption.refusal (o : ValueOption) (value : String) : ArgumentError :=
  match o with
  | .language => .setting (.unknownLanguage value)
  | .creationDate => .invalidDate value
  | .documentType => .setting (.unknownDocumentType value)
  | .input => .repeatedInput

theorem setOption_eq_ok_or (r : Request) (o : ValueOption) (value : String) :
    (∃ r', r.setOption o value = .ok r') ∨ r.setOption o value = .error (o.refusal value) := by
  cases o with
  | language =>
    rw [Request.setOption, Language.ofText]
    cases Language.all.find? fun l =>
      l.name == Unicode.lowercase (trim value) || l.code == Unicode.lowercase (trim value) with
    | none => exact .inr rfl
    | some l => exact .inl ⟨_, rfl⟩
  | creationDate =>
    rw [Request.setOption]
    cases Date.parse? value with
    | none => exact .inr rfl
    | some d => exact .inl ⟨_, rfl⟩
  | documentType =>
    rw [Request.setOption, DocumentType.ofText]
    split
    next t ht => exact .inl ⟨_, rfl⟩
    next e he =>
      split at he
      · cases he
      · cases he
      · cases he
      · cases he
        exact .inr rfl
  | input =>
    rw [Request.setOption, Request.setInput]
    split
    · exact .inr rfl
    · exact .inl ⟨_, rfl⟩

/-- No setting has a value that begins with two dashes. -/
theorem setOption_of_dashes {o : ValueOption} {value : String} {cs : List Char} (h : value.toList = '-' :: '-' :: cs)
    (hne : o ≠ .input) (r : Request) : r.setOption o value = .error (o.refusal value) := by
  have htrim : trimChars value.toList = '-' :: trimEnd ('-' :: cs) := by
    rw [h, trimChars_cons (by decide +kernel)]
  cases o with
  | language =>
    have hfirst : (Unicode.lowercase (trim value)).toList.head? = some '-' := by
      have hlower : Unicode.lowerChar '-' = ['-'] := by decide +kernel
      rw [Unicode.lowercase, trim, String.toList_ofList, String.toList_ofList, htrim, Unicode.lowerFrom,
        if_neg (by decide), hlower]
      rfl
    have hnames : ∀ l ∈ Language.all, l.name.toList.head? ≠ some '-' ∧ l.code.toList.head? ≠ some '-' := by decide
    have hnone : (Language.all.find? fun l =>
        l.name == Unicode.lowercase (trim value) || l.code == Unicode.lowercase (trim value)) = none := by
      refine List.find?_eq_none.2 fun l hl heq => ?_
      rw [Bool.or_eq_true, beq_iff_eq, beq_iff_eq] at heq
      rcases heq with heq | heq
      · exact (hnames l hl).1 (heq ▸ hfirst)
      · exact (hnames l hl).2 (heq ▸ hfirst)
    simp only [Request.setOption, Language.ofText, hnone]
    rfl
  | creationDate =>
    have hparse : Date.parse? value = none := by
      rw [Date.parse?, h, trimStart_eq_self rfl (by decide +kernel), Date.readYear?]
      rfl
    rw [Request.setOption, hparse]
    rfl
  | documentType =>
    have hfirst : ∀ name : String, name.toList.head? ≠ some '-' →
        String.ofList ((trimChars value.toList).map Char.toLower) ≠ name := by
      rintro name hname rfl
      refine hname ?_
      rw [String.toList_ofList, htrim]
      rfl
    have hunknown : DocumentType.ofText value = .error (.unknownDocumentType value) := by
      rw [DocumentType.ofText]
      split
      next hname => exact absurd hname (hfirst _ (by decide))
      next hname => exact absurd hname (hfirst _ (by decide))
      next hname => exact absurd hname (hfirst _ (by decide))
      next => rfl
    rw [Request.setOption, hunknown]
    rfl
  | input => exact absurd rfl hne

/-- A refusal names the value. -/
theorem exists_refusal_message {o : ValueOption} (hne : o ≠ .input) :
    ∃ first second : String, (∀ value, (o.refusal value).message = first ++ value ++ second) ∧
      ∃ c, first.toList[7]? = some c ∧ c ≠ 'n' := by
  cases o with
  | language =>
    refine ⟨"error: unknown language '", "'", fun value => ?_, 'u', by decide, by decide⟩
    change "error: " ++ ("unknown language '" ++ value ++ "'") = _
    rw [← String.append_assoc, ← String.append_assoc]
    rfl
  | creationDate =>
    exact ⟨"error: invalid --dct '", "' (expected YYYY-MM-DD)", fun value => rfl, 'i', by decide, by decide⟩
  | documentType =>
    refine ⟨"error: unknown document type '", "' (expected news or narrative)", fun value => ?_, 'u', by decide,
      by decide⟩
    change "error: " ++ ("unknown document type '" ++ value ++ "' (expected news or narrative)") = _
    rw [← String.append_assoc, ← String.append_assoc]
    rfl
  | input => exact absurd rfl hne

theorem refusal_message_injective {o : ValueOption} (hne : o ≠ .input) {v w : String}
    (h : (o.refusal v).message = (o.refusal w).message) : v = w := by
  obtain ⟨first, second, hmessage, -⟩ := exists_refusal_message hne
  rw [hmessage, hmessage, String.append_left_inj, String.append_right_inj] at h
  exact h

theorem refusal_message_ne_noInput {o : ValueOption} (hne : o ≠ .input) (value : String) :
    (o.refusal value).message ≠ ArgumentError.noInput.message := by
  obtain ⟨first, second, hmessage, c, hc, hne⟩ := exists_refusal_message hne
  have hkeep : ∀ {a b : String} {c : Char}, a.toList[7]? = some c → (a ++ b).toList[7]? = some c := by
    intro a b c h
    rw [String.toList_append, List.getElem?_append_left (List.getElem?_eq_some_iff.1 h).1, h]
  have hnoInput : ArgumentError.noInput.message.toList[7]? = some 'n' :=
    hkeep (a := "error: no input provided\n\n") (by decide)
  rw [hmessage]
  intro h
  rw [← h, hkeep (hkeep hc)] at hnoInput
  exact hne (Option.some.inj hnoInput)

/-! ## Both spellings -/

/-- An option can still be set after arguments: these are accepted, and an input is not given yet. -/
def Settable (before : List String) (o : ValueOption) : Prop :=
  ∃ r, parseArguments {} before = .ok (.tag r) ∧ (o = .input → r.input = none)

theorem parseArguments_settable {before : List String} {r : Request} (hbefore : keepsReading before = true)
    (h : parseArguments {} before = .ok (.tag r)) (rest : List String) :
    parseArguments {} (before ++ rest) = parseArguments r rest := by
  rw [parseArguments_append hbefore, h]

/-- Where an option cannot be set its value does not matter. -/
theorem parseArguments_of_not_settable {before : List String} {o : ValueOption} (hbefore : keepsReading before = true)
    (h : ¬ Settable before o) (value : String) (after : List String) :
    parseArguments {} (before ++ o.assignment value :: after) =
      parseArguments {} (before ++ o.name :: value :: after) := by
  rw [parseArguments_append hbefore, parseArguments_append hbefore]
  split
  next r hr =>
    have hinput : o = .input ∧ r.input ≠ none := by
      by_contra hnot
      exact h ⟨r, hr, fun ho => by_contra fun hr' => hnot ⟨ho, hr'⟩⟩
    obtain ⟨rfl, hinput⟩ := hinput
    have hset : ∀ text, r.setOption .input text = .error .repeatedInput := fun text =>
      if_pos (Option.isSome_iff_ne_none.2 hinput)
    rw [parseArguments_assignment, parseArguments_option ValueOption.input.ofArgument?_name, hset, hset]
  next => rfl

theorem run_congr {args args' : List String} (h : parseArguments {} args = parseArguments {} args')
    (stdin elapsed : String) : run args stdin elapsed = run args' stdin elapsed := by
  rw [run, run, h]

/-- Where nothing follows, different requests are different answers. -/
theorem eq_of_bind_parseArguments_nil {x y : Except ArgumentError Request}
    (h : x.bind (parseArguments · []) = y.bind (parseArguments · [])) : x = y := by
  cases x with
  | error e =>
    cases y with
    | error e' => exact congrArg _ (Except.error.inj h)
    | ok r => cases h
  | ok r =>
    cases y with
    | error e => cases h
    | ok r' => exact congrArg _ (Command.tag.inj (Except.ok.inj h))

theorem exitCode_tag_ne (r : Request) (input elapsed : String) : (tag r input elapsed).exitCode ≠ 2 := by
  rw [tag]
  split
  · exact (by decide : (1 : Nat) ≠ 2)
  · exact (by decide : (0 : Nat) ≠ 2)

theorem refuse_injective {e e' : ArgumentError} (h : refuse e = refuse e') : e.message = e'.message :=
  (String.append_left_inj _).1 (congrArg Outcome.complaint h)

section

variable {before : List String} {o : ValueOption} {value : String} {r : Request}
  (hbegins : o.beginning <+: value.toList)

include hbegins

theorem setOption_of_beginning (hne : o ≠ .input) (r : Request) : r.setOption o value = .error (o.refusal value) := by
  obtain ⟨rest, hrest⟩ := hbegins
  have hdashes : ∃ cs, o.beginning = '-' :: '-' :: cs := by cases o <;> exact ⟨_, rfl⟩
  obtain ⟨cs, hcs⟩ := hdashes
  exact setOption_of_dashes (by rw [← hrest, hcs]; rfl) hne r

theorem bare_ne : o.bare value ≠ value := fun h => (o.bare_eq_self_iff value).1 h hbegins

/-- A value that begins like the option is stored or refused whole only if it is an argument of its own. -/
theorem setOption_bare_ne (hinput : o = .input → r.input = none) :
    r.setOption o (o.bare value) ≠ r.setOption o value := by
  intro h
  by_cases ho : o = .input
  · subst ho
    have hset : ∀ text, r.setOption .input text = .ok { r with input := some text } := fun text =>
      if_neg (by rw [hinput rfl]; exact Bool.false_ne_true)
    rw [hset, hset] at h
    exact bare_ne hbegins (Option.some.inj (congrArg Request.input (Except.ok.inj h)))
  · rw [setOption_of_beginning hbegins ho] at h
    rcases setOption_eq_ok_or r o (o.bare value) with ⟨r', hr'⟩ | herror
    · rw [hr'] at h
      cases h
    · rw [herror] at h
      exact bare_ne hbegins (refusal_message_injective ho (congrArg ArgumentError.message (Except.error.inj h)))

variable (hbefore : keepsReading before = true) (hr : parseArguments {} before = .ok (.tag r))

include hbefore hr

theorem parseArguments_assignment_ne (hinput : o = .input → r.input = none) :
    parseArguments {} (before ++ [o.assignment value]) ≠ parseArguments {} (before ++ [o.name, value]) := by
  rw [parseArguments_settable hbefore hr, parseArguments_settable hbefore hr, parseArguments_assignment,
    parseArguments_option o.ofArgument?_name]
  exact fun h => setOption_bare_ne hbegins hinput (eq_of_bind_parseArguments_nil h)

/-- The program refuses the value as an argument of its own, and answers otherwise where it is part of one. -/
theorem run_assignment_ne (ho : o ≠ .input) (stdin elapsed : String) :
    run (before ++ [o.assignment value]) stdin elapsed ≠ run (before ++ [o.name, value]) stdin elapsed := by
  have hrefused : run (before ++ [o.name, value]) stdin elapsed = refuse (o.refusal value) := by
    rw [run, parseArguments_settable hbefore hr, parseArguments_option o.ofArgument?_name,
      setOption_of_beginning hbegins ho]
    rfl
  rw [hrefused, run, parseArguments_settable hbefore hr, parseArguments_assignment]
  rcases setOption_eq_ok_or r o (o.bare value) with ⟨r', hr'⟩ | herror
  · rw [hr']
    simp only [Except.bind, parseArguments]
    split
    · exact fun h => refusal_message_ne_noInput ho value (refuse_injective h).symm
    · exact fun h => exitCode_tag_ne _ _ _ (congrArg Outcome.exitCode h)
  · rw [herror]
    exact fun h => bare_ne hbegins (refusal_message_injective ho (refuse_injective h))

end

/-- The two spellings of an option agree on every value that does not begin like the option itself, whatever stands
before and after them, and on every value where the option cannot be set any more. Else they ask for different things,
and unless the value is the input the program answers differently: in one argument the value is what follows all
beginnings that stand before it. -/
theorem run_spellings (o : ValueOption) (value : String) {before : List String} (hbefore : keepsReading before = true) :
    (¬ (o.beginning <+: value.toList ∧ Settable before o) → ∀ after stdin elapsed,
        run (before ++ o.assignment value :: after) stdin elapsed =
          run (before ++ o.name :: value :: after) stdin elapsed) ∧
      (o.beginning <+: value.toList → Settable before o →
        parseArguments {} (before ++ [o.assignment value]) ≠ parseArguments {} (before ++ [o.name, value]) ∧
          (o ≠ .input → ∀ stdin elapsed,
            run (before ++ [o.assignment value]) stdin elapsed ≠ run (before ++ [o.name, value]) stdin elapsed)) ∧
      ∃ k rest, value.toList = (List.replicate k o.beginning).flatten ++ rest ∧ ¬ o.beginning <+: rest ∧
        ∀ after stdin elapsed, run (before ++ o.assignment value :: after) stdin elapsed =
          run (before ++ o.name :: String.ofList rest :: after) stdin elapsed := by
  have hbare : ∀ after, parseArguments {} (before ++ o.assignment value :: after) =
      parseArguments {} (before ++ o.name :: o.bare value :: after) := by
    intro after
    rw [parseArguments_append hbefore, parseArguments_append hbefore]
    split
    next r _ => exact parseArguments_assignment_eq r o value after
    next => rfl
  refine ⟨fun h after stdin elapsed => run_congr ?_ stdin elapsed, ?_, ?_⟩
  · by_cases hset : Settable before o
    · rw [hbare, (o.bare_eq_self_iff value).2 fun hbegins => h ⟨hbegins, hset⟩]
    · exact parseArguments_of_not_settable hbefore hset value after
  · rintro hbegins ⟨r, hr, hinput⟩
    exact ⟨parseArguments_assignment_ne hbegins hbefore hr hinput,
      fun ho => run_assignment_ne hbegins hbefore hr ho⟩
  · obtain ⟨k, hvalue, hnone⟩ := o.exists_bare value
    refine ⟨k, _, hvalue, hnone, fun after stdin elapsed => run_congr ?_ stdin elapsed⟩
    rw [String.ofList_toList]
    exact hbare after

/-- A value that looks like the end of the options is one, and a document type that is assigned twice is read. -/
theorem run_spellings_type : keepsReading ["--input", "--", "--temponyms"] = true ∧
    ∀ stdin elapsed, run ["--input", "--", "--temponyms", "--type=--type=news"] stdin elapsed ≠
      run ["--input", "--", "--temponyms", "--type", "--type=news"] stdin elapsed := by
  have hbefore : keepsReading ["--input", "--", "--temponyms"] = true := by decide +kernel
  refine ⟨hbefore, ?_⟩
  have hanswers := (run_spellings .documentType "--type=news" hbefore).2.1 (by decide) ⟨_, rfl, fun h => by cases h⟩
  exact hanswers.2 (by decide)

end TemporalTagger.CommandLine
