/-
The resource format of pattern variables, one `name=value` a line. A resource is read exactly if each of its content
lines defines a variable, and a table that is written out, in whatever order and with whatever comments, is read back:
of several definitions of a name the last one counts. Main fact: `parse_definitions`.
-/
import TemporalTagger.Proofs.Resource.Reading
import TemporalTagger.Proofs.Rule.Spelling
import TemporalTagger.Proofs.Text.Beginnings
import TemporalTagger.Resource.Variables

namespace TemporalTagger

open Text Resource

namespace Variables

/-! ## Definitions -/

/-- A line that defines a variable: what stands before its first equals sign is a name, apart from blanks. -/
def IsDefinition (line : List Char) : Prop :=
  ∃ before value, line = before ++ '=' :: value ∧ '=' ∉ before ∧ isName (trimChars before) = true

/-- What is wrong with a line that defines no variable. -/
def fault (line : List Char) : ResourceFault :=
  if '=' ∈ line then .badName (trimChars (line.takeWhile (· != '='))) else .noEqualsSign line

/-- Takes a line into the table. -/
def step (t : Variables) (line : List Char) : Except ResourceFault Variables :=
  (parseLine line).map fun (name, value) => t.insert name value

theorem parseLines_eq (resource : String) : ∀ (t : Variables) (ls : List (Nat × List Char)),
    parseLines resource t ls = readLines step resource t ls
  | _, [] => rfl
  | t, (number, line) :: rest => by
    rw [parseLines, readLines, step]
    cases parseLine line with
    | error => rfl
    | ok definition => exact parseLines_eq resource _ rest

theorem parseLine_of_not_mem {line : List Char} (h : '=' ∉ line) : parseLine line = .error (.noEqualsSign line) := by
  have hcut : cutAt? ['='] line = none := by
    by_contra hne
    exact h (mem_of_cutAt? (Option.isSome_iff_ne_none.2 hne))
  rw [parseLine, hcut]

theorem parseLine_append {before : List Char} (h : '=' ∉ before) (value : List Char) :
    parseLine (before ++ '=' :: value) = if isName (trimChars before) then
      .ok (String.ofList (trimChars before), String.ofList value) else .error (.badName (trimChars before)) := by
  rw [parseLine, cutAt?_append_cons h]

/-- A line is taken if it is a definition, whatever the table is. -/
theorem step_cases (t : Variables) (line : List Char) :
    (∃ t', step t line = .ok t') ∧ IsDefinition line ∨ step t line = .error (fault line) ∧ ¬ IsDefinition line := by
  by_cases hmem : '=' ∈ line
  · obtain ⟨before, value, rfl, hbefore⟩ := List.eq_append_cons_of_mem hmem
    by_cases hname : isName (trimChars before) = true
    · left
      rw [step, parseLine_append hbefore, if_pos hname]
      exact ⟨⟨_, rfl⟩, before, value, rfl, hbefore, hname⟩
    · right
      have htake : (before ++ '=' :: value).takeWhile (· != '=') = before := by
        rw [List.takeWhile_append_of_pos fun c hc => bne_iff_ne.2 (ne_of_mem_of_not_mem hc hbefore),
          List.takeWhile_cons_of_neg (by simp), List.append_nil]
      rw [step, parseLine_append hbefore, if_neg hname, fault, if_pos hmem, htake]
      refine ⟨rfl, ?_⟩
      rintro ⟨before', value', heq, hbefore', hname'⟩
      have hcut := cutAt?_append_cons hbefore value
      rw [heq, cutAt?_append_cons hbefore'] at hcut
      obtain rfl := (Prod.mk.inj (Option.some.inj hcut)).1
      exact hname hname'
  · right
    rw [step, parseLine_of_not_mem hmem, fault, if_neg hmem]
    refine ⟨rfl, ?_⟩
    rintro ⟨before, value, rfl, -⟩
    exact hmem (List.mem_append_right _ List.mem_cons_self)

/-! ## Written tables -/

/-- A line of a written table: a definition, or one that says nothing. -/
inductive WrittenLine
  | definition (name value : String)
  | silent (text : List Char)

namespace WrittenLine

/-- The characters of a line. -/
def chars : WrittenLine → List Char
  | definition name value => name.toList ++ '=' :: value.toList
  | silent text => text

/-- What is read of a line. -/
def content? : WrittenLine → Option (String × String)
  | definition name value => some (name, String.ofList (trimEnd value.toList))
  | silent _ => none

theorem content?_definition (name value : String) :
    (definition name value).content? = some (name, String.ofList (trimEnd value.toList)) := rfl

theorem content?_silent (text : List Char) : (silent text).content? = none := rfl

end WrittenLine

/-- The text of lines. -/
def write (ls : List WrittenLine) : String := String.ofList (['\n'].intercalate (ls.map WrittenLine.chars))

/-- Lines write a table of variables: the last definition of each name gives its value, and beside these there are
earlier definitions, blank lines and comments. -/
structure Writes (ls : List WrittenLine) (m : String → Option String) : Prop where
  newline : ∀ l ∈ ls, '\n' ∉ l.chars
  name : ∀ name value, .definition name value ∈ ls → isName name.toList = true
  silent : ∀ text, .silent text ∈ ls → Silent text
  last : ∀ name value, m name = some value ↔
    ∃ pre post, ls = pre ++ .definition name value :: post ∧ ∀ v, .definition name v ∉ post
  trimmed : ∀ name value, m name = some value → ∀ c ∈ value.toList.getLast?, Unicode.isSpace c = false

/-- A name is written in letters and digits alone. -/
theorem isAlphanum_of_mem_name {name : List Char} (h : isName name = true) {c : Char} (hc : c ∈ name) :
    c.isAlphanum = true := by
  cases name with
  | nil => cases hc
  | cons d rest =>
    rw [isName, Bool.and_eq_true] at h
    rcases List.mem_cons.1 hc with rfl | hc
    · exact Bool.or_eq_true_iff.2 (.inl h.1)
    · exact List.all_eq_true.1 h.2 c hc

theorem equalsSign_not_mem_name {name : List Char} (h : isName name = true) : '=' ∉ name := fun hmem => by
  have := isAlphanum_of_mem_name h hmem
  revert this
  decide

theorem trimChars_definition {name : List Char} (h : isName name = true) (value : List Char) :
    trimChars (name ++ '=' :: value) = name ++ '=' :: trimEnd value := by
  cases name with
  | nil => cases h
  | cons c rest =>
    rw [List.cons_append, trimChars_cons (isSpace_of_isAlphanum (isAlphanum_of_mem_name h List.mem_cons_self)),
      trimEnd_append_cons (by decide +kernel)]
    rfl

/-- Nothing is trimmed off a name. -/
theorem trimChars_name {name : List Char} (h : isName name = true) : trimChars name = name := by
  have hspace : ∀ c ∈ name, Unicode.isSpace c = false := fun c hc => isSpace_of_isAlphanum (isAlphanum_of_mem_name h hc)
  cases hlast : name.getLast? with
  | none =>
    rw [List.getLast?_eq_none_iff.1 hlast] at h
    cases h
  | some c =>
    cases hfirst : name.head? with
    | none =>
      rw [List.head?_eq_none_iff.1 hfirst] at h
      cases h
    | some d =>
      exact trimChars_eq_self hfirst (hspace d (List.mem_of_head? hfirst)) hlast
        (hspace c (List.mem_of_getLast? hlast))

theorem parseLine_definition {name : List Char} (h : isName name = true) (value : List Char) :
    parseLine (name ++ '=' :: value) = .ok (String.ofList name, String.ofList value) := by
  rw [parseLine_append (equalsSign_not_mem_name h), trimChars_name h, if_pos h]

theorem isContent_definition {name : List Char} (h : isName name = true) (value : List Char) :
    isContent (name ++ '=' :: value) = true := by
  cases name with
  | nil => cases h
  | cons c rest =>
    refine isContent_cons ?_ _
    rintro rfl
    cases isAlphanum_of_mem_name h List.mem_cons_self

/-- What the content lines of a written table say. -/
theorem contentLines_write {ls : List WrittenLine} {m : String → Option String} (h : Writes ls m) :
    (contentLines (write ls)).map Prod.snd =
      (ls.filterMap WrittenLine.content?).map fun e => e.1.toList ++ '=' :: e.2.toList := by
  have hlines : ∀ ls' : List WrittenLine, ls' ⊆ ls → said (ls'.map WrittenLine.chars) =
      (ls'.filterMap WrittenLine.content?).map fun e => e.1.toList ++ '=' :: e.2.toList := by
    intro ls' hsub
    induction ls' with
    | nil => rfl
    | cons l ls' ih =>
      obtain ⟨hl, hrest⟩ := List.cons_subset.1 hsub
      cases l with
      | definition name value =>
        have hname := h.name name value hl
        have htrim := trimChars_definition hname value.toList
        rw [List.map_cons, WrittenLine.chars, said_cons (htrim ▸ isContent_definition hname _), htrim, ih hrest,
          List.filterMap_cons_some (WrittenLine.content?_definition name value), List.map_cons, String.toList_ofList]
      | silent text =>
        rw [List.map_cons, WrittenLine.chars, said_cons_silent (h.silent text hl), ih hrest,
          List.filterMap_cons_none (WrittenLine.content?_silent text)]
  rw [write, map_snd_contentLines (List.forall_mem_map.2 h.newline)]
  exact hlines ls (List.Subset.refl ls)

/-- Definitions are taken one after the other. -/
theorem foldlM_step_eq : ∀ {es : List (String × String)}, (∀ e ∈ es, isName e.1.toList = true) → ∀ t : Variables,
    (es.map fun e => e.1.toList ++ '=' :: e.2.toList).foldlM step t =
      .ok (es.foldl (fun t (name, value) => t.insert name value) t)
  | [], _, t => rfl
  | e :: es, h, t => by
    obtain ⟨he, hes⟩ := List.forall_mem_cons.1 h
    rw [List.map_cons, List.foldlM_cons, step, parseLine_definition he, String.ofList_toList, String.ofList_toList]
    exact foldlM_step_eq hes _

theorem isName_of_mem_entries {ls : List WrittenLine} {m : String → Option String} (h : Writes ls m) :
    ∀ e ∈ ls.filterMap WrittenLine.content?, isName e.1.toList = true := by
  intro e he
  obtain ⟨l, hl, hentry⟩ := List.mem_filterMap.1 he
  cases l with
  | definition name value =>
    obtain rfl := Option.some.inj hentry
    exact h.name name value hl
  | silent text => cases hentry

/-- Of the definitions of a name the last one counts. -/
theorem lookup_entries_iff {ls : List WrittenLine} {name v : String} :
    (ls.filterMap WrittenLine.content?).reverse.lookup name = some v ↔
      ∃ pre value post, ls = pre ++ .definition name value :: post ∧ (∀ v', .definition name v' ∉ post) ∧
        v = String.ofList (trimEnd value.toList) := by
  rw [List.lookup_eq_some_iff]
  constructor
  · rintro ⟨later, earlier, heq, hlater⟩
    rw [List.reverse_eq_append_iff, List.reverse_cons, List.append_assoc, List.singleton_append] at heq
    obtain ⟨pre, rest, rfl, -, hrest⟩ := List.filterMap_eq_append_iff.1 heq
    obtain ⟨silent, l, post, rfl, -, hl, hpost⟩ := List.filterMap_eq_cons_iff.1 hrest
    cases l with
    | definition n value =>
      obtain ⟨rfl, rfl⟩ := Prod.mk.inj (Option.some.inj hl)
      refine ⟨pre ++ silent, value, post, (List.append_assoc _ _ _).symm, fun v' hv' => ?_, rfl⟩
      have hmem : (n, String.ofList (trimEnd v'.toList)) ∈ later.reverse := hpost ▸ List.mem_filterMap.2 ⟨_, hv', rfl⟩
      simpa using hlater _ (List.mem_reverse.1 hmem)
    | silent text => cases hl
  · rintro ⟨pre, value, post, rfl, hpost, rfl⟩
    refine ⟨(post.filterMap WrittenLine.content?).reverse, (pre.filterMap WrittenLine.content?).reverse, ?_,
      fun e he => ?_⟩
    · rw [List.filterMap_append, List.filterMap_cons_some (WrittenLine.content?_definition name value),
        List.reverse_append, List.reverse_cons, List.append_assoc, List.singleton_append]
    · obtain ⟨l, hl, hentry⟩ := List.mem_filterMap.1 (List.mem_reverse.1 he)
      cases l with
      | definition n v' =>
        obtain rfl := Option.some.inj hentry
        exact bne_iff_ne.2 fun h => hpost v' (h ▸ hl)
      | silent text => cases hentry

/-- What is read of a written table is what it says. -/
theorem lookup_entries {ls : List WrittenLine} {m : String → Option String} (h : Writes ls m) (name : String) :
    (ls.filterMap WrittenLine.content?).reverse.lookup name = m name := by
  have hvalue : ∀ value, m name = some value → String.ofList (trimEnd value.toList) = value := by
    intro value hm
    cases hlast : value.toList.getLast? with
    | none =>
      rw [List.getLast?_eq_none_iff] at hlast
      rw [hlast, ← String.toList_inj, String.toList_ofList, hlast]
      rfl
    | some c => rw [trimEnd_eq_self hlast (h.trimmed name value hm c hlast), String.ofList_toList]
  ext v
  rw [lookup_entries_iff]
  constructor
  · rintro ⟨pre, value, post, hls, hpost, rfl⟩
    have hm := (h.last name value).2 ⟨pre, post, hls, hpost⟩
    rwa [hvalue value hm]
  · intro hm
    obtain ⟨pre, post, hls, hpost⟩ := (h.last name v).1 hm
    exact ⟨pre, v, post, hls, hpost, (hvalue v hm).symm⟩

/-! ## Reading -/

/-- A resource is read exactly if each content line of it defines a variable, and else the first line that does not is
reported. A table that is written out is read back. -/
theorem parse_definitions (resource : String) :
    (∀ text, ((∃ t, parse resource text = .ok t) ↔ ∀ number line, HasLine text number line → IsDefinition line) ∧
      ∀ e, parse resource text = .error e ↔ ∃ number line, FirstMisfit text (fun _ => IsDefinition) number line ∧
        e = .invalidResource resource number (fault line)) ∧
      ∀ ls m, Writes ls m → ∃ t, parse resource (write ls) = .ok t ∧ t.Holds m := by
  refine ⟨fun text => ?_, fun ls m h => ?_⟩
  · rw [parse, parseLines_eq]
    exact readLines_contentLines (fun _ _ line _ t _ _ => step_cases t line) resource
  · refine ⟨Table.ofList (ls.filterMap WrittenLine.content?), ?_, Table.nodup_ofList _, fun name => ?_⟩
    · rw [parse, parseLines_eq]
      apply readLines_of_foldlM
      rw [contentLines_write h, foldlM_step_eq (isName_of_mem_entries h)]
      rfl
    · rw [Table.get?_ofList, lookup_entries h]

/-- A value may hold equals signs, quotes and blanks in front, and replaces the one before it. -/
theorem parse_redefinition : ∃ t, parse "english/patterns" (write [.silent "  // odd".toList,
    .definition "reOdd" "a ", .silent [], .definition "reOdd" " (?:a=\"b\")"]) = .ok t ∧
      t.Holds fun name => if name = "reOdd" then some " (?:a=\"b\")" else none := by
  refine (parse_definitions "english/patterns").2 _ _ ⟨?_, ?_, ?_, ?_, ?_⟩
  · decide +kernel
  · intro name value h
    have hname : name = "reOdd" := by simp at h; tauto
    subst hname
    decide +kernel
  · intro text h
    have htext : text = "  // odd".toList ∨ text = [] := by simpa using h
    rcases htext with rfl | rfl
    · exact .inr (List.isPrefixOf_iff_prefix.1 (by decide +kernel))
    · exact .inl rfl
  · intro name value
    constructor
    · intro h
      obtain ⟨rfl, rfl⟩ : name = "reOdd" ∧ value = " (?:a=\"b\")" := by split at h <;> simp_all
      exact ⟨[_, _, _], [], rfl, fun _ => List.not_mem_nil⟩
    · rintro ⟨pre, post, hls, hpost⟩
      simp [List.cons_eq_append_iff] at hls
      obtain ⟨_, -, ⟨-, ⟨rfl, -⟩, rfl⟩ | ⟨-, ⟨rfl, rfl⟩, -⟩⟩ := hls
      · exact absurd (by simp) (hpost " (?:a=\"b\")")
      · exact if_pos rfl
  · intro name value h c hc
    have hvalue : value = " (?:a=\"b\")" := by split at h <;> simp_all
    subst hvalue
    obtain rfl : c = ')' := by simpa using hc.symm
    decide +kernel

end Variables

end TemporalTagger
