/-
The resource format of normalization tables: a `[normX]` line, then the `"surface","normalized"` lines of the function
`normX`. A resource is read exactly if each of its content lines begins a section or is an entry of one. A table that
is written out in sections is read back, although surface texts may hold what separates the parts of an entry. Main
fact: `parse_sections`.
-/
import TemporalTagger.Proofs.Resource.Entries
import TemporalTagger.Proofs.Resource.Lookup
import TemporalTagger.Proofs.Resource.Reading

namespace TemporalTagger

open Text Unicode Resource

namespace Normalization

/-! ## Lines -/

instance (line : List Char) : Decidable (IsEntry line) := decidable_of_iff' _ isEntry_iff

/-- A line that may stand in a resource: a header, or an entry after some header. -/
def Fits (text : String) (number : Nat) (line : List Char) : Prop :=
  (∃ function, IsHeader line function) ∨
    IsEntry line ∧ ∃ m l function, m < number ∧ HasLine text m l ∧ IsHeader l function

/-- What is wrong with a line that may not. -/
def fault (line : List Char) : ResourceFault := if IsEntry line then .entryBeforeSection else .badEntry line

/-- Takes a line into the table and the section that is read. -/
def step (s : Normalization × Option String) (line : List Char) :
    Except ResourceFault (Normalization × Option String) :=
  parseLine s.1 s.2 line

theorem parseLines_eq (resource : String) :
    ∀ (t : Normalization) (current : Option String) (ls : List (Nat × List Char)),
      parseLines resource t current ls = (readLines step resource (t, current) ls).map Prod.fst
  | _, _, [] => rfl
  | t, current, (number, line) :: rest => by
    rw [parseLines, readLines, step]
    cases parseLine t current line with
    | error => rfl
    | ok s => exact parseLines_eq resource s.1 s.2 rest

theorem step_header {line : List Char} {function : String} (h : IsHeader line function)
    (s : Normalization × Option String) : step s line = .ok (s.1.addFunction function, some function) := by
  simp only [step, parseLine, header?_eq_some_iff.2 h]

/-- A line that is no header is taken if it is an entry and a section is read, and leaves the section. -/
theorem step_cases {line : List Char} (h : ¬ ∃ function, IsHeader line function) (s : Normalization × Option String) :
    (IsEntry line ∧ s.2.isSome = true ∧ ∃ t, step s line = .ok (t, s.2)) ∨
      ¬ (IsEntry line ∧ s.2.isSome = true) ∧ step s line = .error (fault line) := by
  have hheader : header? line = none := by
    rw [Option.eq_none_iff_forall_ne_some]
    exact fun function hfunction => h ⟨function, header?_eq_some_iff.1 hfunction⟩
  obtain ⟨t, current⟩ := s
  simp only [step, parseLine, hheader]
  cases hentry : entry? line with
  | none =>
    have hmisfit : ¬ IsEntry line := fun h => isEntry_iff.1 h hentry
    exact .inr ⟨fun h => hmisfit h.1, by rw [fault, if_neg hmisfit]⟩
  | some entry =>
    have hline : IsEntry line := isEntry_iff.2 (hentry ▸ Option.some_ne_none entry)
    cases current with
    | none => exact .inr ⟨fun h => Bool.false_ne_true h.2, by rw [fault, if_pos hline]⟩
    | some function => exact .inl ⟨hline, rfl, _, rfl⟩

/-- A section is read after some header. -/
theorem isSome_section_iff : ∀ {ls : List (List Char)} {s s' : Normalization × Option String},
    ls.foldlM step s = .ok s' → (s'.2.isSome = true ↔ s.2.isSome = true ∨ ∃ l ∈ ls, ∃ function, IsHeader l function)
  | [], s, s', h => by
    obtain rfl := Except.ok.inj h
    simp
  | l :: ls, s, s', h => by
    rw [List.foldlM_cons] at h
    by_cases hl : ∃ function, IsHeader l function
    · have hsection := hl.choose_spec
      rw [step_header hsection] at h
      simp [isSome_section_iff h, hl]
    · rcases step_cases hl s with ⟨-, -, t, hok⟩ | ⟨-, herror⟩
      · rw [hok] at h
        simp [isSome_section_iff h, hl]
      · rw [herror] at h
        cases h

/-- A line is taken if it fits, after whatever was taken before it. -/
theorem step_fits {text : String} {pre post : List (Nat × List Char)} {number : Nat} {line : List Char}
    {s : Normalization × Option String} (htext : contentLines text = pre ++ (number, line) :: post)
    (hrun : (pre.map Prod.snd).foldlM step (Table.empty, none) = .ok s) :
    (∃ s', step s line = .ok s') ∧ Fits text number line ∨
      step s line = .error (fault line) ∧ ¬ Fits text number line := by
  have hsection : s.2.isSome = true ↔ ∃ m l function, m < number ∧ HasLine text m l ∧ IsHeader l function := by
    rw [isSome_section_iff hrun]
    constructor
    · rintro (h | ⟨l, hl, function, hfunction⟩)
      · cases h
      · obtain ⟨⟨m, l⟩, hmem, rfl⟩ := List.mem_map.1 hl
        obtain ⟨hlt, hline⟩ := (mem_before_iff htext).1 hmem
        exact ⟨m, l, function, hlt, hline, hfunction⟩
    · rintro ⟨m, l, function, hlt, hline, hfunction⟩
      exact .inr ⟨l, List.mem_map_of_mem ((mem_before_iff htext).2 ⟨hlt, hline⟩), function, hfunction⟩
  rw [Fits, ← hsection]
  by_cases hheader : ∃ function, IsHeader line function
  · obtain ⟨function, hfunction⟩ := hheader
    exact .inl ⟨⟨_, step_header hfunction s⟩, .inl ⟨function, hfunction⟩⟩
  · rcases step_cases hheader s with ⟨hentry, hsome, t, hok⟩ | ⟨hmisfit, herror⟩
    · exact .inl ⟨⟨_, hok⟩, .inr ⟨hentry, hsome⟩⟩
    · exact .inr ⟨herror, fun hfits => hmisfit (hfits.resolve_left hheader)⟩

/-! ## Written tables -/

/-- A line of a written section: an entry, or one that says nothing. -/
inductive WrittenLine
  | entry (surface normalized : String) (left right : List Char)
  | silent (text : List Char)

namespace WrittenLine

/-- The characters of a line. -/
def chars : WrittenLine → List Char
  | entry surface normalized left right => entryLine surface.toList left right normalized.toList
  | silent text => text

/-- What a line adds to the function of its section. -/
def content? : WrittenLine → Option (String × String)
  | entry surface normalized _ _ => some (surface, normalized)
  | silent _ => none

theorem content?_entry (surface normalized : String) (left right : List Char) :
    (entry surface normalized left right).content? = some (surface, normalized) := rfl

theorem content?_silent (text : List Char) : (silent text).content? = none := rfl

/-- In an entry the normalized text holds no quote, and blanks stand around the comma. -/
def IsProper : WrittenLine → Prop
  | entry _ normalized left right => '"' ∉ normalized.toList ∧ ∀ c ∈ left ++ right, isSpace c = true
  | silent text => Silent text

end WrittenLine

/-- A written section of a function. -/
structure WrittenSection where
  function : String
  lines : List WrittenLine

namespace WrittenSection

/-- The lines of a section, its header first. -/
def chars (s : WrittenSection) : List (List Char) :=
  ('[' :: s.function.toList ++ [']']) :: s.lines.map WrittenLine.chars

/-- The entries of a section. -/
def entries (s : WrittenSection) : List (String × String) := s.lines.filterMap WrittenLine.content?

end WrittenSection

/-- The text of sections, with lines before the first one. -/
def write (leading : List (List Char)) (sections : List WrittenSection) : String :=
  String.ofList (['\n'].intercalate (leading ++ sections.flatMap WrittenSection.chars))

/-- Sections write a table: there is a section for each function, and each entry of it stands in one of the function's
sections; between these there are blank lines and comments. -/
structure Writes (leading : List (List Char)) (sections : List WrittenSection)
    (m : String → Option (String → Option String)) : Prop where
  newline : ∀ l ∈ leading ++ sections.flatMap WrittenSection.chars, '\n' ∉ l
  leading : ∀ l ∈ leading, Silent l
  name : ∀ s ∈ sections, IsFunctionName s.function.toList
  proper : ∀ s ∈ sections, ∀ l ∈ s.lines, l.IsProper
  function : ∀ function, (m function).isSome = true ↔ ∃ s ∈ sections, s.function = function
  entry : ∀ function entries, m function = some entries → ∀ surface normalized, entries surface = some normalized ↔
    ∃ s ∈ sections, s.function = function ∧ (surface, normalized) ∈ s.entries

theorem said_cons_enclosed {l : List Char} {c d : Char} (hfirst : l.head? = some c) (hc : isSpace c = false)
    (hcomment : c ≠ '/') (hlast : l.getLast? = some d) (hd : isSpace d = false) (ls : List (List Char)) :
    said (l :: ls) = l :: said ls := by
  have htrim : trimChars l = l := trimChars_eq_self hfirst hc hlast hd
  obtain ⟨rest, rfl⟩ := List.head?_eq_some_iff.1 hfirst
  rw [said_cons (by rw [htrim]; exact isContent_cons hcomment rest), htrim]

theorem getLast?_entryLine (surface left right normalized : List Char) :
    (entryLine surface left right normalized).getLast? = some '"' := by
  rw [entryLine, entryEnd, ← List.cons_append, ← List.append_assoc]
  exact List.getLast?_concat

theorem step_entryLine {surface normalized : String} {left right : List Char}
    (hblank : ∀ c ∈ left ++ right, isSpace c = true) (hquote : '"' ∉ normalized.toList) (t : Normalization)
    (function : String) :
    step (t, some function) (entryLine surface.toList left right normalized.toList) =
      .ok (t.addEntry function surface normalized, some function) := by
  have hheader : header? (entryLine surface.toList left right normalized.toList) = none := rfl
  simp only [step, parseLine, hheader, entry?_entryLine hblank hquote, String.ofList_toList]

/-- The entries of a section are taken one after the other. -/
theorem foldlM_lines : ∀ {ls : List WrittenLine}, (∀ l ∈ ls, l.IsProper) → ∀ (t : Normalization) (function : String),
    (said (ls.map WrittenLine.chars)).foldlM step (t, some function) =
      .ok ((ls.filterMap WrittenLine.content?).foldl (fun t (surface, normalized) =>
        t.addEntry function surface normalized) t, some function)
  | [], _, t, function => rfl
  | l :: ls, h, t, function => by
    obtain ⟨hl, hls⟩ := List.forall_mem_cons.1 h
    cases l with
    | entry surface normalized left right =>
      obtain ⟨hquote, hblank⟩ := hl
      have hsaid : said ((WrittenLine.entry surface normalized left right :: ls).map WrittenLine.chars) =
          entryLine surface.toList left right normalized.toList :: said (ls.map WrittenLine.chars) :=
        said_cons_enclosed rfl (by decide +kernel) (by decide) (getLast?_entryLine _ _ _ _) (by decide +kernel) _
      rw [hsaid, List.foldlM_cons, step_entryLine hblank hquote,
        List.filterMap_cons_some (WrittenLine.content?_entry _ _ _ _), List.foldl_cons]
      exact foldlM_lines hls _ function
    | silent text =>
      rw [List.map_cons, WrittenLine.chars, said_cons_silent hl,
        List.filterMap_cons_none (WrittenLine.content?_silent text)]
      exact foldlM_lines hls t function

/-- A section makes its function known and then adds its entries. -/
theorem foldlM_section {s : WrittenSection} (hname : IsFunctionName s.function.toList)
    (hproper : ∀ l ∈ s.lines, l.IsProper) (state : Normalization × Option String) :
    (said s.chars).foldlM step state = .ok (s.entries.foldl (fun t (surface, normalized) =>
      t.addEntry s.function surface normalized) (state.1.addFunction s.function), some s.function) := by
  have hsaid : said s.chars = ('[' :: s.function.toList ++ [']']) :: said (s.lines.map WrittenLine.chars) :=
    said_cons_enclosed rfl (by decide +kernel) (by decide) List.getLast?_concat (by decide +kernel) _
  rw [hsaid, List.foldlM_cons, step_header ⟨hname, rfl⟩]
  exact foldlM_lines hproper _ _

theorem foldlM_sections : ∀ {sections : List WrittenSection}, (∀ s ∈ sections, IsFunctionName s.function.toList) →
    (∀ s ∈ sections, ∀ l ∈ s.lines, l.IsProper) → ∀ state : Normalization × Option String,
    ∃ current, (said (sections.flatMap WrittenSection.chars)).foldlM step state =
      .ok (sections.foldl (fun t s => s.entries.foldl (fun t (surface, normalized) =>
        t.addEntry s.function surface normalized) (t.addFunction s.function)) state.1, current)
  | [], _, _, state => ⟨state.2, rfl⟩
  | s :: sections, hname, hproper, state => by
    obtain ⟨hsname, hname⟩ := List.forall_mem_cons.1 hname
    obtain ⟨hsproper, hproper⟩ := List.forall_mem_cons.1 hproper
    rw [List.flatMap_cons, said_append, List.foldlM_append, foldlM_section hsname hsproper]
    exact foldlM_sections hname hproper _

/-- A written table is read as the table of its sections. -/
theorem parse_write {leading : List (List Char)} {sections : List WrittenSection}
    {m : String → Option (String → Option String)} (h : Writes leading sections m) (resource : String) :
    parse resource (write leading sections) = .ok (ofSections (sections.map fun s => (s.function, s.entries))) := by
  obtain ⟨current, hrun⟩ := foldlM_sections h.name h.proper (Table.empty, none)
  have hlines : (contentLines (write leading sections)).map Prod.snd =
      said (sections.flatMap WrittenSection.chars) := by
    rw [write, map_snd_contentLines h.newline, said_append, said_silent h.leading, List.nil_append]
  rw [← hlines] at hrun
  rw [parse, parseLines_eq, readLines_of_foldlM step resource hrun, Except.map, ofSections, List.foldl_map]

/-! ## Tables of sections -/

/-- A table is that of a map: each function of it stands there once, with a table of its entries. -/
structure Holds (t : Normalization) (m : String → Option (String → Option String)) : Prop where
  keys : (t.entries.map Prod.fst).Nodup
  function : ∀ function, Option.Rel Table.Holds (t.get? function) (m function)

/-- No key stands twice in a table or among the entries of a function. -/
structure Keyed (t : Normalization) : Prop where
  functions : (t.entries.map Prod.fst).Nodup
  entries : ∀ function entries, t.get? function = some entries → (entries.entries.map Prod.fst).Nodup

theorem Keyed.insert {t : Normalization} (h : t.Keyed) (f : String) {es : Table String}
    (hes : (es.entries.map Prod.fst).Nodup) : Keyed (t.insert f es) := by
  refine ⟨Table.nodup_insert h.functions f es, fun g es' hes' => ?_⟩
  rw [Table.get?_insert] at hes'
  split at hes'
  next => exact Option.some.inj hes' ▸ hes
  next => exact h.entries g es' hes'

theorem Keyed.addFunction {t : Normalization} (h : t.Keyed) (f : String) : (t.addFunction f).Keyed := by
  unfold Normalization.addFunction
  split
  next => exact h
  next => exact h.insert f List.nodup_nil

theorem Keyed.addEntry {t : Normalization} (h : t.Keyed) (f surface normalized : String) :
    (t.addEntry f surface normalized).Keyed := by
  refine h.insert f (Table.nodup_insert ?_ surface normalized)
  cases hes : t.get? f with
  | none => exact List.nodup_nil
  | some es => exact h.entries f es hes

theorem keyed_ofSections (sections : List (String × List (String × String))) : (ofSections sections).Keyed := by
  rw [ofSections]
  have hempty : Keyed Table.empty := ⟨List.nodup_nil, fun _ entries h => absurd h (Option.some_ne_none entries).symm⟩
  refine List.foldlRecOn sections _ hempty fun t ht s _ => ?_
  exact List.foldlRecOn s.2 _ (ht.addFunction s.1) fun t ht e _ => ht.addEntry s.1 e.1 e.2

theorem isSome_get?_addFunction (t : Normalization) (f g : String) :
    ((t.addFunction f).get? g).isSome = true ↔ g = f ∨ (t.get? g).isSome = true := by
  unfold addFunction
  split
  next h => exact ⟨.inr, fun hg => hg.elim (fun hg => hg ▸ h) id⟩
  next =>
    rw [Table.get?_insert]
    split
    next h => exact ⟨fun _ => .inl h, fun _ => rfl⟩
    next h => exact ⟨.inr, fun hg => hg.resolve_left h⟩

theorem isSome_get?_addEntries {f : String} (g : String) : ∀ (es : List (String × String)) (t : Normalization),
    (t.get? f).isSome = true →
      (((es.foldl (fun t (surface, normalized) => t.addEntry f surface normalized) t).get? g).isSome = true ↔
        (t.get? g).isSome = true)
  | [], _, _ => .rfl
  | (surface, normalized) :: es, t, h => by
    have hsome : ∀ g, ((t.addEntry f surface normalized).get? g).isSome = true ↔ (t.get? g).isSome = true := by
      intro g
      rw [addEntry, Table.get?_insert]
      split
      next hg => exact ⟨fun _ => hg ▸ h, fun _ => rfl⟩
      next => exact .rfl
    rw [List.foldl_cons, isSome_get?_addEntries g es _ ((hsome f).2 h), hsome]

theorem isSome_get?_foldl (g : String) : ∀ (sections : List (String × List (String × String))) (t : Normalization),
    ((sections.foldl (fun t (f, es) => es.foldl (fun t (surface, normalized) =>
      t.addEntry f surface normalized) (t.addFunction f)) t).get? g).isSome = true ↔
      g ∈ sections.map Prod.fst ∨ (t.get? g).isSome = true
  | [], t => by simp
  | (f, es) :: sections, t => by
    rw [List.foldl_cons, isSome_get?_foldl g sections,
      isSome_get?_addEntries g es _ ((isSome_get?_addFunction t f f).2 (.inl rfl)), isSome_get?_addFunction,
      List.map_cons, List.mem_cons]
    tauto

/-- The functions of a table of sections are those of its sections. -/
theorem isSome_get?_ofSections (sections : List (String × List (String × String))) (g : String) :
    ((ofSections sections).get? g).isSome = true ↔ g ∈ sections.map Prod.fst := by
  rw [ofSections, isSome_get?_foldl]
  simp

/-- What is found in a list is what stands there, if that is one value for each key. -/
theorem lookup_eq_of_mem_iff {es : List (String × String)} {k : String} {o : Option String}
    (h : ∀ n, o = some n ↔ (k, n) ∈ es) : es.lookup k = o := by
  cases hlookup : es.lookup k with
  | none =>
    rw [List.lookup_eq_none_iff] at hlookup
    exact (Option.eq_none_iff_forall_ne_some.2 fun n hn => by simpa using hlookup _ ((h n).1 hn)).symm
  | some n =>
    obtain ⟨before, after, rfl, -⟩ := List.lookup_eq_some_iff.1 hlookup
    exact ((h n).2 (List.mem_append_right _ List.mem_cons_self)).symm

theorem mem_entriesOf {sections : List (String × List (String × String))} {f : String} {e : String × String} :
    e ∈ entriesOf f sections ↔ ∃ s ∈ sections, s.1 = f ∧ e ∈ s.2 := by
  rw [entriesOf, List.mem_flatMap]
  refine exists_congr fun s => and_congr_right fun _ => ?_
  obtain ⟨g, es⟩ := s
  by_cases hg : f = g
  · simp [hg]
  · simp [hg, Ne.symm hg]

/-- The table of written sections is the one that they write. -/
theorem holds_ofSections {leading : List (List Char)} {sections : List WrittenSection}
    {m : String → Option (String → Option String)} (h : Writes leading sections m) :
    Holds (ofSections (sections.map fun s => (s.function, s.entries))) m := by
  set parts := sections.map fun s => (s.function, s.entries) with hparts
  have hkeyed := keyed_ofSections parts
  refine ⟨hkeyed.functions, fun f => ?_⟩
  have hsome : ((ofSections parts).get? f).isSome = true ↔ (m f).isSome = true := by
    rw [isSome_get?_ofSections, h.function, hparts, List.map_map, List.mem_map]
    rfl
  cases ht : (ofSections parts).get? f with
  | none =>
    cases hm : m f with
    | none => exact .none
    | some entries => simp [ht, hm] at hsome
  | some es =>
    cases hm : m f with
    | none => simp [ht, hm] at hsome
    | some entries =>
      refine .some ⟨hkeyed.entries f es ht, fun k => ?_⟩
      have hfind := find?_ofSections parts f k
      rw [find?, ht, Option.bind_some] at hfind
      rw [hfind]
      refine lookup_eq_of_mem_iff fun n => ?_
      rw [h.entry f entries hm, List.mem_reverse, mem_entriesOf, hparts]
      simp

/-! ## Reading -/

/-- A resource is read exactly if each content line of it is a header or, after some header, an entry, and else the
first line that is not is reported. A table that is written out is read back. -/
theorem parse_sections (resource : String) :
    (∀ text, ((∃ t, parse resource text = .ok t) ↔ ∀ number line, HasLine text number line → Fits text number line) ∧
      ∀ e, parse resource text = .error e ↔ ∃ number line, FirstMisfit text (Fits text) number line ∧
        e = .invalidResource resource number (fault line)) ∧
      ∀ leading sections m, Writes leading sections m →
        ∃ t, parse resource (write leading sections) = .ok t ∧ t.Holds m := by
  refine ⟨fun text => ?_, fun leading sections m h => ⟨_, parse_write h resource, holds_ofSections h⟩⟩
  have hread : ((∃ s, readLines step resource (Table.empty, none) (contentLines text) = .ok s) ↔
      ∀ number line, HasLine text number line → Fits text number line) ∧
        ∀ e, readLines step resource (Table.empty, none) (contentLines text) = .error e ↔
          ∃ number line, FirstMisfit text (Fits text) number line ∧
            e = .invalidResource resource number (fault line) := by
    refine readLines_contentLines ?_ resource
    exact fun _ _ _ _ _ htext hrun => step_fits htext hrun
  rw [parse, parseLines_eq]
  cases hresult : readLines step resource (Table.empty, none) (contentLines text) with
  | ok s => simpa [hresult, Except.map] using hread
  | error e => simpa [hresult, Except.map] using hread

/-- Surface texts may hold quotes and commas, and a function may have several sections. -/
theorem parse_split_sections : ∃ t, parse "english/normalization" (write ["// names".toList]
    [⟨"norm", []⟩, ⟨"normDay", [.entry "\",\"" "1" [] [' ']]⟩,
      ⟨"norm", [.silent [], .entry "a, b" "" [' '] []]⟩]) = .ok t ∧
      t.Holds fun function =>
        if function = "norm" then some fun surface => if surface = "a, b" then some "" else none
        else if function = "normDay" then some fun surface => if surface = "\",\"" then some "1" else none
        else none := by
  refine (parse_sections "english/normalization").2 _ _ _ ⟨?_, ?_, ?_, ?_, ?_, ?_⟩
  · decide +kernel
  · intro l hl
    obtain rfl := List.mem_singleton.1 hl
    exact .inr (List.isPrefixOf_iff_prefix.1 (by decide +kernel))
  · intro s hs
    rw [isFunctionName_iff]
    revert s
    decide +kernel
  · intro s hs l hl
    have hspace : isSpace ' ' = true := by decide +kernel
    simp only [List.mem_cons, List.not_mem_nil, or_false] at hs
    rcases hs with rfl | rfl | rfl
    · cases hl
    · obtain rfl := List.mem_singleton.1 hl
      exact ⟨by decide, by simpa using hspace⟩
    · simp only [List.mem_cons, List.not_mem_nil, or_false] at hl
      rcases hl with rfl | rfl
      · exact .inl rfl
      · exact ⟨List.not_mem_nil, by simpa using hspace⟩
  · intro function
    by_cases hnorm : function = "norm"
    · simp [hnorm]
    · by_cases hday : function = "normDay"
      · simp [hday]
      · simp [hnorm, hday, Ne.symm hnorm, Ne.symm hday]
  · intro function entries h surface normalized
    by_cases hnorm : function = "norm"
    · simp [hnorm] at h
      simp [hnorm, ← h, WrittenSection.entries, WrittenLine.content?, eq_comm]
    · by_cases hday : function = "normDay"
      · simp [hday] at h
        simp [hday, ← h, WrittenSection.entries, WrittenLine.content?, eq_comm]
      · simp [hnorm, hday] at h

end Normalization

end TemporalTagger
