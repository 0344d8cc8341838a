/-
Rule lines and their grammar. A line is read as a rule exactly if the three marks of its mandatory fields stand
in it in order; what stands before the first mark and what follows the value is not held against it. So the
lines of the grammar are read, each field as it was written and of a repeated one the last, and other lines are
read too. Main facts: `compileRules_ofText` and `compileRules_write`.
-/
import TemporalTagger.Proofs.Rule.Definitions
import TemporalTagger.Proofs.Sentence.Segment
import TemporalTagger.Proofs.Text.Beginnings
import TemporalTagger.Proofs.Text.Pieces

namespace TemporalTagger

open Text

/-! ## The grammar -/

/-- The optional fields of a rule line. -/
inductive RuleField
  | offset
  | quant
  | freq
  | modifier
  | posConstraint
  | emptyValue
  | fastCheck
  deriving DecidableEq, Repr

namespace RuleField

def all : List RuleField := [offset, quant, freq, modifier, posConstraint, emptyValue, fastCheck]

def label : RuleField → String
  | offset => "OFFSET"
  | quant => "NORM_QUANT"
  | freq => "NORM_FREQ"
  | modifier => "NORM_MOD"
  | posConstraint => "POS_CONSTRAINT"
  | emptyValue => "EMPTY_VALUE"
  | fastCheck => "FAST_CHECK"

theorem mem_all (f : RuleField) : f ∈ all := by cases f <;> decide

/-- No label ends as another one does, nor in a label after a comma. -/
theorem eq_of_label_suffix {f g : RuleField} (h : f.label.toList <:+ ',' :: g.label.toList) : f = g := by
  have hall : ∀ f ∈ all, ∀ g ∈ all, f.label.toList <:+ ',' :: g.label.toList → f = g := by decide
  exact hall f f.mem_all g g.mem_all h

theorem quote_not_mem_label (f : RuleField) : '"' ∉ f.label.toList := by cases f <;> decide

end RuleField

/-- An optional field with its value, as a line gives it. -/
structure RuleItem where
  field : RuleField
  value : String

namespace RuleItem

/-- An item without the comma before it. -/
def body (i : RuleItem) : List Char := i.field.label.toList ++ '=' :: '"' :: (i.value.toList ++ ['"'])

def write (i : RuleItem) : List Char := ',' :: i.body

/-- The value of a field that items give, the last one if there are several. -/
def last? (items : List RuleItem) (f : RuleField) : Option String :=
  ((items.filter (·.field = f)).getLast?).map (·.value)

end RuleItem

namespace RuleLine

/-- What stands before the name, between name and pattern, and between pattern and value. -/
def nameMark : List Char := "RULENAME=\"".toList
def patternMark : List Char := "\",EXTRACTION=\"".toList
def valueMark : List Char := "\",NORM_VALUE=\"".toList

/-- The line with these mandatory texts and optional items. -/
def write (name extraction value : String) (items : List RuleItem) : List Char :=
  nameMark ++ (name.toList ++ (patternMark ++ (extraction.toList ++
    (valueMark ++ (value.toList ++ ('"' :: items.flatMap RuleItem.write))))))

/-- A line of the grammar: nothing but the mandatory fields and optional items, with no quotes in their texts. -/
def Grammatical (line : List Char) : Prop :=
  ∃ name extraction value items, '"' ∉ name.toList ∧ '"' ∉ extraction.toList ∧ '"' ∉ value.toList ∧
    (∀ i ∈ items, '"' ∉ i.value.toList) ∧ line = write name extraction value items

/-- The texts around and between the marks of the mandatory fields. -/
structure Texts where
  before : List Char
  name : List Char
  extraction : List Char
  value : List Char
  rest : List Char

/-- The line that has these texts. -/
def Texts.line (t : Texts) : List Char :=
  t.before ++ (nameMark ++ (t.name ++ (patternMark ++ (t.extraction ++
    (valueMark ++ (t.value ++ (['"'] ++ t.rest)))))))

/-- The texts of a line, each ending where the next mark first stands. -/
def texts? (line : List Char) : Option Texts := do
  let (before, cs) ← cutAt? nameMark line
  let (name, cs) ← cutAt? patternMark cs
  let (extraction, cs) ← cutAt? valueMark cs
  let (value, rest) ← cutAt? ['"'] cs
  some ⟨before, name, extraction, value, rest⟩

/-- What is read from a line with these texts. -/
def Texts.read (t : Texts) : RuleLine :=
  { name := String.ofList t.name
    extraction := String.ofList t.extraction
    value := String.ofList t.value
    offset := optional "OFFSET" t.rest
    quant := optional "NORM_QUANT" t.rest
    freq := optional "NORM_FREQ" t.rest
    modifier := optional "NORM_MOD" t.rest
    posConstraint := optional "POS_CONSTRAINT" t.rest
    emptyValue := optional "EMPTY_VALUE" t.rest
    fastCheck := optional "FAST_CHECK" t.rest }

theorem parse?_eq (line : List Char) : parse? line = (texts? line).map Texts.read := by
  unfold parse? texts?
  simp only [Option.bind_eq_bind, Option.map_bind, Function.comp_def, Option.map_some]
  rfl

/-- The texts of a line make up the line, and the value ends at the first quote. -/
theorem spec_of_texts? {line : List Char} {t : Texts} (h : texts? line = some t) : t.line = line ∧ '"' ∉ t.value := by
  obtain ⟨⟨before, cs₁⟩, h₁, h⟩ := Option.bind_eq_some_iff.1 h
  obtain ⟨⟨name, cs₂⟩, h₂, h⟩ := Option.bind_eq_some_iff.1 h
  obtain ⟨⟨extraction, cs₃⟩, h₃, h⟩ := Option.bind_eq_some_iff.1 h
  obtain ⟨⟨value, rest⟩, h₄, h⟩ := Option.bind_eq_some_iff.1 h
  cases h
  refine ⟨?_, not_mem_of_cutAt? h₄⟩
  rw [eq_append_of_cutAt? h₁, eq_append_of_cutAt? h₂, eq_append_of_cutAt? h₃, eq_append_of_cutAt? h₄]
  simp only [Texts.line, List.append_assoc]

/-- A line has texts if the marks stand in it in order, wherever that is: the first cuts leave all that later ones
need. -/
theorem isSome_texts?_line (t : Texts) : (texts? t.line).isSome = true := by
  -- `u₁`, `u₂` and `u₃` are what the earlier cuts leave beyond the texts of `t`
  obtain ⟨before, cs₁, h₁, u₁, hcs₁⟩ := exists_cutAt?_append nameMark (t.name ++ (patternMark ++
    (t.extraction ++ (valueMark ++ (t.value ++ (['"'] ++ t.rest)))))) t.before
  obtain ⟨name, cs₂, h₂, u₂, hcs₂⟩ := exists_cutAt?_append patternMark
    (t.extraction ++ (valueMark ++ (t.value ++ (['"'] ++ t.rest)))) (u₁ ++ t.name)
  obtain ⟨extraction, cs₃, h₃, u₃, hcs₃⟩ := exists_cutAt?_append valueMark
    (t.value ++ (['"'] ++ t.rest)) (u₂ ++ t.extraction)
  obtain ⟨value, cs₄, h₄, -⟩ := exists_cutAt?_append ['"'] t.rest (u₃ ++ t.value)
  rw [List.append_assoc, hcs₁] at h₂
  rw [List.append_assoc, hcs₂] at h₃
  rw [List.append_assoc, hcs₃] at h₄
  rw [texts?, Texts.line, h₁]
  simp only [Option.bind_eq_bind, Option.bind_some, h₂, h₃, h₄, Option.isSome_some]

theorem isSome_texts?_iff {line : List Char} : (texts? line).isSome = true ↔ ∃ t : Texts, t.line = line := by
  constructor
  · intro h
    obtain ⟨t, ht⟩ := Option.isSome_iff_exists.1 h
    exact ⟨t, (spec_of_texts? ht).1⟩
  · rintro ⟨t, rfl⟩
    exact isSome_texts?_line t

theorem texts?_write {name extraction value : String} (hname : '"' ∉ name.toList) (hextraction : '"' ∉ extraction.toList)
    (hvalue : '"' ∉ value.toList) (items : List RuleItem) : texts? (write name extraction value items) =
      some ⟨[], name.toList, extraction.toList, value.toList, items.flatMap RuleItem.write⟩ := by
  have hfront : ∀ cs, cutAt? nameMark (nameMark ++ cs) = some ([], cs) := fun _ =>
    cutAt?_append (c := 'R') (a := []) (by decide) List.not_mem_nil
  have hpattern : patternMark.head? = some '"' := by decide
  have hmark : valueMark.head? = some '"' := by decide
  rw [texts?, write, hfront]
  simp only [Option.bind_eq_bind, Option.bind_some, cutAt?_append hpattern hname, cutAt?_append hmark hextraction,
    cutAt?_append_cons hvalue]

/-- A line that is read is one of the grammar if nothing stands in it that the grammar does not know. -/
theorem grammatical_iff {line : List Char} : Grammatical line ↔ ∃ t, texts? line = some t ∧ t.before = [] ∧
    '"' ∉ t.name ∧ '"' ∉ t.extraction ∧ ∃ items : List RuleItem, (∀ i ∈ items, '"' ∉ i.value.toList) ∧
      t.rest = items.flatMap RuleItem.write := by
  constructor
  · rintro ⟨name, extraction, value, items, hname, hextraction, hvalue, hitems, rfl⟩
    exact ⟨_, texts?_write hname hextraction hvalue items, rfl, hname, hextraction, items, hitems, rfl⟩
  · rintro ⟨t, ht, hbefore, hname, hextraction, items, hitems, hrest⟩
    obtain ⟨hline, hvalue⟩ := spec_of_texts? ht
    refine ⟨String.ofList t.name, String.ofList t.extraction, String.ofList t.value, items, ?_, ?_, ?_, hitems, ?_⟩
    · rwa [String.toList_ofList]
    · rwa [String.toList_ofList]
    · rwa [String.toList_ofList]
    · rw [← hline, Texts.line, hbefore, hrest]
      simp [write]

end RuleLine

/-! ## Optional fields -/

namespace RuleItem

/-- An item whose value has no quote and does not end as what comes before a value does. -/
structure Plain (i : RuleItem) : Prop where
  quote : '"' ∉ i.value.toList
  equals : i.value.toList.getLast? ≠ some '='

variable {i : RuleItem} {f : RuleField} {u rest : List Char}

/-- Of all fields only its own begins in an item, and only after the comma. -/
theorem eq_of_opens (hi : i.Plain) (hu : u <:+ i.write) (hopens : f.label.toList ++ ['=', '"'] <+: u ++ rest) :
    u = [] ∨ i.field = f ∧ u = i.body := by
  obtain ⟨pre, hpre⟩ := hu
  obtain ⟨post, hpost⟩ := hopens
  -- the first quote after the opening is that of the opening
  have hfirst : ∀ x t, u = x ++ '"' :: t → '"' ∉ x → f.label.toList ++ ['='] = x := by
    rintro x t rfl hx
    have hlabel : '"' ∉ f.label.toList ++ ['='] := by simp [f.quote_not_mem_label]
    have hsplit : (f.label.toList ++ ['=']) ++ '"' :: post = x ++ '"' :: (t ++ rest) := by simpa using hpost
    have hcut := cutAt?_append_cons hlabel post
    rw [hsplit, cutAt?_append_cons hx] at hcut
    exact (Prod.mk.inj (Option.some.inj hcut)).1.symm
  have hwrite : i.write = (',' :: i.field.label.toList ++ ['=']) ++ '"' :: (i.value.toList ++ ['"']) := by
    simp [write, body]
  rw [hwrite] at hpre
  rcases List.append_eq_append_iff.1 hpre with ⟨x, hx, rfl⟩ | ⟨y, -, hy⟩
  · -- at the label or inside it
    have hquote : '"' ∉ x := by
      intro hmem
      have : '"' ∈ ',' :: i.field.label.toList ++ ['='] := hx ▸ List.mem_append_right pre hmem
      simp [i.field.quote_not_mem_label] at this
    have hlabel := hfirst x _ rfl hquote
    have hsuffix : f.label.toList ++ ['='] <:+ ',' :: i.field.label.toList ++ ['='] := ⟨pre, hlabel ▸ hx.symm⟩
    rw [List.suffix_append_self_iff] at hsuffix
    obtain rfl := RuleField.eq_of_label_suffix hsuffix
    refine .inr ⟨rfl, ?_⟩
    rw [← hlabel, body]
    simp
  · cases y with
    | nil =>
      have := hfirst [] _ hy.symm List.not_mem_nil
      simp at this
    | cons q y =>
      obtain ⟨-, hy⟩ := List.cons.inj hy
      rcases List.append_eq_append_iff.1 hy with ⟨z, -, hz⟩ | ⟨z, hz, hu⟩
      · -- at the closing quote or after it
        rcases List.singleton_eq_append_iff.1 hz with ⟨-, hu⟩ | ⟨-, hu⟩
        · have := hfirst [] [] hu List.not_mem_nil
          simp at this
        · exact .inl hu
      · -- inside the value
        have hlabel := hfirst z [] hu fun hmem => hi.quote (hz ▸ List.mem_append_right y hmem)
        refine absurd ?_ hi.equals
        rw [hz, ← hlabel, ← List.append_assoc, List.getLast?_concat]

/-- Where a field is found, its opening stands. -/
theorem opens_of_field? {cs : List Char} (h : (RuleLine.field? f.label cs).isSome = true) :
    f.label.toList ++ ['=', '"'] <+: cs := by
  obtain ⟨x, hx⟩ := Option.isSome_iff_exists.1 h
  obtain ⟨after, hafter, -⟩ := Option.bind_eq_some_iff.1 hx
  exact ⟨after, (after?_eq_some_iff.1 hafter).symm⟩

theorem field?_eq_none (hi : i.Plain) (hu : u <:+ i.write) (hne : u ≠ []) (hother : i.field = f → u ≠ i.body) :
    RuleLine.field? f.label (u ++ rest) = none := by
  by_contra hsome
  rcases eq_of_opens hi hu (opens_of_field? (Option.isSome_iff_ne_none.2 hsome)) with rfl | ⟨hf, hbody⟩
  · exact hne rfl
  · exact hother hf hbody

/-- An item is found as the field it is. -/
theorem field?_body (hi : i.Plain) (rest : List Char) :
    RuleLine.field? i.field.label (i.body ++ rest) = some (i.value.toList, i.body.length) := by
  have hbody : i.body ++ rest = (i.field.label.toList ++ ['=', '"']) ++ (i.value.toList ++ '"' :: rest) := by
    simp [body]
  rw [RuleLine.field?, hbody, after?_append]
  simp only [Option.bind_eq_bind, Option.bind_some, cutAt?_append_cons hi.quote, body, List.length_append,
    List.length_cons, List.length_nil]
  congr 2
  omega

/-- The values found of a field are those of its items. -/
theorem found_flatMap_write (f : RuleField) : ∀ {items : List RuleItem}, (∀ i ∈ items, i.Plain) →
    found (scan (RuleLine.field? f.label) (items.flatMap write)) =
      (items.filter (·.field = f)).map (·.value.toList)
  | [], _ => rfl
  | i :: items, h => by
    obtain ⟨hi, hitems⟩ := List.forall_mem_cons.1 h
    rw [List.flatMap_cons]
    by_cases hf : i.field = f
    · -- an item of the field: the comma is passed over and the rest is found
      subst hf
      have hcomma : RuleLine.field? i.field.label (',' :: (i.body ++ items.flatMap write)) = none := by
        refine field?_eq_none (u := i.write) hi (List.suffix_refl _) (List.cons_ne_nil _ _) fun _ h => ?_
        have := congrArg List.length h
        simp [write] at this
      obtain ⟨c, cs, hbody⟩ : ∃ c cs, i.body = c :: cs := List.exists_cons_of_ne_nil (by simp [body])
      have hfound := field?_body hi (items.flatMap write)
      rw [hbody, List.cons_append, List.length_cons] at hfound
      rw [write, List.cons_append, scan_char hcomma, hbody, List.cons_append, scan_found hfound]
      show i.value.toList :: found (scan (RuleLine.field? i.field.label) (items.flatMap write)) = _
      rw [found_flatMap_write _ hitems, List.filter_cons_of_pos (by simp), List.map_cons]
    · -- an item of another field: nothing in it is taken for the field, its value included
      rw [found_scan_append fun u hne hu => field?_eq_none hi hu hne fun h => absurd h hf,
        found_flatMap_write f hitems, List.filter_cons_of_neg (by simpa using hf)]

theorem optional_flatMap_write (f : RuleField) {items : List RuleItem} (h : ∀ i ∈ items, i.Plain) :
    RuleLine.optional f.label (items.flatMap write) = last? items f := by
  rw [RuleLine.optional, found_flatMap_write f h, List.getLast?_map, Option.map_map, last?]
  congr 1
  funext i
  exact String.ofList_toList

end RuleItem

namespace RuleLine

/-- A line of the grammar is read as what it was written from, where of a repeated field the last value counts. -/
theorem parse?_write {name extraction value : String} {items : List RuleItem} (hname : '"' ∉ name.toList)
    (hextraction : '"' ∉ extraction.toList) (hvalue : '"' ∉ value.toList) (hitems : ∀ i ∈ items, i.Plain) :
    parse? (write name extraction value items) = some
      { name, extraction, value
        offset := RuleItem.last? items .offset
        quant := RuleItem.last? items .quant
        freq := RuleItem.last? items .freq
        modifier := RuleItem.last? items .modifier
        posConstraint := RuleItem.last? items .posConstraint
        emptyValue := RuleItem.last? items .emptyValue
        fastCheck := RuleItem.last? items .fastCheck } := by
  rw [parse?_eq, texts?_write hname hextraction hvalue, Option.map_some, Texts.read]
  simp only [← RuleItem.optional_flatMap_write _ hitems, String.ofList_toList]
  rfl

end RuleLine

/-! ## Lines of a text -/

/-- A text that can stand between quotes on a line. -/
structure Quotable (text : String) : Prop where
  quote : '"' ∉ text.toList
  newline : '\n' ∉ text.toList

instance (text : String) : Decidable (Quotable text) :=
  decidable_of_iff ('"' ∉ text.toList ∧ '\n' ∉ text.toList) ⟨fun h => ⟨h.1, h.2⟩, fun h => ⟨h.quote, h.newline⟩⟩

theorem RuleLine.contentLines_write {name extraction value : String} {items : List RuleItem} (hname : Quotable name)
    (hextraction : Quotable extraction) (hvalue : Quotable value) (hitems : ∀ i ∈ items, Quotable i.value) :
    contentLines (String.ofList (write name extraction value items)) = [(1, write name extraction value items)] := by
  have hlabel : ∀ f : RuleField, '\n' ∉ f.label.toList := by intro f; cases f <;> decide
  have hmarks : '\n' ∉ nameMark ∧ '\n' ∉ patternMark ∧ '\n' ∉ valueMark := by decide
  have hnewline : '\n' ∉ items.flatMap RuleItem.write := by
    rw [List.mem_flatMap]
    rintro ⟨i, hi, hmem⟩
    simp [RuleItem.write, RuleItem.body, hlabel, (hitems i hi).newline] at hmem
  have hlast : ('"' :: items.flatMap RuleItem.write).getLast? = some '"' := by
    rcases List.eq_nil_or_concat items with rfl | ⟨items, i, rfl⟩
    · rfl
    · have hconcat : '"' :: (items.concat i).flatMap RuleItem.write = ('"' :: (items.flatMap RuleItem.write ++
          ',' :: (i.field.label.toList ++ '=' :: '"' :: i.value.toList))) ++ ['"'] := by
        simp [RuleItem.write, RuleItem.body]
      rw [hconcat, List.getLast?_concat]
  refine contentLines_ofList ?_ ⟨'R', rfl, by decide, by decide⟩ ⟨'"', ?_, by decide⟩
  · simp [write, hmarks, hname.newline, hextraction.newline, hvalue.newline, hnewline]
  · simp only [write, List.getLast?_append, hlast, Option.some_or, Option.mem_some_iff]

/-! ## Compilation -/

namespace Expansion

/-- What a text stands for in a rule: its expansion, read as a pattern. -/
def StandsFor (rule : String) (vars : Variables) (text : String) (p : Pattern) : Prop :=
  ∃ source, expand rule text vars = .ok source ∧ Pattern.ofText? source = some p

theorem pattern_eq_ok {rule text : String} {vars : Variables} {p : Pattern} (h : StandsFor rule vars text p) :
    pattern rule text vars = .ok p := by
  obtain ⟨source, hsource, hp⟩ := h
  simp only [pattern, hsource, bind, Except.bind, hp]

end Expansion

theorem RuleSource.inOrder_singleton (s : RuleSource) : inOrder [s] = s.lines.map fun line => (s.category, line) := by
  obtain ⟨category, lines⟩ := s
  cases category <;> simp [inOrder, Category.all]

/-- Lines without the texts of a rule define nothing. -/
theorem Definition.filterMap_texts? (category : Category) (ls : List (List Char)) :
    (ls.map fun l => (category, RuleLine.parse? l)).filterMap ofLine? =
      ((ls.filterMap fun l => (RuleLine.texts? l).map fun t => some t.read).map fun line => (category, line)).filterMap
        ofLine? := by
  rw [List.filterMap_map, List.filterMap_map, List.filterMap_filterMap]
  congr 1
  funext l
  cases hl : RuleLine.texts? l <;> simp [ofLine?, RuleLine.parse?_eq, hl]

/-- Which lines of a text become rules: those in which the marks of the mandatory fields stand in order. All other
lines are counted as malformed and have no other effect. The lines of the grammar are those of them with nothing
before the first mark, no quotes in name and pattern, and nothing but items after the value. -/
theorem compileRules_ofText (category : Category) (text : String) (vars : Variables) (normalization : Normalization) :
    (compileRules [.ofText category text] vars normalization =
      (compileRules [⟨category, ((contentLines text).map (·.2)).filterMap fun l =>
        (RuleLine.texts? l).map fun t => some t.read⟩] vars normalization).map fun c => ⟨c.set, { c.stats with
          malformed := ((contentLines text).map (·.2)).countP fun l => (RuleLine.texts? l).isNone }⟩) ∧
    ∀ line, ((RuleLine.texts? line).isSome = true ↔ ∃ t : RuleLine.Texts, t.line = line) ∧
      (RuleLine.Grammatical line ↔ ∃ t, RuleLine.texts? line = some t ∧ t.before = [] ∧ '"' ∉ t.name ∧
        '"' ∉ t.extraction ∧ ∃ items : List RuleItem, (∀ i ∈ items, '"' ∉ i.value.toList) ∧
          t.rest = items.flatMap RuleItem.write) := by
  refine ⟨?_, fun line => ⟨RuleLine.isSome_texts?_iff, RuleLine.grammatical_iff⟩⟩
  -- both sources have the same definitions, and the second has no other lines
  have hsource : RuleSource.ofText category text =
      ⟨category, ((contentLines text).map (·.2)).map RuleLine.parse?⟩ := by
    rw [RuleSource.ofText, List.map_map]
    rfl
  rw [hsource, compileRules, compileRules, RuleSource.inOrder_singleton, RuleSource.inOrder_singleton,
    Compilation.addLines_eq, Compilation.addLines_eq]
  generalize (contentLines text).map (·.2) = ls
  simp only [List.map_map, Function.comp_def, List.countP_map]
  rw [← Definition.filterMap_texts?]
  simp only [RuleLine.parse?_eq, Option.isNone_map]
  cases List.mapM (Definition.compile vars) _ with
  | error => rfl
  | ok rs => simp only [Except.map, Compilation.extend, Nat.zero_add]

/-- A comment sign of another kind, a misspelled field and a remark do not keep a line from being read. -/
example : (RuleLine.parse? "# RULENAME=\"r\",EXTRACTION=\"x\",NORM_VALUE=\"1\",NORM_QUNT=\"2\" and more".toList).isSome = true := by
  decide

/-- A text of one line gives what the line compiles to. -/
theorem compileRules_singleton_eq {category : Category} {text : String} {number : Nat} {cs : List Char}
    {line : RuleLine} (vars : Variables) (normalization : Normalization) (htext : contentLines text = [(number, cs)])
    (hline : RuleLine.parse? cs = some line) : compileRules [.ofText category text] vars normalization =
      (line.compile category vars).map fun r => ⟨⟨[r], normalization⟩, ⟨1, 0, 0⟩⟩ := by
  rw [compileRules, RuleSource.inOrder_singleton, RuleSource.ofText, htext]
  simp only [List.map_cons, List.map_nil, hline]
  rw [Compilation.addLines, Compilation.addLine, if_neg (by simp [RuleSet.contains, RuleSet.find?, RuleSet.empty])]
  cases line.compile category vars <;> rfl

/-- A text of one line that compiles gives one rule. -/
theorem compileRules_singleton {category : Category} {text : String} {number : Nat} {cs : List Char} {line : RuleLine}
    {vars : Variables} {r : Rule} (normalization : Normalization) (htext : contentLines text = [(number, cs)])
    (hline : RuleLine.parse? cs = some line) (hr : line.compile category vars = .ok r) :
    compileRules [.ofText category text] vars normalization = .ok ⟨⟨[r], normalization⟩, ⟨1, 0, 0⟩⟩ := by
  rw [compileRules_singleton_eq vars normalization htext hline, hr]
  rfl

/-- A line of the grammar, alone in a text, compiles to the rule that it spells: of each optional field the last
value counts, and an offset that cannot be read stands for the whole match. -/
theorem compileRules_write {name extraction value : String} {items : List RuleItem} {vars : Variables}
    {pattern : Pattern} {fastCheck : Option Pattern} (category : Category) (normalization : Normalization)
    (hname : Quotable name) (hextraction : Quotable extraction) (hvalue : Quotable value)
    (hitems : ∀ i ∈ items, i.field ≠ .posConstraint ∧ Quotable i.value ∧ i.value.toList.getLast? ≠ some '=')
    (hpattern : Expansion.StandsFor name vars extraction pattern)
    (hfast : Option.Rel (Expansion.StandsFor name vars) (RuleItem.last? items .fastCheck) fastCheck) :
    compileRules [.ofText category (String.ofList (RuleLine.write name extraction value items))] vars normalization =
      .ok ⟨⟨[{
        category, name, pattern, fastCheck, value
        offset := ((RuleItem.last? items .offset).bind Offset.parse?).getD Offset.wholeMatch
        quant := RuleItem.last? items .quant
        freq := RuleItem.last? items .freq
        modifier := RuleItem.last? items .modifier
        emptyValue := RuleItem.last? items .emptyValue
        constraints := [] }], normalization⟩, { compiled := 1, malformed := 0, duplicates := 0 }⟩ := by
  have hline := RuleLine.parse?_write hname.quote hextraction.quote hvalue.quote
    (fun i hi => ⟨(hitems i hi).2.1.quote, (hitems i hi).2.2⟩ : ∀ i ∈ items, i.Plain)
  have hcontent := RuleLine.contentLines_write hname hextraction hvalue fun i hi => (hitems i hi).2.1
  have hpos : RuleItem.last? items .posConstraint = none := by
    rw [RuleItem.last?, List.filter_eq_nil_iff.2 fun i hi => by simpa using (hitems i hi).1]
    rfl
  refine compileRules_singleton normalization hcontent hline ?_
  have hcheck : ∀ line : RuleLine, line.name = name → line.fastCheck = RuleItem.last? items .fastCheck →
      line.fastPattern vars = .ok fastCheck := by
    rintro line rfl hline
    rw [RuleLine.fastPattern, hline]
    generalize RuleItem.last? items .fastCheck = check at hfast ⊢
    cases hfast with
    | none => rfl
    | some h => exact congrArg (Except.map some) (Expansion.pattern_eq_ok h)
  rw [RuleLine.compile_eq, hcheck _ rfl rfl, RuleLine.posConstraints, hpos]
  simp only [Expansion.pattern_eq_ok hpattern]
  rfl

/-- Items of a rule about seasons, two of the fields given twice. -/
def seasonItems : List RuleItem :=
  [⟨.quant, "EACH"⟩, ⟨.offset, "group(0)"⟩, ⟨.fastCheck, "%reSeason"⟩, ⟨.quant, "a=b,NORM_QUANT"⟩,
    ⟨.offset, "group(1)-group(1)"⟩]

/-- A line with a variable, a fast check and a value that looks like the start of another item. -/
theorem compileRules_write_season :
    (Quotable "season" ∧ Quotable "in %reSeason" ∧ Quotable "XXXX-group(1)") ∧
      (∀ i ∈ seasonItems, i.field ≠ .posConstraint ∧ Quotable i.value ∧ i.value.toList.getLast? ≠ some '=') ∧
      ∃ pattern fastCheck, Pattern.ofText? "in[\\s\\u\x7b180E\x7d]+(spring|autumn)" = some pattern ∧
        Pattern.ofText? "(spring|autumn)" = some fastCheck ∧
        compileRules [.ofText .date (String.ofList
            (RuleLine.write "season" "in %reSeason" "XXXX-group(1)" seasonItems))]
          (Table.ofList [("reSeason", "(spring|autumn)")]) Table.empty =
            .ok ⟨⟨[⟨.date, "season", pattern, some fastCheck, "XXXX-group(1)", ⟨1, 1⟩, some "a=b,NORM_QUANT", none, none,
              none, []⟩], Table.empty⟩, ⟨1, 0, 0⟩⟩ := by
  have hquotable : Quotable "season" ∧ Quotable "in %reSeason" ∧ Quotable "XXXX-group(1)" := by decide
  have hitems : ∀ i ∈ seasonItems, i.field ≠ .posConstraint ∧ Quotable i.value ∧
      i.value.toList.getLast? ≠ some '=' := by decide
  obtain ⟨pattern, hpattern⟩ := Option.isSome_iff_exists.1 (by decide +kernel :
    (Pattern.ofText? "in[\\s\\u\x7b180E\x7d]+(spring|autumn)").isSome = true)
  obtain ⟨fastCheck, hfast⟩ := Option.isSome_iff_exists.1 (by decide +kernel :
    (Pattern.ofText? "(spring|autumn)").isSome = true)
  refine ⟨hquotable, hitems, pattern, fastCheck, hpattern, hfast, ?_⟩
  exact compileRules_write .date Table.empty hquotable.1 hquotable.2.1 hquotable.2.2 hitems
    ⟨_, by rfl, hpattern⟩ (.some ⟨_, by rfl, hfast⟩)

end TemporalTagger
