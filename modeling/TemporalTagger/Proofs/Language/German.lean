/-
The tests of the German rule lines.
-/
import TemporalTagger.Proofs.Language.Tests

namespace TemporalTagger.Language.German

/-! ## Spelling -/

def spelledVars : Spelled (List.map writeEntry) vars := by
  repeat' first
    | exact Spelled.text
    | apply Spelled.append
    | exact Spelled.nil
    | apply Spelled.cons
    | apply Spelled.pair

def spelledSections : Spelled (List.map Normalization.writeSection) sections := by
  repeat' first
    | exact Spelled.text
    | exact Spelled.nil
    | apply Spelled.cons
    | apply Spelled.pair

def spelling : Spelling .german where
  vars := spelledVars.form
  sections := spelledSections.form
  vars_eq := congrArg Table.ofList spelledVars.eq
  normalization_eq := congrArg Normalization.ofSections spelledSections.eq

/-! ## Lines -/

def dayLines : TestedLines .german .date where
  lines := dateRules.take 6
  tested := by
    unfold dateRules
    repeat' first
      | exact List.forall_mem_nil _
      | refine List.forall_mem_cons.2 ⟨?_, ?_⟩
      | exact exists_compile_tested spelling ⟨.text, .text, .none⟩ (by decide +kernel)
      | exact exists_compile_tested spelling ⟨.text, .text, .some .text⟩ (by decide +kernel)

def yearLines : TestedLines .german .date where
  lines := (dateRules.drop 6).take 11
  tested := by
    unfold dateRules
    repeat' first
      | exact List.forall_mem_nil _
      | refine List.forall_mem_cons.2 ⟨?_, ?_⟩
      | exact exists_compile_tested spelling ⟨.text, .text, .none⟩ (by decide +kernel)
      | exact exists_compile_tested spelling ⟨.text, .text, .some .text⟩ (by decide +kernel)

def relativeLines : TestedLines .german .date where
  lines := dateRules.drop 17
  tested := by
    unfold dateRules
    repeat' first
      | exact List.forall_mem_nil _
      | refine List.forall_mem_cons.2 ⟨?_, ?_⟩
      | exact exists_compile_tested spelling ⟨.text, .text, .none⟩ (by decide +kernel)
      | exact exists_compile_tested spelling ⟨.text, .text, .some .text⟩ (by decide +kernel)

def timeLines : TestedLines .german .time where
  lines := timeRules
  tested := by
    unfold timeRules
    repeat' first
      | exact List.forall_mem_nil _
      | refine List.forall_mem_cons.2 ⟨?_, ?_⟩
      | exact exists_compile_tested spelling ⟨.text, .text, .none⟩ (by decide +kernel)
      | exact exists_compile_tested spelling ⟨.text, .text, .some .text⟩ (by decide +kernel)

def durationLines : TestedLines .german .duration where
  lines := durationRules
  tested := by
    unfold durationRules
    repeat' first
      | exact List.forall_mem_nil _
      | refine List.forall_mem_cons.2 ⟨?_, ?_⟩
      | exact exists_compile_tested spelling ⟨.text, .text, .none⟩ (by decide +kernel)

def setLines : TestedLines .german .set where
  lines := setRules
  tested := by
    unfold setRules
    repeat' first
      | exact List.forall_mem_nil _
      | refine List.forall_mem_cons.2 ⟨?_, ?_⟩
      | exact exists_compile_tested spelling ⟨.text, .text, .none⟩ (by decide +kernel)

def temponymLines : TestedLines .german .temponym where
  lines := temponymRules
  tested := by
    unfold temponymRules
    repeat' first
      | exact List.forall_mem_nil _
      | refine List.forall_mem_cons.2 ⟨?_, ?_⟩
      | exact exists_compile_tested spelling ⟨.text, .text, .none⟩ (by decide +kernel)

/-- All lines of the language. -/
def testedLines : ∀ c, TestedLines .german c
  | .date => dayLines.append (yearLines.append relativeLines)
  | .time => timeLines
  | .duration => durationLines
  | .set => setLines
  | .temponym => temponymLines

theorem testedLines_lines (c : Category) : (testedLines c).lines = german.resources.rules c := by
  cases c <;> rfl

end TemporalTagger.Language.German
