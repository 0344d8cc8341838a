/-
The tests of the French rule lines.
-/
import TemporalTagger.Proofs.Language.Tests

namespace TemporalTagger.Language.French

/-! ## Spelling -/

def spelledVars : Spelled (List.map writeEntry) vars := by
  repeat' first
    | exact Spelled.text
    | apply Spelled.append
    | exact Spelled.nil
    | apply Spelled.cons
    | apply Spelled.pair

def spelledSections : Spelled (List.map Normalization.writeSection) sections := by
  repeat' first
    | exact Spelled.text
    | exact Spelled.nil
    | apply Spelled.cons
    | apply Spelled.pair

def spelling : Spelling .french where
  vars := spelledVars.form
  sections := spelledSections.form
  vars_eq := congrArg Table.ofList spelledVars.eq
  normalization_eq := congrArg Normalization.ofSections spelledSections.eq

/-! ## Lines -/

def dateLines : TestedLines .french .date where
  lines := dateRules
  tested := by
    unfold dateRules
    repeat' first
      | exact List.forall_mem_nil _
      | refine List.forall_mem_cons.2 ⟨?_, ?_⟩
      | exact exists_compile_tested spelling ⟨.text, .text, .none⟩ (by decide +kernel)
      | exact exists_compile_tested spelling ⟨.text, .text, .some .text⟩ (by decide +kernel)

def timeLines : TestedLines .french .time where
  lines := timeRules
  tested := by
    unfold timeRules
    repeat' first
      | exact List.forall_mem_nil _
      | refine List.forall_mem_cons.2 ⟨?_, ?_⟩
      | exact exists_compile_tested spelling ⟨.text, .text, .none⟩ (by decide +kernel)
      | exact exists_compile_tested spelling ⟨.text, .text, .some .text⟩ (by decide +kernel)

def durationLines : TestedLines .french .duration where
  lines := durationRules
  tested := by
    unfold durationRules
    repeat' first
      | exact List.forall_mem_nil _
      | refine List.forall_mem_cons.2 ⟨?_, ?_⟩
      | exact exists_compile_tested spelling ⟨.text, .text, .none⟩ (by decide +kernel)

def setLines : TestedLines .french .set where
  lines := setRules
  tested := by
    unfold setRules
    repeat' first
      | exact List.forall_mem_nil _
      | refine List.forall_mem_cons.2 ⟨?_, ?_⟩
      | exact exists_compile_tested spelling ⟨.text, .text, .none⟩ (by decide +kernel)

def temponymLines : TestedLines .french .temponym where
  lines := temponymRules
  tested := by
    unfold temponymRules
    repeat' first
      | exact List.forall_mem_nil _
      | refine List.forall_mem_cons.2 ⟨?_, ?_⟩
      | exact exists_compile_tested spelling ⟨.text, .text, .none⟩ (by decide +kernel)

/-- All lines of the language. -/
def testedLines : ∀ c, TestedLines .french c
  | .date => dateLines
  | .time => timeLines
  | .duration => durationLines
  | .set => setLines
  | .temponym => temponymLines

theorem testedLines_lines (c : Category) : (testedLines c).lines = french.resources.rules c := by
  cases c <;> rfl

end TemporalTagger.Language.French
