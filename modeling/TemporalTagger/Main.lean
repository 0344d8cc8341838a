/-
The program: reads arguments and standard input, and prints the answer of the command line.
-/
import TemporalTagger.CommandLine

open TemporalTagger

/-- Elapsed times are not measured; a dash stands for each. -/
def elapsedMark : String := "-"

def main (args : List String) : IO UInt32 := do
  let stdin ← if CommandLine.needsInput args then (← IO.getStdin).readToEnd else pure ""
  let outcome := CommandLine.run args stdin elapsedMark
  IO.print outcome.output
  IO.eprint outcome.complaint
  return outcome.exitCode.toUInt32
