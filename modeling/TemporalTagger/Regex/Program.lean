/-
Regular expressions as programs: a list of instructions that read a character, branch, test the
neighbours or mark a group boundary. The code of an expression is laid out from a given index on,
is as long as `codeSize` says, is entered at its first instruction and leaves to a given index.
-/
import TemporalTagger.Regex.Basic

namespace TemporalTagger.Regex

/-- An instruction. Its targets are indices into the program; of two targets the first is
preferred. -/
inductive Instr
  | read (chars : CharSet) (next : Nat)
  | jump (next : Nat)
  | fork (first second : Nat)
  | check (l : Look) (next : Nat)
  | mark (slot : Nat) (next : Nat)
  | accept

/-! ## Layout -/

/-- The number of instructions of an expression. -/
def codeSize : Regex → Nat
  | empty | set _ | look _ => 1
  | cat r s => r.codeSize + s.codeSize
  | alt r s => 1 + (r.codeSize + s.codeSize)
  | star r _ | plus r _ => 1 + r.codeSize
  | group _ r => 2 + r.codeSize

/-- A branch that prefers `body` if it is greedy and `next` otherwise. -/
def loopFork (greedy : Bool) (body next : Nat) : Instr :=
  if greedy then .fork body next else .fork next body

/-- The code of an expression, laid out from index `base` on; it goes on at `next`. -/
def code : Regex → (base next : Nat) → List Instr
  | empty, _, next => [.jump next]
  | set s, _, next => [.read s next]
  | look l, _, next => [.check l next]
  | cat r s, base, next =>
    let mid := base + r.codeSize
    r.code base mid ++ s.code mid next
  | alt r s, base, next =>
    let second := base + 1 + r.codeSize
    .fork (base + 1) second :: (r.code (base + 1) next ++ s.code second next)
  | star r greedy, base, next => loopFork greedy (base + 1) next :: r.code (base + 1) base
  | plus r greedy, base, next =>
    let loop := base + r.codeSize
    r.code base loop ++ [loopFork greedy base next]
  | group n r, base, next =>
    let close := base + 1 + r.codeSize
    .mark (2 * n) (base + 1) :: (r.code (base + 1) close ++ [.mark (2 * n + 1) next])

theorem length_code (r : Regex) (base next : Nat) : (r.code base next).length = r.codeSize := by
  induction r generalizing base next with
  | empty | set | look => rfl
  | cat r s ihr ihs => simp [code, codeSize, ihr, ihs]
  | alt r s ihr ihs => simp [code, codeSize, ihr, ihs, Nat.add_comm]
  | star r _ ih | plus r _ ih | group _ r ih => simp [code, codeSize, ih]; omega

/-! ## First characters -/

/-- The characters that a match can begin with, if it reads any. -/
def first : Regex → CharSet
  | empty | look _ => .empty
  | set s => s
  | cat r s => if r.nullable then .union r.first s.first else r.first
  | alt r s => .union r.first s.first
  | star r _ | plus r _ | group _ r => r.first

/-! ## Programs -/

/-- A program, which is entered at its first instruction, and what its matches can begin with. -/
structure Program where
  code : Array Instr
  nullable : Bool
  first : CharSet

/-- Whether a match can begin before the given character, of which there is none at the end of a
text. -/
def Program.canStart (p : Program) (next : Option Char) : Bool :=
  p.nullable || next.any p.first.holds

/-- The program of an expression; the whole match is group 0. -/
def program (r : Regex) : Program :=
  let whole := group 0 r
  ⟨(whole.code 0 whole.codeSize ++ [Instr.accept]).toArray, r.nullable, r.first⟩

end TemporalTagger.Regex
