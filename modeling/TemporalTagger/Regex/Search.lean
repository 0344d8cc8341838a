/-
Running programs on text. All ways to match are followed at once, as a list of threads in order of
preference; at each position a thread that reaches an instruction already reached is dropped,
because the earlier thread is preferred. Positions are byte offsets.
-/
import TemporalTagger.Regex.Program

namespace TemporalTagger.Regex

/-! ## Places in a text -/

/-- A place in a text: its byte offset, the character before it and the text after it. -/
structure Place where
  offset : Nat
  before : Option Char
  rest : List Char

namespace Place

/-- The beginning of a text. -/
def ofText (s : String) : Place := ⟨0, none, s.toList⟩

/-- The place after the next character; the end of the text has none. -/
def next? (p : Place) : Option Place :=
  match p.rest with
  | [] => none
  | c :: rest => some ⟨p.offset + c.utf8Size, some c, rest⟩

/-- Moves on to a byte offset. -/
def advanceTo (p : Place) (offset : Nat) : Place :=
  go p.offset p.before p.rest
where
  /-- Drops characters up to the offset. -/
  go (at_ : Nat) (before : Option Char) : List Char → Place
    | [] => ⟨at_, before, []⟩
    | c :: rest =>
      if at_ < offset then go (at_ + c.utf8Size) (some c) rest else ⟨at_, before, c :: rest⟩

/-- Whether an assertion holds at the place. -/
def satisfies (p : Place) (l : Look) : Bool := l.holds p.before p.rest.head?

end Place

/-! ## Threads -/

/-- The group boundaries passed so far, as pairs of slot and offset, the last one first. -/
abbrev Trail := List (Nat × Nat)

/-- A way to match under way: the instruction it is at and its trail. -/
structure Thread where
  pc : Nat
  trail : Trail

/-- The threads that stop at a place because they have to read a character, with the characters
they can read, and the trail of the match that ends there, if one does. -/
structure Settled where
  waiting : List (CharSet × Thread)
  accepted : Option Trail

/-- Runs threads, in order of preference, until each has to read a character. The instructions
reached are the set bits of `reached`. A thread that accepts ends the run, since all others come
after it. Each round either drops a thread or reaches a new instruction. -/
def settle (code : Array Instr) (here : Place) : (fuel : Nat) → List Thread → (reached : Nat) →
    (waiting : List (CharSet × Thread)) → Settled
  | 0, _, _, waiting => ⟨waiting.reverse, none⟩
  | _ + 1, [], _, waiting => ⟨waiting.reverse, none⟩
  | fuel + 1, ⟨pc, trail⟩ :: threads, reached, waiting =>
    if reached.testBit pc then settle code here fuel threads reached waiting
    else
      let reached := reached ||| (1 <<< pc)
      match code[pc]? with
      | none => settle code here fuel threads reached waiting
      | some (.read chars next) =>
        settle code here fuel threads reached ((chars, ⟨next, trail⟩) :: waiting)
      | some (.jump next) => settle code here fuel (⟨next, trail⟩ :: threads) reached waiting
      | some (.fork first second) =>
        settle code here fuel (⟨first, trail⟩ :: ⟨second, trail⟩ :: threads) reached waiting
      | some (.check l next) =>
        if here.satisfies l then
          settle code here fuel (⟨next, trail⟩ :: threads) reached waiting
        else settle code here fuel threads reached waiting
      | some (.mark slot next) =>
        settle code here fuel (⟨next, (slot, here.offset) :: trail⟩ :: threads) reached waiting
      | some .accept => ⟨waiting.reverse, some trail⟩

/-- Enough rounds for `settle`: one for each thread, and two for each instruction. -/
def Program.fuel (p : Program) (threads : List Thread) : Nat :=
  threads.length + 2 * p.code.size + 1

/-! ## Search -/

/-- The threads at a place, given those that go on from the place before. As long as no match is
known, a new thread starts after all others, if a match can begin there. -/
def Program.enter (p : Program) (threads : List Thread) (known : Option Trail)
    (next : Option Char) : List Thread :=
  if known.isNone && p.canStart next then threads ++ [⟨0, []⟩] else threads

/-- Follows threads through the rest of a text. A match found later replaces the one known, because
only threads that are preferred to it go on. -/
def Program.follow (p : Program) (offset : Nat) (before : Option Char) (threads : List Thread)
    (known : Option Trail) : List Char → Option Trail
  | [] =>
    let threads := p.enter threads known none
    (settle p.code ⟨offset, before, []⟩ (p.fuel threads) threads 0 []).accepted <|> known
  | c :: rest =>
    let threads := p.enter threads known (some c)
    let settled := settle p.code ⟨offset, before, c :: rest⟩ (p.fuel threads) threads 0 []
    let known := settled.accepted <|> known
    let threads := settled.waiting.filterMap fun (chars, thread) =>
      if chars.holds c then some thread else none
    if threads.isEmpty && known.isSome then known
    else p.follow (offset + c.utf8Size) (some c) threads known rest

/-- The trail of the leftmost match at or after a place. -/
def Program.searchFrom (p : Program) (place : Place) : Option Trail :=
  p.follow place.offset place.before [] none place.rest

end TemporalTagger.Regex
