/-
Decimal numbers in text, with the limits of the machine words that hold them.
-/

namespace TemporalTagger.Text

/-- The number that a list of decimal digits denotes. -/
def digitsValue (digits : List Char) : Nat :=
  digits.foldl (fun n c => 10 * n + (c.toNat - '0'.toNat)) 0

/-- Reads a number written in ASCII digits alone. -/
def readDigits? (cs : List Char) : Option Nat :=
  if cs.isEmpty || !cs.all Char.isDigit then none else some (digitsValue cs)

/-- Reads a number below `2 ^ 64` written in digits. -/
def readWord? (cs : List Char) : Option Nat :=
  (readDigits? cs).filter (· < UInt64.size)

/-- Reads a number below `2 ^ 64`; a plus sign may stand before it. -/
def readUnsigned? : List Char → Option Nat
  | '+' :: rest => readWord? rest
  | cs => readWord? cs

/-- Whether a number fits in a signed word of so many bits. -/
def fitsSigned (bits : Nat) (n : Int) : Bool :=
  let limit : Nat := 1 <<< (bits - 1)
  n < limit && -limit ≤ n

/-- Reads a number that fits in a signed word of so many bits; a sign may stand before it. -/
def readSigned? (bits : Nat) (cs : List Char) : Option Int :=
  let value : Option Int :=
    match cs with
    | '-' :: rest => (readDigits? rest).map fun n => -(n : Int)
    | '+' :: rest => (readDigits? rest).map fun n => (n : Int)
    | cs => (readDigits? cs).map fun n => (n : Int)
  value.filter (fitsSigned bits)

/-- A number in decimal, padded with zeros to a width, the sign counting. -/
def padded (width : Nat) (n : Int) : String :=
  let digits := toString n.natAbs
  let room := if n < 0 then width - 1 else width
  let zeros := String.ofList (List.replicate (room - digits.length) '0')
  (if n < 0 then "-" else "") ++ zeros ++ digits

end TemporalTagger.Text
