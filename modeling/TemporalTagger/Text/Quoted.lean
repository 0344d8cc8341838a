/-
Texts in quotes, as messages show them: quotes and backslashes are escaped, the common controls
have short forms, and what cannot be shown is written by its code.
-/
import TemporalTagger.Unicode.Classes

namespace TemporalTagger.Text

open Unicode

/-- The hexadecimal digits of a number, in lower case. -/
def hexDigits (n : Nat) : List Char := Nat.toDigits 16 n

/-- One character inside quotes. -/
def quoteChar (c : Char) : List Char :=
  match c with
  | '\x00' => ['\\', '0']
  | '\t' => ['\\', 't']
  | '\r' => ['\\', 'r']
  | '\n' => ['\\', 'n']
  | '\\' => ['\\', '\\']
  | '"' => ['\\', '"']
  | c =>
    if isPrintable c && !extendsGrapheme c then [c]
    else ['\\', 'u', '\x7b'] ++ hexDigits c.toNat ++ ['\x7d']

/-- A text in quotes. -/
def quoted (cs : List Char) : String := String.ofList ('"' :: cs.flatMap quoteChar ++ ['"'])

end TemporalTagger.Text
