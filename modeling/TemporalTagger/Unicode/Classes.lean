/-
Character tests over the Unicode tables.
-/
import TemporalTagger.Unicode.Additions
import TemporalTagger.Unicode.Categories
import TemporalTagger.Unicode.Intervals
import TemporalTagger.Unicode.Properties

namespace TemporalTagger.Unicode

/-- Word characters: letters, marks, digits, connector punctuation and the join controls. -/
def isWord (c : Char) : Bool := inside Properties.word c.toNat

/-- Whitespace. -/
def isSpace (c : Char) : Bool := inside Properties.whiteSpace c.toNat

/-- Decimal digits of any script. -/
def isDigit (c : Char) : Bool := inside Categories.decimalNumber c.toNat

/-- Alphabetic characters. -/
def isAlphabetic (c : Char) : Bool :=
  inside Properties.alphabetic c.toNat || inside Additions.alphabetic c.toNat

/-- The categories of punctuation. -/
def punctuation : List (List Nat) :=
  [Categories.connectorPunctuation, Categories.dashPunctuation, Categories.openPunctuation,
   Categories.closePunctuation, Categories.initialPunctuation, Categories.finalPunctuation,
   Categories.otherPunctuation]

/-- Punctuation of any kind. -/
def isPunctuation (c : Char) : Bool := punctuation.any (inside · c.toNat)

/-- Numeric characters: digits, letterlike numbers and others. -/
def isNumeric (c : Char) : Bool :=
  isDigit c || inside Categories.letterNumber c.toNat || inside Categories.otherNumber c.toNat ||
    inside Additions.numeric c.toNat

/-- The categories of everything that leaves a mark on the page, with the plain space apart. -/
def visible : List (List Nat) :=
  [Categories.uppercaseLetter, Categories.lowercaseLetter, Categories.titlecaseLetter,
   Categories.modifierLetter, Categories.otherLetter, Categories.nonspacingMark,
   Categories.spacingMark, Categories.enclosingMark, Categories.decimalNumber,
   Categories.letterNumber, Categories.otherNumber, Categories.mathSymbol,
   Categories.currencySymbol, Categories.modifierSymbol, Categories.otherSymbol] ++ punctuation

/-- The Hangul fillers, letters that leave no mark. -/
def fillers : List Nat := [0x115F, 0x1161, 0x3164, 0x3165, 0xFFA0, 0xFFA1]

/-- Characters that can be shown as they are: the visible ones and the plain space. -/
def isPrintable (c : Char) : Bool :=
  c = ' ' || ((visible.any (inside · c.toNat) || inside Additions.visible c.toNat) &&
    !inside fillers c.toNat)

/-- The half-width voicing marks of katakana, which have a cell of their own. -/
def halfWidthMarks : List Nat := [0xFF9E, 0xFFA0]

/-- Characters that are drawn on the one before them. -/
def extendsGrapheme (c : Char) : Bool :=
  (inside Properties.graphemeExtend c.toNat || inside Additions.graphemeExtend c.toNat) &&
    !inside halfWidthMarks c.toNat

end TemporalTagger.Unicode
