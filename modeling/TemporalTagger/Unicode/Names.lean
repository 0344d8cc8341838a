/-
The sets that a character class can name: general categories, derived properties and scripts.
Names are compared in loose form: case, spaces, hyphens, underscores and a leading "is" do not
count.
-/
import TemporalTagger.Unicode.CaseTables
import TemporalTagger.Unicode.Classes
import TemporalTagger.Unicode.MinorProperties
import TemporalTagger.Unicode.Scripts

namespace TemporalTagger.Unicode

/-- A set of code points that a class can name: a union of boundary lists, such a union without
another, or what lies outside one. -/
inductive NamedSet
  | union (sets : List (List Nat))
  | less (sets without : List (List Nat))
  | outside (sets : List (List Nat))

/-- The loose form of a name. -/
def looseName (name : String) : String :=
  let kept (cs : List Char) : List Char :=
    (cs.filter fun c => c.toNat < 128 && c != ' ' && c != '_' && c != '-').map Char.toLower
  match name.toList with
  | a :: b :: rest =>
    if a.toLower = 'i' && b.toLower = 's' then
      -- the abbreviation "isc" is not a prefixed "c"
      if kept rest = ['c'] then "isc" else String.ofList (kept rest)
    else String.ofList (kept (a :: b :: rest))
  | cs => String.ofList (kept cs)

/-! ## General categories -/

open Categories in
/-- Letters of any kind. -/
def letters : List (List Nat) :=
  [uppercaseLetter, lowercaseLetter, titlecaseLetter, modifierLetter, otherLetter]

/-- Every code point of an assigned character. -/
def assigned : List (List Nat) :=
  visible ++ [Categories.spaceSeparator, Categories.lineSeparator, Categories.paragraphSeparator,
    Categories.control, Categories.format, Categories.privateUse]

open Categories in
/-- The general categories and their groups, by loose name. -/
def categoryNames : List (List String × NamedSet) :=
  [(["any"], .union [[0]]), (["assigned"], .union assigned), (["ascii"], .union [[0, 0x80]]),
   (["l", "letter"], .union letters),
   (["lc", "casedletter"], .union [uppercaseLetter, lowercaseLetter, titlecaseLetter]),
   (["lu", "uppercaseletter"], .union [uppercaseLetter]),
   (["ll", "lowercaseletter"], .union [lowercaseLetter]),
   (["lt", "titlecaseletter"], .union [titlecaseLetter]),
   (["lm", "modifierletter"], .union [modifierLetter]),
   (["lo", "otherletter"], .union [otherLetter]),
   (["m", "mark", "combiningmark"], .union [nonspacingMark, spacingMark, enclosingMark]),
   (["mn", "nonspacingmark"], .union [nonspacingMark]),
   (["mc", "spacingmark"], .union [spacingMark]),
   (["me", "enclosingmark"], .union [enclosingMark]),
   (["n", "number"], .union [decimalNumber, letterNumber, otherNumber]),
   (["nd", "decimalnumber", "digit"], .union [decimalNumber]),
   (["nl", "letternumber"], .union [letterNumber]),
   (["no", "othernumber"], .union [otherNumber]),
   (["p", "punctuation", "punct"], .union punctuation),
   (["pc", "connectorpunctuation"], .union [connectorPunctuation]),
   (["pd", "dashpunctuation"], .union [dashPunctuation]),
   (["ps", "openpunctuation"], .union [openPunctuation]),
   (["pe", "closepunctuation"], .union [closePunctuation]),
   (["pi", "initialpunctuation"], .union [initialPunctuation]),
   (["pf", "finalpunctuation"], .union [finalPunctuation]),
   (["po", "otherpunctuation"], .union [otherPunctuation]),
   (["s", "symbol"], .union [mathSymbol, currencySymbol, modifierSymbol, otherSymbol]),
   (["sm", "mathsymbol"], .union [mathSymbol]),
   (["sc", "currencysymbol"], .union [currencySymbol]),
   (["sk", "modifiersymbol"], .union [modifierSymbol]),
   (["so", "othersymbol"], .union [otherSymbol]),
   (["z", "separator"], .union [spaceSeparator, lineSeparator, paragraphSeparator]),
   (["zs", "spaceseparator"], .union [spaceSeparator]),
   (["zl", "lineseparator"], .union [lineSeparator]),
   (["zp", "paragraphseparator"], .union [paragraphSeparator]),
   (["c", "other"], .outside (visible ++ [spaceSeparator, lineSeparator, paragraphSeparator])),
   (["cc", "control", "cntrl"], .union [control]),
   (["cf", "format"], .union [format]),
   (["co", "privateuse"], .union [privateUse]),
   (["cn", "unassigned"], .outside assigned)]

/-! ## Properties -/

open Properties in
/-- The derived properties with a table of their own, by loose name. -/
def propertyNames : List (List String × NamedSet) :=
  [(["alphabetic", "alpha"], .union [alphabetic]),
   (["lowercase", "lower"], .union [Properties.lowercase]),
   (["uppercase", "upper"], .union [Properties.uppercase]),
   (["whitespace", "wspace", "space"], .union [whiteSpace]),
   (["cased"], .union [cased]),
   (["caseignorable", "ci"], .union [caseIgnorable]),
   (["graphemeextend", "grext"], .union [graphemeExtend]),
   (["joincontrol", "joinc"], .union [[0x200C, 0x200E]]),
   (["asciihexdigit", "ahex"], .union [[0x30, 0x3A, 0x41, 0x47, 0x61, 0x67]]),
   (["hexdigit", "hex"], .union [hexDigit]),
   (["dash"], .union [dash]),
   (["ideographic", "ideo"], .union [ideographic]),
   (["emoji"], .union [emoji]),
   (["math"], .union [math])]

open MinorProperties in
/-- The smaller properties, by loose name. -/
def minorPropertyNames : List (List String × NamedSet) :=
  [(["bidicontrol", "bidic"], .union [bidiControl]),
   (["bidimirrored", "bidim"], .union [bidiMirrored]),
   (["defaultignorablecodepoint", "di"], .union [defaultIgnorable]),
   (["deprecated", "dep"], .union [deprecated]),
   (["diacritic", "dia"], .union [diacritic]),
   (["emojicomponent", "ecomp"], .union [emojiComponent]),
   (["emojimodifier", "emod"], .union [emojiModifier]),
   (["emojimodifierbase", "ebase"], .union [emojiModifierBase]),
   (["emojipresentation", "epres"], .union [emojiPresentation]),
   (["extendedpictographic", "extpict"], .union [extendedPictographic]),
   (["extender", "ext"], .union [extender]),
   (["graphemelink", "grlink"], .union [graphemeLink]),
   (["hyphen"], .union [hyphen]),
   (["idcompatmathcontinue"], .union [idCompatMathContinue]),
   (["idcompatmathstart"], .union [idCompatMathStart]),
   (["idsbinaryoperator", "idsb"], .union [idsBinary]),
   (["idstrinaryoperator", "idst"], .union [idsTrinary]),
   (["idsunaryoperator", "idsu"], .union [idsUnary]),
   (["logicalorderexception", "loe"], .union [logicalOrderException]),
   (["modifiercombiningmark", "mcm"], .union [modifierCombiningMark]),
   (["noncharactercodepoint", "nchar"], .union [noncharacter]),
   (["otherdefaultignorablecodepoint", "odi"], .union [otherDefaultIgnorable]),
   (["otheridcontinue", "oidc"], .union [otherIdContinue]),
   (["otheridstart", "oids"], .union [otherIdStart]),
   (["patternsyntax", "patsyn"], .union [patternSyntax]),
   (["patternwhitespace", "patws"], .union [patternWhiteSpace]),
   (["prependedconcatenationmark", "pcm"], .union [prependedConcatenationMark]),
   (["quotationmark", "qmark"], .union [quotationMark]),
   (["radical"], .union [radical]),
   (["regionalindicator", "ri"], .union [regionalIndicator]),
   (["sentenceterminal", "sterm"], .union [sentenceTerminal]),
   (["softdotted", "sd"], .union [softDotted]),
   (["terminalpunctuation", "term"], .union [terminalPunctuation]),
   (["unifiedideograph", "uideo"], .union [unifiedIdeograph]),
   (["variationselector", "vs"], .union [variationSelector])]

open Categories Properties in
/-- The properties made of others, by loose name. -/
def composedNames : List (List String × NamedSet) :=
  let starts := letters ++ [letterNumber, MinorProperties.otherIdStart]
  let continues := starts ++ [nonspacingMark, spacingMark, decimalNumber, connectorPunctuation,
    MinorProperties.otherIdContinue]
  -- a letter that the grammar of patterns keeps for itself
  let reserved := [0x2E2F, 0x2E30]
  [(["idstart", "ids"], .less starts [reserved]),
   (["idcontinue", "idc"], .less continues [reserved]),
   (["xidstart", "xids"], .less starts [reserved, MinorProperties.unstableIdStart]),
   (["xidcontinue", "xidc"], .less continues [reserved, MinorProperties.unstableIdContinue]),
   (["graphemebase", "grbase"], .less (visible ++ [spaceSeparator]) [graphemeExtend]),
   (["otheralphabetic", "oalpha"], .less [alphabetic] (letterNumber :: letters)),
   (["otherlowercase", "olower"], .less [Properties.lowercase] [lowercaseLetter]),
   (["otheruppercase", "oupper"], .less [Properties.uppercase] [uppercaseLetter]),
   (["othermath", "omath"], .less [math] [mathSymbol]),
   (["othergraphemeextend", "ogrext"], .less [graphemeExtend] [nonspacingMark, enclosingMark])]

open CaseTables in
/-- The properties of characters that a mapping of case changes, by loose name. The mappings are
the full ones, so a character that becomes several counts as changed. -/
def caseChangeNames : List (List String × NamedSet) :=
  let lowered := [0x130, 0x131] :: lower.map Run.bounds
  let raised := upper.map Run.bounds ++ upperSpecial.map fun (c, _) => [c, c + 1]
  [(["changeswhenlowercased", "cwl"], .less lowered [Additions.recased]),
   (["changeswhenuppercased", "cwu"], .less raised [Additions.recased]),
   (["changeswhentitlecased", "cwt"],
     .less (MinorProperties.titlecaseDigraphs :: raised)
       [Additions.recased, MinorProperties.titlecaseForms]),
   (["changeswhencasemapped", "cwcm"], .less (lowered ++ raised) [Additions.recased]),
   (["changeswhencasefolded", "cwcf"],
     .less (MinorProperties.foldedToSeveral :: fold.map Run.bounds)
       [MinorProperties.foldedForms])]

/-! ## Look-up -/

/-- Looks a loose name up in a table of named sets. -/
def findNamed (table : List (List String × NamedSet)) (name : String) : Option NamedSet :=
  (table.find? (·.1.contains name)).map (·.2)

/-- The script of a loose name. -/
def findScript (name : String) : Option NamedSet :=
  (Script.all.find? fun s => s.name == name || s.codes.contains name).map (.union [·.bounds])

/-- The set that a single name denotes: a property, a general category or a script. The names
`cf`, `sc` and `lc` are categories and never properties. -/
def namedSet? (name : String) : Option NamedSet :=
  let name := looseName name
  findNamed (propertyNames ++ minorPropertyNames ++ composedNames ++ caseChangeNames) name <|>
    findNamed categoryNames name <|> findScript name

/-- The set that a value of a named property denotes. -/
def namedValue? (property value : String) : Option NamedSet :=
  let value := looseName value
  match looseName property with
  | "generalcategory" | "gc" => findNamed categoryNames value
  | "script" | "sc" => findScript value
  | _ => none

end TemporalTagger.Unicode
