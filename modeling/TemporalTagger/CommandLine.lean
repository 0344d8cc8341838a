/-
The command line: what its arguments ask for, and what the program answers. Everything but the
reading of standard input and the printing is here.
-/
import TemporalTagger.Report
import TemporalTagger.Sentence.Segment

namespace TemporalTagger.CommandLine

open Text

/-! ## Texts -/

def version : String := "timex 0.1.0"

def helpText : String :=
  version ++ "\n" ++
  "\n" ++
  "Rule-based temporal expression tagger.\n" ++
  "\n" ++
  "Usage:\n" ++
  "  timex [OPTIONS] [--] <input...>\n" ++
  "  timex [OPTIONS] --input <text>\n" ++
  "\n" ++
  "Options:\n" ++
  "  -i, --input <text>         Input text to tag. If omitted, reads remaining args\n" ++
  "                             or stdin when no args are provided.\n" ++
  "  -l, --language <name>      Rule language: english, german, french (or en, de, fr).\n" ++
  "                             Default: english\n" ++
  "  --type <news|narrative>    Document type. News documents anchor relative\n" ++
  "                             expressions on --dct. Default: narrative\n" ++
  "  --dct <date>               Document creation time in YYYY-MM-DD.\n" ++
  "  --temponyms                Also run temponym rules.\n" ++
  "  --color                    Force ANSI color output.\n" ++
  "  --no-color                 Disable ANSI color output.\n" ++
  "  -h, --help                 Show this help message.\n" ++
  "  -V, --version              Print version information.\n" ++
  "\n" ++
  "Environment:\n" ++
  "  TIMEX_LOG                  Log filter (tracing EnvFilter syntax). Default: warn\n" ++
  "\n" ++
  "Exit codes:\n" ++
  "  0  Success.\n" ++
  "  1  Rule set could not be built.\n" ++
  "  2  Invalid arguments or missing input.\n"

/-! ## Arguments -/

/-- What can be wrong with the arguments. -/
inductive ArgumentError
  | missingValue (option : String)
  | unknownOption (argument : String)
  | repeatedInput
  | invalidDate (value : String)
  | setting (cause : TaggerError)
  | noInput

def ArgumentError.message : ArgumentError → String
  | missingValue option => "error: " ++ option ++ " expects a value"
  | unknownOption argument => "error: unknown option '" ++ argument ++ "'"
  | repeatedInput => "error: input provided multiple times"
  | invalidDate value => "error: invalid --dct '" ++ value ++ "' (expected YYYY-MM-DD)"
  | setting cause => "error: " ++ cause.message
  | noInput => "error: no input provided\n\n" ++ helpText

/-- What arguments ask for. -/
structure Request where
  input : Option String := none
  language : Language := .english
  context : DocumentContext := {}
  temponyms : Bool := false
  colours : Bool := false

/-- An option that takes a value. -/
inductive ValueOption
  | language
  | creationDate
  | documentType
  | input
  deriving DecidableEq

namespace ValueOption

def all : List ValueOption := [language, creationDate, documentType, input]

/-- The long spelling. -/
def name : ValueOption → String
  | language => "--language"
  | creationDate => "--dct"
  | documentType => "--type"
  | input => "--input"

/-- The option that an argument spells in full or by its letter. -/
def ofArgument? (arg : String) : Option ValueOption :=
  if arg == "-l" then some language
  else if arg == "-i" then some input
  else all.find? (·.name == arg)

/-- Drops a beginning from a text as often as it stands there; `fuel` bounds how often. -/
def dropRepeated (beginning : List Char) : (fuel : Nat) → List Char → List Char
  | 0, cs => cs
  | fuel + 1, cs =>
    match after? beginning cs with
    | some rest => dropRepeated beginning fuel rest
    | none => cs

/-- The option and value of an argument such as `--type=news`. The spelling may be repeated before
the value. -/
def ofAssignment? (arg : String) : Option (ValueOption × String) :=
  all.findSome? fun o =>
    let beginning := o.name.toList ++ ['=']
    (after? beginning arg.toList).map fun rest =>
      (o, String.ofList (dropRepeated beginning rest.length rest))

end ValueOption

namespace Request

/-- Sets the input, which can be given only once. -/
def setInput (r : Request) (text : String) : Except ArgumentError Request :=
  if r.input.isSome then .error .repeatedInput else .ok { r with input := some text }

/-- Sets what an option is for. -/
def setOption (r : Request) (o : ValueOption) (value : String) : Except ArgumentError Request :=
  match o with
  | .language =>
    match Language.ofText value with
    | .ok l => .ok { r with language := l }
    | .error e => .error (.setting e)
  | .creationDate =>
    match Date.parse? value with
    | some d => .ok { r with context := { r.context with creationDate := some d } }
    | none => .error (.invalidDate value)
  | .documentType =>
    match DocumentType.ofText value with
    | .ok t => .ok { r with context := { r.context with documentType := t } }
    | .error e => .error (.setting e)
  | .input => r.setInput value

end Request

/-- What arguments come to: a request to tag, or one to print a text. -/
inductive Command
  | tag (r : Request)
  | help
  | version

/-- Reads arguments from left to right. The first error counts, and so does the first option that
asks for a text. -/
def parseArguments (r : Request) : List String → Except ArgumentError Command
  | [] => .ok (.tag r)
  | arg :: rest =>
    if arg == "-h" || arg == "--help" then .ok .help
    else if arg == "-V" || arg == "--version" then .ok .version
    else if arg == "--color" then parseArguments { r with colours := true } rest
    else if arg == "--no-color" then parseArguments { r with colours := false } rest
    else if arg == "--temponyms" then parseArguments { r with temponyms := true } rest
    else if arg == "--" then
      let text := " ".intercalate rest
      if (trim text).isEmpty then .ok (.tag r) else (r.setInput text).map .tag
    else
      match ValueOption.ofArgument? arg with
      | some o =>
        match rest with
        | [] => .error (.missingValue o.name)
        | value :: rest => do parseArguments (← r.setOption o value) rest
      | none =>
        match ValueOption.ofAssignment? arg with
        | some (o, value) => do parseArguments (← r.setOption o value) rest
        | none =>
          if arg.startsWith "-" then .error (.unknownOption arg)
          else (r.setInput (" ".intercalate (arg :: rest))).map .tag

/-! ## Answers -/

/-- What the program leaves behind. -/
structure Outcome where
  exitCode : Nat
  output : String := ""
  complaint : String := ""

/-- Whether standard input has to be read for these arguments. -/
def needsInput (args : List String) : Bool :=
  match parseArguments {} args with
  | .ok (.tag r) => r.input.isNone
  | _ => false

def refuse (e : ArgumentError) : Outcome := { exitCode := 2, complaint := e.message ++ "\n" }

/-- Tags the input of a request. -/
def tag (r : Request) (input elapsed : String) : Outcome :=
  let wanted (c : Category) : Bool := CategorySet.default.has c || (r.temponyms && c == .temponym)
  match Tagger.bundled r.language { categories := ⟨wanted⟩ } with
  | .error e => { exitCode := 1, complaint := "error: " ++ e.message ++ "\n" }
  | .ok tagger =>
    let result := tagger.tagDocument (Sentence.split input) r.context
    { exitCode := 0, output := Report.render ⟨r.colours, elapsed⟩ input tagger result }

/-- Runs the program; `stdin` is used where the arguments hold no input, and `elapsed` stands for
each elapsed time in the report. -/
def run (args : List String) (stdin elapsed : String) : Outcome :=
  match parseArguments {} args with
  | .error e => refuse e
  | .ok .help => { exitCode := 0, output := helpText ++ "\n" }
  | .ok .version => { exitCode := 0, output := version ++ "\n" }
  | .ok (.tag r) =>
    let input := r.input.getD stdin
    if (trim input).isEmpty then refuse .noInput else tag r input elapsed

end TemporalTagger.CommandLine
