import PmmlExport.Translate.Basic
import PmmlExport.Number.Count

/-!
# Command-line options

The settings a run takes from its command line, the parameters the command line knows, the
ways a command line is refused, and the help, version and usage texts.

A refusal is written as `error: ` and its sentence, then its tips, then a usage line where the
refusal names one, and last a pointer to the help. The usage line is either the general one or
one that names the parameters given, options first and the input last.
-/

namespace PmmlExport.Cli

open PmmlExport.Number

/-- The name the program goes by in its texts. -/
def programName : String := "sparkpmml"

/-- The version the program reports. -/
def programVersion : String := "0.1.0"

/-- How the translated expression is written out. -/
inductive OutputFormat
  /-- A type comment and the markup text. -/
  | markup
  /-- A JSON document with the type and the markup expression. -/
  | json
  deriving DecidableEq, Repr

/-- The formats in the order the help lists them. -/
def OutputFormat.all : List OutputFormat := [.markup, .json]

/-- The name of a format on the command line. -/
def OutputFormat.name : OutputFormat → String
  | .markup => "markup"
  | .json => "json"

/-- The settings of a run. -/
structure Options where
  /-- The expression file; standard input when absent. -/
  input : Option String := none
  /-- The deepest tree accepted. -/
  maxDepth : Nat := Translate.Config.defaultMaxDepth
  /-- Whether the depth check is skipped. -/
  unbounded : Bool := false
  /-- How the result is written. -/
  format : OutputFormat := .markup
  /-- Whether diagnostic lines are written. -/
  debug : Bool := false
  deriving DecidableEq, Repr

/-- The translator settings of a run. -/
def Options.config (o : Options) : Translate.Config :=
  if o.unbounded then .unbounded else .withMaxDepth o.maxDepth

/-- A parameter of the command line: the input operand, the options, help and version. -/
inductive Param
  | input
  | maxDepth
  | unbounded
  | format
  | debug
  | help
  | version
  deriving DecidableEq, Repr

namespace Param

/-- The options in the order they are declared and listed. -/
def options : List Param := [maxDepth, unbounded, format, debug, help, version]

/-- The long name of an option. -/
def long? : Param → Option String
  | input => none
  | maxDepth => some "max-depth"
  | unbounded => some "unbounded"
  | format => some "format"
  | debug => some "debug"
  | help => some "help"
  | version => some "version"

/-- The one-letter name of an option. -/
def short? : Param → Option Char
  | format => some 'f'
  | debug => some 'd'
  | help => some 'h'
  | version => some 'V'
  | _ => none

/-- The placeholder of the value an option takes, if it takes one. -/
def valueName? : Param → Option String
  | maxDepth => some "MAX_DEPTH"
  | format => some "FORMAT"
  | _ => none

/-- Whether an option takes a value. -/
def takesValue (p : Param) : Bool := p.valueName?.isSome

/-- The long names of the options, in order. -/
def longNames : List String := options.filterMap long?

/-- The option with a long name. -/
def ofLong? (name : String) : Option Param := options.find? (·.long? == some name)

/-- The option with a one-letter name. -/
def ofShort? (c : Char) : Option Param := options.find? (·.short? == some c)

/-- How a parameter is written in messages: its long name and placeholder, or the operand in
brackets. -/
def display : Param → String
  | input => "[INPUT]"
  | p =>
    "--" ++ (p.long?.getD "") ++ match p.valueName? with
      | some v => " <" ++ v ++ ">"
      | none => ""

/-- How a given parameter is written in a usage line: the operand in angle brackets. -/
def given : Param → String
  | input => "<INPUT>"
  | p => p.display

/-- The parameters that hold a setting of the run, in the order they are declared. Together
they form one group; help and version stay outside it. -/
def settings : List Param := [input, maxDepth, unbounded, format, debug]

/-- Whether a parameter holds a setting of the run. -/
def isSetting (p : Param) : Bool := settings.contains p

/-- How a parameter is written among the group of settings: the operand without brackets. -/
def member : Param → String
  | input => "INPUT"
  | p => p.display

/-- Whether `p` may not be given together with `q`. -/
def excludes : Param → Param → Bool
  | maxDepth, unbounded => true
  | _, _ => false

/-- The values an option accepts, when it names them. -/
def choices : Param → List String
  | format => OutputFormat.all.map OutputFormat.name
  | _ => []

/-- The one-line description of a parameter in the help. -/
def summary : Param → String
  | input => "Expression file, read from stdin when omitted"
  | maxDepth => "Deepest expression tree accepted. JSON input is also limited to 128 nested " ++
      "containers, roughly 60 levels of binary operators"
  | unbounded => "Skip the translator depth check; the JSON nesting limit still applies"
  | format => "Output format"
  | debug => "Enable debug logging"
  | help => "Print help"
  | version => "Print version"

/-- The bracketed notes after a description: the default and the accepted values. -/
def notes : Param → List String
  | maxDepth => ["[default: " ++ Nat.repr Translate.Config.defaultMaxDepth ++ "]"]
  | format => ["[default: " ++ OutputFormat.markup.name ++ "]",
      "[possible values: " ++ ", ".intercalate format.choices ++ "]"]
  | _ => []

/-- The left column of a parameter's help row: the option's letter, or room for one, then its
long form. -/
def column : Param → String
  | input => input.display
  | p =>
    (match p.short? with
      | some c => "-" ++ String.singleton c ++ ", "
      | none => "    ") ++ p.display

end Param

/-- Pad a text with spaces on the right to a width. -/
def padRight (width : Nat) (s : String) : String :=
  s ++ String.ofList (List.replicate (width - s.length) ' ')

/-- Rows of a help section: each column padded to the widest, then two spaces and the
description with its notes. -/
def helpRows (ps : List Param) : String :=
  let width := ps.foldl (fun w p => max w p.column.length) 0
  "\n".intercalate (ps.map fun p =>
    "  " ++ padRight width p.column ++ "  " ++ " ".intercalate (p.summary :: p.notes))

/-- The general usage line. -/
def generalUsage : String := "Usage: " ++ programName ++ " [OPTIONS] [INPUT]"

/-- The help text: what the program does, its usage, its operand and its options. -/
def helpText : String :=
  "Translate a JSON encoded pipeline expression into a markup expression\n\n" ++
  generalUsage ++ "\n\nArguments:\n" ++ helpRows [.input] ++
  "\n\nOptions:\n" ++ helpRows Param.options ++ "\n"

/-- The version text. -/
def versionText : String := programName ++ " " ++ programVersion ++ "\n"

/-- The usage line a refusal shows. -/
inductive UsageLine
  /-- The general line. -/
  | general
  /-- A line naming the parameters given, in the order given. -/
  | naming (given : List Param)
  /-- A line naming the parameters given outside the group of settings, then the group. -/
  | grouping (others : List Param)
  deriving DecidableEq, Repr

/-- The usage line for the parameters given: the general one when none was. -/
def UsageLine.of (given : List Param) : UsageLine :=
  if given.isEmpty then .general else .naming given.eraseDups

/-- The usage line for a refusal once `earlier` took effect, naming `later` too. A setting that
took effect brings in its group, which stands for every setting, given or not. -/
def UsageLine.after (earlier later : List Param) : UsageLine :=
  if earlier.any Param.isSetting then
    .grouping ((earlier ++ later).filter (!·.isSetting)).eraseDups
  else UsageLine.of (earlier ++ later)

/-- The text of a usage line. Given options come first, then the operand: in angle brackets
when given, else in square brackets. -/
def UsageLine.text : UsageLine → String
  | .general => generalUsage
  | .naming given =>
    "Usage: " ++ programName ++
      String.join ((given.filter (· != .input)).map (" " ++ ·.display)) ++
      (if given.contains .input then " " ++ Param.input.given else " " ++ Param.input.display)
  | .grouping others =>
    "Usage: " ++ programName ++ String.join (others.map (" " ++ ·.display)) ++
      " <" ++ "|".intercalate (Param.settings.map Param.member) ++ ">"

/-- Why a command line is refused. -/
inductive UsageError
  /-- An argument that is no parameter, with a similar option and whether to suggest
  passing it after `--`. -/
  | unexpectedArgument (arg : String) (similar : Option String) (escapeTip : Bool)
      (usage : UsageLine)
  /-- A value attached to an option that takes none. -/
  | unexpectedValue (p : Param) (value : String) (usage : UsageLine)
  /-- An option without its value. -/
  | missingValue (p : Param)
  /-- A value that is none of the option's choices, with a similar choice. -/
  | invalidChoice (p : Param) (value : String) (similar : Option String)
  /-- A value that is no count. -/
  | invalidCount (p : Param) (value : String) (fault : CountFault)
  /-- A parameter given a second time. -/
  | repeated (p : Param)
  /-- A parameter given together with one it excludes. -/
  | conflict (p q : Param) (usage : UsageLine)
  deriving DecidableEq, Repr

/-- The line listing an option's choices, if it has any. -/
def choicesLine (p : Param) : String :=
  if p.choices.isEmpty then "" else "\n  [possible values: " ++ ", ".intercalate p.choices ++ "]"

/-- The end of every refusal: a pointer to the help. -/
def helpPointer : String := "\n\nFor more information, try '--help'.\n"

/-- The text of a refusal. -/
def UsageError.message : UsageError → String
  | .unexpectedArgument a similar escapeTip usage =>
    let similarTip := match similar with
      | some s => "\n\n  tip: a similar argument exists: '" ++ s ++ "'"
      | none => ""
    let escape :=
      if escapeTip then
        (if similar.isSome then "" else "\n") ++
          "\n  tip: to pass '" ++ a ++ "' as a value, use '-- " ++ a ++ "'"
      else ""
    "error: unexpected argument '" ++ a ++ "' found" ++ similarTip ++ escape ++ "\n\n" ++
      usage.text ++ helpPointer
  | .unexpectedValue p v usage =>
    "error: unexpected value '" ++ v ++ "' for '" ++ p.display ++
      "' found; no more were expected\n\n" ++ usage.text ++ helpPointer
  | .missingValue p =>
    "error: a value is required for '" ++ p.display ++ "' but none was supplied" ++
      choicesLine p ++ helpPointer
  | .invalidChoice p v similar =>
    "error: invalid value '" ++ v ++ "' for '" ++ p.display ++ "'" ++ choicesLine p ++
      (match similar with
        | some s => "\n\n  tip: a similar value exists: '" ++ s ++ "'"
        | none => "") ++ helpPointer
  | .invalidCount p v fault =>
    "error: invalid value '" ++ v ++ "' for '" ++ p.display ++ "': " ++ fault.message ++
      helpPointer
  | .repeated p =>
    "error: the argument '" ++ p.display ++ "' cannot be used multiple times\n\n" ++
      generalUsage ++ helpPointer
  | .conflict p q usage =>
    "error: the argument '" ++ p.display ++ "' cannot be used with '" ++ q.display ++ "'\n\n" ++
      usage.text ++ helpPointer

end PmmlExport.Cli
