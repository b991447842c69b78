import PmmlExport.Cli.Arguments
import PmmlExport.Cli.Report
import PmmlExport.Cli.Files
import PmmlExport.Interchange.Exchange
import PmmlExport.Markup.Text
import PmmlExport.Json.Print

/-!
# A run of the command line

A run reads its command line; help and version are written to standard output, and a refused
command line to standard error with status 2. Otherwise the expression is read from the input
file, or from standard input when no file is named, and translated with the depth bound of the
settings. The result is written as a type comment and markup text, or as a JSON document of the
type and the markup expression. Every failure is written to standard error with status 1.

With diagnostics on, the translator's outcome is also written to standard error: the
inferred type, the rejected depth, or the failure, each over the summary of the expression.
-/

namespace PmmlExport.Cli

open PmmlExport.Json
open PmmlExport.Source
open PmmlExport.Translate

/-- What a run leaves: its exit status and what it wrote to its two outputs. -/
structure Outcome where
  /-- The exit status. -/
  status : Nat
  /-- What was written to standard output. -/
  stdout : String := ""
  /-- What was written to standard error. -/
  stderr : String := ""
  deriving DecidableEq, Repr

/-- Where the expression text comes from. -/
inductive Input
  /-- Standard input, with its bytes. -/
  | standard (bytes : ByteArray)
  /-- A file named by a path, with what reading it gives. -/
  | file (path : String) (read : FileRead)

/-- The failure of reading an expression text. -/
def loadFailure : LoadError → Failure
  | .malformed e => ⟨LoadError.malformedContext, [e.message]⟩
  | e@(.tooDeep _) => ⟨e.message, []⟩

/-- The expression of an input, or why it cannot be had. -/
def Input.load : Input → Except Failure Expr
  | .standard bytes => (Expr.readWith .builtin bytes).mapError loadFailure
  | .file path read =>
    match read with
    | .cannotOpen e => .error ⟨"Failed to open expression file " ++ path, [e.message]⟩
    | .cannotRead e =>
      .error ((Failure.mk LoadError.malformedContext [e.message]).within
        ("Invalid expression in " ++ path))
    | .contents bytes =>
      (Expr.readWith .builtin bytes).mapError fun e =>
        (loadFailure e).within ("Invalid expression in " ++ path)

/-- The part of the program that writes diagnostics about a run. -/
def runTarget : String := programName

/-- The part of the program that writes diagnostics of the translator. -/
def translatorTarget : String := programName ++ "::translator::translate"

/-- The diagnostic of a rejected expression, over its summary. -/
def rejectionNote (e : Expr) : Rejection → String
  | .depthLimitExceeded n =>
    "Rejected expression '" ++ e.summary ++ "': nesting exceeds " ++ Nat.repr n
  | err => "Failed to translate expression '" ++ e.summary ++ "': " ++ err.message

/-- A translated expression written in a format. -/
def OutputFormat.write (m : Mapping) : OutputFormat → String
  | .markup => "<!-- dataType: " ++ m.dataType.name ++ " -->\n" ++ m.target.render
  | .json =>
    Value.pretty 0
      (.object [("data_type", .string m.dataType.name), ("expression", m.target.toJson)]) ++ "\n"

/-- Translate the expression of an input under the settings; `time` stamps diagnostic lines. -/
def execute (time : String) (o : Options) (input : Input) : Outcome :=
  let note (target message : String) := if o.debug then debugLine time target message else ""
  match input.load with
  | .error f => ⟨1, "", f.text⟩
  | .ok e =>
    match translate o.config e with
    | .error err =>
      let failure : Failure :=
        ⟨"Failed to translate expression '" ++ e.display ++ "'", [err.message]⟩
      ⟨1, "", note translatorTarget (rejectionNote e err) ++ failure.text⟩
    | .ok m =>
      ⟨0, o.format.write m,
        note runTarget ("Translated expression with inferred type " ++ m.dataType.name)⟩

/-- What a run sees around it: its standard input, the files it can read, and the time. -/
structure Surroundings where
  /-- The bytes of standard input. -/
  standardInput : ByteArray
  /-- What reading a path gives. -/
  read : String → FileRead
  /-- The time stamped on diagnostic lines. -/
  time : String

/-- The outcome of a command line that stops before a run. -/
def Stop.outcome : Stop → Outcome
  | .help => ⟨0, helpText, ""⟩
  | .version => ⟨0, versionText, ""⟩
  | .refuse e => ⟨2, "", e.message⟩

/-- Run a command line: the input file when one is named, standard input otherwise. -/
def run (s : Surroundings) (args : List String) : Outcome :=
  match Options.ofArgs args with
  | .error stop => stop.outcome
  | .ok o =>
    execute s.time o (match o.input with
      | some path => .file path (s.read path)
      | none => .standard s.standardInput)

end PmmlExport.Cli
