import PmmlExport.Cli.Options
import PmmlExport.Text.Similarity

/-!
# Reading the command line

The arguments are read from the left. `--name` and `--name=value` are long options, `-abc` a
cluster of one-letter options, where an option that takes a value takes the rest of the cluster
(after an optional `=`), or else the next argument. After `--` every argument is an operand.
There is one operand, the input file.

An option's value is held until the next parameter or the end takes effect: only then is it
checked, and only then does the option count as given. So a refusal about a held value comes
before one about a later parameter, unless the later argument names nothing. Help and version
end the reading at once; two parameters that exclude each other are refused at the end, after
all arguments were read.
-/

namespace PmmlExport.Cli

open PmmlExport.Number
open PmmlExport.Text

/-- Why reading a command line stops before a run. -/
inductive Stop
  /-- Help was asked for. -/
  | help
  /-- The version was asked for. -/
  | version
  /-- The command line is refused. -/
  | refuse (e : UsageError)
  deriving DecidableEq, Repr

/-- Options set by one value of a parameter. -/
def Options.set (o : Options) (p : Param) (v : String) : Except UsageError Options :=
  match p with
  | .input => if v.isEmpty then .error (.missingValue p) else .ok { o with input := some v }
  | .maxDepth =>
    match readCount wordBound v with
    | .ok n => .ok { o with maxDepth := n }
    | .error f => .error (.invalidCount p v f)
  | .format =>
    match OutputFormat.all.find? (·.name == v) with
    | some f => .ok { o with format := f }
    | none =>
      if v.isEmpty then .error (.missingValue p)
      else .error (.invalidChoice p v (closest v p.choices))
  | _ => .ok o

/-- Options set by a flag. -/
def Options.raise (o : Options) : Param → Options
  | .unbounded => { o with unbounded := true }
  | .debug => { o with debug := true }
  | _ => o

/-- The state of reading a command line. -/
structure Reading where
  /-- The settings read so far. -/
  options : Options := {}
  /-- The parameters that took effect, in order. -/
  given : List Param := []
  /-- A parameter whose value is held, with the value once it is read. -/
  held : Option (Param × Option String) := none
  /-- The option whose value the next argument is. -/
  awaiting : Option Param := none
  /-- Whether `--` was read. -/
  escaped : Bool := false
  /-- Whether the operand was read. -/
  operandSeen : Bool := false
  deriving Repr

namespace Reading

/-- Let the held value take effect. The parameter counts as given once it has its value and was
not given before, even when the value is then refused. -/
def settle (r : Reading) : Reading × Option UsageError :=
  match r.held with
  | none => (r, none)
  | some (p, value) =>
    let r := { r with held := none }
    match value with
    | none => (r, some (.missingValue p))
    | some v =>
      if r.given.contains p then (r, some (.repeated p))
      else
        let r := { r with given := r.given ++ [p] }
        match r.options.set p v with
        | .ok o => ({ r with options := o }, none)
        | .error e => (r, some e)

/-- Let the held value take effect, stopping on its refusal. -/
def settled (r : Reading) : Except Stop Reading :=
  match r.settle with
  | (r, none) => .ok r
  | (_, some e) => .error (.refuse e)

/-- A flag takes effect: help and version stop the reading, others count as given once. -/
def raise (r : Reading) (p : Param) : Except Stop Reading := do
  let r ← r.settled
  match p with
  | .help => throw .help
  | .version => throw .version
  | _ =>
    if r.given.contains p then throw (.refuse (.repeated p))
    pure { r with given := r.given ++ [p], options := r.options.raise p }

/-- An option takes a value written in the same argument. -/
def assign (r : Reading) (p : Param) (v : String) : Except Stop Reading := do
  let r ← r.settled
  { r with held := some (p, some v) }.settled

/-- An option waits for its value in the next argument. -/
def await (r : Reading) (p : Param) : Except Stop Reading := do
  let r ← r.settled
  pure { r with held := some (p, none), awaiting := some p }

/-- A long option, with the value after `=` if any. -/
def long (r : Reading) (name : String) (value : Option String) : Except Stop Reading :=
  match Param.ofLong? name with
  | some p =>
    if p.takesValue then
      match value with
      | some v => r.assign p v
      | none => r.await p
    else
      match value with
      | some v => .error (.refuse (.unexpectedValue p v (UsageLine.after r.given [p])))
      | none => r.raise p
  | none =>
    let r := r.settle.1
    let similar := closest name Param.longNames
    let suggested := (similar.bind Param.ofLong?).toList
    .error (.refuse (.unexpectedArgument ("--" ++ name) (similar.map ("--" ++ ·))
      similar.isNone (UsageLine.after r.given suggested)))

/-- A cluster of one-letter options, without its dash. -/
def cluster (r : Reading) : List Char → Except Stop Reading
  | [] => pure r
  | c :: rest =>
    match Param.ofShort? c with
    | none =>
      .error (.refuse (.unexpectedArgument ("-" ++ String.singleton c) none true .general))
    | some p =>
      if p.takesValue then
        match rest with
        | [] => r.await p
        | '=' :: v => r.assign p (String.ofList v)
        | v => r.assign p (String.ofList v)
      else do
        let r ← r.raise p
        r.cluster rest

/-- Whether an argument is written like an option. -/
def looksLikeOption (a : String) : Bool := a.startsWith "-" && a != "-" && a != "--"

/-- An operand: the input, or a refusal when the input was read already. -/
def operand (r : Reading) (a : String) : Except Stop Reading :=
  if r.operandSeen then
    .error (.refuse (.unexpectedArgument a none (!r.escaped && looksLikeOption a) .general))
  else do
    let r ← r.settled
    pure { r with held := some (.input, some a), operandSeen := true }

/-- Split the text after `--` into the name and the value after the first `=`. -/
def splitLong (body : String) : String × Option String :=
  match body.splitOn "=" with
  | [] => (body, none)
  | [name] => (name, none)
  | name :: rest => (name, some ("=".intercalate rest))

/-- Read one argument. -/
def take (r : Reading) (a : String) : Except Stop Reading :=
  if r.escaped then r.operand a
  else if a == "--" then pure { r with escaped := true }
  else if a.startsWith "--" then
    let (name, value) := splitLong (String.ofList (a.toList.drop 2))
    { r with awaiting := none }.long name value
  else if a.startsWith "-" && a != "-" then
    { r with awaiting := none }.cluster (a.toList.drop 1)
  else
    match r.awaiting with
    | some p => pure { r with held := some (p, some a), awaiting := none }
    | none => r.operand a

end Reading

/-- The first parameter given that excludes or is excluded by another given one, with the
other. -/
def firstConflict (given : List Param) : Option (Param × Param) :=
  given.findSome? fun p =>
    (given.find? fun q => q != p && (p.excludes q || q.excludes p)).map (p, ·)

/-- Read a command line into the settings of a run, or the reason it stops. -/
def Options.ofArgs (args : List String) : Except Stop Options := do
  let r ← args.foldlM Reading.take {}
  let r ← r.settled
  match firstConflict r.given with
  | some (p, q) => throw (.refuse (.conflict p q (UsageLine.of (r.given.filter (· != q)))))
  | none => pure r.options

end PmmlExport.Cli
