/-!
# Files the program reads

The input file is named by a path. Opening fails when no file lies at the path, or when a path
goes on below a file; reading fails when the path names a directory, which opens like a file.
What reading a path gives is the run's surroundings: the command line takes it as a function of
the path.
-/

namespace PmmlExport.Cli

/-- A refusal of the operating system. -/
inductive SystemError
  /-- No file or directory lies at the path. -/
  | notFound
  /-- A component of the path is a file, not a directory. -/
  | notDirectory
  /-- The path names a directory. -/
  | isDirectory
  /-- Another refusal, with its number and description. -/
  | other (code : Nat) (description : String)
  deriving DecidableEq, Repr

/-- The refusal with a number; `description` serves the numbers not named here. -/
def SystemError.ofCode (code : Nat) (description : String) : SystemError :=
  match code with
  | 2 => .notFound
  | 20 => .notDirectory
  | 21 => .isDirectory
  | _ => .other code description

/-- The message of a refusal, with its number. -/
def SystemError.message : SystemError → String
  | .notFound => "No such file or directory (os error 2)"
  | .notDirectory => "Not a directory (os error 20)"
  | .isDirectory => "Is a directory (os error 21)"
  | .other code description => description ++ " (os error " ++ Nat.repr code ++ ")"

/-- What asking for the contents of a path gives. -/
inductive FileRead
  /-- The whole contents. -/
  | contents (bytes : ByteArray)
  /-- The path cannot be opened. -/
  | cannotOpen (e : SystemError)
  /-- The path opens but cannot be read. -/
  | cannotRead (e : SystemError)

end PmmlExport.Cli
