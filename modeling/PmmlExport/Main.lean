import PmmlExport.Cli.Run
import Std.Time

/-!
# The command line

Reads the arguments, the input file or standard input, and the clock, runs the command line, and
writes its outputs and exit status.
-/

open PmmlExport.Cli

/-- The number and description of a failure of the operating system. -/
def systemErrorOf : IO.Error → SystemError
  | .noFileOrDirectory _ code details => SystemError.ofCode code.toNat details
  | .inappropriateType _ code details => SystemError.ofCode code.toNat details
  | .permissionDenied _ code details => SystemError.ofCode code.toNat details
  | .invalidArgument _ code details => SystemError.ofCode code.toNat details
  | .noSuchThing _ code details => SystemError.ofCode code.toNat details
  | .resourceExhausted _ code details => SystemError.ofCode code.toNat details
  | .alreadyExists _ code details => SystemError.ofCode code.toNat details
  | .otherError code details => SystemError.ofCode code.toNat details
  | .illegalOperation code details => SystemError.ofCode code.toNat details
  | .resourceBusy code details => SystemError.ofCode code.toNat details
  | .hardwareFault code details => SystemError.ofCode code.toNat details
  | e => .other 5 (toString e)

/-- What reading an opened file gives. -/
def readOpened (h : IO.FS.Handle) : IO FileRead := do
  try
    pure (.contents (← h.readBinToEnd))
  catch e =>
    pure (.cannotRead (systemErrorOf e))

/-- What opening and reading a path gives on this machine. -/
def readPath (path : String) : IO FileRead := do
  try
    readOpened (← IO.FS.Handle.mk path .read)
  catch e =>
    pure (.cannotOpen (systemErrorOf e))

/-- The whole of standard input. -/
partial def readAll (stream : IO.FS.Stream) (acc : ByteArray) : IO ByteArray := do
  let chunk ← stream.read 65536
  if chunk.isEmpty then pure acc else readAll stream (acc ++ chunk)

def main (args : List String) : IO UInt32 := do
  let seconds := (← Std.Time.Timestamp.now).toSecondsSinceUnixEpoch.toInt.toNat
  let outcome ← match Options.ofArgs args with
    | .error stop => pure stop.outcome
    | .ok o =>
      match o.input with
      | some path => pure (execute (utcStamp seconds) o (.file path (← readPath path)))
      | none =>
        pure (execute (utcStamp seconds) o (.standard (← readAll (← IO.getStdin) .empty)))
  let out ← IO.getStdout
  out.putStr outcome.stdout
  out.flush
  let err ← IO.getStderr
  err.putStr outcome.stderr
  err.flush
  pure outcome.status.toUInt32
