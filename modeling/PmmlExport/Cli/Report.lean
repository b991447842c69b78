/-!
# Reports of a run

A failed run writes `Error: ` and what it was doing, then, if anything lies beneath, the causes
under `Caused by:`, outermost first. A single cause is indented by four spaces; several are
numbered from zero, each number right-aligned in five columns. A cause that spans lines keeps
its later lines under its first.

Diagnostic lines carry a time, the level, the part of the program that writes them, and the
message.
-/

namespace PmmlExport.Cli

/-- A failure: what was being done, and the causes beneath it, outermost first. -/
structure Failure where
  /-- What was being done. -/
  context : String
  /-- The causes, outermost first. -/
  causes : List String := []
  deriving DecidableEq, Repr

/-- The failure seen from an enclosing task: the task's description becomes the context and the
failure's own context its first cause. -/
def Failure.within (task : String) (f : Failure) : Failure := ⟨task, f.context :: f.causes⟩

/-- Pad a text with spaces on the left to a width. -/
def padLeft (width : Nat) (s : String) : String :=
  String.ofList (List.replicate (width - s.length) ' ') ++ s

/-- One cause under `Caused by:`, numbered when there are several. -/
def causeText (numbered : Bool) (i : Nat) (cause : String) : String :=
  let lead := if numbered then padLeft 5 (Nat.repr i) ++ ": " else "    "
  let under := if numbered then "       " else "    "
  lead ++ cause.replace "\n" ("\n" ++ under)

/-- The text of a failure, ending with a newline. -/
def Failure.text (f : Failure) : String :=
  let numbered := f.causes.length > 1
  let causes := match f.causes with
    | [] => ""
    | cs =>
      "\n\nCaused by:" ++ String.join (cs.zipIdx.map fun (c, i) => "\n" ++ causeText numbered i c)
  "Error: " ++ f.context ++ causes ++ "\n"

/-- The civil date of a day counted from 1970-01-01 in the Gregorian calendar: year, month and
day. Days are grouped into eras of 400 years that begin on the first of March, so that the leap
day ends each year of an era. -/
def civilDate (days : Nat) : Nat × Nat × Nat :=
  let z := days + 719468
  let era := z / 146097
  let dayOfEra := z - era * 146097
  let yearOfEra := (dayOfEra - dayOfEra / 1460 + dayOfEra / 36524 - dayOfEra / 146096) / 365
  let dayOfYear := dayOfEra - (365 * yearOfEra + yearOfEra / 4 - yearOfEra / 100)
  let shifted := (5 * dayOfYear + 2) / 153
  let day := dayOfYear - (153 * shifted + 2) / 5 + 1
  let month := if shifted < 10 then shifted + 3 else shifted - 9
  let year := yearOfEra + era * 400
  (if month ≤ 2 then year + 1 else year, month, day)

/-- A number in at least `width` digits, with leading zeros. -/
def zeroPadded (width n : Nat) : String :=
  let digits := Nat.repr n
  String.ofList (List.replicate (width - digits.length) '0') ++ digits

/-- The time stamp of a diagnostic line: the UTC date and time to the second, of a count of
seconds since 1970-01-01. -/
def utcStamp (seconds : Nat) : String :=
  let (year, month, day) := civilDate (seconds / 86400)
  let s := seconds % 86400
  zeroPadded 4 year ++ "-" ++ zeroPadded 2 month ++ "-" ++ zeroPadded 2 day ++ "T" ++
    zeroPadded 2 (s / 3600) ++ ":" ++ zeroPadded 2 (s / 60 % 60) ++ ":" ++ zeroPadded 2 (s % 60) ++
    "Z"

/-- A diagnostic line at the debug level. Later lines of a message are indented by four spaces,
so that no line of a message reads as a diagnostic line of its own. -/
def debugLine (time target message : String) : String :=
  "[" ++ time ++ " DEBUG " ++ target ++ "] " ++ message.replace "\n" "\n    " ++ "\n"

end PmmlExport.Cli
