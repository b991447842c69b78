import PmmlExport.Json.Value

/-!
# Writing JSON text

Documents written as JSON text, either on one line without blanks or spread over lines with
two spaces of indentation per level, `": "` after keys, and empty containers kept as `[]` and
`{}`. Strings escape the quote, the backslash and the control characters, the five common ones
by letter and the others as `\u00XX` in lower-case hexadecimal. A double is written in
`floatNotation`; NaN and the infinities have no JSON form and are written as `null`.
-/

namespace PmmlExport.Json

/-- The escaped form of one character inside a JSON string. -/
def escapeChar (c : Char) : String :=
  match c with
  | '"' => "\\\""
  | '\\' => "\\\\"
  | '\n' => "\\n"
  | '\r' => "\\r"
  | '\t' => "\\t"
  | '\x08' => "\\b"
  | '\x0c' => "\\f"
  | c =>
    if c.toNat < 0x20 then
      let hex := Nat.toDigits 16 c.toNat
      "\\u" ++ String.ofList (List.replicate (4 - hex.length) '0' ++ hex)
    else String.singleton c

/-- A string as a JSON string literal. -/
def quote (s : String) : String :=
  "\"" ++ String.join (s.toList.map escapeChar) ++ "\""

/-- The text of a number. -/
def Number.text : Number → String
  | .posInt n => Nat.repr n
  | .negInt n => toString n
  | .float x => if x.isFinite then x.format floatNotation else "null"

namespace Value

mutual

/-- A document on one line. -/
def compact : Value → String
  | null => "null"
  | bool b => if b then "true" else "false"
  | number n => n.text
  | string s => quote s
  | array items => "[" ++ compactItems items ++ "]"
  | object ms => "\x7b" ++ compactMembers ms ++ "\x7d"

/-- Array items on one line, separated by commas. -/
def compactItems : List Value → String
  | [] => ""
  | [j] => compact j
  | j :: k :: rest => compact j ++ "," ++ compactItems (k :: rest)

/-- Object members on one line, separated by commas. -/
def compactMembers : List (String × Value) → String
  | [] => ""
  | [(k, v)] => quote k ++ ":" ++ compact v
  | (k, v) :: m :: rest => quote k ++ ":" ++ compact v ++ "," ++ compactMembers (m :: rest)

end

/-- Two spaces per level of indentation. -/
def indentText (level : Nat) : String := String.ofList (List.replicate (2 * level) ' ')

mutual

/-- A document spread over lines, its inner lines indented one level deeper than `level`. -/
def pretty (level : Nat) : Value → String
  | array [] => "[]"
  | array items => "[\n" ++ prettyItems (level + 1) items ++ "\n" ++ indentText level ++ "]"
  | object [] => "\x7b\x7d"
  | object ms =>
    "\x7b\n" ++ prettyMembers (level + 1) ms ++ "\n" ++ indentText level ++ "\x7d"
  | j => compact j

/-- Array items, one per line at an indentation level. -/
def prettyItems (level : Nat) : List Value → String
  | [] => ""
  | [j] => indentText level ++ pretty level j
  | j :: k :: rest => indentText level ++ pretty level j ++ ",\n" ++ prettyItems level (k :: rest)

/-- Object members, one per line at an indentation level. -/
def prettyMembers (level : Nat) : List (String × Value) → String
  | [] => ""
  | [(k, v)] => indentText level ++ quote k ++ ": " ++ pretty level v
  | (k, v) :: m :: rest =>
    indentText level ++ quote k ++ ": " ++ pretty level v ++ ",\n" ++
      prettyMembers level (m :: rest)

end

end Value

end PmmlExport.Json
