import PmmlExport.Markup.Node

/-!
# Markup text

A markup expression is written one element per line, indented by two spaces per level. Field
references and applications without arguments are self-closing; a missing constant is a
self-closing element with `missing="true"`, any other constant holds its value's markup text.
Attribute values and element text escape the five characters `& < > " '`.
-/

namespace PmmlExport.Markup

/-- The escaped form of one character. -/
def escapeChar : Char → List Char
  | '&' => "&amp;".toList
  | '<' => "&lt;".toList
  | '>' => "&gt;".toList
  | '"' => "&quot;".toList
  | '\'' => "&apos;".toList
  | c => [c]

/-- Text with the five markup characters replaced by their entities. -/
def escape (s : String) : String := String.ofList (s.toList.flatMap escapeChar)

/-- Two spaces per level. -/
def indent (level : Nat) : String := String.ofList (List.replicate (2 * level) ' ')

namespace Node

mutual

/-- The lines of a node written at an indentation level. -/
def renderAt : Node → Nat → String
  | fieldRef f, d => indent d ++ "<FieldRef field=\"" ++ escape f ++ "\"/>\n"
  | apply f [], d => indent d ++ "<Apply function=\"" ++ escape f ++ "\"/>\n"
  | apply f (a :: as), d =>
    indent d ++ "<Apply function=\"" ++ escape f ++ "\">\n" ++ renderListAt (a :: as) (d + 1) ++
      indent d ++ "</Apply>\n"
  | constant v t, d =>
    match v.markupText with
    | some text => indent d ++ "<Constant dataType=\"" ++ t.name ++ "\">" ++ escape text ++
        "</Constant>\n"
    | none => indent d ++ "<Constant dataType=\"" ++ t.name ++ "\" missing=\"true\"/>\n"

/-- The lines of each node of a list, at one indentation level. -/
def renderListAt : List Node → Nat → String
  | [], _ => ""
  | n :: ns, d => renderAt n d ++ renderListAt ns d

end

/-- The markup text of an expression. -/
def render (n : Node) : String := n.renderAt 0

/-- The expression as its display writes it: the same lines, from level zero. -/
def display (n : Node) : String := n.renderAt 0

end Node

end PmmlExport.Markup
