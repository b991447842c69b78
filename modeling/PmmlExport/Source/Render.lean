import PmmlExport.Source.Expr

/-!
# Showing expressions

An expression is shown in the pipeline's own infix syntax: `(a + b)`, `if (p) x else y`,
`v IN (a, b)`, `isnull(c)`, `cast(c as int)`, string literals in single quotes. A rendering
with a level budget writes `...` in place of every node below the budget, keeping the
separators of argument lists; the full text has a budget of the largest machine word, and the
summary used in diagnostics a budget of sixteen levels.
-/

namespace PmmlExport.Source

namespace Expr

mutual

/-- The text of an expression, with `...` in place of every node more than `budget` levels down
(the root is one level down). -/
def render (e : Expr) (budget : Nat) : String :=
  match budget, e with
  | 0, _ => "..."
  | k + 1, aliased c n => render c k ++ " AS " ++ n
  | _ + 1, field n _ => n
  | k + 1, binary op l r => "(" ++ render l k ++ " " ++ op.symbol ++ " " ++ render r k ++ ")"
  | k + 1, cond p t f => "if (" ++ render p k ++ ") " ++ render t k ++ " else " ++ render f k
  | k + 1, isIn v cs => render v k ++ " IN (" ++ renderList cs k ++ ")"
  | _ + 1, literal (.string s) _ => "'" ++ s ++ "'"
  | _ + 1, literal v _ => v.display
  | k + 1, negation c => "NOT " ++ render c k
  | k + 1, nullCheck kind c => kind.functionName ++ "(" ++ render c k ++ ")"
  | k + 1, cast c t => "cast(" ++ render c k ++ " as " ++ t.typeName ++ ")"
  | k + 1, minus c => "-" ++ render c k
  | k + 1, call n args _ => n ++ "(" ++ renderList args k ++ ")"
termination_by structural e

/-- The texts of a list of expressions at one budget, separated by commas. -/
def renderList (es : List Expr) (budget : Nat) : String :=
  match es with
  | [] => ""
  | [e] => render e budget
  | e :: f :: rest => render e budget ++ ", " ++ renderList (f :: rest) budget
termination_by structural es

end

/-- The largest machine word, `2 ^ 64 - 1`: the level budget of a full rendering. -/
def usizeMax : Nat := 18446744073709551615

/-- The full text of an expression, written with a budget of `usizeMax` levels. A tree higher
than that, which no machine can hold, is written in full all the same. -/
def display (e : Expr) : String := e.render (max usizeMax e.height)

/-- Levels shown by a summary. -/
def summaryLevels : Nat := 16

/-- The text of an expression cut below sixteen levels, for diagnostics. -/
def summary (e : Expr) : String := e.render summaryLevels

end Expr

end PmmlExport.Source
