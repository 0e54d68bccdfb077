import ScriptWorkers.Script.Program
import ScriptWorkers.TypeScript.Parser

/-!
# Scripts from their text

A text in the small language of declarations, operations and calls is a script as well.

`programOf?` and `bodyOf?` turn what `TypeScript.parse` makes of a text into a program and into the
body of a function.
-/

namespace ScriptWorkers
namespace Script

def unitsOfChars (cs : List Char) : Units := cs.flatMap Units.ofChar

/-- A word that stands for a value, or a name. -/
def ofWord (cs : List Char) : Expr :=
  match String.ofList cs with
  | "true" => .bool true
  | "false" => .bool false
  | "null" => .null
  | "this" => .this
  | _ => .name (unitsOfChars cs)

/-- What stands in front of an operand. -/
def ofFront (op : String) (e : Expr) : Expr :=
  match op with
  | "-" => .unary .negate e
  | "+" => .unary .plus e
  | "!" => .unary .not e
  | "~" => .unary .complement e
  | "typeof" => .unary .typeof e
  | "void" => .unary .void e
  | "delete" => .comma e (.bool true)
  | _ => .malformed

/-- The mark between two operands. -/
def ofMark : Char → Binary
  | '-' => .subtract
  | '*' => .multiply
  | '/' => .divide
  | '%' => .remainder
  | _ => .add

/-- The characters of a template as it is written. -/
def cooked : List Char → List Char
  | [] => []
  | '\\' :: 'n' :: rest => '\n' :: cooked rest
  | '\\' :: 't' :: rest => '\t' :: cooked rest
  | '\\' :: 'r' :: rest => '\r' :: cooked rest
  | '\\' :: '\n' :: rest => cooked rest
  | '\\' :: c :: rest => c :: cooked rest
  | c :: rest => c :: cooked rest

def ofNumeral (cs : List Char) : Expr :=
  match Text.Numeral.ofChars? cs with
  | some (.double f) => .number (.compact f)
  | some (.big n) => .bigint n
  | none => .malformed

mutual

/-- The expression of a parsed expression. -/
def ofParsed : TypeScript.Expr → Expr
  | .number cs => ofNumeral cs
  | .string cs => .string (unitsOfChars cs)
  | .template cs => .string (unitsOfChars (cooked cs))
  | .name cs => ofWord cs
  | .unary op e => ofFront (String.ofList op) (ofParsed e)
  | .binary op a b => .binary (ofMark op) (ofParsed a) (ofParsed b)
  | .call f args => .call (ofParsed f) (ofParsedAll args)
  | .member e name => .member (ofParsed e) (unitsOfChars name)
  | .element e key => .index (ofParsed e) (ofParsed key)
  | .assign target e => .assign (ofParsed target) (ofParsed e)
  | .comma a b => .comma (ofParsed a) (ofParsed b)

/-- The expressions of parsed expressions. -/
def ofParsedAll : List TypeScript.Expr → List Expr
  | [] => []
  | e :: rest => ofParsed e :: ofParsedAll rest

end

/-- A declared name of a parsed declaration. -/
def ofParsedDeclarator (d : TypeScript.Declarator) : Declarator :=
  match d.value with
  | some e => .valued (unitsOfChars d.name) (ofParsed e)
  | none => .blank (unitsOfChars d.name)

/-- The statements of a parsed statement.  Only at the front does a string stand for itself; behind
other statements it is just a value. -/
def ofParsedStmt : TypeScript.Stmt → List Stmt
  | .declare kind ds => [.declare kind (ds.map ofParsedDeclarator)]
  | .expression (.string cs) => [.evaluate (.comma .undefined (.string (unitsOfChars cs)))]
  | .expression e => [.evaluate (ofParsed e)]
  | .labelled _ s => ofParsedStmt s
  | .directive cs => [.evaluate (.string (unitsOfChars cs))]
  | .erased .. | .empty => []

/-- The program of parsed statements. -/
def ofParsedStmts (ss : List TypeScript.Stmt) : List Stmt := ss.flatMap ofParsedStmt

/-- The program that a text is, if it makes sense. -/
def programOf? (text : String) : Option (List Stmt) := do
  let p ← TypeScript.parse .plain text
  let program := ofParsedStmts p.stmts
  if compiles false program then some program else none

/-- The text behind the word that returns a value, if it starts with that word. -/
def returned? (text : String) : Option String :=
  let cs := text.toList.dropWhile Char.isWhitespace
  let word := "return".toList
  if word.isPrefixOf cs && !(((cs.drop word.length).head?).any Text.inName) then
    some (String.ofList (cs.drop word.length))
  else none

/-- The body that a text is: statements, or the value that it returns. -/
def bodyOf? (text : String) : Option Body :=
  match returned? text with
  | none => (programOf? text).map .statements
  | some rest =>
    match programOf? rest with
    | some [] => some (.statements [])
    | some [.evaluate e] => some (.expression e)
    | _ => none

/-- A text without the blanks around it. -/
def bare (text : String) : List Char :=
  ((text.toList.dropWhile Char.isWhitespace).reverse.dropWhile Char.isWhitespace).reverse

/-- The names in a list of parameters, if it is nothing else. -/
def parametersOf? (text : String) : Option (List Units) :=
  let parts := (text.splitOn ",").map bare
  if (bare text).isEmpty then some []
  else if parts.all fun cs ↦ Text.isWord cs && TypeScript.isName cs then
    some (parts.map unitsOfChars)
  else none

end Script
end ScriptWorkers
