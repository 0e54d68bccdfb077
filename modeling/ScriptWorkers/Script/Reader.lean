import ScriptWorkers.Message.Tagged
import ScriptWorkers.Script.Native
import ScriptWorkers.Script.Source

/-!
# Reading structured scripts

A script is written down as JSON: a statement is an array that starts with its name, an expression
is a simple value, an array, or an object with one field, its name.  Most of them are shorthand for
what the language can say anyway, such as a call of a function with a certain name.  What makes no
sense is read as a statement that does nothing or as the undefined value.
-/

namespace ScriptWorkers
namespace Script

/-! ## Shorthand -/

def unitsOf (v : Json) : Units := Units.ofString v.text

namespace Expr

/-- A word or a name in the program, maybe with members behind dots. -/
def named (s : String) : Expr :=
  match s.splitOn "." with
  | [] => .malformed
  | x :: rest =>
    if (TypeScript.isName x.toList || TypeScript.valueWords.contains x) &&
        (x :: rest).all (Text.isWord ·.toList) then
      rest.foldl (fun e m ↦ .member e (Units.ofString m)) (ofWord x.toList)
    else .malformed

def dot (e : Expr) (name : String) : Expr := .member e (Units.ofString name)

/-- A field of the global object. -/
def global (name : Units) : Expr := .member (named "globalThis") name

/-- The call of a function by its name. -/
def callOf (f : String) (args : List Expr) : Expr := .call (named f) args

/-- A new object of a class by its name. -/
def newOf (c : String) (args : List Expr) : Expr := .construct (named c) args

def withMethod (name : String) (body : Body) : Expr :=
  .object [.value (.text (Units.ofString name)) (.function .method body)]

def numeral (s : String) : Expr :=
  match Constant.ofText? s with
  | some (.number x) => .number x
  | some (.big n) => .bigint n
  | none => .malformed

/-- The text that a script shows for a value. -/
def shown (e : Expr) : Expr :=
  callOf "console.log"
    [.binary .add (.string (Units.ofString "#emit ")) (callOf "JSON.stringify" [e])]

end Expr

open Script.Expr (named global callOf newOf withMethod numeral shown)

def nameOf : Json → PropertyName
  | .str s => .text (Units.ofString s)
  | .obj [("sym", d)] => .symbol (unitsOf d)
  | _ => .symbol []

/-! ## Expressions -/

/-- The expression that a field with one value stands for; `e` is what the value of the field stands
for on its own. -/
def simpleExpr (tag : String) (x : Json) (e : Expr) : Expr :=
  let field := global (unitsOf x)
  match tag with
  | "num" => numeral x.text
  | "bigint" => numeral (x.text ++ "n")
  | "sym" => callOf "Symbol" [.string (unitsOf x)]
  | "hole" => .hole
  | "cycle" => .cycle (match x.text with
    | "arr" => .array
    | "deep" => .deep
    | _ => .object)
  | "shared" => .shared e
  | "lambda" => .function .arrow (.expression e)
  | "date" => newOf "Date" [e]
  | "map" => newOf "Map" [.array [.array [.string (Units.ofString "k"), e]]]
  | "set" => newOf "Set" [.array [e]]
  | "regexp" => .regexp
  | "promise" => callOf "Promise.resolve" [e]
  | "boxed" => callOf "Object" [e]
  | "typed" => newOf "Uint8Array" [e]
  | "tostr" => withMethod "toString" (.expression e)
  | "valueof" => withMethod "valueOf" (.expression e)
  | "tostrthrow" => withMethod "toString" (.throws (unitsOf x))
  | "var" => field
  | "data" => named "event.data"
  | "event" => named "event"
  | "nargs" => .argumentCount
  | "this" => .unary .typeof .this
  | "i" => named "i"
  | "ename" => named "e.name"
  | "emsg" => named "e.message"
  | "onmessage" => named "onmessage"
  | "wonmessage" => field.dot "onmessage"
  | "threadId" => .binary .subtract (field.dot "threadId") .earlierWorkers
  | "rawId" => field.dot "threadId"
  | "global" => .unary .typeof (named x.text)
  | "selfSame" => .binary .same (named "self") (named "globalThis")
  | "typeof" => .unary .typeof e
  | "len" => e.dot "length"
  | "keys" => callOf "Object.keys" [e]
  | "ctor" => (e.dot "constructor").dot "name"
  | "fnlen" => (named x.text).dot "length"
  | _ => .undefined

/-- The expression that a field with a list of properties stands for. -/
def objectExpr (tag : String) (ps : List Property) : Expr :=
  match tag with
  | "inst" => .ofClass ps
  | "proto" => .heir ps
  | _ => .object ps

/-- The expression that a field with a list of expressions stands for. -/
def listExpr (tag : String) (xs : List Json) (es : List Expr) : Expr :=
  let name := unitsOf (xs.headD .null)
  let first := (es[0]?).getD .undefined
  let second := (es[1]?).getD .undefined
  match tag with
  | "arr" => .array es
  | "u16" => .string (xs.map fun x ↦ (x.nat?.getD 0).toUInt16)
  | "getter" => .object [.getter name (.expression second)]
  | "throwgetter" => .object [.getter name (.throws (unitsOf ((xs[1]?).getD .null)))]
  | "nonenum" => .hidden name second
  | "same" => .binary .same first second
  | "add" => .binary .add first second
  | "idx" => .index first second
  | "big" => .repeated name (((xs[1]?).bind (·.nat?)).getD 0)
  | "call" => .call first []
  | other => simpleExpr other (.arr xs) (.array es)

/-! ## Statements -/

/-- A statement that calls a function by its name. -/
def callStmt (f : String) (args : List Expr) : Stmt := .evaluate (callOf f args)

/-- A statement that calls a method of what a field of the global object holds. -/
def methodStmt (name : Units) (method : String) (args : List Expr) : Stmt :=
  .evaluate (.call ((global name).dot method) args)

/-- A statement that assigns to a field of the global object. -/
def assignStmt (name : Units) (e : Expr) : Stmt := .evaluate (.assign (global name) e)

/-- A statement that does nothing. -/
def idleStmt : Stmt := .evaluate .undefined

def bareStmt (tag : String) : Stmt :=
  match tag with
  | "syntax_error" => .malformed
  | "ts_only" => .typed
  | _ => idleStmt

/-- A statement with a list of statements. -/
def jobStmt (tag : String) (body : List Stmt) : Stmt :=
  let f := Expr.function .arrow (.statements body)
  match tag with
  | "microtask" => callStmt "queueMicrotask" [f]
  | _ => .evaluate (.call ((callOf "Promise.resolve" []).dot "then") [f])

def exprStmt (tag : String) (x : Json) (e : Expr) : Stmt :=
  match tag with
  | "onmessage" => .evaluate (.assign (named "onmessage") e)
  | "emit" => .evaluate (shown e)
  | "throw" => .raise e
  | "throwError" => .raise (newOf "Error" [.string (unitsOf x)])
  | "expr" => .evaluate e
  | "console" => callStmt ("console." ++ x.text) []
  | other => bareStmt other

/-- A statement with a list of expressions. -/
def listStmt (tag : String) (xs : List Json) (es : List Expr) : Stmt :=
  match tag with
  | "post" => callStmt "postMessage" es
  | "listen" => callStmt "addEventListener" es
  | "clearInterval" => callStmt "clearInterval" es
  | other => exprStmt other (.arr xs) (.array es)

def namedExprStmt (tag : String) (name : String) (x : Json) (e : Expr) : Stmt :=
  let field := Units.ofString name
  match tag with
  | "let" => assignStmt field e
  | "wonmessage" => .evaluate (.assign ((global field).dot "onmessage") e)
  | "throwError" => .raise (newOf x.text [.string field])
  | _ => idleStmt

def namedListStmt (tag : String) (name : String) (xs : List Json) (es : List Expr) : Stmt :=
  let field := Units.ofString name
  match tag with
  | "new" => assignStmt field (newOf "Worker" es)
  | "wpost" => methodStmt field "postMessage" es
  | "wlisten" => methodStmt field "addEventListener" es
  | "wterminate" => methodStmt field "terminate" es
  | "setInterval" => assignStmt field (callOf "setInterval" es)
  | "native" => callStmt name es
  | "console" => callStmt ("console." ++ name) es
  | other => namedExprStmt other name (.arr xs) (.array es)

mutual

/-- The expression that a value stands for. -/
def readExpr : Json → Expr
  | .null => .null
  | .bool b => .bool b
  | .int n => .number (.ofInt n)
  | .float f => .number (.compact f)
  | .str s => .string (Units.ofString s)
  | .arr items => .array (readExprs items)
  | .obj [("arrprops", .arr [.arr items, .arr ps])] =>
    .arrayWith (readExprs items) (readProperties ps)
  | .obj [("call", .arr [f, .arr args])] => .call (readExpr f) (readExprs args)
  | .obj [("nest", .obj fields)] => readNest fields
  | .obj [(tag, .arr xs)] =>
    if tag = "fn" then .function .plain (.statements (readStmts xs))
    else if tag = "obj" ∨ tag = "inst" ∨ tag = "proto" then objectExpr tag (readProperties xs)
    else listExpr tag xs (readExprs xs)
  | .obj [(tag, x)] => simpleExpr tag x (readExpr x)
  | _ => .undefined

/-- A value wrapped a number of times. -/
def readNest : List (String × Json) → Expr
  | [] => .nest 0 false .null
  | (name, x) :: rest =>
    let (n, inObject, leaf) := match readNest rest with
      | .nest n inObject leaf => (n, inObject, leaf)
      | _ => (0, false, .null)
    match name with
    | "n" => .nest (x.nat?.getD 0) inObject leaf
    | "kind" => .nest n (x.text == "obj") leaf
    | "leaf" => .nest n inObject (readExpr x)
    | _ => .nest n inObject leaf

def readExprs : List Json → List Expr
  | [] => []
  | v :: rest => readExpr v :: readExprs rest

/-- The properties of a list of pairs. -/
def readProperties : List Json → List Property
  | .arr [k, e] :: rest => .value (nameOf k) (readExpr e) :: readProperties rest
  | _ :: rest => readProperties rest
  | [] => []

/-- The statement that a value stands for. -/
def readStmt : Json → Stmt
  | .arr [.str tag] => bareStmt tag
  | .arr [.str tag, .arr xs] =>
    if tag = "microtask" ∨ tag = "then" then jobStmt tag (readStmts xs)
    else if tag = "try" then .attempt (readStmts xs) []
    else listStmt tag xs (readExprs xs)
  | .arr [.str tag, e] => exprStmt tag e (readExpr e)
  | .arr [.str "try", .arr a, .arr b] => .attempt (readStmts a) (readStmts b)
  | .arr [.str "if", c, .arr a] => .ite (readExpr c) (readStmts a) []
  | .arr [.str "if", c, .arr a, .arr b] => .ite (readExpr c) (readStmts a) (readStmts b)
  | .arr [.str "repeat", n, .arr a] => .loop (n.float?.getD 0.0) (readStmts a)
  | .arr [.str tag, .str name, .arr xs] => namedListStmt tag name xs (readExprs xs)
  | .arr [.str tag, .str name, e] => namedExprStmt tag name e (readExpr e)
  | _ => idleStmt

def readStmts : List Json → List Stmt
  | [] => []
  | v :: rest => readStmt v :: readStmts rest

end

end Script
end ScriptWorkers
