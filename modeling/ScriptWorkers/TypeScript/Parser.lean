import ScriptWorkers.TypeScript.Dialect
import ScriptWorkers.TypeScript.Ambient
import ScriptWorkers.TypeScript.Tree

/-!
# Parsing a source

Types are read and thrown away on the spot.  In the language without types they are not read at all,
so whoever writes one is told that the source is malformed.

A statement ends at a semicolon, before a closing brace, at the end of the source, or at the end of
a line if the next token cannot go on with it.

* `parseExpr` — expressions, by how tightly their marks bind.
* `parseDeclarators`, `parseInterface`, `parseAlias` — declarations, of which types leave nothing.
* `parseStmt` and `parse` — statements, and whole sources.
-/

namespace ScriptWorkers
namespace TypeScript

open Reader

/-! ## Expressions -/

def valueWords : List String := ["this", "true", "false", "null"]

/-- Words in front of an operand; in a module one can wait for it, too. -/
def frontWords (d : Dialect) : List String :=
  ["typeof", "void", "delete"] ++ (if d.isModule then ["await"] else [])

def frontMarks : List (List Char) := [['+'], ['-'], ['!'], ['~']]

mutual

def parseExpr (d : Dialect) : Nat → Reader Expr
  | 0 => failure
  | n + 1 => do parseMore d (← parseAssign d n) n

/-- Parses the further expressions after commas. -/
def parseMore (d : Dialect) (e : Expr) : Nat → Reader Expr
  | 0 => failure
  | n + 1 => do
    if ← eatMark "," then parseMore d (.comma e (← parseAssign d n)) n
    else return e

/-- Parses an expression without commas. -/
def parseAssign (d : Dialect) : Nat → Reader Expr
  | 0 => failure
  | n + 1 => do
    let e ← parseOperation d 0 n
    if ← eatMark "=" then
      if e.isTarget then return .assign e (← parseAssign d n) else failure
    else return e

/-- Parses operands with marks between that bind at least so tightly. -/
def parseOperation (d : Dialect) (least : Nat) : Nat → Reader Expr
  | 0 => failure
  | n + 1 => do parseOperands d least (← parseUnary d n) n

def parseOperands (d : Dialect) (least : Nat) (e : Expr) : Nat → Reader Expr
  | 0 => failure
  | n + 1 => do
    match ← next? with
    | some ⟨.mark m, _⟩ =>
      match m, Expr.tightness? m with
      | [op], some t =>
        if least ≤ t then
          skip
          let f ← parseOperation d (t + 1) n
          parseOperands d least (.binary op e f) n
        else return e
      | _, _ => return e
    | some ⟨.word w, false⟩ =>
      if d.hasTypes && least ≤ 2 && (w == "as".toList || w == "satisfies".toList) then
        skip
        if !(← eatWord "const") then discard (skipType (discard (parseAssign d n)) true n)
        parseOperands d least e n
      else return e
    | _ => return e

/-- Parses an operand with what stands in front of it. -/
def parseUnary (d : Dialect) : Nat → Reader Expr
  | 0 => failure
  | n + 1 => do
    match ← next? with
    | some ⟨.mark m, _⟩ =>
      if frontMarks.contains m then
        skip
        return .unary m (← parseUnary d n)
      else parseCalls d (← parsePrimary d n) n
    | some ⟨.word w, _⟩ =>
      if (frontWords d).contains (String.ofList w) then
        skip
        return .unary w (← parseUnary d n)
      else parseCalls d (← parsePrimary d n) n
    | _ => parseCalls d (← parsePrimary d n) n

/-- Parses the calls and members after an expression. -/
def parseCalls (d : Dialect) (e : Expr) : Nat → Reader Expr
  | 0 => failure
  | n + 1 => do
    if ← eatMark "(" then parseCalls d (.call e (← parseArgs d n)) n
    else if ← eatMark "." then parseCalls d (.member e (← word)) n
    else if ← eatMark "[" then
      let key ← parseExpr d n
      mark "]"
      parseCalls d (.element e key) n
    else if d.hasTypes && (← atMark "!") && (← sameLine) then
      skip
      parseCalls d e n
    else if d.hasTypes && (← atMark "<") then
      skipArguments (discard (parseAssign d n)) n
      mark "("
      parseCalls d (.call e (← parseArgs d n)) n
    else return e

/-- Parses arguments, up to the closing bracket. -/
def parseArgs (d : Dialect) : Nat → Reader (List Expr)
  | 0 => failure
  | n + 1 => do
    if ← eatMark ")" then return []
    let e ← parseAssign d n
    if ← eatMark "," then return e :: (← parseArgs d n)
    mark ")"
    return [e]

def parsePrimary (d : Dialect) : Nat → Reader Expr
  | 0 => failure
  | n + 1 => do
    match ← take with
    | .number cs => return .number cs
    | .string cs => return .string cs
    | .template cs true true => return .template cs
    | .word cs =>
      if isName cs || valueWords.contains (String.ofList cs) then return .name cs else failure
    | .mark ['('] => do
      let e ← parseExpr d n
      mark ")"
      return e
    | _ => failure

end

/-- Passes over a value inside a type. -/
def skipInner (d : Dialect) (n : Nat) : Reader Unit := discard (parseAssign d n)

/-! ## Declarations -/

/-- Passes over the type of a declared name and the marks in front of it, and tells whether the name
is said to get its value later. -/
def skipDeclaredType (d : Dialect) (n : Nat) : Reader Bool := do
  let later ← if ← sameLine then eatMark "!" else pure false
  if later then check (atMark ":") else discard (eatMark "?")
  skipAnnotation (skipInner d n) n
  return later

/-- Parses the declared names of a declaration; `ambient` ones need no value. -/
def parseDeclarators (d : Dialect) (ambient : Bool) (kind : Binding) :
    Nat → Reader (List Declarator)
  | 0 => failure
  | n + 1 => do
    let x ← newName
    let later ← if d.hasTypes then skipDeclaredType d n else pure false
    let value ← if ← eatMark "=" then
        if later then failure
        pure (some (← parseAssign d n))
      else if kind = .constant && !ambient then failure
      else pure none
    if ← eatMark "," then return ⟨x, value⟩ :: (← parseDeclarators d ambient kind n)
    return [⟨x, value⟩]

/-- Parses a declaration of variables after its word. -/
def parseVariables (d : Dialect) (ambient : Bool) (kind : Binding) (n : Nat) :
    Reader (List Declarator) := do
  let ds ← parseDeclarators d ambient kind n
  statementEnd
  return ds

/-- A name follows the next token in its line. -/
def nameFollows : Reader Bool :=
  would (do
    skip
    check sameLine
    check atName)

/-- Parses an interface after its word. -/
def parseInterface (d : Dialect) (n : Nat) : Reader Stmt := do
  let x ← newName
  skipGenerics (skipInner d n) n
  if ← eatWord "extends" then skipTypeNames (skipInner d n) n
  mark "\x7b"
  skipMembers (skipInner d n) n
  return .erased [(.interface, x)]

/-- Parses a name for a type after its word. -/
def parseAlias (d : Dialect) (n : Nat) : Reader Stmt := do
  let x ← newName
  skipGenerics (skipInner d n) n
  mark "="
  discard (skipType (skipInner d n) true n)
  statementEnd
  return .erased [(.synonym, x)]

/-- Parses the announcement of a function after its word. -/
def parseFunction (d : Dialect) (n : Nat) : Reader Stmt := do
  let x ← newName
  withoutWaiting (skipSignature (skipInner d n) false n)
  statementEnd
  return .erased [(.routine, x)]

/-- Parses the announcement of a class after its word. -/
def parseClass (d : Dialect) (n : Nat) : Reader Stmt := do
  return .erased [(.family, ← takeClass (skipInner d n) n)]

/-- Parses the announcement of a choice of values after its word. -/
def parseEnumeration (d : Dialect) (standing : Standing) (n : Nat) : Reader Stmt := do
  return .erased [(standing, ← takeEnumeration (skipInner d n) n)]

/-! ## Statements -/

/-- Words that an announcement can go on with. -/
def announced : List String :=
  ["const", "let", "var", "function", "class", "abstract", "enum", "namespace", "module", "global"]

/-- Something is announced here to exist elsewhere. -/
def startsAmbient : Reader Bool :=
  would (do
    check (eatWord "declare")
    check sameLine
    check (do
      match ← next? with
      | some ⟨.word w, _⟩ =>
        if announced.contains (String.ofList w) then return true
        else if w == "interface".toList || w == "type".toList then nameFollows
        else return false
      | _ => return false))

/-- The word `let` is a variable here and declares none. -/
def letIsName : Reader Bool :=
  would (do
    check (eatWord "let")
    match ← take with
    | .mark m =>
      if m == ['='] || m == ['.'] || m == ['('] || m == [';'] || (Expr.tightness? m).isSome then
        return
      else failure
    | .word w => if ["in", "instanceof"].contains (String.ofList w) then return else failure
    | _ => failure)

def startsLabel : Reader Bool :=
  would (do
    discard name
    mark ":")

/-- Parses an expression that stands for itself. -/
def parseExpressionStmt (d : Dialect) (n : Nat) : Reader Stmt := do
  let e ← parseExpr d n
  statementEnd
  return .expression e

/-- Parses a statement that may stand alone; declarations inside a block may not. -/
def parseLone (d : Dialect) : Nat → Reader Stmt
  | 0 => failure
  | n + 1 => do
    if ← eatMark ";" then return .empty
    else if ← eatWord "var" then return .declare .hoisted (← parseVariables d false .hoisted n)
    else if ← startsLabel then
      let x ← newName
      skip
      return .labelled x (← parseLone d n)
    else parseExpressionStmt d n

/-- Passes over the name of a space of names: some names with dots between, or a string. -/
def skipSpaceName (n : Nat) : Reader Unit := do
  match ← take with
  | .string _ => return
  | .word cs => do
    if !isName cs then failure
    skipDots n
  | _ => failure

/-- A word follows that announces something without saying so. -/
def startsInnerAmbient : Reader Bool := do
  if ← would (do check (eatWord "const"); check (atWord "enum")) then return true
  match ← next? with
  | some ⟨.word w, _⟩ =>
    let w := String.ofList w
    if ["function", "class", "enum"].contains w then return true
    else if w == "abstract" then would (do skip; check (atWord "class"))
    else if w == "namespace" || w == "module" then nameFollows
    else return false
  | _ => return false

mutual

/-- Parses what is announced to exist elsewhere, after the word for that. -/
def parseAmbient (d : Dialect) : Nat → Reader Stmt
  | 0 => failure
  | n + 1 => do
    let w ← word
    match Binding.ofWord? w with
    | some kind =>
      if ← (if kind = .constant then eatWord "enum" else pure false) then
        parseEnumeration d .constants n
      else
        let ds ← parseVariables d true kind n
        return .erased (ds.map fun x ↦ (.holder kind, x.name))
    | none =>
      match String.ofList w with
      | "interface" => parseInterface d n
      | "type" => parseAlias d n
      | "function" => parseFunction d n
      | "class" => parseClass d n
      | "abstract" => do
        check (eatWord "class")
        parseClass d n
      | "enum" => parseEnumeration d .choices n
      | "global" => parseSpace d n
      | "namespace" | "module" => do
        skipSpaceName n
        if ← atMark "\x7b" then parseSpace d n
        else
          statementEnd
          return .erased []
      | _ => failure

/-- Parses the members of a space of names in their braces.  Nothing of them is left, and their
names are known only inside. -/
def parseSpace (d : Dialect) : Nat → Reader Stmt
  | 0 => failure
  | n + 1 => do
    mark "\x7b"
    let names ← parseInside d n
    modify fun p ↦ { p with repeated := p.repeated + redeclarations [] names }
    return .erased []

/-- Parses the members of a space of names up to the closing brace and returns the names they
declare. -/
def parseInside (d : Dialect) : Nat → Reader (List (Standing × List Char))
  | 0 => failure
  | n + 1 => do
    if ← eatMark "\x7d" then return []
    discard (eatWord "export")
    let s ← if ← startsAmbient then
        skip
        parseAmbient d n
      else if ← startsInnerAmbient then parseAmbient d n
      else if (← atWord "interface") && (← nameFollows) then
        skip
        parseInterface d n
      else if (← atWord "type") && (← nameFollows) then
        skip
        parseAlias d n
      else if ← eatWord "const" then pure (.declare .constant (← parseVariables d true .constant n))
      else if (← atWord "let") && !(← letIsName) then
        skip
        pure (.declare .assignable (← parseVariables d true .assignable n))
      else parseLone d n
    return s.declared ++ (← parseInside d n)

end

def parseStmt (d : Dialect) (n : Nat) : Reader Stmt := do
  let ambient := d.language == .definitions
  if d.hasTypes && (← atWord "interface") && (← nameFollows) then
    skip
    parseInterface d n
  else if d.hasTypes && (← atWord "type") && (← nameFollows) then
    skip
    parseAlias d n
  else if d.hasTypes && (← startsAmbient) then
    skip
    parseAmbient d n
  else if ← eatWord "const" then return .declare .constant (← parseVariables d ambient .constant n)
  else if (← atWord "let") && !(← letIsName) then
    skip
    return .declare .assignable (← parseVariables d ambient .assignable n)
  else parseLone d n

/-- From here on the strict rules apply, if a directive asks for them. -/
def heed (directive : List Char) : Reader Unit :=
  modify fun p ↦ { p with strict := p.strict || directive == "use strict".toList }

/-- Parses statements to the end of the source; a string that stands at the front, outside brackets,
is a directive. -/
def parseStmts (d : Dialect) (bound : Nat) (front : Bool) : Nat → Reader (List Stmt)
  | 0 => failure
  | n + 1 => do
    match ← next? with
    | none => return []
    | some first =>
      match first.token, ← parseStmt d bound with
      | .string _, .expression (.string cs) =>
        if front then
          heed cs
          return .directive cs :: (← parseStmts d bound true n)
        else return .expression (.string cs) :: (← parseStmts d bound false n)
      | _, s => return s :: (← parseStmts d bound false n)

/-- A source that has been parsed. -/
structure Parsed where
  stmts : List Stmt
  /-- The number of parameters whose name is taken. -/
  repeated : Nat

namespace Parsed

/-- The number of names that are in conflict with an earlier one. -/
def conflicts (p : Parsed) : Nat := p.repeated + redeclarations [] (p.stmts.flatMap Stmt.declared)

end Parsed

/-- Parses a source; `none` if it is malformed. -/
def parse (d : Dialect) (source : String) : Option Parsed := do
  let ts ← Token.scan source.toList
  let (ss, p) ← (parseStmts d (16 * ts.length + 64) true (ts.length + 1)).run
    ⟨ts, d.isModule, d.isModule, 0⟩
  return ⟨ss, p.repeated⟩

end TypeScript
end ScriptWorkers
