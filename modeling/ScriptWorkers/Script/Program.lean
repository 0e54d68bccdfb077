import ScriptWorkers.Script.Number
import ScriptWorkers.TypeScript.Tree

/-!
# Programs

Scripts come as trees of statements and expressions.  The language has functions with one parameter,
exceptions, and enough kinds of values to see what becomes of them in a message.

A program is checked as a whole before it runs: `blocks` lists all its lists of statements, so that
every check is one on such a list.

* `Expr` and `Stmt` — the trees.
* `compiles` — whether a program makes sense under the rules that apply to it.
-/

namespace ScriptWorkers
namespace Script

open TypeScript (Binding)

/-- A property name in an object expression. -/
inductive PropertyName where
  | text (s : Units)
  /-- A new symbol. -/
  | symbol (description : Units)

/-- Shapes of values that contain themselves. -/
inductive Cycle where
  | object
  | array
  /-- A few levels down. -/
  | deep

/-- How a function is written. -/
inductive Style where
  /-- With a parameter `event`, and with a `this` and arguments of its own. -/
  | plain
  /-- All of these are those of the function around it. -/
  | arrow
  /-- As part of an object, without parameters. -/
  | method
  /-- Put together from texts, with some parameters; apart from that like a plain one. -/
  | assembled (parameters : List Units)
deriving Repr, DecidableEq

/-- Operations on one value. -/
inductive Unary where
  | negate
  | plus
  | not
  /-- All 32 bits are turned over. -/
  | complement
  | typeof
  | void
deriving Repr, DecidableEq

/-- Operations on two values. -/
inductive Binary where
  | add
  | subtract
  | multiply
  | divide
  | remainder
  /-- Whether they are the same value. -/
  | same
deriving Repr, DecidableEq

mutual

/-- An expression. -/
inductive Expr where
  | undefined
  | null
  | bool (b : Bool)
  | number (x : Number)
  | bigint (n : Int)
  | string (s : Units)
  /-- Something that makes no sense. -/
  | malformed
  /-- What a name stands for where it is used. -/
  | name (s : Units)
  | this
  /-- The number of arguments of the function around it. -/
  | argumentCount
  /-- How many workers the process has made before those of this world. -/
  | earlierWorkers
  /-- An array; a missing item is a hole. -/
  | array (items : List Expr)
  | hole
  | object (properties : List Property)
  /-- An instance of a nameless class with a method of its own. -/
  | ofClass (properties : List Property)
  /-- An empty object that inherits the properties. -/
  | heir (properties : List Property)
  /-- An array that further properties are assigned to. -/
  | arrayWith (items : List Expr) (properties : List Property)
  /-- An object with a property that does not show up in enumerations. -/
  | hidden (name : Units) (e : Expr)
  | cycle (c : Cycle)
  /-- An array that holds one value in several places. -/
  | shared (e : Expr)
  | nest (times : Nat) (inObject : Bool) (leaf : Expr)
  | repeated (s : Units) (times : Nat)
  | regexp
  | function (style : Style) (body : Body)
  | member (object : Expr) (name : Units)
  | index (object key : Expr)
  | unary (op : Unary) (e : Expr)
  | binary (op : Binary) (a b : Expr)
  | call (f : Expr) (args : List Expr)
  /-- Makes a new object. -/
  | construct (f : Expr) (args : List Expr)
  | assign (target e : Expr)
  /-- One after the other. -/
  | comma (a b : Expr)

/-- A property of an object expression. -/
inductive Property where
  | value (name : PropertyName) (e : Expr)
  | getter (name : Units) (body : Body)

/-- What a function does. -/
inductive Body where
  | statements (ss : List Stmt)
  | expression (e : Expr)
  | throws (message : Units)

/-- A declared name and what it starts with. -/
inductive Declarator where
  | blank (name : Units)
  | valued (name : Units) (e : Expr)

/-- A statement. -/
inductive Stmt where
  | evaluate (e : Expr)
  | declare (kind : Binding) (names : List Declarator)
  | raise (e : Expr)
  | attempt (body handler : List Stmt)
  | ite (condition : Expr) (yes no : List Stmt)
  /-- Counts from zero as long as the count is below a number. -/
  | loop (bound : Float) (body : List Stmt)
  /-- A declaration with a type, always of the same name. -/
  | typed
  | malformed

end

/-! ## Lists of statements inside a program -/

mutual

/-- The lists of statements inside an expression. -/
def Expr.blocks : Expr → List (List Stmt)
  | .malformed => [[.malformed]]
  | .array items => exprBlocks items
  | .object ps | .ofClass ps | .heir ps => propertyBlocks ps
  | .arrayWith items ps => exprBlocks items ++ propertyBlocks ps
  | .hidden _ e | .shared e | .nest _ _ e | .member e _ | .unary _ e => e.blocks
  | .function _ body => body.blocks
  | .index a b | .binary _ a b | .assign a b | .comma a b => a.blocks ++ b.blocks
  | .call f args | .construct f args => f.blocks ++ exprBlocks args
  | _ => []

/-- The lists of statements inside expressions. -/
def exprBlocks : List Expr → List (List Stmt)
  | [] => []
  | e :: rest => e.blocks ++ exprBlocks rest

/-- The lists of statements inside properties. -/
def propertyBlocks : List Property → List (List Stmt)
  | [] => []
  | .value _ e :: rest => e.blocks ++ propertyBlocks rest
  | .getter _ body :: rest => body.blocks ++ propertyBlocks rest

/-- The lists of statements inside a function. -/
def Body.blocks : Body → List (List Stmt)
  | .statements ss => ss :: stmtBlocks ss
  | .expression e => e.blocks
  | .throws _ => []

/-- The lists of statements inside declared names. -/
def declaratorBlocks : List Declarator → List (List Stmt)
  | [] => []
  | .blank _ :: rest => declaratorBlocks rest
  | .valued _ e :: rest => e.blocks ++ declaratorBlocks rest

/-- The lists of statements inside a statement. -/
def Stmt.blocks : Stmt → List (List Stmt)
  | .evaluate e | .raise e => e.blocks
  | .declare _ names => declaratorBlocks names
  | .attempt a b => a :: b :: (stmtBlocks a ++ stmtBlocks b)
  | .ite c a b => c.blocks ++ a :: b :: (stmtBlocks a ++ stmtBlocks b)
  | .loop _ a => a :: stmtBlocks a
  | .typed | .malformed => []

/-- The lists of statements inside statements. -/
def stmtBlocks : List Stmt → List (List Stmt)
  | [] => []
  | s :: rest => s.blocks ++ stmtBlocks rest

end

/-- All lists of statements of a program, itself included. -/
def blocks (program : List Stmt) : List (List Stmt) := program :: stmtBlocks program

/-! ## Checks -/

namespace Stmt

/-- The statement makes no sense. -/
def isMalformed : Stmt → Bool
  | malformed => true
  | _ => false

def isTyped : Stmt → Bool
  | typed => true
  | _ => false

/-- The text of a statement that is nothing but a string. -/
def directive? : Stmt → Option Units
  | evaluate (.string s) => some s
  | _ => none

end Stmt

/-- The strings at the front of a list of statements ask for the strict rules. -/
def asksForStrict : List Stmt → Bool
  | [] => false
  | s :: rest =>
    match s.directive? with
    | some d => d == Units.ofString "use strict" || asksForStrict rest
    | none => false

/-- The declarations with a type in a list of statements. -/
def typedCount (ss : List Stmt) : Nat := (ss.filter Stmt.isTyped).length

/-- The declarations of a program that repeat one of the same block. -/
def repeatedTyped (program : List Stmt) : Nat :=
  (blocks program).foldl (fun n ss ↦ n + (typedCount ss - 1)) 0

/-- The name that declarations with a type declare; no other name is like it. -/
def typedName : Units := [0]

def declaratorName : Declarator → Units
  | .blank x => x
  | .valued x _ => x

/-- The names that statements declare, and how. -/
def declared (ss : List Stmt) : List (Binding × Units) :=
  ss.flatMap fun s ↦
    match s with
    | .declare kind names => names.map fun d ↦ (kind, declaratorName d)
    | .typed => [(.assignable, typedName)]
    | _ => []

/-- The names that statements declare inside their block, with whether they stay as they are. -/
def blockNames (ss : List Stmt) : List (Units × Bool) :=
  (declared ss).filterMap fun (kind, x) ↦
    match kind with
    | .assignable => some (x, false)
    | .constant => some (x, true)
    | .hoisted => none

/-- The names that statements declare for the function around them. -/
def hoistedNames (ss : List Stmt) : List Units :=
  (declared ss).filterMap fun (kind, x) ↦ if kind = .hoisted then some x else none

/-- Some name of a list stands in it twice. -/
def repeats : List Units → Bool
  | [] => false
  | x :: rest => rest.contains x || repeats rest

/-- Words that are no names under the strict rules. -/
def strictWords : List Units :=
  ["implements", "interface", "let", "package", "private", "protected", "public", "static", "yield",
    "eval", "arguments"].map Units.ofString

/-- The declarations of a list of statements go together.  A name that is declared inside a block is
declared only once, and it is not `let`. -/
def goTogether (ss : List Stmt) : Bool :=
  let own := (blockNames ss).map (·.1)
  let hoisted := hoistedNames ss
  !repeats own && !hoisted.any own.contains && !own.contains (Units.ofString "let")
    && !(asksForStrict ss && (own ++ hoisted).any strictWords.contains)

/-- The program can be compiled; declarations with a type only if types are understood. -/
def compiles (types : Bool) (program : List Stmt) : Bool :=
  (blocks program).all fun ss ↦
    !ss.any (fun s ↦ s.isMalformed || (s.isTyped && !types)) && goTogether ss

end Script
end ScriptWorkers
