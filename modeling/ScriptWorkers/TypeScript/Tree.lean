/-!
# Trees of a source without its types

What is left of a source once the types are gone: declarations of variables and expressions.

`redeclarations` counts the declarations that are in conflict with earlier ones; each is worth a
warning.
-/

namespace ScriptWorkers
namespace TypeScript

/-- An expression. -/
inductive Expr where
  /-- A number as it is written. -/
  | number (cs : List Char)
  | string (cs : List Char)
  /-- A template without holes, as it is written. -/
  | template (cs : List Char)
  | name (cs : List Char)
  /-- A mark or a word in front of an operand. -/
  | unary (op : List Char) (e : Expr)
  | binary (op : Char) (a b : Expr)
  | call (f : Expr) (args : List Expr)
  | member (e : Expr) (name : List Char)
  | element (e key : Expr)
  | assign (target e : Expr)
  /-- One after the other. -/
  | comma (a b : Expr)

namespace Expr

/-- How tightly a mark between two operands binds, if it is one. -/
def tightness? (op : List Char) : Option Nat :=
  match op with
  | ['+'] | ['-'] => some 3
  | ['*'] | ['/'] | ['%'] => some 4
  | _ => none

/-- How tightly an expression holds together. -/
def tightness : Expr → Nat
  | comma .. => 0
  | assign .. => 1
  | binary op .. => (tightness? [op]).getD 3
  | unary .. => 5
  | _ => 6

/-- Something can be assigned to it. -/
def isTarget : Expr → Bool
  | name cs => !(["this", "true", "false", "null"].contains (String.ofList cs))
  | member .. | element .. => true
  | _ => false

end Expr

/-- How a variable is declared. -/
inductive Binding where
  /-- Inside its block, to be assigned again. -/
  | assignable
  /-- Inside its block, once and for all. -/
  | constant
  /-- In the function around it, as often as one likes. -/
  | hoisted
deriving Repr, DecidableEq

namespace Binding

def word : Binding → String
  | assignable => "let"
  | constant => "const"
  | hoisted => "var"

def ofWord? (cs : List Char) : Option Binding :=
  if cs = "let".toList then some assignable
  else if cs = "const".toList then some constant
  else if cs = "var".toList then some hoisted
  else none

end Binding

/-- What a declaration makes of a name. -/
inductive Standing where
  | holder (kind : Binding)
  | routine
  /-- A class. -/
  | family
  /-- Named values that there is a choice of. -/
  | choices
  /-- Such values, of which only the numbers are left. -/
  | constants
  | synonym
  | interface
deriving Repr, DecidableEq

namespace Standing

def isValue : Standing → Bool
  | holder _ | routine | family | choices | constants => true
  | _ => false

def isType : Standing → Bool
  | family | choices | constants | synonym | interface => true
  | _ => false

/-- A declaration can go together with an earlier one of the same name, although both stand for
values or both for types. -/
def joins : Standing → Standing → Bool
  | holder .hoisted, holder .hoisted | holder .hoisted, routine => true
  | routine, holder .hoisted | routine, routine | routine, family => true
  | family, routine | family, interface => true
  | choices, choices | constants, constants => true
  | interface, interface | interface, family => true
  | _, _ => false

/-- A declaration is in conflict with an earlier one of the same name.  A class or a choice of
values makes room for nothing else; apart from that, types and values do not meet. -/
def conflictsWith (new old : Standing) : Bool :=
  !new.joins old &&
    ((new.isValue && old.isValue) || (new.isType && old.isType) || (new.isValue && new.isType))

end Standing

/-- A declared name and the expression it starts with. -/
structure Declarator where
  name : List Char
  value : Option Expr

/-- A statement. -/
inductive Stmt where
  | declare (kind : Binding) (names : List Declarator)
  /-- A declaration of which nothing is left, and the names it declares. -/
  | erased (names : List (Standing × List Char))
  | expression (e : Expr)
  /-- A statement with a label in front. -/
  | labelled (label : List Char) (s : Stmt)
  /-- A string that stands at the front for its own sake. -/
  | directive (cs : List Char)
  | empty

namespace Stmt

/-- The names a statement declares. -/
def declared : Stmt → List (Standing × List Char)
  | declare kind ds => ds.map fun d ↦ (.holder kind, d.name)
  | erased names => names
  | labelled _ s => s.declared
  | _ => []

/-- Something of the statement is left. -/
def isKept : Stmt → Bool
  | erased _ => false
  | _ => true

end Stmt

/-- The number of declarations that are in conflict with an earlier one. -/
def redeclarations (seen : List (Standing × List Char)) : List (Standing × List Char) → Nat
  | [] => 0
  | d :: rest =>
    let again := seen.any fun e ↦ e.2 == d.2 && d.1.conflictsWith e.1
    (if again then 1 else 0) + redeclarations (d :: seen) rest

end TypeScript
end ScriptWorkers
