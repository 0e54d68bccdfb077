import ScriptWorkers.Script.Library

/-!
# Evaluation

Expressions and statements are evaluated by recursion on their structure.  Only the call of a
function leaves the structure, because the function comes from the heap; how a function is called is
therefore a parameter, and `callFunction` ties the knot with a bound on the depth of calls.

* `evalExpr` and `execute`, with their companions for lists — one case for each kind of expression
  and statement.
* `runText` — a text that is run as a program of its own.
* `callFunction` — functions of scripts, of the context, and those tied to arguments.
-/

namespace ScriptWorkers
namespace Script

open Eval

/-! ## Making values -/

/-- An object with the given fields, the last of a key winning. -/
def objectOf (fields : List (Key × Field)) : Obj :=
  fields.foldl (fun o f ↦ o.put f.1 f.2) (.ofClass .object .plain)

/-- Gives the value of an expression a name; only what is written as a function keeps it. -/
def giveName (name : Units) (e : Expr) (v : Value) : Eval Unit :=
  match e, v with
  | .function .., .object r =>
    change r (·.putNamed (.ofString "name") (.data (.string name) .fixed))
  | _, _ => return ()

/-- A value that contains itself. -/
def makeCycle : Cycle → Eval Value
  | .object => do
    let r ← make (.ofClass .object .plain)
    change r (·.withData (.ofString "self") (.object r))
    return .object r
  | .array => do
    let r ← make (.ofItems [some (.ofNat 1)])
    change r (·.withData (.index 1) (.object r))
    return .object r
  | .deep => do
    let r ← make (.ofClass .object .plain)
    let inner ← makeArray [.object r]
    let middle ← makeValue (objectOf [(.ofString "c", .plain inner)])
    change r (·.withData (.ofString "b") middle)
    return .object r

/-- A value wrapped a number of times. -/
def makeNest (inObject : Bool) (v : Value) : Nat → Eval Value
  | 0 => return v
  | n + 1 => do
    let w ← if inObject then makeValue (objectOf [(.ofString "k", .plain v)]) else makeArray [v]
    makeNest inObject w n

/-- An object that objects of a nameless class inherit from. -/
def makeClass (env : Env) : Eval Ref := do
  let proto ← make (.ofClass .object .plain)
  let class_ ← make
    (.ofFunction (.closure .plain (.statements []) { env with strict := true }) 0 [])
  let method ← makeFunction .method { env with strict := true } (.statements [])
    (Units.ofString "method")
  change proto fun o ↦
    { o with fields := [(.ofString "constructor", .data (.object class_) .hidden),
        (.ofString "method", .data (.object method) .hidden)] }
  return proto

/-! ## Operations -/

/-- What an operation makes of a value. -/
def applyUnary (call : Caller) (op : Unary) (v : Value) : Eval Value := do
  match op with
  | .negate => negated call v
  | .plus => return .ofFloat (← toNumber call v)
  | .not => return .bool (!truthy v)
  | .complement =>
    match ← toPrimitive call .number v with
    | .bigint n => return .bigint (-n - 1)
    | p =>
      return .number (.ofInt
        (Int.bmod (-((wordOf (← floatOfSimple p)).toNat : Int) - 1) UInt32.size))
  | .typeof => return .ofString (typeName (← heap) v)
  | .void => return .undefined

/-- What an operation makes of two values. -/
def applyBinary (call : Caller) (op : Binary) (a b : Value) : Eval Value :=
  match op with
  | .add => sum call a b
  | .subtract => arithmetic call Number.sub (· - ·) a b
  | .multiply => arithmetic call Number.mul (· * ·) a b
  | .divide => arithmetic call Number.div Int.tdiv a b
  | .remainder => arithmetic call Number.rem Int.tmod a b
  | .same => return .bool (a.identical b)

/-- A member of a value by another value. -/
def getIndexed (call : Caller) (v k : Value) : Eval Value := do
  if v.isNothing then notAnObject else getMember call v (← toKey call k)

/-- The number of arguments of the function around the code; elsewhere, of whatever goes by the name
of arguments. -/
def countArguments (call : Caller) (env : Env) : Eval Value := do
  match env.argumentCount with
  | some n => return .ofNat n
  | none => getMember call (← getName call env (Units.ofString "arguments")) Obj.lengthKey

/-! ## Evaluation -/

mutual

def evalExpr (call : Caller) (env : Env) : Expr → Eval Value
  | .undefined | .hole | .malformed => return .undefined
  | .null => return .null
  | .bool b => return .bool b
  | .number x => return .number x
  | .bigint n => return .bigint n
  | .string s => return .string s
  | .name s => getName call env s
  | .this => return env.this
  | .argumentCount => countArguments call env
  | .earlierWorkers => return .ofNat (← get).earlier
  | .array items => do
    let vs ← evalItems call env items
    makeValue (.ofItems vs)
  | .object ps => do
    let fs ← evalProperties call env ps
    makeValue (objectOf fs)
  | .ofClass ps => do
    let proto ← makeClass env
    let r ← make { parent := some proto }
    assignProperties call { env with this := .object r, argumentCount := some 0, strict := true }
      r ps
    return .object r
  | .heir ps => do
    let fs ← evalProperties call env ps
    let parent ← make (objectOf fs)
    makeValue { parent := some parent }
  | .arrayWith items ps => do
    let vs ← evalItems call env items
    let r ← make (.ofItems vs)
    let fs ← evalProperties call env ps
    assignFrom call r (← makeValue (objectOf fs))
    return .object r
  | .hidden name e => do
    let v ← evalExpr call env e
    makeValue (objectOf [(.ofUnits name, .data v .frozen)])
  | .cycle c => makeCycle c
  | .shared e => do
    let v ← evalExpr call env e
    let again ← makeValue (objectOf [(.ofString "again", .plain v)])
    makeArray [v, again, v]
  | .nest n inObject leaf => do
    let v ← evalExpr call env leaf
    makeNest inObject v n
  | .repeated s n => return .string (List.replicate n s).flatten
  | .regexp => makeValue (patternObj Class.regexp.proto (Units.ofString "a") (Units.ofString "g"))
  | .function style body => do return .object (← makeFunction style env body [])
  | .member o name => do
    let v ← evalExpr call env o
    getMember call v (.ofUnits name)
  | .index o k => do
    let v ← evalExpr call env o
    let key ← evalExpr call env k
    getIndexed call v key
  | .unary .typeof (.name s) => do
    match ← findName call env s with
    | some v => return .ofString (typeName (← heap) v)
    | none => return .ofString "undefined"
  | .unary op e => do
    let v ← evalExpr call env e
    applyUnary call op v
  | .binary op a b => do
    let x ← evalExpr call env a
    let y ← evalExpr call env b
    applyBinary call op x y
  | .call (.member o name) args => do
    let this ← evalExpr call env o
    let f ← getMember call this (.ofUnits name)
    let vs ← evalAll call env args
    callValue call f this vs
  | .call (.index o k) args => do
    let this ← evalExpr call env o
    let key ← evalExpr call env k
    let f ← getIndexed call this key
    let vs ← evalAll call env args
    callValue call f this vs
  | .call f args => do
    let g ← evalExpr call env f
    let vs ← evalAll call env args
    callValue call g .undefined vs
  | .construct f args => do
    let g ← evalExpr call env f
    let vs ← evalAll call env args
    constructFor call g vs
  | .assign (.name s) e => do
    let v ← evalExpr call env e
    giveName s e v
    setName call env s v
    return v
  | .assign (.member o name) e => do
    let target ← evalExpr call env o
    let v ← evalExpr call env e
    setMember call env.strict target (.ofUnits name) v
    return v
  | .assign (.index o k) e => do
    let target ← evalExpr call env o
    let key ← evalExpr call env k
    let v ← evalExpr call env e
    if target.isNothing then notAnObject
    setMember call env.strict target (← toKey call key) v
    return v
  | .assign _ e => evalExpr call env e
  | .comma a b => do
    let _ ← evalExpr call env a
    evalExpr call env b

/-- Evaluates expressions one after the other. -/
def evalAll (call : Caller) (env : Env) : List Expr → Eval (List Value)
  | [] => return []
  | e :: rest => do
    let v ← evalExpr call env e
    return v :: (← evalAll call env rest)

/-- Evaluates the items of an array, of which some may be missing. -/
def evalItems (call : Caller) (env : Env) : List Expr → Eval (List (Option Value))
  | [] => return []
  | .hole :: rest => do return none :: (← evalItems call env rest)
  | e :: rest => do
    let v ← evalExpr call env e
    return some v :: (← evalItems call env rest)

def evalProperties (call : Caller) (env : Env) : List Property → Eval (List (Key × Field))
  | [] => return []
  | .value (.text s) e :: rest => do
    let v ← evalExpr call env e
    giveName s e v
    return (.ofUnits s, .plain v) :: (← evalProperties call env rest)
  | .value (.symbol d) e :: rest => do
    let id ← makeSymbol (some d)
    let v ← evalExpr call env e
    return (.symbol id, .plain v) :: (← evalProperties call env rest)
  | .getter name body :: rest => do
    let g ← makeFunction .method env body (Units.ofString "get " ++ name)
    return (.ofUnits name, .accessor (some g) none .all) :: (← evalProperties call env rest)

/-- Evaluates properties and assigns them to an object, one after the other. -/
def assignProperties (call : Caller) (env : Env) (r : Ref) : List Property → Eval Unit
  | [] => return ()
  | .value (.text s) e :: rest => do
    let v ← evalExpr call env e
    setMember call env.strict (.object r) (.ofUnits s) v
    assignProperties call env r rest
  | .value (.symbol d) e :: rest => do
    let id ← makeSymbol (some d)
    let v ← evalExpr call env e
    setMember call env.strict (.object r) (.symbol id) v
    assignProperties call env r rest
  | .getter _ _ :: rest => assignProperties call env r rest

/-- Executes the declarations of names. -/
def declareAll (call : Caller) (env : Env) (kind : TypeScript.Binding) : List Declarator → Eval Unit
  | [] => return ()
  | .blank name :: rest => do
    if kind ≠ .hoisted then fillName name .undefined
    declareAll call env kind rest
  | .valued name e :: rest => do
    let v ← evalExpr call env e
    giveName name e v
    if kind = .hoisted then setName call env name v else fillName name v
    declareAll call env kind rest

def execute (call : Caller) (env : Env) : Stmt → Eval Unit
  | .evaluate e => do let _ ← evalExpr call env e
  | .declare kind names => declareAll call env kind names
  | .raise e => do
    let v ← evalExpr call env e
    throwValue v
  | .attempt body handler =>
    tryCatchThe Stop (executeAll call env body) fun stop ↦
      match stop with
      | .thrown v =>
        executeAll call { env with locals := (Units.ofString "e", v) :: env.locals } handler
      | .exhausted => throwThe Stop .exhausted
  | .ite c yes no => do
    let v ← evalExpr call env c
    if truthy v then executeAll call env yes else executeAll call env no
  | .loop bound body =>
    (List.range (if bound > 0.0 then bound.ceil.toUInt64.toNat else 0)).forM fun i ↦
      executeAll call { env with locals := (Units.ofString "i", .ofNat i) :: env.locals } body
  | .typed => fillName typedName .undefined
  | .malformed => return ()

/-- Executes statements one after the other. -/
def executeAll (call : Caller) (env : Env) : List Stmt → Eval Unit
  | [] => return ()
  | s :: rest => do
    execute call env s
    executeAll call env rest

end

/-! ## Functions -/

def runBody (call : Caller) (env : Env) : Body → Eval Value
  | .statements ss => do
    executeAll call { env with strict := env.strict || asksForStrict ss } ss
    return .undefined
  | .expression e => evalExpr call env e
  | .throws message => do throwValue (← makeValue (.ofError .error message))

/-- The strict rules apply inside of a function. -/
def isStrict (env : Env) : Body → Bool
  | .statements ss => env.strict || asksForStrict ss
  | _ => env.strict

/-- What `this` is inside of a function: without the strict rules always an object. -/
def thisInside (strict : Bool) (this : Value) : Eval Value := do
  if strict then return this
  match this with
  | .undefined | .null => return .object globalRef
  | v => return .object (← toObject v)

/-- The surroundings of the body of a function that has been called. -/
def enterFunction (style : Style) (body : Body) (env : Env) (this : Value) (args : List Value) :
    Eval Env := do
  match style with
  | .arrow => return env
  | .method =>
    return { env with
      this := ← thisInside (isStrict env body) this
      argumentCount := some args.length }
  | .plain =>
    return { env with
      locals := (Units.ofString "event", argument args 0) :: env.locals
      this := ← thisInside (isStrict env body) this
      argumentCount := some args.length }
  | .assembled parameters =>
    return { env with
      locals := (parameters.zipIdx.map fun (x, i) ↦ (x, argument args i)).reverse ++ env.locals
      this := ← thisInside (isStrict env body) this
      argumentCount := some args.length }

/-! ## Texts -/

/-- Executes statements one after the other and returns the value of the last that has one. -/
def outcomeOf (call : Caller) (env : Env) (v : Value) : List Stmt → Eval Value
  | [] => return v
  | .evaluate e :: rest => do outcomeOf call env (← evalExpr call env e) rest
  | s :: rest => do
    execute call env s
    outcomeOf call env v rest

/-- Runs code with names of its own, which hide others of the same name meanwhile. -/
def withNames {α : Type} (names : List (Units × Bool)) (x : Eval α) : Eval α := do
  let isOwn (y : Units) : Bool := names.any (·.1 == y)
  let hidden := (← get).globals.filter fun g ↦ isOwn g.1
  let others (r : Realm) : List (Units × Global) := r.globals.filter fun g ↦ !isOwn g.1
  modify fun r ↦
    { r with globals := names.map (fun (y, constant) ↦ (y, ⟨none, constant⟩)) ++ others r }
  restoring (fun r ↦ { r with globals := hidden ++ others r }) x

/-- Runs a text as a program of its own and returns its value.  Names that are declared for a block
are known inside only; other names become fields of the global object, unless the rules are
strict. -/
def runText (call : Caller) (text : String) : Eval Value := do
  match programOf? text with
  | none => raise .grammar "unexpected token"
  | some program =>
    let strict := asksForStrict program
    let hoisted := hoistedNames program
    let own := blockNames program ++ if strict then hoisted.map (·, false) else []
    if !strict then
      let globals := (← get).globals
      if hoisted.any fun x ↦ (globals.lookup x).isSome then
        raise .grammar "variable declaration in eval function already exists as a lexical variable"
      hoisted.forM fun x ↦
        change globalRef fun o ↦
          if (o.own? (.ofUnits x)).isSome then o else o.put (.ofUnits x) (.plain .undefined)
    withNames own do
      if strict then hoisted.forM fun x ↦ fillName x .undefined
      outcomeOf call { this := .object globalRef, strict := strict } .undefined program

/-- Runs an argument if it is a text; anything else is passed on. -/
def evaluateArgument (call : Caller) (v : Value) : Eval Value := do
  match v with
  | .string s => within (Units.ofString "<eval>") (runText call s.text)
  | v => return v

/-! ## Calls -/

/-- The name that code runs under: that of its function. -/
def codeName (h : Heap) (f : Ref) : Units :=
  match ((h.get f).own? (.ofString "name")).bind Field.value? with
  | some (.string s) => s
  | _ => []

/-- Calls a function with at most `depth` scripts inside one another.  The functions of the context
are not counted, but they are not called either once the depth is used up; `fuel` bounds them
all. -/
def callFunction : Nat → Nat → Caller
  | 0, _, _, _, _ => throwThe Stop .exhausted
  | _, 0, _, _, _ => throwThe Stop .exhausted
  | fuel + 1, depth + 1, f, manner, args => do
    let inner := callFunction fuel depth
    let same := callFunction fuel (depth + 1)
    match (← object f).kind, manner with
    | .function (.closure style body env), .call this =>
      within (codeName (← heap) f) do
        let env ← enterFunction style body env this args
        runBody inner env body
    | .function (.closure style body env), .new target =>
      let this ← makeValue { parent := some (← parentFor inner .object target) }
      within (codeName (← heap) f) do
        let env ← enterFunction style body env this args
        match ← runBody inner env body with
        | .object r => return .object r
        | _ => return this
    | .function (.native (.member .globals "eval")), .call _ =>
      evaluateArgument inner (argument args 0)
    | .function (.native n), .call this =>
      if n.isScripted then within (codeName (← heap) f) (callNative inner this args n)
      else callNative same this args n
    | .function (.native n), .new target =>
      if n.isScripted then within (codeName (← heap) f) (constructNative inner target args n)
      else constructNative same target args n
    | .function (.bound target this first _), .call _ => same target (.call this) (first ++ args)
    | .function (.bound target _ first _), .new from_ =>
      same target (.new (if from_ = f then target else from_)) (first ++ args)
    | .function (.constant v good), _ => if good then return v else throwValue v
    | _, _ => notCallable

end Script
end ScriptWorkers
