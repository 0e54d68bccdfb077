import ScriptWorkers.Script.Bindings
import ScriptWorkers.Script.Console
import ScriptWorkers.Script.Library.Atomics
import ScriptWorkers.Script.Library.Construct
import ScriptWorkers.Script.Library.Function
import ScriptWorkers.Script.Library.Json
import ScriptWorkers.Script.Library.Uri

/-!
# The functions of a context

Every function that a context offers from the start, by the place where it is found.

`builtins` lists the functions of a place, `callNative` calls one of them, and `constructNative`
asks one for a new object.
-/

namespace ScriptWorkers
namespace Script

open Eval

/-- A method of walks that tells that they are walks themselves. -/
def selfWalk : Builtin := ⟨"[Symbol.iterator]", 0, fun _ this _ ↦ return this⟩

/-- The classes that know what other class is asked for objects of the same kind. -/
def hasSpecies : Class → Bool
  | .array | .map | .set | .promise | .regexp | .arrayBuffer | .sharedArrayBuffer | .typedArray =>
    true
  | _ => false

/-- The global function that runs texts.  Whoever calls functions sees to that; here it passes on
what is no text. -/
def evalFunction : Builtin := ⟨"eval", 1, fun _ _ args ↦ return argument args 0⟩

/-- The functions of a class itself. -/
def staticsOf : Class → List Builtin
  | .object => objectStatics
  | .array => arrayStatics
  | .string => stringStatics
  | .number => numberStatics
  | .bigint => bigintStatics
  | .symbol => symbolStatics
  | .date => dateStatics
  | .map => mapStatics
  | .promise => promiseStatics
  | .error .error => errorStatics
  | .typedArray => typedStatics
  | .arrayBuffer => bufferStatics
  | _ => []

/-- The methods of the objects of a class. -/
def methodsOf : Class → List Builtin
  | .object => objectMethods
  | .function => functionMethods
  | .array => arrayMethods
  | .string => stringValueMethods ++ stringMethods ++ patternStringMethods
  | .number => numberMethods
  | .boolean => booleanMethods
  | .bigint => bigintMethods
  | .symbol => symbolMethods
  | .date => dateMethods
  | .regexp => patternMethods
  | .map => mapMethods
  | .set => setMethods
  | .weakMap => weakMapMethods
  | .weakSet => weakSetMethods
  | .weakRef => weakRefMethods
  | .promise => promiseMethods
  | .worker => workerMethods
  | .error .error => errorMethods
  | .typedArray => typedMethods
  | .arrayBuffer => bufferMethods false
  | .sharedArrayBuffer => bufferMethods true
  | .dataView => dataViewMethods
  | .iterator => [selfWalk]
  | .arrayIterator => [⟨"next", 0, walkNext .arrayIterator⟩]
  | .stringIterator => [⟨"next", 0, walkNext .stringIterator⟩]
  | .mapIterator => [⟨"next", 0, walkNext .mapIterator⟩]
  | .setIterator => [⟨"next", 0, walkNext .setIterator⟩]
  | .patternIterator => [⟨"next", 0, nextFind⟩]
  | _ => []

/-- What can be read of the objects of a class. -/
def gettersOf : Class → List Builtin
  | .object => objectGetters
  | .symbol => symbolGetters
  | .map => collectionGetters .map
  | .set => collectionGetters .set
  | .regexp => patternGetters
  | .typedArray => typedGetters
  | .arrayBuffer => bufferGetters false
  | .sharedArrayBuffer => bufferGetters true
  | .dataView => dataViewGetters
  | .worker => workerGetters
  | _ => []

/-- What can be written to the objects of a class. -/
def settersOf : Class → List Builtin
  | .object => objectSetters
  | .worker => workerSetters
  | _ => []

def builtins : Home → List Builtin
  | .statics c =>
    (if hasSpecies c then [⟨"[Symbol.species]", 0, fun _ this _ ↦ return this⟩] else []) ++
      staticsOf c
  | .methods c => methodsOf c
  | .getters c => gettersOf c
  | .setters c => settersOf c
  | .globals => numberGlobals ++ [evalFunction] ++ uriFunctions ++ [queueMicrotask]
  | .host => hostFunctions
  | .workerHost => workerFunctions
  | .scopeGetters => scopeGetters
  | .scopeSetters => scopeSetters
  | .console => consoleFunctions
  | .math => mathFunctions
  | .json => jsonFunctions
  | .reflect => reflectFunctions
  | .atomics => atomicFunctions

/-- Calls a function of the context. -/
def callNative (call : Caller) (this : Value) (args : List Value) : Native → Eval Value
  | .constructor c => convert call c args
  | .member home name =>
    match Builtin.find? (builtins home) name with
    | some b => b.run call this args
    | none => return .undefined
  | .settle p latch good => do
    settleOnce call p latch good (argument args 0)
    return .undefined
  | .gather tally place latch how => do
    gather call tally place latch how (argument args 0)
    return .undefined
  | .afterwards f good => passAfter call f good (argument args 0)
  | .idle => return .undefined

/-- What new objects inherit from: what the function says that has been asked for them. -/
def parentFor (call : Caller) (c : Class) (target : Ref) : Eval Ref := do
  match ← getNamed call (.object target) "prototype" with
  | .object p => return p
  | _ => return c.proto

/-- Asks a function of the context for a new object, which inherits from what the target says.  One
that is no class does what it always does. -/
def constructNative (call : Caller) (target : Ref) (args : List Value) : Native → Eval Value
  | .constructor .worker => do constructWorker call (← parentFor call .worker target) args
  | .constructor c => do construct call c (← parentFor call c target) args
  | n => do
    match ← callNative call .undefined args n with
    | .object r => return .object r
    | _ => makeValue { parent := some (← parentFor call .object target) }

end Script
end ScriptWorkers
