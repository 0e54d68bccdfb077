import ScriptWorkers.Error
import ScriptWorkers.Loader.Path

/-!
# Which language a script is in

There are two ways to tell.  The end of a script's name says whether its types have to be taken out
before it runs.  Whoever takes them out goes by the extension of the file name, which is what
follows its last dot, if the dot is not the first character.

`isTypeScript` is what the loader of scripts goes by, `ofName` what the transpiler goes by.
-/

namespace ScriptWorkers

/-- What a source may hold. -/
inductive Language where
  | javaScript
  | typeScript
  /-- Nothing but types, of which no code is left. -/
  | definitions
deriving Repr, DecidableEq

namespace Language

def hasTypes : Language → Bool
  | javaScript => false
  | _ => true

end Language

/-- The language of a source, and whether it is a module. -/
structure Dialect where
  language : Language
  isModule : Bool
deriving Repr, DecidableEq

namespace Dialect

def plain : Dialect := ⟨.javaScript, false⟩

def hasTypes (d : Dialect) : Bool := d.language.hasTypes

/-- The name ends like that of a script with types. -/
def isTypeScript (name : String) : Bool :=
  [".ts", ".mts", ".cts"].any fun ending ↦ ending.toList.isSuffixOf name.toList

/-- The last component of a path, if it names something. -/
def fileName? (path : List Char) : Option (List Char) :=
  match (Path.steps path).getLast? with
  | some ['.', '.'] => none
  | r => r

/-- What follows the last dot of a file name, if that is not its first character. -/
def extension? (name : List Char) : Option (List Char) :=
  let ext := (name.reverse.takeWhile (· ≠ '.')).reverse
  if ext.length + 1 < name.length then some ext else none

/-- The dialect that an extension stands for. -/
def ofExtension? (ext : String) : Option Dialect :=
  if ["js", "mjs", "jsx"].contains ext then some ⟨.javaScript, true⟩
  else if ext = "cjs" then some ⟨.javaScript, false⟩
  else if ["ts", "mts", "tsx"].contains ext then some ⟨.typeScript, true⟩
  else if ext = "cts" then some ⟨.typeScript, false⟩
  else none

/-- The file name announces definitions: a piece `d` right before the extension, or one further up
if the extension is the plain one. -/
def announcesDefinitions (name ext : List Char) : Bool :=
  let above := (Path.cut '.' (name.take (name.length - ext.length - 1))).reverse
  if ext = "ts".toList then (above.take 2).contains ['d']
  else if ext = "mts".toList ∨ ext = "cts".toList then (above.take 1).contains ['d']
  else false

/-- The dialect of a file by its name and extension. -/
def ofFile? (name ext : List Char) : Option Dialect :=
  (ofExtension? (String.ofList ext)).map fun d ↦
    if announcesDefinitions name ext then { d with language := .definitions } else d

/-- The wording of what is wrong with a name. -/
def complaint (text : String) : StripError :=
  .sourceType ("Unknown file extension: UnknownExtension(\"" ++ text ++ "\")")

/-- The complaint about a name without a file. -/
def noFileName : StripError := complaint "Please provide a valid file name."

/-- The complaint about an extension. -/
def noExtension : StripError :=
  complaint ("Please provide a valid file extension: .js, .mjs, .jsx or .cjs for JavaScript, " ++
    "or .ts, .d.ts, .mts, .cts or .tsx for TypeScript")

/-- The dialect of a source by its name. -/
def ofName (name : String) : Except StripError Dialect :=
  match fileName? name.toList with
  | none => .error noFileName
  | some file =>
    match (extension? file).bind (ofFile? file) with
    | some d => .ok d
    | none => .error noExtension

end Dialect

end ScriptWorkers
