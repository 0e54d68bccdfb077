import ScriptWorkers.Event
import ScriptWorkers.Loader.Files
import ScriptWorkers.TypeScript.Parser
import ScriptWorkers.TypeScript.Printer

/-!
# Taking the types out of a source

The language of a source follows from its name.  A name that is declared twice is no reason to stop;
each further declaration is worth a warning.

This part is the transpiler: `strip` takes a source and its name, `stripContents` the contents of a
file.
-/

namespace ScriptWorkers
namespace TypeScript

/-- A source without types, and how many names were declared again. -/
structure Stripped where
  code : String
  repeated : Nat
deriving Repr, DecidableEq

namespace Stripped

def warnings (s : Stripped) (file : String) : List LogLine :=
  List.replicate s.repeated (.semantic file)

end Stripped

/-- Takes the types out of a source. -/
def strip (minify : Bool) (source name : String) : Except StripError Stripped := do
  let dialect ← Dialect.ofName name
  match parse dialect source with
  | none => .error (.parse "unexpected token")
  | some parsed =>
    let kept := if dialect.language = .definitions then [] else parsed.stmts
    .ok { code := write (if minify then .compact else .spacious) kept
          repeated := parsed.conflicts }

/-- The name under which the contents of a file are taken. -/
def nameOfFile (path : List Char) : String :=
  String.ofList ((Dialect.fileName? path).getD "input.ts".toList)

/-- Takes the types out of the contents of a file. -/
def stripContents (minify : Bool) (bytes : Except FileError ByteArray) (path : List Char) :
    Except StripError Stripped := do
  match bytes >>= textOf with
  | .error e => .error (.io e.message)
  | .ok source => strip minify source (nameOfFile path)

end TypeScript
end ScriptWorkers
