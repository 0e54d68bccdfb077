import ScriptWorkers.CommandLine.Args
import ScriptWorkers.Script.Context
import ScriptWorkers.TypeScript.Strip
import ScriptWorkers.World.Crew

/-!
# Carrying out a command

A command is carried out on a tree of files and leaves behind what has been printed, an exit code,
and the tree as it is then.

* `runBelow` — a script below a root, with a thread for each worker.
* `transpile` — a file whose types are taken out.
* `execute` — what the arguments ask for; `finished` is what is printed and the exit code.
-/

namespace ScriptWorkers
namespace CommandLine

/-- What is left of a command. -/
structure Result where
  code : Nat := 0
  /-- What the root script has printed. -/
  console : List (Level × String) := []
  output : List String := []
  /-- Complaints of the program itself. -/
  complaints : List String := []
  /-- Why the program has given up. -/
  report : Option String := none
  files : Files Contents

def linesOf (s : String) : List String :=
  (s.splitOn "\n").map fun line ↦
    match line.toList.reverse with
    | '\r' :: rest => String.ofList rest.reverse
    | _ => line

/-- A character as a terminal may show it: those that would control the terminal are written out. -/
def shownChar (c : Char) : List Char :=
  let n := c.toNat
  if n = 0x1B ∨ n = 0x07 ∨ n = 0x08 ∨ n = 0x0C ∨ n = 0x7F then
    ['\\', 'x', Units.hexDigit false (n / 16), Units.hexDigit false n]
  else if 0x80 ≤ n ∧ n ≤ 0x9F then
    "\\u\x7b".toList ++ [Units.hexDigit false (n / 16), Units.hexDigit false n, '\x7d']
  else [c]

/-- A text as a terminal may show it. -/
def shownText (s : String) : String := String.ofList (s.toList.flatMap shownChar)

/-- The text that an event puts on the console. -/
def printed? : Event → Option (Level × String)
  | .console level text => some (level, shownText text)
  | _ => none

/-- What has been printed, in order, with the context that has printed it. -/
def printedBy {κ : Type} (w : World κ) : List (Nat × Level × String) :=
  w.events.toList.filterMap fun (id, e) ↦ (printed? e).map fun text ↦ (id, text)

/-- The result of a run, with what has been printed.  Only the first line of a text is known as one
of the console, and there the workers are left out; the other lines are nothing but output. -/
def finished {κ : Type} (code : Nat) (complaints : List String) (files : Files Contents)
    (w : World κ) : Result :=
  let printed := printedBy w
  { code, complaints, files
    console :=
      (printed.filter (·.1 = 0)).map fun (_, level, text) ↦ (level, (linesOf text).headD "")
    output := printed.flatMap fun (_, _, text) ↦ (linesOf text).tail }

/-- The lines of a complaint that start like one. -/
def complaintLines (text : String) : List String :=
  (linesOf ("Error: " ++ text)).filter fun line ↦ "Error: ".toList.isPrefixOf line.toList

def giveUp (files : Files Contents) (text : String) : Result :=
  { code := 1, report := some text, files }

/-- For how many milliseconds a script may run before its world is driven. -/
def patience : Nat := 60000

/-- Runs a script below a root, with the threads of its workers beside it. -/
def runBelow (files : Files Contents) (working : Spot) (settings : Settings) (root id : String) :
    Result :=
  let engine := Script.engine [] 0
  match World.create engine (.files root working files) with
  | .error e => giveUp files e.message
  | .ok w =>
    let crew :=
      (Crew.ofWorld w).follow (Duty.rota engine settings id) (patience + settings.maxMillis)
    match crew.result? with
    | some (.error e) => finished 1 (complaintLines e.headline) files crew.world
    | _ => finished 0 [] files crew.world

def run (files : Files Contents) (working : Spot) (script : String) (assets : Option String)
    (settings : Settings) : Result :=
  match files.canonical working script.toList,
    assets.mapM fun a ↦ files.canonical working a.toList with
  | .error e, _ => giveUp files e.message
  | .ok _, .error e => giveUp files e.message
  | .ok s, .ok a =>
    match Path.locate s a with
    | none => giveUp files "is not inside the asset directory"
    | some (root, id) => runBelow files working settings (String.ofList root) (String.ofList id)

/-- The headline of what went wrong with the types of a source. -/
def headline : StripError → String
  | .parse _ => "Failed to parse TypeScript"
  | .transform _ => "Failed to transform TypeScript"
  | e => e.message

def bytesAt (files : Files Contents) (working : Spot) (path : String) :
    Except FileError ByteArray := do
  match ← files.read working path.toList with
  | .bytes b => .ok b
  | .program p => .ok (Json.arr p).render.toUTF8

/-- Takes the types out of a file. -/
def transpile (files : Files Contents) (working : Spot) (input : String) (output : Option String)
    (minify : Bool) : Result :=
  match TypeScript.stripContents minify (bytesAt files working input) input.toList with
  | .error e => giveUp files (headline e)
  | .ok stripped =>
    match output with
    | none => { output := stripped.code.splitOn "\n", files }
    | some path =>
      match files.write working path.toList (.bytes stripped.code.toUTF8) with
      | .error e => giveUp files e.message
      | .ok files => { output := ["Success: Transpiled " ++ input ++ " -> " ++ path], files }

/-- Carries out what the arguments ask for. -/
def execute (files : Files Contents) (working : Spot) (args : List String) : Result :=
  match parse args with
  | .usage => { code := 2, files }
  | .help => { files }
  | .ok .nothing =>
    { code := 2, files
      complaints := ["Error: no script given. Try \x60krait <script>\x60 or \x60krait --help\x60"] }
  | .ok (.run script assets settings) => run files working script assets settings
  | .ok (.transpile input output minify) => transpile files working input output minify

end CommandLine
end ScriptWorkers
