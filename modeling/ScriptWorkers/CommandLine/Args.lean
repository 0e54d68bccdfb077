import ScriptWorkers.Settings

/-!
# Command-line arguments

A script alone is run with the usual settings.  The commands `run` and `transpile` take options,
which may stand anywhere after the command; a value follows its option or is joined to it by an
equals sign.  After two dashes nothing is an option any more.

Arguments are read from left to right, and the first one that decides the matter does: one that
makes no sense, or one that asks for help.  Only what is missing is found out at the end.

`readArgs` reads the arguments of one command, `parse` finds out which command that is, and
`Outcome` is what comes of both: a command, a help text or a complaint.
-/

namespace ScriptWorkers
namespace CommandLine

/-- What the arguments ask for. -/
inductive Command where
  | run (script : String) (assets : Option String) (settings : Settings)
  | transpile (input : String) (output : Option String) (minify : Bool)
  /-- Nothing to do. -/
  | nothing
deriving Repr, DecidableEq

/-- What comes of reading arguments. -/
inductive Outcome (α : Type) where
  | ok (a : α)
  /-- A page of help, or the version. -/
  | help
  /-- The arguments make no sense. -/
  | usage

/-! ## Values -/

/-- A number of 64 bits. -/
def word? (s : String) : Option Nat :=
  let ds := match s.toList with
    | '+' :: ds => ds
    | ds => ds
  if ds.isEmpty || !ds.all Char.isDigit then none
  else
    let n := ds.foldl (fun n c ↦ 10 * n + (c.toNat - 48)) 0
    if n < UInt64.size then some n else none

/-- What the value of an option is. -/
inductive ValueKind where
  | path
  | number
deriving Repr, DecidableEq

namespace ValueKind

/-- The text is a value of this kind; a path may not be empty. -/
def accepts : ValueKind → String → Bool
  | path, s => !s.isEmpty
  | number, s => (word? s).isSome

end ValueKind

/-- The options of a command. -/
structure Options where
  /-- Those with a value. -/
  valued : List (String × ValueKind)
  flags : List String
  /-- Long names of short options. -/
  short : List (Char × String)

/-- What has been read so far. -/
structure Reading where
  /-- The path that the command is about. -/
  subject : Option String := none
  /-- Values of options, by their long names. -/
  values : List (String × String) := []
  /-- Options without a value. -/
  flags : List String := []
deriving Repr, DecidableEq

namespace Reading

/-- Adds the path that the command is about; there is only one. -/
def addSubject (r : Reading) (path : String) : Option Reading :=
  if r.subject.isSome || path.isEmpty then none else some { r with subject := some path }

/-- Adds a value; an option can be given only once. -/
def addValue (r : Reading) (name value : String) : Option Reading :=
  if r.values.any (·.1 == name) then none
  else some { r with values := r.values ++ [(name, value)] }

/-- Adds an option without a value. -/
def addFlag (r : Reading) (name : String) : Option Reading :=
  if r.flags.contains name then none else some { r with flags := r.flags ++ [name] }

/-- Adds paths, of which no more than one can be new. -/
def addSubjects (r : Reading) (paths : List String) : Outcome Reading :=
  match paths.foldlM addSubject r with
  | some r => .ok r
  | none => .usage

/-- The number of an option, or what it is without one. -/
def number (r : Reading) (name : String) (default : Nat) : Nat :=
  ((r.values.lookup name).bind word?).getD default

end Reading

/-- Splits at the first equals sign. -/
def splitEquals (cs : List Char) : List Char × Option (List Char) :=
  let name := cs.takeWhile (· ≠ '=')
  if name.length < cs.length then (name, some (cs.drop (name.length + 1))) else (name, none)

/-- A value may not look like an option. -/
def isValue (s : String) : Bool :=
  match s.toList with
  | '-' :: _ :: _ => false
  | _ => true

/-! ## Reading -/

mutual

def readArgs (o : Options) (r : Reading) : List String → Outcome Reading
  | [] => .ok r
  | a :: rest =>
    match a.toList with
    | ['-', '-'] => r.addSubjects rest
    | '-' :: '-' :: cs =>
      let (name, value) := splitEquals cs
      let name := String.ofList name
      if name = "help" then
        if value.isSome then .usage else .help
      else if o.flags.contains name then
        if value.isSome then .usage
        else
          match r.addFlag name with
          | some r => readArgs o r rest
          | none => .usage
      else
        match o.valued.lookup name, value with
        | some kind, some v => readValue o r name kind (String.ofList v) rest
        | some kind, none =>
          match rest with
          | v :: rest => if isValue v then readValue o r name kind v rest else .usage
          | [] => .usage
        | none, _ => .usage
    | '-' :: c :: cs => readShort o r c cs rest
    | _ =>
      match r.addSubject a with
      | some r => readArgs o r rest
      | none => .usage
termination_by args => (args.length, 1, 0)

/-- Goes on after the value of an option. -/
def readValue (o : Options) (r : Reading) (name : String) (kind : ValueKind) (value : String)
    (rest : List String) : Outcome Reading :=
  if kind.accepts value then
    match r.addValue name value with
    | some r => readArgs o r rest
    | none => .usage
  else .usage
termination_by (rest.length, 2, 0)

/-- Reads short options that stand together. -/
def readShort (o : Options) (r : Reading) (c : Char) (cs : List Char) (rest : List String) :
    Outcome Reading :=
  if c = 'h' then .help
  else
    match o.short.lookup c with
    | none => .usage
    | some name =>
      match o.valued.lookup name with
      | none =>
        match r.addFlag name, cs with
        | some r, [] => readArgs o r rest
        | some r, d :: ds => readShort o r d ds rest
        | none, _ => .usage
      | some kind =>
        match cs with
        | '=' :: v => readValue o r name kind (String.ofList v) rest
        | d :: ds => readValue o r name kind (String.ofList (d :: ds)) rest
        | [] =>
          match rest with
          | v :: rest => if isValue v then readValue o r name kind v rest else .usage
          | [] => .usage
termination_by (rest.length, 3, cs.length)

end

/-! ## Commands -/

def runOptions : Options :=
  ⟨[("assets", .path), ("tick-ms", .number), ("poll-ms", .number), ("timeout-secs", .number)],
    [], []⟩

def transpileOptions : Options :=
  ⟨[("output", .path)], ["minify"], [('o', "output"), ('m', "minify")]⟩

def runCommand (r : Reading) : Option Command := do
  let script ← r.subject
  let poll := r.number "poll-ms" 0
  let worker : WorkerSettings := { pollMicros := if poll = 0 then none else some (1000 * poll) }
  some (.run script (r.values.lookup "assets")
    { tickMillis := r.number "tick-ms" 16, maxMillis := 1000 * r.number "timeout-secs" 300,
      worker })

def transpileCommand (r : Reading) : Option Command := do
  let input ← r.subject
  some (.transpile input (r.values.lookup "output") (r.flags.contains "minify"))

/-- Finishes the reading of a command. -/
def finish (f : Reading → Option Command) : Outcome Reading → Outcome Command
  | .ok r =>
    match f r with
    | some c => .ok c
    | none => .usage
  | .help => .help
  | .usage => .usage

def helpOn : List String → Outcome Command
  | [] => .help
  | [name] => if ["run", "transpile", "help"].contains name then .help else .usage
  | _ => .usage

/-- What is to be done with a script alone. -/
def lone (r : Reading) : Outcome Command :=
  match r.subject with
  | some s => .ok (.run s none {})
  | none => .ok .nothing

/-- What the arguments ask for, after what has been read before a command is named. -/
def parseFrom (r : Reading) : List String → Outcome Command
  | [] => lone r
  | a :: rest =>
    if a = "run" then finish runCommand (readArgs runOptions {} rest)
    else if a = "transpile" then finish transpileCommand (readArgs transpileOptions {} rest)
    else if a = "help" then helpOn rest
    else
      match a.toList with
      | ['-', '-'] =>
        match r.addSubjects rest with
        | .ok r => lone r
        | _ => .usage
      | '-' :: '-' :: _ => if a = "--help" ∨ a = "--version" then .help else .usage
      | '-' :: c :: _ => if c = 'h' ∨ c = 'V' then .help else .usage
      | _ =>
        match r.addSubject a with
        | some r => parseFrom r rest
        | none => .usage

/-- What the arguments ask for. -/
def parse (args : List String) : Outcome Command := parseFrom {} args

end CommandLine
end ScriptWorkers
