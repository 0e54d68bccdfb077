import ScriptWorkers.CommandLine.Execute

/-!
# The command-line program

Reads the files below the working directory, carries out the command and prints what is left of it.

This is the outer layer, the only one that has to do with input and output.  What a command does is
`CommandLine.execute`.
-/

namespace ScriptWorkers
namespace CommandLine

/-- The working directory of a command, as a place in its tree. -/
def working : Spot := ["work".toList]

/-- The files of a directory and of those below it, at most `depth` levels down. -/
def gather (dir : IO.FS.DirEntry) (here : Spot) : Nat → IO (List (Spot × Option Contents))
  | 0 => return []
  | depth + 1 => do
    let spot := here ++ [dir.fileName.toList]
    if ← dir.path.isDir then
      let below ← dir.path.readDir
      let inner ← below.toList.mapM fun e ↦ gather e spot depth
      return (spot, none) :: inner.flatten
    else
      try
        return [(spot, some (.bytes (← IO.FS.readBinFile dir.path)))]
      catch _ => return []

/-- The tree of the working directory. -/
def workingFiles : IO (Files Contents) := do
  let entries ← (← IO.currentDir).readDir
  let below ← entries.toList.mapM fun e ↦ gather e working 8
  return ⟨(working, none) :: below.flatten⟩

/-- The file that a command has written, if it has. -/
def written (args : List String) (files : Files Contents) : Option (String × ByteArray) :=
  match parse args with
  | .ok (.transpile _ (some path) _) =>
    match bytesAt files working path with
    | .ok b => some (path, b)
    | .error _ => none
  | _ => none

end CommandLine
end ScriptWorkers

open ScriptWorkers in
/-- Carries out the command that the arguments ask for. -/
def main (args : List String) : IO UInt32 := do
  let result := CommandLine.execute (← CommandLine.workingFiles) CommandLine.working args
  for (_, line) in result.console do IO.println line
  for line in result.output do IO.println line
  for line in result.complaints do IO.eprintln line
  if let some text := result.report then IO.eprintln ("Error: " ++ text)
  if result.code = 0 then
    if let some (path, bytes) := CommandLine.written args result.files then
      IO.FS.writeBinFile path bytes
  return result.code.toUInt32
