import Std.Time.Format
import Temperament.Run.Program

/-!
# The command line

The part of the program that touches the world.  It copies what a run may look at from the disk into
a file tree, has the run computed, and carries its changes back to the disk.
-/

namespace Temperament.CommandLine

/-! ## Files -/

def diskPath (loc : Location) : String :=
  "/" ++ "/".intercalate loc

/-- The code of the error that reading a folder gives. -/
def isFolderCode : UInt32 := 21

def look (loc : Location) : IO (Option Node) := do
  try
    return some (.file (← IO.FS.readBinFile (diskPath loc)))
  catch e =>
    match e with
    | .inappropriateType _ code _ => return if code = isFolderCode then some .folder else none
    | _ => return none

/-- Adds what is on the disk along a path. -/
def copyRoute (fs : Files) (path : String) : IO Files :=
  (fs.route path).foldlM (fun fs loc => do
    match ← look loc with
    | some node => return fs.put loc node
    | none => return fs) fs

def isSame : Node → Node → Bool
  | .file a, .file b => a == b
  | .folder, .folder => true
  | _, _ => false

/-- Carries the changes between two trees over to the disk. -/
def carryOut (before after : Files) : IO Unit := do
  for (loc, node) in after.toList do
    if !(before.get? loc).any (isSame node) then
      match node with
      | .folder => IO.FS.createDir (diskPath loc)
      | .file bytes => IO.FS.writeBinFile (diskPath loc) bytes
  for (loc, _) in before.toList do
    if (after.get? loc).isNone then IO.FS.removeFile (diskPath loc)

/-! ## Surroundings -/

partial def readAll (input : IO.FS.Stream) (before : List UInt8) : IO (List UInt8) := do
  let bytes ← input.read 65536
  if bytes.isEmpty then return before else readAll input (before ++ bytes.toList)

/-- The current day. -/
def today : IO Date := do
  let now ← Std.Time.PlainDate.now
  let day? := Date.ofFields? now.year now.month.val.toNat now.day.val.toNat
  return day?.getD ⟨1970, 1, 1, by decide⟩

/-- Whether the output is to be coloured: as it is forced to be, or on a terminal. -/
def wantsColour : IO Bool := do
  if ((← IO.getEnv "CLICOLOR_FORCE").getD "0") != "0" then return true
  if (← IO.getEnv "NO_COLOR").isSome || (← IO.getEnv "CLICOLOR") == some "0" then return false
  (← IO.getStdout).isTty

def readsInput (i : Invocation) : Bool :=
  i.command = some (.assess [])

/-! ## Runs -/

/-- The files that an invocation may look at. -/
def filesFor (i : Invocation) (home : String) : IO Files := do
  let here := toString (← IO.currentDir)
  let fs ← copyRoute { workingFolder := (Path.ofText here).parts } here
  let fs ← copyRoute fs (i.settingsPath home)
  match Settings.loadFrom home i.config fs with
  | .ok settings fs => copyRoute fs (Scratch.path ⟨i.storeFolder home settings⟩)
  | .error _ fs => return fs

def finish (o : Outcome) : IO UInt32 := do
  (← IO.getStdout).putStr o.output
  (← IO.getStderr).putStr o.errors
  return o.exit

def run (i : Invocation) : IO UInt32 := do
  let home := (← IO.getEnv "HOME").getD ""
  let files ← filesFor i home
  let around : Surroundings := {
    home
    today := ← today
    input := ← if readsInput i then readAll (← IO.getStdin) [] else pure []
    log := ← IO.getEnv "HUIDONG_LOG"
    isColoured := ← wantsColour }
  let o := i.run around files
  carryOut files o.files
  finish o

end Temperament.CommandLine

open Temperament in
def main (args : List String) : IO UInt32 :=
  match Invocation.parse args with
  | .ok i => CommandLine.run i
  | .error r => CommandLine.finish (r.outcome {})
