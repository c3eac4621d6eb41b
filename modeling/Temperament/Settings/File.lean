import Temperament.Scratch
import Temperament.Settings.Document

/-!
# The settings file
-/

namespace Temperament.Settings

def load (path : String) : Filing Settings := do
  let some text := (← get).readText? path | throw .unreadableSettings
  match parse text with
  | .ok settings => return settings
  | .error fault => throw fault

/-- The settings of a given path, else those of the default path, else the defaults. -/
def loadFrom (home : String) : Option String → Filing Settings
  | some path => load path
  | none => do
    if (← get).contains (defaultPath home) then load (defaultPath home) else return {}

/-- Makes the folder that a path names a file in. -/
def makeFolderOf (path : String) : Filing Unit := do
  let some parent := (Path.ofText path).parent? | return
  let (made, fs) := (← get).makeFolders parent
  set fs
  if !made then throw .settingsFolder

def save (s : Settings) (path : String) : Filing Unit := do
  makeFolderOf path
  let some fs := (← get).writeText? path s.text | throw .unwritableSettings
  set fs

/-- Writes the defaults unless something is there; the result is whether they were written. -/
def create (path : String) : Filing Bool := do
  if (← get).contains path then return false
  save {} path
  return true

end Temperament.Settings
