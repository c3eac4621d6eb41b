import Temperament.Settings.Basic
import Temperament.Text.Decimal
import Temperament.Toml.Statement

/-!
# Settings as a document

A section of a document that is there must have all its keys, with values of their types; a section
that is not there has its defaults.  Other keys are not looked at.  A section may also be an array
of its values in their order.
-/

namespace Temperament

open Text

namespace Toml

def text? : Toml → Option String
  | text s => some s
  | _ => none

def boolean? : Toml → Option Bool
  | boolean b => some b
  | _ => none

def count? : Toml → Option UInt32
  | integer n => if 0 ≤ n ∧ n < UInt32.size then some (UInt32.ofNat n.toNat) else none
  | _ => none

/-- The values of a section with the given keys: those of a table, or the first ones of an array. -/
def fields? (keys : List String) : Toml → Option (List Toml)
  | array items => if keys.length ≤ items.length then some (items.take keys.length) else none
  | v => v.entries?.bind fun entries => keys.mapM fun key => entries.lookup key

end Toml

namespace Settings

/-! ## Reading -/

def Paths.ofToml? (v : Toml) : Option Paths := do
  let [stateDir] ← v.fields? ["state_dir"] | none
  return ⟨← stateDir.text?⟩

def Display.ofToml? (v : Toml) : Option Display := do
  let [defaultVerbosity, colorOutput] ← v.fields? ["default_verbosity", "color_output"] | none
  return ⟨← defaultVerbosity.text?, ← colorOutput.boolean?⟩

def Targets.ofToml? (v : Toml) : Option Targets := do
  let [learning, sports] ← v.fields? ["default_target_learning", "default_target_sports"] | none
  return ⟨← learning.count?, ← sports.count?⟩

/-- A section, or its defaults if it is not there. -/
def section? {α : Type} (ofToml? : Toml → Option α) (fallback : α) (entries : Toml.Entries)
    (key : String) : Option α :=
  match entries.lookup key with
  | some v => ofToml? v
  | none => some fallback

def ofEntries? (entries : Toml.Entries) : Option Settings := do
  return {
    paths := ← section? Paths.ofToml? {} entries "paths"
    display := ← section? Display.ofToml? {} entries "display"
    targets := ← section? Targets.ofToml? {} entries "progress" }

/-- Reads and checks a document. -/
def parse (s : String) : Except Fault Settings := do
  let some settings := (Toml.Entries.ofText? s).bind ofEntries? | throw .malformedSettings
  settings.validate
  return settings

/-! ## Writing -/

def writeValue (key : String) (value : List Char) : List Char :=
  key.toList ++ " = ".toList ++ value ++ ['\n']

def writeHeader (key : String) : List Char :=
  '[' :: (key.toList ++ [']', '\n'])

def writeBoolean (b : Bool) : List Char :=
  if b then "true".toList else "false".toList

def write (s : Settings) : List Char :=
  writeHeader "paths" ++
  writeValue "state_dir" (Toml.writeString s.paths.stateDir.toList) ++ '\n' ::
  (writeHeader "display" ++
  writeValue "default_verbosity" (Toml.writeString s.display.defaultVerbosity.toList) ++
  writeValue "color_output" (writeBoolean s.display.colorOutput) ++ '\n' ::
  (writeHeader "progress" ++
  writeValue "default_target_learning" (digits s.targets.learning.toNat) ++
  writeValue "default_target_sports" (digits s.targets.sports.toNat)))

def text (s : Settings) : String :=
  String.ofList s.write

end Settings

end Temperament
