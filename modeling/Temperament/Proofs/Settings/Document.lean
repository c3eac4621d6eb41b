import Temperament.Proofs.Toml.Statement
import Temperament.Settings.Document

/-!
# Reading back settings

The document of settings is read as these settings, whatever texts they hold; only the check behind
reading may refuse them (`parse_text`).
-/

namespace Temperament.Settings

open Text Toml

/-- The lines of the document. -/
def lines (s : Settings) : List (List Char) :=
  ["[paths]".toList,
    "state_dir".toList ++ " = ".toList ++ writeString s.paths.stateDir.toList, [],
    "[display]".toList,
    "default_verbosity".toList ++ " = ".toList ++ writeString s.display.defaultVerbosity.toList,
    "color_output".toList ++ " = ".toList ++ writeBoolean s.display.colorOutput, [],
    "[progress]".toList,
    "default_target_learning".toList ++ " = ".toList ++ digits s.targets.learning.toNat,
    "default_target_sports".toList ++ " = ".toList ++ digits s.targets.sports.toNat]

/-- The statements on each line of the document. -/
def statements (s : Settings) : List (List Statement) :=
  [[.openTable [] "paths"], [.assign [] "state_dir" (.text s.paths.stateDir)], [],
    [.openTable [] "display"],
    [.assign [] "default_verbosity" (.text s.display.defaultVerbosity)],
    [.assign [] "color_output" (.boolean s.display.colorOutput)], [],
    [.openTable [] "progress"],
    [.assign [] "default_target_learning" (.integer s.targets.learning.toNat)],
    [.assign [] "default_target_sports" (.integer s.targets.sports.toNat)]]

/-- The tables of the document. -/
def entries (s : Settings) : Entries :=
  [("paths", .table .header [("state_dir", .text s.paths.stateDir)]),
    ("display", .table .header [("default_verbosity", .text s.display.defaultVerbosity),
      ("color_output", .boolean s.display.colorOutput)]),
    ("progress", .table .header [
      ("default_target_learning", .integer s.targets.learning.toNat),
      ("default_target_sports", .integer s.targets.sports.toNat)])]

theorem write_eq_lines (s : Settings) : s.write = s.lines.flatMap (· ++ ['\n']) := by
  simp [write, lines, writeHeader, writeValue]

theorem denotes_writeBoolean (b : Bool) : Denotes (writeBoolean b) (.boolean b) := by
  cases b with
  | true => exact denotes_true
  | false => exact denotes_false

theorem denotes_count (n : UInt32) : Denotes (digits n.toNat) (.integer n.toNat) :=
  denotes_digits (Nat.lt_trans n.toNat_lt (by decide))

theorem denotes_text (s : String) : Denotes (writeString s.toList) (.text s) := by
  have h := denotes_writeString s.toList
  rwa [String.ofList_toList] at h

theorem holds_lines (s : Settings) : List.Forall₂ Holds s.lines s.statements := by
  have hpaths : Holds "[paths]".toList _ := @holds_header "paths" (by decide)
  have hdisplay : Holds "[display]".toList _ := @holds_header "display" (by decide)
  have hprogress : Holds "[progress]".toList _ := @holds_header "progress" (by decide)
  refine .cons hpaths ?_
  refine .cons (holds_assignment (by decide) (denotes_text _)) ?_
  refine .cons holds_nil ?_
  refine .cons hdisplay ?_
  refine .cons (holds_assignment (by decide) (denotes_text _)) ?_
  refine .cons (holds_assignment (by decide) (denotes_writeBoolean _)) ?_
  refine .cons holds_nil ?_
  refine .cons hprogress ?_
  refine .cons (holds_assignment (by decide) (denotes_count _)) ?_
  exact .cons (holds_assignment (by decide) (denotes_count _)) .nil

theorem ofStatements?_statements (s : Settings) :
    Entries.ofStatements? s.statements.flatten = some s.entries := by
  simp [statements, Entries.ofStatements?, Draft.add?, entries, openTable?, assignBelow?, assign?,
    update?, insertNew?, Entries.put, List.lookup_cons]

theorem ofText?_text (s : Settings) : Entries.ofText? s.text = some s.entries := by
  have hmark : s.write.head? ≠ some '\uFEFF' := by
    rw [write, writeHeader]
    simp
  rw [Entries.ofText?, text, String.toList_ofList, Entries.read?, if_neg hmark, write_eq_lines,
    readStatements?_lines s.holds_lines]
  exact s.ofStatements?_statements

theorem count?_toNat (n : UInt32) : count? (.integer n.toNat) = some n := by
  have h := n.toNat_lt
  have hrange : (0 : Int) ≤ n.toNat ∧ (n.toNat : Int) < UInt32.size := by
    rw [UInt32.size]
    omega
  rw [count?, if_pos hrange, Int.toNat_natCast, UInt32.ofNat_toNat]

theorem fields?_table_one (origin : Origin) (key : String) (v : Toml) :
    (table origin [(key, v)]).fields? [key] = some [v] := by
  simp [fields?, entries?]

theorem fields?_table_two (origin : Origin) {key key' : String} (h : key' ≠ key) (v v' : Toml) :
    (table origin [(key, v), (key', v')]).fields? [key, key'] = some [v, v'] := by
  have hother : (key' == key) = false := beq_false_of_ne h
  simp [fields?, entries?, List.lookup_cons, hother]

theorem ofToml?_targets (origin : Origin) (v v' : Toml) :
    Targets.ofToml? (.table origin [("default_target_learning", v), ("default_target_sports", v')]) =
      (do return ⟨← v.count?, ← v'.count?⟩) := by
  rw [Targets.ofToml?, fields?_table_two _ (by decide)]
  rfl

theorem ofEntries?_entries (s : Settings) : ofEntries? s.entries = some s := by
  have hpaths : section? Paths.ofToml? {} s.entries "paths" = some s.paths := by
    simp [section?, entries, Paths.ofToml?, fields?_table_one, text?]
  have hdisplay : section? Display.ofToml? {} s.entries "display" = some s.display := by
    simp [section?, entries, Display.ofToml?, fields?_table_two, text?, boolean?, List.lookup_cons]
  have htargets : section? Targets.ofToml? {} s.entries "progress" = some s.targets := by
    simp [section?, entries, ofToml?_targets, List.lookup_cons, count?_toNat]
  rw [ofEntries?, hpaths, hdisplay, htargets]
  rfl

theorem parse_of_ofText? {text : String} {entries : Entries}
    (hdocument : Entries.ofText? text = some entries) :
    parse text =
      match ofEntries? entries with
      | some s => s.validate.map fun _ => s
      | none => .error .malformedSettings := by
  rw [parse, hdocument, Option.bind_some]
  cases ofEntries? entries with
  | none => rfl
  | some s =>
    dsimp only
    cases s.validate <;> rfl

theorem parse_text (s : Settings) : parse s.text = s.validate.map fun _ => s := by
  rw [parse_of_ofText? (ofText?_text s), ofEntries?_entries]

end Temperament.Settings
