import Temperament.Proofs.Json.Record
import Temperament.Proofs.Json.Text
import Temperament.Proofs.SortedMap
import Temperament.Proofs.Text.ByteOrder
import Temperament.Scratch

/-!
# The text of the scratch file

Entries are read back from the text that they are written as (`ofText?_text`), whatever characters
their keys and values hold.  The text is laid out one entry to a line, in the order of the bytes of
the keys (`isPretty_text`).
-/

namespace Temperament.Scratch.Entries

open Json

/-! ## Scanning -/

/-- An entry as the member of an object. -/
def member (entry : String × String) : List Piece × Json :=
  (encode entry.1.toList, ofString entry.2)

theorem scan?_quoted (s : String) (rest : List Char) :
    scan? (quoted s ++ rest) = (scan? rest).map (.string (encode s.toList) :: ·) :=
  scan?_token (t := .string (encode s.toList)) (fun _ hp => isWritable_of_mem_encode hp) nofun

theorem scan?_writeEntry (entry : String × String) (rest : List Char) :
    scan? (writeEntry entry ++ rest) = (scan? rest).map fun ts =>
      .string (member entry).1 :: .colon :: ((member entry).2.tokens ++ ts) := by
  have hcolon (cs : List Char) : scan? (':' :: cs) = (scan? cs).map (.colon :: ·) :=
    scan?_token (t := .colon) trivial nofun
  have hspace (cs : List Char) : scan? (' ' :: cs) = scan? cs := scan?_space rfl cs
  simp only [writeEntry, List.cons_append, List.append_assoc, hspace, scan?_quoted, hcolon,
    Option.map_map]
  rfl

theorem scan?_closeObject : scan? ['\x7d'] = some [.closeObject] := by
  show scan? (Token.closeObject.text ++ []) = _
  rw [scan?_token (t := .closeObject) trivial nofun, scan?_nil]
  rfl

theorem scan?_writeMore (entries : List (String × String)) :
    scan? (writeMore entries) = some (moreMembers (entries.map member)) := by
  have hline (cs : List Char) : scan? ('\n' :: cs) = scan? cs := scan?_space rfl cs
  induction entries with
  | nil =>
    rw [writeMore, hline]
    exact scan?_closeObject
  | cons entry entries ih =>
    have hcomma (cs : List Char) : scan? (',' :: cs) = (scan? cs).map (.comma :: ·) :=
      scan?_token (t := .comma) trivial nofun
    rw [writeMore, hcomma, hline, scan?_writeEntry, ih]
    rfl

theorem scan?_write (entries : Entries) :
    scan? entries.write = some (object (entries.toList.map member)).tokens := by
  have hopen (cs : List Char) : scan? ('\x7b' :: cs) = (scan? cs).map (.openObject :: ·) :=
    scan?_token (t := .openObject) trivial nofun
  have hline (cs : List Char) : scan? ('\n' :: cs) = scan? cs := scan?_space rfl cs
  unfold write
  rcases entries.toList with _ | ⟨entry, rest⟩
  · simp only [hopen, scan?_closeObject]
    rfl
  · simp only [hopen, hline, scan?_writeEntry, scan?_writeMore]
    rfl

/-! ## Reading back -/

theorem ofMember?_member (entry : String × String) : ofMember? (member entry) = some entry := by
  have hvalue : string? (ofString entry.2) = some entry.2 := pieceText?_encode entry.2
  simp only [ofMember?, member, pieceText?_encode, hvalue, Option.bind_eq_bind, Option.bind_some,
    Option.pure_def]

theorem ofText?_text (entries : Entries) : ofText? entries.text = some entries := by
  have hread : Json.ofText? entries.text = some (object (entries.toList.map member)) := by
    rw [Json.ofText?, text, String.toList_ofList, read?, scan?_write]
    exact ofTokens?_tokens _
  rw [ofText?, hread]
  show (((entries.toList.map member).mapM ofMember?).map SortedMap.ofList) = _
  rw [mapM_map_eq_some ofMember?_member, Option.map_some, SortedMap.ofList_toList]

/-! ## Layout -/

/-- A text between quotes, with the escapes of a JSON string. -/
def quotedText (s : String) : String :=
  String.ofList (quoted s)

def entryLine (entry : String × String) : String :=
  "  " ++ quotedText entry.1 ++ ": " ++ quotedText entry.2

/-- The layout of an object: a line for each entry between two braces, or the braces alone. -/
def layout (entries : List (String × String)) : String :=
  if entries.isEmpty then "\x7b\x7d"
  else "\x7b\n" ++ ",\n".intercalate (entries.map entryLine) ++ "\n\x7d"

/-- The canonical text of entries: laid out in lines, by increasing bytes of their keys. -/
structure IsPretty (entries : Entries) (s : String) : Prop where
  eq_layout : s = layout entries.toList
  ordered : (entries.keys.map Text.utf8Bytes).Pairwise (· < ·)

theorem ofList_writeEntry (entry : String × String) :
    String.ofList (writeEntry entry) = entryLine entry := by
  apply String.toList_injective
  simp [writeEntry, entryLine, quotedText]

theorem ofList_writeMore (entry : String × String) (rest : List (String × String)) :
    String.ofList (writeEntry entry ++ writeMore rest) =
      ",\n".intercalate ((entry :: rest).map entryLine) ++ "\n\x7d" := by
  induction rest generalizing entry with
  | nil =>
    rw [String.ofList_append, ofList_writeEntry]
    simp [writeMore]
  | cons next rest ih =>
    have hcomma (cs : List Char) :
        String.ofList (',' :: '\n' :: cs) = ",\n" ++ String.ofList cs :=
      String.toList_injective (by simp)
    rw [writeMore, String.ofList_append, ofList_writeEntry, hcomma, ih, List.map_cons, List.map_cons,
      List.map_cons, String.intercalate_cons_cons]
    simp only [String.append_assoc]

theorem isPretty_text (entries : Entries) : IsPretty entries entries.text where
  eq_layout := by
    unfold text write layout
    rcases entries.toList with _ | ⟨entry, rest⟩
    · rfl
    · have hopen (cs : List Char) :
          String.ofList ('\x7b' :: '\n' :: cs) = "\x7b\n" ++ String.ofList cs :=
        String.toList_injective (by simp)
      simp only [hopen, ofList_writeMore, List.isEmpty_cons, Bool.false_eq_true, if_false,
        String.append_assoc]
  ordered := by
    rw [SortedMap.keys, List.map_map, List.pairwise_map]
    exact entries.sorted.imp fun h => Text.utf8Bytes_lt_utf8Bytes (compareOfLessAndEq_eq_lt.1 h)

end Temperament.Scratch.Entries
