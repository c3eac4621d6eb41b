import Temperament.Answers
import Temperament.Text.Backspace
import Temperament.Text.Blank
import Temperament.Text.Decimal
import Temperament.View

/-!
# The questionnaire

Answers come as `ID=INDEX` texts, or as lines typed at a prompt that asks the questions in order.
A line that is no choice is asked for again; the end of the lines ends the questionnaire.
-/

namespace Temperament

open Text

namespace Questionnaire

/-! ## Answers as text -/

/-- The text before the first `=` and the text after it. -/
def splitSpec? (cs : List Char) : Option (List Char × List Char) :=
  match cs.dropWhile (· != '=') with
  | [] => none
  | _ :: index => some (cs.takeWhile (· != '='), index)

def readSpec? (cs : List Char) : Option (UInt32 × UInt64) := do
  let (id, index) ← splitSpec? cs
  let id ← readUnsigned? UInt32.size (trim id)
  let index ← readUnsigned? UInt64.size (trim index)
  some (UInt32.ofNat id, UInt64.ofNat index)

/-- Reads an answer of the form `ID=INDEX`. -/
def parseSpec (spec : String) : Except Fault (UInt32 × UInt64) :=
  match readSpec? spec.toList with
  | some answer => .ok answer
  | none => .error (.invalidSpec spec)

/-- Reads the index of an option. -/
def readChoice? (cs : List Char) : Option UInt64 :=
  match readUnsigned? UInt64.size (trim cs) with
  | some index => if index < optionCount then some (UInt64.ofNat index) else none
  | none => none

def choice? (line : String) : Option UInt64 :=
  readChoice? line.toList

/-- Answers the questions of a list by specs, one after the other. -/
def answerSpecs (questions : List Question) (specs : List String) : Except Fault Answers :=
  specs.foldlM (fun answers spec => do
    let (id, index) ← parseSpec spec
    answers.select questions id index) ∅

/-! ## Lines of input -/

/-- The lines of an input; text after the last newline is a line as well. -/
def splitLines (bytes : List UInt8) : List (List UInt8) :=
  match bytes with
  | [] => []
  | b :: rest =>
    let line := (b :: rest).takeWhile (· != 10)
    let after := (b :: rest).dropWhile (· != 10)
    line :: splitLines after.tail
termination_by bytes.length
decreasing_by
  have h := (List.dropWhile_sublist (fun x : UInt8 => x != 10) (l := b :: rest)).length_le
  simp only [List.length_tail, List.length_cons] at h ⊢
  omega

/-- The text of a line, without a carriage return at its end. -/
def lineText (cs : List Char) : List Char :=
  eraseBackspaced (if cs.getLast? = some '\r' then cs.dropLast else cs)

/-- The text of a line of input, unless its bytes are not text. -/
def decodeLine? (line : List UInt8) : Option (List Char) :=
  (String.fromUTF8? (ByteArray.mk line.toArray)).map fun s => lineText s.toList

/-! ## The prompt -/

def promptOption (option : String × Nat) : Styled :=
  View.line (plain "  " ++ (Style.inColour .green).apply s!"[{option.2}]" ++ plain s!" {option.1}")

/-- A question as it is asked. -/
def asked (q : Question) : Styled :=
  View.newline ++ View.line (View.questionHeading q) ++ q.options.toList.zipIdx.flatMap promptOption

/-- What is shown after a line that is no choice. -/
def askAgain : Styled :=
  View.line ((Style.inColour .yellow).apply "请输入 0-3 之间的数字")

/-- What was shown at the prompt, how often a line was read, the end of the lines included, and how
it ended. -/
structure Transcript (α : Type) where
  shown : Styled
  reads : Nat
  outcome : Except Fault α

/-- Waits for the answer to one question: the choice and the lines after it, or no choice at the end
of the lines. -/
def awaitChoice : List (List UInt8) → Transcript (Option (UInt64 × List (List UInt8)))
  | [] => ⟨[], 1, .ok none⟩
  | line :: lines =>
    match decodeLine? line with
    | none => ⟨[], 1, .error .unreadableLine⟩
    | some cs =>
      match readChoice? cs with
      | some index => ⟨[], 1, .ok (some (index, lines))⟩
      | none =>
        let rest := awaitChoice lines
        ⟨askAgain ++ rest.shown, rest.reads + 1, rest.outcome⟩

/-- Asks questions in order, with the answers so far. -/
def ask (all : List Question) : List Question → Answers → List (List UInt8) → Transcript Answers
  | [], answers, _ => ⟨[], 0, .ok answers⟩
  | q :: qs, answers, lines =>
    let choice := awaitChoice lines
    let shown := asked q ++ choice.shown
    match choice.outcome with
    | .error fault => ⟨shown, choice.reads, .error fault⟩
    | .ok none => ⟨shown, choice.reads, .ok answers⟩
    | .ok (some (index, lines)) =>
      match answers.select all q.id index with
      | .error fault => ⟨shown, choice.reads, .error fault⟩
      | .ok answers =>
        let rest := ask all qs answers lines
        ⟨shown ++ rest.shown, choice.reads + rest.reads, rest.outcome⟩

/-- Asks all questions of a list. -/
def run (questions : List Question) (input : List UInt8) : Transcript Answers :=
  ask questions questions ∅ (splitLines input)

end Questionnaire

end Temperament
