import Temperament.Text.Hexadecimal

/-!
# Strings of a settings document

A string has four forms: between single or triple quotation marks, with escapes, and between
single or triple apostrophes, without.  `Form.ofContents` picks the form a string is written in,
the one that needs the fewest escapes; `write` writes it so and `read?` reads any form.
-/

namespace Temperament.Toml

inductive Form
  | basic
  | literal
  | multilineBasic
  | multilineLiteral
  deriving DecidableEq, Inhabited

namespace Form

/-- The mark that a string of this form stands between. -/
def mark : Form → Char
  | basic | multilineBasic => '"'
  | literal | multilineLiteral => '\''

def isMultiline : Form → Bool
  | basic | literal => false
  | multilineBasic | multilineLiteral => true

def hasEscapes : Form → Bool
  | basic | multilineBasic => true
  | literal | multilineLiteral => false

/-- The marks at either end. -/
def fence (form : Form) : List Char :=
  List.replicate (if form.isMultiline then 3 else 1) form.mark

end Form

/-- A control character that no string holds as itself. -/
def isControl (c : Char) : Bool :=
  c.toNat < 0x20 && c != '\t' || c.toNat == 0x7F

/-! ## Writing -/

/-- Whether a text has `count` times the same character in a row, after `seen` of them. -/
def hasRun (mark : Char) (count seen : Nat) : List Char → Bool
  | [] => count ≤ seen
  | c :: cs =>
    if count ≤ seen then true else hasRun mark count (if c = mark then seen + 1 else 0) cs

/-- A control character other than a newline, which a multiline string may hold. -/
def isHidden (c : Char) : Bool :=
  isControl c && c != '\n'

/-- The form a text is written in. -/
def Form.ofContents (cs : List Char) : Form :=
  if !cs.any fun c => c == '"' || c == '\\' || isControl c then .basic
  else if !cs.any fun c => c == '\'' || isControl c then .literal
  else if !cs.any (fun c => c == '\\' || isHidden c) && !hasRun '"' 3 0 cs then .multilineBasic
  else if !cs.any isHidden && !hasRun '\'' 3 0 cs then .multilineLiteral
  else if cs.contains '\n' then .multilineBasic
  else .basic

def hexDigit (n : Nat) : Char :=
  (Nat.digitChar (n % 16)).toUpper

def escapeMark? (c : Char) : Option Char :=
  if c = '\x08' then some 'b'
  else if c = '\t' then some 't'
  else if c = '\n' then some 'n'
  else if c = '\x0c' then some 'f'
  else if c = '\r' then some 'r'
  else if c = '"' then some '"'
  else if c = '\\' then some '\\'
  else none

/-- A character of a string between single quotation marks. -/
def escaped (c : Char) : List Char :=
  match escapeMark? c with
  | some mark => ['\\', mark]
  | none =>
    if isControl c then ['\\', 'u', '0', '0', hexDigit (c.toNat / 16), hexDigit c.toNat] else [c]

/-- The contents of a string between triple quotation marks: a newline stands for itself, and so
does a quotation mark unless two others stand before it. -/
def escapedLines : (quotes : Nat) → List Char → List Char
  | _, [] => []
  | quotes, c :: cs =>
    if c = '\n' then c :: escapedLines 0 cs
    else if c = '"' ∧ quotes < 2 then c :: escapedLines (quotes + 1) cs
    else escaped c ++ escapedLines 0 cs

def Form.contents (cs : List Char) : Form → List Char
  | .basic => cs.flatMap escaped
  | .multilineBasic => escapedLines 0 cs
  | .literal | .multilineLiteral => cs

/-- A string in a form that can hold it; several lines begin on a line of their own. -/
def Form.write (form : Form) (cs : List Char) : List Char :=
  let opening := if form.isMultiline && cs.contains '\n' then form.fence ++ ['\n'] else form.fence
  opening ++ (form.contents cs ++ form.fence)

def writeString (cs : List Char) : List Char :=
  (Form.ofContents cs).write cs

/-! ## Reading -/

/-- The rest after the end of a line. -/
def readNewline? : List Char → Option (List Char)
  | '\n' :: cs => some cs
  | '\r' :: '\n' :: cs => some cs
  | _ => none

def isSpace (c : Char) : Bool :=
  c == ' ' || c == '\t'

def skipSpaces (cs : List Char) : List Char :=
  cs.dropWhile isSpace

def skipBlankLines : List Char → List Char
  | '\r' :: '\n' :: cs => skipBlankLines cs
  | c :: cs => if isSpace c || c == '\n' then skipBlankLines cs else c :: cs
  | [] => []

/-- A character with a code point, if there is one. -/
def charOfCode? (n : Nat) : Option Char :=
  if h : n.isValidChar then some (Char.ofNatAux n h) else none

def codePoint? (ds : List Char) : Option Char :=
  (Text.hexNumber? ds).bind charOfCode?

def escapedChar? (mark : Char) : Option Char :=
  if mark = 'b' then some '\x08'
  else if mark = 't' then some '\t'
  else if mark = 'n' then some '\n'
  else if mark = 'f' then some '\x0c'
  else if mark = 'r' then some '\r'
  else if mark = '"' then some '"'
  else if mark = '\\' then some '\\'
  else none

/-- The character that an escape denotes, after its backslash. -/
def readEscape? : List Char → Option (Char × List Char)
  | 'u' :: a :: b :: c :: d :: cs => (codePoint? [a, b, c, d]).map fun x => (x, cs)
  | 'U' :: a :: b :: c :: d :: e :: f :: g :: h :: cs =>
    (codePoint? [a, b, c, d, e, f, g, h]).map fun x => (x, cs)
  | mark :: cs => (escapedChar? mark).map fun x => (x, cs)
  | [] => none

/-- The next part of a string: a character, or nothing for a line ending behind a backslash,
which is left out together with the blanks and empty lines that follow. -/
def Form.readPart? (form : Form) : List Char → Option (List Char × List Char)
  | [] => none
  | c :: cs =>
    if c = '\\' ∧ form.hasEscapes then
      match form.isMultiline, readNewline? (skipSpaces cs) with
      | true, some rest => some ([], skipBlankLines rest)
      | _, _ => (readEscape? cs).map fun (x, rest) => ([x], rest)
    else if isControl c then
      if form.isMultiline then (readNewline? (c :: cs)).map fun rest => (['\n'], rest) else none
    else some ([c], cs)

/-- The end of a string, with up to two marks that belong to its contents. -/
def Form.readEnd? (form : Form) (cs : List Char) : Option (List Char × List Char) :=
  if form.fence.isPrefixOf cs then
    let rest := cs.drop form.fence.length
    let extra := if form.isMultiline then (rest.take 2).takeWhile (· == form.mark) else []
    some (extra, rest.drop extra.length)
  else none

theorem readNewline?_shorter {cs rest : List Char} (h : readNewline? cs = some rest) :
    rest.length < cs.length := by
  unfold readNewline? at h
  split at h
  · simp_all
  · simp only [Option.some.injEq] at h
    simp only [← h, List.length_cons]
    omega
  · simp at h

theorem skipSpaces_le (cs : List Char) : (skipSpaces cs).length ≤ cs.length :=
  (List.dropWhile_sublist _).length_le

theorem skipBlankLines_le (cs : List Char) : (skipBlankLines cs).length ≤ cs.length := by
  fun_induction skipBlankLines cs with
  | case1 _ ih => simp only [List.length_cons]; omega
  | case2 _ _ _ _ ih => simp only [List.length_cons]; omega
  | case3 | case4 => exact Nat.le_refl _

theorem readEscape?_shorter {cs rest : List Char} {x : Char}
    (h : readEscape? cs = some (x, rest)) : rest.length < cs.length := by
  unfold readEscape? at h
  split at h
  · simp only [Option.map_eq_some_iff, Prod.mk.injEq] at h
    obtain ⟨-, -, -, rfl⟩ := h
    simp only [List.length_cons]
    omega
  · simp only [Option.map_eq_some_iff, Prod.mk.injEq] at h
    obtain ⟨-, -, -, rfl⟩ := h
    simp only [List.length_cons]
    omega
  · simp only [Option.map_eq_some_iff, Prod.mk.injEq] at h
    obtain ⟨-, -, -, rfl⟩ := h
    simp
  · simp at h

theorem Form.readPart?_shorter {form : Form} {cs part rest : List Char}
    (h : form.readPart? cs = some (part, rest)) : rest.length < cs.length := by
  unfold Form.readPart? at h
  split at h
  · simp at h
  · rename_i c cs
    split at h
    · split at h
      · rename_i rest' _ hn
        simp only [Option.some.injEq, Prod.mk.injEq] at h
        have h₁ := readNewline?_shorter hn
        have h₂ := skipSpaces_le cs
        have h₃ := skipBlankLines_le rest'
        rw [← h.2, List.length_cons]
        omega
      · simp only [Option.map_eq_some_iff, Prod.mk.injEq] at h
        obtain ⟨⟨_, rest'⟩, he, -, rfl⟩ := h
        exact Nat.lt_succ_of_lt (readEscape?_shorter he)
    · split at h
      · split at h
        · simp only [Option.map_eq_some_iff, Prod.mk.injEq] at h
          obtain ⟨rest', hn, -, rfl⟩ := h
          exact readNewline?_shorter hn
        · simp at h
      · simp only [Option.some.injEq, Prod.mk.injEq] at h
        simp [← h.2]

/-- Reads the contents of a string and its end. -/
def Form.readContents? (form : Form) (cs : List Char) : Option (List Char × List Char) :=
  match form.readEnd? cs with
  | some (extra, rest) => some (extra, rest)
  | none =>
    match _h : form.readPart? cs with
    | none => none
    | some (part, rest) => (form.readContents? rest).map fun (cs, rest) => (part ++ cs, rest)
termination_by cs.length
decreasing_by exact Form.readPart?_shorter _h

/-- The form of a string, from the marks that it begins with. -/
def Form.ofText? (cs : List Char) : Option Form :=
  [multilineBasic, basic, multilineLiteral, literal].find? fun form => form.fence.isPrefixOf cs

/-- Reads a string of a given form; a newline right after triple marks does not count. -/
def Form.read? (form : Form) (cs : List Char) : Option (List Char × List Char) :=
  let rest := cs.drop form.fence.length
  form.readContents? (if form.isMultiline then (readNewline? rest).getD rest else rest)

def readString? (cs : List Char) : Option (List Char × List Char) :=
  (Form.ofText? cs).bind fun form => form.read? cs

end Temperament.Toml
