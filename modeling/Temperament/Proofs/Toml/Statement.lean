import Mathlib.Data.List.Forall2
import Temperament.Proofs.Toml.Value
import Temperament.Toml.Statement

/-!
# Reading back lines

A line holds some statements if reading goes on behind it with these (`Holds`): the header of a
table and an assignment hold one, an empty line none.  A document is read line by line
(`readStatements?_lines`).
-/

namespace Temperament.Toml

/-! ## Keys -/

theorem isVisible_of_isBareKeyChar {c : Char} (hc : isBareKeyChar c = true) :
    isVisible c = true := by
  have hne (d : Char) (hd : isBareKeyChar d = false) : c ≠ d := by
    rintro rfl
    rw [hd] at hc
    cases hc
  simp [isVisible, isSpace, hne ' ' rfl, hne '\t' rfl, hne '\n' rfl, hne '\r' rfl]

/-- Whether a key needs no marks. -/
def isBareKey (key : String) : Bool :=
  !key.toList.isEmpty && key.toList.all isBareKeyChar

section BareKey

variable {key : String} (h : isBareKey key = true)

include h

theorem forall_of_isBareKey : ∀ c ∈ key.toList, isBareKeyChar c = true := by
  rw [isBareKey, Bool.and_eq_true] at h
  exact List.all_eq_true.1 h.2

theorem exists_cons_of_isBareKey : ∃ c cs, key.toList = c :: cs ∧ isBareKeyChar c = true := by
  have hne : key.toList ≠ [] := by
    rintro heq
    rw [isBareKey, heq] at h
    cases h
  obtain ⟨c, cs, hcs⟩ := List.exists_cons_of_ne_nil hne
  exact ⟨c, cs, hcs, forall_of_isBareKey h c (hcs ▸ List.mem_cons_self)⟩

theorem readKeyPart?_bare {rest : List Char}
    (hrest : ∀ c ∈ rest.head?, isBareKeyChar c = false) :
    readKeyPart? (key.toList ++ rest) = some (key, rest) := by
  obtain ⟨c, cs, hcs, hc⟩ := exists_cons_of_isBareKey h
  have hquote : c ≠ '"' := by rintro rfl; cases hc
  have happos : c ≠ '\'' := by rintro rfl; cases hc
  obtain ⟨htake, hdrop⟩ := Text.span_append (forall_of_isBareKey h) hrest
  have hkey : String.ofList (c :: cs) = key := by rw [← hcs, String.ofList_toList]
  rw [hcs] at htake hdrop ⊢
  rw [List.cons_append] at htake hdrop ⊢
  simp [readKeyPart?, hquote, happos, htake, hdrop, hkey]

theorem readKey?_bare {rest : List Char}
    (hrest : ∀ c ∈ rest.head?, isBareKeyChar c = false)
    (hdot : ∀ c ∈ (skipSpaces rest).head?, c ≠ '.') :
    readKey? (key.toList ++ rest) = some (([], key), skipSpaces rest) := by
  obtain ⟨c, cs, hcs, hc⟩ := exists_cons_of_isBareKey h
  have hskip : skipSpaces (key.toList ++ rest) = key.toList ++ rest := by
    rw [hcs]
    exact skipSpaces_of_isVisible (isVisible_of_isBareKeyChar hc) _
  have hparts : readKeyParts? depthLimit (key.toList ++ rest) = some ([key], skipSpaces rest) := by
    rw [depthLimit, readKeyParts?, hskip, readKeyPart?_bare h hrest]
    simp only [Option.bind_eq_bind, Option.bind_some]
    split
    · rename_i heq
      rw [heq] at hdot
      exact absurd rfl (hdot '.' rfl)
    · rfl
  rw [readKey?, hparts]
  rfl

end BareKey

/-! ## Lines -/

/-- Reading goes on behind a line with the statements that it holds. -/
def Holds (line : List Char) (statements : List Statement) : Prop :=
  ∀ fuel rest, readLines? (fuel + 1) (line ++ '\n' :: rest) =
    (readLines? fuel rest).map (statements ++ ·)

theorem readLineEnd?_newline (rest : List Char) : readLineEnd? ('\n' :: rest) = some rest :=
  rfl

theorem holds_nil : Holds [] [] := by
  intro fuel rest
  rw [List.nil_append, readLines?, readLineEnd?_newline]
  simp

theorem holds_of_readStatement? {c : Char} {cs : List Char} {statement : Statement}
    (hc : isVisible c = true) (hcomment : c ≠ '#')
    (h : ∀ rest, readStatement? (c :: cs ++ '\n' :: rest) = some (statement, '\n' :: rest)) :
    Holds (c :: cs) [statement] := by
  intro fuel rest
  have hskip := skipSpaces_of_isVisible hc (cs ++ '\n' :: rest)
  have hend : readLineEnd? (c :: cs ++ '\n' :: rest) = none := by
    have hne : (c :: (cs ++ '\n' :: rest)).head? ≠ some '#' := fun heq =>
      hcomment (Option.some.inj heq)
    rw [readLineEnd?, List.cons_append, hskip, skipComment, if_neg hne]
    exact readNewline?_of_isVisible hc _
  rw [readLines?, hend, List.cons_append, hskip, ← List.cons_append, h]
  simp only [Option.bind_eq_bind, Option.bind_some, readLineEnd?_newline]
  cases readLines? fuel rest <;> rfl

theorem holds_header {key : String} (h : isBareKey key = true) :
    Holds ('[' :: (key.toList ++ [']'])) [.openTable [] key] := by
  refine holds_of_readStatement? rfl (by decide) fun rest => ?_
  obtain ⟨c, cs, hcs, hc⟩ := exists_cons_of_isBareKey h
  have hbracket : c ≠ '[' := by rintro rfl; cases hc
  have hkey : readKey? (key.toList ++ ']' :: '\n' :: rest) = some (([], key), ']' :: '\n' :: rest) :=
    readKey?_bare h (by simp; rfl) (by simp [skipSpaces, isSpace])
  have hshape : '[' :: (key.toList ++ [']']) ++ '\n' :: rest =
      '[' :: (key.toList ++ ']' :: '\n' :: rest) := by simp
  rw [hshape, readStatement?, hkey]
  · simp [readMark?]
  · intro ds heq
    rw [hcs] at heq
    exact hbracket (List.cons.inj heq).1

theorem holds_assignment {key : String} (h : isBareKey key = true) {cs : List Char} {v : Toml}
    (hv : Denotes cs v) : Holds (key.toList ++ " = ".toList ++ cs) [.assign [] key v] := by
  obtain ⟨c, ds, hds, hc⟩ := exists_cons_of_isBareKey h
  have hbracket : c ≠ '[' := by rintro rfl; cases hc
  have hcomment : c ≠ '#' := by rintro rfl; cases hc
  have hkey (rest : List Char) : readKey? (key.toList ++ " = ".toList ++ cs ++ '\n' :: rest) =
      some (([], key), "= ".toList ++ cs ++ '\n' :: rest) := by
    rw [List.append_assoc, List.append_assoc]
    exact readKey?_bare h (by simp; rfl) (by simp [skipSpaces, isSpace])
  have hread (rest : List Char) :
      readAssignment? (key.toList ++ " = ".toList ++ cs ++ '\n' :: rest) =
        some (.assign [] key v, '\n' :: rest) := by
    have hskip : skipSpaces (' ' :: (cs ++ '\n' :: rest)) = cs ++ '\n' :: rest :=
      hv.skipSpaces ('\n' :: rest)
    rw [readAssignment?, hkey]
    simp [readMark?, hskip, hv.read]
  rw [hds] at hread ⊢
  refine holds_of_readStatement? (isVisible_of_isBareKeyChar hc) hcomment fun rest => ?_
  refine Eq.trans ?_ (hread rest)
  rw [readStatement?]
  · rfl
  · rintro es heq
    exact hbracket (List.cons.inj heq).1
  · rintro es heq
    exact hbracket (List.cons.inj heq).1

theorem readLines?_lines {lines : List (List Char)} {statements : List (List Statement)}
    (h : List.Forall₂ Holds lines statements) {fuel : Nat} (hfuel : lines.length < fuel) :
    readLines? fuel (lines.flatMap (· ++ ['\n'])) = some statements.flatten := by
  induction h generalizing fuel with
  | nil =>
    obtain ⟨k, rfl⟩ := Nat.exists_eq_succ_of_ne_zero (Nat.ne_of_gt hfuel)
    rfl
  | cons hline _ ih =>
    rename_i line held lines statements
    obtain ⟨k, rfl⟩ := Nat.exists_eq_succ_of_ne_zero (Nat.ne_of_gt (Nat.zero_lt_of_lt hfuel))
    rw [List.flatMap_cons, List.append_assoc, List.singleton_append, hline,
      ih (Nat.lt_of_succ_lt_succ hfuel), List.flatten_cons]
    rfl

theorem readStatements?_lines {lines : List (List Char)} {statements : List (List Statement)}
    (h : List.Forall₂ Holds lines statements) :
    readStatements? (lines.flatMap (· ++ ['\n'])) = some statements.flatten := by
  have hlength : lines.length ≤ (lines.flatMap (· ++ ['\n'])).length := by
    clear h
    induction lines with
    | nil => exact Nat.le_refl 0
    | cons line lines ih =>
      rw [List.flatMap_cons, List.length_append, List.length_append, List.length_cons,
        List.length_singleton]
      omega
  exact readLines?_lines h (Nat.lt_succ_of_le hlength)

end Temperament.Toml
