import Temperament.Json.Record
import Temperament.Proofs.Text.Decimal

/-!
# Reading back string literals

A piece that is written as JSON allows is read back as itself (`readPiece?_text`), and so is a whole
literal (`readPieces?_text`).  The pieces that `encode` chooses are of this kind, and denote the text
that they were chosen for (`decode?_encode`).
-/

namespace Temperament.Json

open Text

/-! ## Hexadecimal digits -/

theorem hexValue?_digitChar {k : Nat} (hk : k < 16) : hexValue? k.digitChar = some k := by
  have checked : ∀ k : Fin 16, hexValue? k.val.digitChar = some k.val := by decide
  exact checked ⟨k, hk⟩

theorem hexNumber?_hexDigits {n : Nat} (hn : n < 65536) : hexNumber? (hexDigits n) = some n := by
  have digit (k : Nat) : hexValue? (k % 16).digitChar = some (k % 16) :=
    hexValue?_digitChar (Nat.mod_lt _ (by decide))
  simp only [hexNumber?, hexDigits, List.foldlM_cons, List.foldlM_nil, digit, Option.map_some,
    Option.bind_eq_bind, Option.bind_some, Option.pure_def, Option.some.injEq]
  omega

/-! ## Pieces -/

/-- The pieces that stand in a literal of a text. -/
def Piece.IsWritable : Piece → Prop
  | plain c => c ≠ '"' ∧ c ≠ '\\' ∧ isControl c = false
  | short c => escapedChar? ((escapeMark? c).getD c) = some c
  | unit n => n < 65536

theorem isWritable_encodeChar (c : Char) : (encodeChar c).IsWritable := by
  unfold encodeChar
  split_ifs with hmark hcontrol
  · obtain ⟨mark, hm⟩ := Option.isSome_iff_exists.1 hmark
    simp only [Piece.IsWritable, hm, Option.getD_some]
    unfold escapeMark? at hm
    split_ifs at hm with h₁ h₂ h₃ h₄ h₅ h₆ h₇ <;> subst c <;> obtain rfl := Option.some.inj hm <;> rfl
  · simp only [isControl, decide_eq_true_eq] at hcontrol
    show c.toNat < 65536
    omega
  · refine ⟨?_, ?_, by simpa using hcontrol⟩ <;> rintro rfl <;> exact hmark rfl

theorem readEscape?_mark {mark c : Char} (h : escapedChar? mark = some c) (rest : List Char) :
    readEscape? (mark :: rest) = some (.short c, rest) := by
  have hu : mark ≠ 'u' := by
    rintro rfl
    simp [escapedChar?] at h
  unfold readEscape?
  split
  · rename_i heq
    exact absurd (List.cons.inj heq).1 hu
  · rename_i heq
    obtain ⟨rfl, rfl⟩ := List.cons.inj heq
    rw [h]
    rfl
  · rename_i heq
    exact absurd heq (by simp)

theorem readPiece?_text {p : Piece} (hp : p.IsWritable) (rest : List Char) :
    readPiece? (p.text ++ rest) = some (p, rest) := by
  cases p with
  | plain c =>
    obtain ⟨hquote, hslash, hcontrol⟩ := hp
    simp [Piece.text, readPiece?, hquote, hslash, hcontrol]
  | short c =>
    show readPiece? ('\\' :: (escapeMark? c).getD c :: rest) = _
    simp only [readPiece?, if_pos]
    exact readEscape?_mark hp rest
  | unit n =>
    have hn : n < 65536 := hp
    have := hexNumber?_hexDigits hn
    simp only [hexDigits] at this
    simp [Piece.text, readPiece?, hexDigits, readEscape?, this]

/-! ## Literals -/

theorem readPieces?_of_readPiece? {cs rest : List Char} {p : Piece}
    (h : readPiece? cs = some (p, rest)) :
    readPieces? cs = (readPieces? rest).map fun (ps, rest') => (p :: ps, rest') := by
  have hhead : cs.head? ≠ some '"' := by
    rintro hhead
    obtain ⟨cs, rfl⟩ := List.head?_eq_some_iff.1 hhead
    cases h
  rw [readPieces?.eq_def cs, if_neg hhead]
  split
  · rename_i hnone
    cases h.symm.trans hnone
  · rename_i hsome
    cases h.symm.trans hsome
    rfl

theorem readPieces?_text {ps : List Piece} (hps : ∀ p ∈ ps, p.IsWritable) (rest : List Char) :
    readPieces? (ps.flatMap Piece.text ++ '"' :: rest) = some (ps, rest) := by
  induction ps with
  | nil =>
    unfold readPieces?
    simp
  | cons p ps ih =>
    obtain ⟨hp, hps⟩ := List.forall_mem_cons.1 hps
    have hread := readPiece?_text hp (ps.flatMap Piece.text ++ '"' :: rest)
    rw [List.flatMap_cons, List.append_assoc, readPieces?_of_readPiece? hread, ih hps]
    rfl

theorem decode?_unit {n : Nat} (hhigh : isHighSurrogate n = false) (hlow : isLowSurrogate n = false)
    (rest : List Piece) :
    decode? (.unit n :: rest) = (decode? rest).map (Char.ofNat n :: ·) := by
  rcases rest with _ | ⟨q, rest⟩
  · simp [decode?, hhigh, hlow]
  · cases q <;> simp [decode?, hhigh, hlow]

theorem decode?_encodeChar (c : Char) (rest : List Piece) :
    decode? (encodeChar c :: rest) = (decode? rest).map (c :: ·) := by
  unfold encodeChar
  split_ifs with hmark hcontrol
  · rfl
  · simp only [isControl, decide_eq_true_eq] at hcontrol
    rw [decode?_unit, Char.ofNat_toNat]
    · simp only [isHighSurrogate, Bool.and_eq_false_iff, decide_eq_false_iff_not]
      omega
    · simp only [isLowSurrogate, Bool.and_eq_false_iff, decide_eq_false_iff_not]
      omega
  · rfl

theorem decode?_encode (cs : List Char) : decode? (encode cs) = some cs := by
  induction cs with
  | nil => rfl
  | cons c cs ih =>
    rw [encode, List.map_cons, decode?_encodeChar]
    rw [encode] at ih
    rw [ih]
    rfl

@[simp]
theorem pieceText?_encode (s : String) : pieceText? (encode s.toList) = some s := by
  rw [pieceText?, decode?_encode, Option.map_some, String.ofList_toList]

theorem encodeChar_of_isDigit {c : Char} (hc : c.isDigit = true) : encodeChar c = .plain c := by
  have hne (d : Char) (hd : d.isDigit = false) : c ≠ d := ne_of_isDigit hc hd
  have hmark : escapeMark? c = none := by
    simp [escapeMark?, hne '"' rfl, hne '\\' rfl, hne '\x08' rfl, hne '\x0c' rfl, hne '\n' rfl,
      hne '\r' rfl, hne '\t' rfl]
  have hcontrol : isControl c = false := by
    simp only [Char.isDigit, Bool.and_eq_true, decide_eq_true_eq, UInt32.le_iff_toNat_le] at hc
    have hlow : 48 ≤ c.toNat := hc.1
    rw [isControl, decide_eq_false_iff_not]
    omega
  rw [encodeChar, hmark, hcontrol]
  rfl

theorem plain?_encode {cs : List Char} (h : ∀ c ∈ cs, c.isDigit = true) :
    plain? (encode cs) = some cs := by
  induction cs with
  | nil => rfl
  | cons c cs ih =>
    have hrest := ih fun d hd => h d (List.mem_cons_of_mem _ hd)
    rw [plain?, encode] at hrest
    rw [plain?, encode, List.map_cons, encodeChar_of_isDigit (h c List.mem_cons_self),
      List.mapM_cons, hrest]
    rfl

theorem isWritable_of_mem_encode {cs : List Char} {p : Piece} (hp : p ∈ encode cs) :
    p.IsWritable := by
  obtain ⟨c, -, rfl⟩ := List.mem_map.1 hp
  exact isWritable_encodeChar c

end Temperament.Json
