import Temperament.Date
import Temperament.Proofs.Text.Decimal

/-!
# Reading back dates

Every date is read back from its text (`ofText?_text`): the year has four digits at least, which is
all a year without a sign may have, and any number of them after a sign.
-/

namespace Temperament

namespace Text

theorem isBlank_of_isDigit {c : Char} (hc : c.isDigit = true) : isBlank c = false := by
  simp only [Char.isDigit, Bool.and_eq_true, decide_eq_true_eq, UInt32.le_iff_toNat_le] at hc
  have hlow : 48 ≤ c.toNat := hc.1
  have hhigh : c.toNat ≤ 57 := hc.2
  simp only [isBlank, Ranges.contains, blankRanges, List.any_cons, List.any_nil, Bool.or_false,
    Bool.or_eq_false_iff, Bool.and_eq_false_iff, decide_eq_false_iff_not]
  omega

theorem trimStart_cons {c : Char} (hc : isBlank c = false) (cs : List Char) :
    trimStart (c :: cs) = c :: cs :=
  List.dropWhile_cons_of_neg (by simp [hc])

/-! ## Padded numerals -/

theorem all_isDigit_paddedDigits (width n : Nat) :
    (paddedDigits width n).all Char.isDigit = true := by
  have hn := isNumeral_digits n
  simp only [isNumeral, Bool.and_eq_true] at hn
  rw [paddedDigits, List.all_append, hn.2, Bool.and_true, List.all_replicate]
  split <;> rfl

theorem notMem_paddedDigits {c : Char} (hc : c.isDigit = false) (width n : Nat) :
    c ∉ paddedDigits width n := fun hmem =>
  ne_of_isDigit (List.all_eq_true.1 (all_isDigit_paddedDigits width n) c hmem) hc rfl

theorem ofDigits_paddedDigits (width n : Nat) : ofDigits (paddedDigits width n) = n := by
  rw [ofDigits, paddedDigits, Nat.ofDigitChars_append, Nat.ofDigitChars_replicate_zero, Nat.mul_zero]
  exact ofDigits_digits n

theorem paddedDigits_ne_nil (width n : Nat) : paddedDigits width n ≠ [] :=
  List.append_ne_nil_of_right_ne_nil _ Nat.toDigits_ne_nil

theorem length_digits_le_two {n : Nat} (hn : n < 100) : (digits n).length ≤ 2 :=
  (Nat.length_toDigits_le_iff (by decide) (by decide)).2 hn

theorem length_digits_le_four {n : Nat} (hn : n < 10000) : (digits n).length ≤ 4 :=
  (Nat.length_toDigits_le_iff (by decide) (by decide)).2 hn

theorem length_paddedDigits {width n : Nat} (hn : (digits n).length ≤ width) :
    (paddedDigits width n).length = width := by
  rw [paddedDigits, List.length_append, List.length_replicate]
  omega

theorem trimStart_paddedDigits (width n : Nat) (rest : List Char) :
    trimStart (paddedDigits width n ++ rest) = paddedDigits width n ++ rest := by
  obtain ⟨d, ds, hd⟩ := List.exists_cons_of_ne_nil (paddedDigits_ne_nil width n)
  have hall := all_isDigit_paddedDigits width n
  rw [hd, List.all_cons, Bool.and_eq_true] at hall
  rw [hd, List.cons_append, trimStart_cons (isBlank_of_isDigit hall.1)]

end Text

namespace Date

open Text

/-! ## Numerals -/

theorem readShort?_paddedDigits {width n : Nat} (hn : (digits n).length ≤ width)
    (rest : List Char) : readShort? width (paddedDigits width n ++ rest) = some (n, rest) := by
  have hlength := length_paddedDigits hn
  have htake : (paddedDigits width n ++ rest).take width = paddedDigits width n :=
    List.take_left' hlength
  have hdigits : (paddedDigits width n).takeWhile Char.isDigit = paddedDigits width n := by
    have hall := List.all_eq_true.1 (all_isDigit_paddedDigits width n)
    rw [← List.append_nil (paddedDigits width n), List.takeWhile_append_of_pos hall]
    simp
  have hne : (paddedDigits width n).isEmpty = false := by
    simpa using paddedDigits_ne_nil width n
  simp only [readShort?, htake, hdigits, hne, Bool.false_eq_true, if_false, ofDigits_paddedDigits,
    List.drop_left]

theorem readLong?_paddedDigits (width n : Nat) (rest : List Char) :
    readLong? (paddedDigits width n ++ '-' :: rest) = some (n, '-' :: rest) := by
  have hspan : spanDigits (paddedDigits width n ++ '-' :: rest) =
      (paddedDigits width n, '-' :: rest) :=
    spanDigits_append_rest (all_isDigit_paddedDigits width n) (by simp)
  have hne : (paddedDigits width n).isEmpty = false := by
    simpa using paddedDigits_ne_nil width n
  simp only [readLong?, hspan, hne, Bool.false_eq_true, if_false, ofDigits_paddedDigits]

theorem readYear?_unsigned {n : Nat} (hn : n < 10000) (rest : List Char) :
    readYear? (paddedDigits 4 n ++ rest) = some ((n : Int), rest) := by
  have hread := readShort?_paddedDigits (length_digits_le_four hn) rest
  have hall := all_isDigit_paddedDigits 4 n
  obtain ⟨d, ds, hd⟩ := List.exists_cons_of_ne_nil (paddedDigits_ne_nil 4 n)
  rw [hd, List.all_cons, Bool.and_eq_true] at hall
  rw [hd] at hread ⊢
  unfold readYear?
  split
  · rename_i heq
    obtain ⟨rfl, -⟩ := List.cons.inj heq
    exact absurd hall.1 (by decide)
  · rename_i heq
    obtain ⟨rfl, -⟩ := List.cons.inj heq
    exact absurd hall.1 (by decide)
  · rw [hread]
    rfl

theorem readYear?_yearText (year : Int) (rest : List Char) :
    readYear? (trimStart (yearText year ++ '-' :: rest)) = some (year, '-' :: rest) := by
  unfold yearText
  split
  · have hyear : -(year.natAbs : Int) = year := by omega
    rw [List.cons_append, trimStart_cons (by decide), readYear?, readLong?_paddedDigits]
    show some (-(year.natAbs : Int), _) = _
    rw [hyear]
  · have hyear : (year.natAbs : Int) = year := by omega
    split
    · rw [trimStart_paddedDigits, readYear?_unsigned (by omega), hyear]
    · rw [List.cons_append, trimStart_cons (by decide), readYear?, readLong?_paddedDigits]
      show some ((year.natAbs : Int), _) = _
      rw [hyear]

theorem readHyphen?_hyphen (rest : List Char) : readHyphen? ('-' :: rest) = some rest := by
  rw [readHyphen?, trimStart_cons (by decide)]
  rfl

/-! ## Dates -/

theorem month_lt {d : Date} : d.month < 100 := by
  have := d.valid
  simp only [isValid, Bool.and_eq_true, decide_eq_true_eq] at this
  omega

theorem day_lt {d : Date} : d.day < 100 := by
  have hday : daysIn d.year d.month ≤ 31 := by
    unfold daysIn
    split
    · split <;> decide
    · split <;> decide
  have := d.valid
  simp only [isValid, Bool.and_eq_true, decide_eq_true_eq] at this
  omega

theorem ofText?_text (d : Date) : ofText? d.text = some d := by
  have hmonth (rest : List Char) :
      readShort? 2 (trimStart (paddedDigits 2 d.month ++ rest)) = some (d.month, rest) := by
    rw [trimStart_paddedDigits, readShort?_paddedDigits (length_digits_le_two d.month_lt)]
  have hday : readShort? 2 (trimStart (paddedDigits 2 d.day)) = some (d.day, []) := by
    have := readShort?_paddedDigits (length_digits_le_two d.day_lt) []
    rwa [← trimStart_paddedDigits, List.append_nil] at this
  have hend : (trimStart []).isEmpty = true := rfl
  have hfields : ofFields? d.year d.month d.day = some d := by
    rw [ofFields?, dif_pos d.valid]
  rw [ofText?, text, String.toList_ofList, read?, write, List.append_assoc]
  simp only [List.cons_append, readYear?_yearText, readHyphen?_hyphen, hmonth, hday, hend,
    Option.bind_eq_bind, Option.bind_some, if_true, hfields]

end Date

end Temperament
