import Temperament.Proofs.Text.Decimal
import Temperament.Proofs.Toml.Literal
import Temperament.Toml.Value

/-!
# Reading back values at the end of a line

The last thing on a line may be a string, a natural number or a boolean (`Denotes`).  A number is
read as an integer since no mark of a date, a time, a fraction or an exponent follows its digits.
-/

namespace Temperament.Toml

open Text

/-- A text is read as a value if its line ends behind it. -/
structure Denotes (cs : List Char) (v : Toml) : Prop where
  isVisible : ∃ c ds, cs = c :: ds ∧ isVisible c = true
  read (rest : List Char) : readValue? (cs ++ '\n' :: rest) = some (v, '\n' :: rest)

theorem Denotes.skipSpaces {cs : List Char} {v : Toml} (h : Denotes cs v) (rest : List Char) :
    skipSpaces (cs ++ rest) = cs ++ rest := by
  obtain ⟨c, ds, rfl, hc⟩ := h.isVisible
  exact skipSpaces_of_isVisible hc _

theorem readValue?_of_ne {c : Char} (hitems : c ≠ '[') (hmembers : c ≠ '\x7b') (cs : List Char) :
    readValue? (c :: cs) = readFlat? (c :: cs) := by
  rw [readValue?, depthLimit, readNested?]
  · rintro rest heq
    exact hitems (List.cons.inj heq).1
  · rintro rest heq
    exact hmembers (List.cons.inj heq).1

/-! ## Strings -/

theorem denotes_writeString (cs : List Char) :
    Denotes (writeString cs) (text (String.ofList cs)) := by
  obtain ⟨ds, hds⟩ := fence_prefix_write (Form.ofContents cs) cs
  have hwrite : ∃ es, writeString cs = (Form.ofContents cs).mark :: es := by
    rw [writeString, ← hds]
    cases Form.ofContents cs <;> exact ⟨_, rfl⟩
  have hread (rest : List Char) :
      readString? (writeString cs ++ '\n' :: rest) = some (cs, '\n' :: rest) :=
    readString?_writeString cs (by simp)
  obtain ⟨es, hes⟩ := hwrite
  rw [hes] at hread ⊢
  refine ⟨⟨_, _, rfl, ?_⟩, fun rest => ?_⟩
  · cases Form.ofContents cs <;> rfl
  · have hmark : (Form.ofContents cs).mark ≠ '[' ∧ (Form.ofContents cs).mark ≠ '\x7b' := by
      cases Form.ofContents cs <;> decide
    rw [List.cons_append, readValue?_of_ne hmark.1 hmark.2, readFlat?, ← List.cons_append,
      hread]

theorem readString?_eq_none {c : Char} (hquote : c ≠ '"') (happos : c ≠ '\'') (cs : List Char) :
    readString? (c :: cs) = none := by
  have hnone : Form.ofText? (c :: cs) = none := by
    rw [Form.ofText?, List.find?_eq_none]
    intro form _
    cases form <;>
      simp [Form.fence, Form.isMultiline, Form.mark, List.isPrefixOf, Ne.symm hquote,
        Ne.symm happos]
  rw [readString?, hnone]
  rfl

/-! ## Booleans -/

theorem denotes_true : Denotes "true".toList (boolean true) :=
  ⟨⟨_, _, rfl, rfl⟩, fun _ => rfl⟩

theorem denotes_false : Denotes "false".toList (boolean false) :=
  ⟨⟨_, _, rfl, rfl⟩, fun _ => rfl⟩

/-! ## Numbers -/

section Numbers

variable {ds rest : List Char}

theorem readMark?_digits (mark : Char) (hmark : mark.isDigit = false) (hnewline : mark ≠ '\n')
    (hds : ds.all Char.isDigit = true) : readMark? mark (ds ++ '\n' :: rest) = none := by
  rcases ds with _ | ⟨d, ds⟩
  · exact if_neg (Ne.symm hnewline)
  · rw [List.all_cons, Bool.and_eq_true] at hds
    exact if_neg (ne_of_isDigit hds.1 hmark)

/-- What is behind some digits is the rest of the digits. -/
theorem readFixed?_digits {width n : Nat} {more : List Char} (hds : ds.all Char.isDigit = true)
    (h : readFixed? width (ds ++ '\n' :: rest) = some (n, more)) :
    ∃ es, es.all Char.isDigit = true ∧ more = es ++ '\n' :: rest := by
  rw [readFixed?] at h
  split_ifs at h with hfixed
  obtain ⟨-, rfl⟩ := Prod.mk.inj (Option.some.inj h)
  have hle : width ≤ ds.length := by
    refine Nat.le_of_not_lt fun hlt => ?_
    have hmem : '\n' ∈ (ds ++ '\n' :: rest).take width := by
      rw [List.take_append, List.mem_append]
      obtain ⟨k, hk⟩ := Nat.exists_eq_add_of_lt hlt
      rw [show width - ds.length = k + 1 by omega]
      exact .inr List.mem_cons_self
    have hnumeral := hfixed.2
    rw [isNumeral, Bool.and_eq_true, List.all_eq_true] at hnumeral
    exact absurd (hnumeral.2 _ hmem) (by decide)
  refine ⟨ds.drop width, ?_, List.drop_append_of_le_length hle⟩
  rw [List.all_eq_true] at hds ⊢
  exact fun c hc => hds c (List.mem_of_mem_drop hc)

/-- No mark follows a number in the middle of digits or at their end. -/
theorem bind_readFixed?_digits {β : Type} (width : Nat) {mark : Char} (hmark : mark.isDigit = false)
    (hnewline : mark ≠ '\n') (hds : ds.all Char.isDigit = true)
    (f : Nat × List Char → List Char → Option β) :
    ((readFixed? width (ds ++ '\n' :: rest)).bind fun n => (readMark? mark n.2).bind (f n)) =
      none := by
  cases hread : readFixed? width (ds ++ '\n' :: rest) with
  | none => rfl
  | some n =>
    obtain ⟨es, hes, hmore⟩ := readFixed?_digits (n := n.1) hds hread
    rw [Option.bind_some, hmore, readMark?_digits mark hmark hnewline hes, Option.bind_none]

theorem readMoment?_digits (hds : ds.all Char.isDigit = true) :
    readMoment? (ds ++ '\n' :: rest) = none := by
  have hdate : readDate? (ds ++ '\n' :: rest) = none :=
    bind_readFixed?_digits 4 rfl (by decide) hds _
  have hclock : readClock? (ds ++ '\n' :: rest) = none :=
    bind_readFixed?_digits 2 rfl (by decide) hds _
  have htime : readTime? (ds ++ '\n' :: rest) = none := by
    rw [readTime?, hclock]
    rfl
  rw [readMoment?, hdate, htime]
  rfl

theorem moreDigits_digits (hds : ds.all Char.isDigit = true) :
    moreDigits Char.isDigit (ds ++ '\n' :: rest) = (ds, '\n' :: rest) := by
  induction ds with
  | nil => rfl
  | cons d ds ih =>
    rw [List.all_cons, Bool.and_eq_true] at hds
    rw [List.cons_append, moreDigits, if_pos hds.1, ih hds.2]
    exact fun c cs hc => absurd hc (ne_of_isDigit hds.1 rfl)

theorem readWhole?_digits (n : Nat) (rest : List Char) :
    readWhole? (digits n ++ '\n' :: rest) = some (digits n, '\n' :: rest) := by
  obtain ⟨d, ds, hd, hdigit⟩ := digits_eq_cons n
  have hall := all_isDigit_digits n
  rw [readWhole?]
  split_ifs with hzero
  · obtain rfl : n = 0 := eq_zero_of_head?_digits (by simpa [hd] using hzero)
    rfl
  · rw [hd, List.all_cons, Bool.and_eq_true] at hall
    rw [hd, List.cons_append, readGroups?, if_pos hdigit, moreDigits_digits hall.2]

theorem spanSign_digits (n : Nat) (rest : List Char) :
    spanSign (digits n ++ rest) = ([], digits n ++ rest) := by
  obtain ⟨d, ds, hd, hdigit⟩ := digits_eq_cons n
  rw [hd, List.cons_append, spanSign]
  · rintro cs heq
    exact ne_of_isDigit hdigit rfl (List.cons.inj heq).1
  · rintro cs heq
    exact ne_of_isDigit hdigit rfl (List.cons.inj heq).1

/-- A number without a fraction and an exponent is no float. -/
theorem readFloat?_digits (n : Nat) (rest : List Char) :
    readFloat? (digits n ++ '\n' :: rest) = none := by
  obtain ⟨d, ds, hd, hdigit⟩ := digits_eq_cons n
  rw [readFloat?, spanSign_digits]
  simp only
  split
  · rename_i heq
    rw [hd] at heq
    exact absurd (List.cons.inj heq).1 (ne_of_isDigit hdigit rfl)
  · rename_i heq
    rw [hd] at heq
    exact absurd (List.cons.inj heq).1 (ne_of_isDigit hdigit rfl)
  · have hfraction : readFraction? ('\n' :: rest) = some ([], '\n' :: rest) := rfl
    have hexponent : readExponent? ('\n' :: rest) = some (0, '\n' :: rest) := by
      simp [readExponent?]
    simp [readWhole?_digits, hfraction, hexponent]

theorem readInteger?_digits {n : Nat} (hn : n < integerLimit) (rest : List Char) :
    readInteger? (digits n ++ '\n' :: rest) = some (integer n, '\n' :: rest) := by
  have hdecimal : readDecimal? (digits n ++ '\n' :: rest) = some (integer n, '\n' :: rest) := by
    rw [readDecimal?, spanSign_digits]
    simp [readWhole?_digits, ofDigits_digits, hn]
  have hbased (mark : Char) (hmark : mark ≠ '\n') (cs : List Char) :
      digits n ++ '\n' :: rest ≠ '0' :: mark :: cs := by
    intro heq
    obtain ⟨d, ds, hd, -⟩ := digits_eq_cons n
    have hhead : (digits n).head? = some '0' := by
      rw [hd] at heq ⊢
      rw [(List.cons.inj heq).1]
      rfl
    obtain rfl := eq_zero_of_head?_digits hhead
    exact hmark (List.cons.inj (List.cons.inj heq).2).1.symm
  rw [readInteger?, hdecimal]
  · exact fun cs => hbased 'x' (by decide) cs
  · exact fun cs => hbased 'o' (by decide) cs
  · exact fun cs => hbased 'b' (by decide) cs

theorem readBoolean?_of_isDigit {c : Char} (hc : c.isDigit = true) (cs : List Char) :
    readBoolean? (c :: cs) = none := by
  unfold readBoolean?
  split
  · rename_i heq
    exact absurd (List.cons.inj heq).1 (ne_of_isDigit hc rfl)
  · rename_i heq
    exact absurd (List.cons.inj heq).1 (ne_of_isDigit hc rfl)
  · rfl

end Numbers

theorem denotes_digits {n : Nat} (hn : n < integerLimit) : Denotes (digits n) (integer n) := by
  obtain ⟨d, ds, hd, hdigit⟩ := digits_eq_cons n
  have hne (c : Char) (hc : c.isDigit = false) : d ≠ c := ne_of_isDigit hdigit hc
  refine ⟨⟨d, ds, hd, ?_⟩, fun rest => ?_⟩
  · simp [isVisible, isSpace, hne ' ' rfl, hne '\t' rfl, hne '\n' rfl, hne '\r' rfl]
  · have hscalar : readScalar? (digits n ++ '\n' :: rest) = some (integer n, '\n' :: rest) := by
      have hboolean : readBoolean? (digits n ++ '\n' :: rest) = none := by
        rw [hd]
        exact readBoolean?_of_isDigit hdigit _
      rw [readScalar?, hboolean, readMoment?_digits (all_isDigit_digits n), readFloat?_digits,
        readInteger?_digits hn]
      rfl
    rw [hd, List.cons_append] at hscalar ⊢
    rw [readValue?_of_ne (hne _ rfl) (hne _ rfl), readFlat?,
      readString?_eq_none (hne _ rfl) (hne _ rfl), hscalar]

end Temperament.Toml
