import Mathlib.Data.List.TakeWhile
import Temperament.Json.Token
import Temperament.Proofs.Text.Decimal

/-!
# The grammar of numbers

Which characters are a JSON number (`IsNumber`), with no mention of how they are read.  What is read is of
this form (`isNumber_of_readNumber?`), and a number is read up to its end if the text behind it is nothing
that it could go on with (`readToken?_isNumber`).
-/

namespace Temperament.Json

open Text

/-! ## Numbers -/

/-- The digits before the point, without superfluous zeros. -/
def IsWhole (ds : List Char) : Prop :=
  isNumeral ds = true ∧ (ds.head? = some '0' → ds = ['0'])

inductive IsFraction : List Char → Prop
  | none : IsFraction []
  | point {ds : List Char} (hds : isNumeral ds = true) : IsFraction ('.' :: ds)

inductive IsSign : List Char → Prop
  | none : IsSign []
  | plus : IsSign ['+']
  | minus : IsSign ['-']

inductive IsExponent : List Char → Prop
  | none : IsExponent []
  | mark {mark : Char} {sign ds : List Char} (hmark : mark = 'e' ∨ mark = 'E') (hsign : IsSign sign)
    (hds : isNumeral ds = true) : IsExponent (mark :: (sign ++ ds))

inductive IsMagnitude : List Char → Prop
  | mk {whole fraction exponent : List Char} (hwhole : IsWhole whole) (hfraction : IsFraction fraction)
    (hexponent : IsExponent exponent) : IsMagnitude (whole ++ fraction ++ exponent)

inductive IsNumber : List Char → Prop
  | positive {literal : List Char} (h : IsMagnitude literal) : IsNumber literal
  | negative {literal : List Char} (h : IsMagnitude literal) : IsNumber ('-' :: literal)

/-! ## What is read of a number -/

theorem isNumeral_spanDigits {cs : List Char} (h : (spanDigits cs).1.isEmpty = false) :
    isNumeral (spanDigits cs).1 = true := by
  rw [isNumeral, h]
  exact List.all_takeWhile

theorem isWhole_spanInteger {cs : List Char} (h : (spanInteger cs).1.isEmpty = false) :
    cs = (spanInteger cs).1 ++ (spanInteger cs).2 ∧ IsWhole (spanInteger cs).1 := by
  unfold spanInteger at h ⊢
  split_ifs at h ⊢ with hzero
  · obtain ⟨cs, rfl⟩ := List.head?_eq_some_iff.1 hzero
    exact ⟨rfl, rfl, fun _ => rfl⟩
  · refine ⟨(spanDigits_append cs).symm, isNumeral_spanDigits h, fun hhead => absurd ?_ hzero⟩
    obtain ⟨ds, hds⟩ := List.head?_eq_some_iff.1 hhead
    rw [← spanDigits_append cs, hds]
    rfl

theorem isFraction_spanFraction (cs : List Char) :
    cs = (spanFraction cs).1 ++ (spanFraction cs).2 ∧ IsFraction (spanFraction cs).1 := by
  unfold spanFraction
  split
  · rename_i cs
    dsimp only
    split_ifs with hempty
    · exact ⟨rfl, .none⟩
    · refine ⟨?_, .point (isNumeral_spanDigits (by simpa using hempty))⟩
      rw [List.cons_append, spanDigits_append]
  · exact ⟨rfl, .none⟩

theorem isSign_spanSign (cs : List Char) :
    cs = (spanSign cs).1 ++ (spanSign cs).2 ∧ IsSign (spanSign cs).1 := by
  unfold spanSign
  split
  · exact ⟨rfl, .plus⟩
  · exact ⟨rfl, .minus⟩
  · exact ⟨rfl, .none⟩

theorem isExponent_spanExponent (cs : List Char) :
    cs = (spanExponent cs).1 ++ (spanExponent cs).2 ∧ IsExponent (spanExponent cs).1 := by
  unfold spanExponent
  split
  · exact ⟨rfl, .none⟩
  · rename_i c cs
    dsimp only
    split_ifs with hmark hempty
    · exact ⟨rfl, .none⟩
    · obtain ⟨hcs, hsign⟩ := isSign_spanSign cs
      refine ⟨?_, .mark hmark hsign (isNumeral_spanDigits (by simpa using hempty))⟩
      rw [List.cons_append, List.append_assoc, spanDigits_append, ← hcs]
    · exact ⟨rfl, .none⟩

theorem isMagnitude_of_readMagnitude? {cs literal rest : List Char}
    (h : readMagnitude? cs = some (literal, rest)) : cs = literal ++ rest ∧ IsMagnitude literal := by
  simp only [readMagnitude?] at h
  split_ifs at h with hempty
  cases h
  obtain ⟨hcs, hwhole⟩ := isWhole_spanInteger (by simpa using hempty)
  obtain ⟨hafter, hfraction⟩ := isFraction_spanFraction (spanInteger cs).2
  obtain ⟨hbehind, hexponent⟩ := isExponent_spanExponent (spanFraction (spanInteger cs).2).2
  refine ⟨?_, .mk hwhole hfraction hexponent⟩
  rw [List.append_assoc, ← hbehind, List.append_assoc, ← hafter, ← hcs]

theorem isNumber_of_readNumber? {cs literal rest : List Char}
    (h : readNumber? cs = some (literal, rest)) : cs = literal ++ rest ∧ IsNumber literal := by
  unfold readNumber? at h
  split at h
  · obtain ⟨⟨literal, rest⟩, hread, heq⟩ := Option.map_eq_some_iff.1 h
    cases heq
    obtain ⟨rfl, hliteral⟩ := isMagnitude_of_readMagnitude? hread
    exact ⟨rfl, .negative hliteral⟩
  · obtain ⟨rfl, hliteral⟩ := isMagnitude_of_readMagnitude? h
    exact ⟨rfl, .positive hliteral⟩

/-! ## A number before other text -/

/-- A number does not go on with this text. -/
def EndsNumber (rest : List Char) : Prop :=
  ∀ c ∈ rest.head?, c.isDigit = false ∧ c ≠ '.' ∧ c ≠ 'e' ∧ c ≠ 'E'

theorem endsNumber_nil : EndsNumber [] := by simp [EndsNumber]

theorem spanDigits_isNumeral {ds rest : List Char} (h : isNumeral ds = true)
    (hrest : ∀ c ∈ rest.head?, c.isDigit = false) : spanDigits (ds ++ rest) = (ds, rest) := by
  rw [isNumeral, Bool.and_eq_true] at h
  exact spanDigits_append_rest h.2 hrest

theorem spanInteger_isWhole {whole rest : List Char} (h : IsWhole whole)
    (hrest : ∀ c ∈ rest.head?, c.isDigit = false) :
    spanInteger (whole ++ rest) = (whole, rest) := by
  obtain ⟨d, ds, rfl, -⟩ := exists_cons_of_isNumeral h.1
  unfold spanInteger
  split_ifs with hzero
  · rw [h.2 hzero]
    rfl
  · exact spanDigits_isNumeral h.1 hrest

theorem spanFraction_isFraction {fraction rest : List Char} (h : IsFraction fraction)
    (hrest : ∀ c ∈ rest.head?, c.isDigit = false ∧ c ≠ '.') :
    spanFraction (fraction ++ rest) = (fraction, rest) := by
  cases h with
  | none =>
    rw [List.nil_append]
    unfold spanFraction
    split
    · exact absurd rfl (hrest '.' rfl).2
    · rfl
  | @point ds hds =>
    obtain ⟨d, ds, rfl, -⟩ := exists_cons_of_isNumeral hds
    have hspan := spanDigits_isNumeral hds fun c hc => (hrest c hc).1
    rw [List.cons_append, spanFraction, hspan]
    rfl

theorem spanSign_isSign {sign ds : List Char} (h : IsSign sign) (hds : isNumeral ds = true)
    (rest : List Char) : spanSign (sign ++ (ds ++ rest)) = (sign, ds ++ rest) := by
  cases h with
  | none =>
    obtain ⟨d, ds, rfl, hd⟩ := exists_cons_of_isNumeral hds
    rw [List.nil_append]
    unfold spanSign
    split
    · rename_i heq
      exact absurd (List.cons.inj heq).1 (ne_of_isDigit hd rfl)
    · rename_i heq
      exact absurd (List.cons.inj heq).1 (ne_of_isDigit hd rfl)
    · rfl
  | plus | minus => rfl

theorem spanExponent_isExponent {exponent rest : List Char} (h : IsExponent exponent)
    (hrest : EndsNumber rest) : spanExponent (exponent ++ rest) = (exponent, rest) := by
  cases h with
  | none =>
    rw [List.nil_append]
    rcases rest with _ | ⟨c, rest⟩
    · rfl
    · obtain ⟨-, -, he, hE⟩ := hrest c rfl
      simp [spanExponent, he, hE]
  | @mark mark sign ds hmark hsign hds =>
    have hspan := spanDigits_isNumeral hds fun c hc => (hrest c hc).1
    obtain ⟨d, ds, rfl, -⟩ := exists_cons_of_isNumeral hds
    rw [List.cons_append, List.append_assoc, spanExponent, if_pos hmark, spanSign_isSign hsign hds]
    dsimp only
    rw [hspan]
    rfl

theorem readMagnitude?_isMagnitude {literal rest : List Char} (h : IsMagnitude literal)
    (hrest : EndsNumber rest) : readMagnitude? (literal ++ rest) = some (literal, rest) := by
  obtain @⟨whole, fraction, exponent, hwhole, hfraction, hexponent⟩ := h
  have hbehind : ∀ c ∈ (exponent ++ rest).head?, c.isDigit = false ∧ c ≠ '.' := by
    cases hexponent with
    | none => exact fun c hc => ⟨(hrest c hc).1, (hrest c hc).2.1⟩
    | mark hmark => rcases hmark with rfl | rfl <;> simp
  have hafter : ∀ c ∈ (fraction ++ (exponent ++ rest)).head?, c.isDigit = false := by
    cases hfraction with
    | none => exact fun c hc => (hbehind c hc).1
    | point => simp
  obtain ⟨d, ds, hd, -⟩ := exists_cons_of_isNumeral hwhole.1
  have hempty : whole.isEmpty = false := by rw [hd]; rfl
  simp only [readMagnitude?, List.append_assoc, spanInteger_isWhole hwhole hafter,
    spanFraction_isFraction hfraction hbehind, spanExponent_isExponent hexponent hrest, hempty]
  rfl

theorem IsMagnitude.head_isDigit {literal : List Char} (h : IsMagnitude literal) :
    ∃ d ds, literal = d :: ds ∧ d.isDigit = true := by
  obtain ⟨hwhole, -, -⟩ := h
  obtain ⟨d, ds, rfl, hd⟩ := exists_cons_of_isNumeral hwhole.1
  exact ⟨d, _, rfl, hd⟩

theorem readToken?_of_isDigit {c : Char} (hc : c.isDigit = true) (cs : List Char) :
    readToken? (c :: cs) =
      (readNumber? (c :: cs)).map fun (literal, rest) => (.number literal, rest) := by
  unfold readToken?
  split <;> try rfl
  all_goals
    rename_i heq
    exact absurd (List.cons.inj heq).1 (ne_of_isDigit hc rfl)

theorem readToken?_isNumber {literal rest : List Char} (h : IsNumber literal)
    (hrest : EndsNumber rest) :
    readToken? (literal ++ rest) = some (.number literal, rest) := by
  cases h with
  | positive h =>
    have hread := readMagnitude?_isMagnitude h hrest
    obtain ⟨d, ds, rfl, hd⟩ := h.head_isDigit
    rw [List.cons_append, readToken?_of_isDigit hd]
    unfold readNumber?
    split
    · rename_i heq
      exact absurd (List.cons.inj heq).1 (ne_of_isDigit hd rfl)
    · rw [← List.cons_append, hread]
      rfl
  | @negative literal h =>
    show (readNumber? ('-' :: (literal ++ rest))).map _ = _
    rw [readNumber?, readMagnitude?_isMagnitude h hrest]
    rfl

/-! ## Numbers that are written -/

theorem isNumber_digits (n : Nat) : IsNumber (digits n) := by
  have hwhole : IsWhole (digits n) := by
    refine ⟨isNumeral_digits n, fun hzero => ?_⟩
    rw [eq_zero_of_head?_digits hzero]
    rfl
  have hmagnitude := IsMagnitude.mk hwhole .none .none
  rw [List.append_nil, List.append_nil] at hmagnitude
  exact .positive hmagnitude

end Temperament.Json
