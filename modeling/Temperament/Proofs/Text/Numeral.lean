import Mathlib.Data.List.Induction
import Temperament.Proofs.Date
import Temperament.Proofs.Text.Decimal

/-!
# Numerals and the numbers they denote

The texts that read as a number are the numerals that denote it, with at most one `+` before them and
any blanks around (`readUnsigned?_trim_eq_some_iff`).
-/

namespace Temperament.Text

/-- A numeral denotes a number: the last digit counts once, what is before it ten times. -/
inductive Denotes : List Char → Nat → Prop
  | digit {d : Char} (hd : d.isDigit = true) : Denotes [d] (d.toNat - '0'.toNat)
  | concat {ds : List Char} {n : Nat} {d : Char} (h : Denotes ds n) (hd : d.isDigit = true) :
    Denotes (ds ++ [d]) (10 * n + (d.toNat - '0'.toNat))

/-- A numeral that may follow one `+` denotes a number. -/
inductive DenotesUnsigned : List Char → Nat → Prop
  | bare {ds : List Char} {n : Nat} (h : Denotes ds n) : DenotesUnsigned ds n
  | plus {ds : List Char} {n : Nat} (h : Denotes ds n) : DenotesUnsigned ('+' :: ds) n

theorem ofDigits_concat (ds : List Char) (d : Char) :
    ofDigits (ds ++ [d]) = 10 * ofDigits ds + (d.toNat - '0'.toNat) := by
  rw [ofDigits, Nat.ofDigitChars_append]
  rfl

theorem denotes_iff {ds : List Char} {n : Nat} :
    Denotes ds n ↔ isNumeral ds = true ∧ ofDigits ds = n := by
  constructor
  · intro h
    induction h with
    | digit hd => exact ⟨by simp [isNumeral, hd], by simp [ofDigits, Nat.ofDigitChars]⟩
    | @concat ds n d _ hd ih =>
      obtain ⟨hnumeral, rfl⟩ := ih
      rw [isNumeral, Bool.and_eq_true] at hnumeral
      exact ⟨by simp [isNumeral, hnumeral.2, hd], ofDigits_concat ds d⟩
  · rintro ⟨hnumeral, rfl⟩
    induction ds using List.reverseRecOn with
    | nil => cases hnumeral
    | append_singleton ds d ih =>
      simp only [isNumeral, List.all_append, List.all_cons, List.all_nil, Bool.and_true,
        Bool.and_eq_true] at hnumeral
      obtain ⟨-, hds, hd⟩ := hnumeral
      rcases ds with _ | ⟨d', ds⟩
      · have hone := Denotes.digit hd
        rwa [← Nat.zero_add (d.toNat - _)] at hone
      · rw [ofDigits_concat]
        exact .concat (ih (by rw [isNumeral, hds]; rfl)) hd

theorem readNumeral?_eq_some_iff {limit n : Nat} {cs : List Char} :
    readNumeral? limit cs = some n ↔ Denotes cs n ∧ n < limit := by
  rw [denotes_iff, readNumeral?]
  split
  · rename_i h
    rw [Bool.and_eq_true, decide_eq_true_eq] at h
    constructor
    · rintro ⟨rfl⟩
      exact ⟨⟨h.1, rfl⟩, h.2⟩
    · rintro ⟨⟨-, rfl⟩, -⟩
      rfl
  · rename_i h
    constructor
    · intro hnone
      cases hnone
    · rintro ⟨⟨hnumeral, rfl⟩, hlt⟩
      exact absurd (by simp [hnumeral, hlt]) h

theorem Denotes.all_isDigit {ds : List Char} {n : Nat} (h : Denotes ds n) :
    ∀ c ∈ ds, c.isDigit = true := by
  have hnumeral := (denotes_iff.1 h).1
  rw [isNumeral, Bool.and_eq_true] at hnumeral
  exact List.all_eq_true.1 hnumeral.2

theorem DenotesUnsigned.mem_cases {ds : List Char} {n : Nat} (h : DenotesUnsigned ds n) :
    ∀ c ∈ ds, c = '+' ∨ c.isDigit = true := by
  cases h with
  | bare h => exact fun c hc => .inr (h.all_isDigit c hc)
  | plus h => exact List.forall_mem_cons.2 ⟨.inl rfl, fun c hc => .inr (h.all_isDigit c hc)⟩

theorem readUnsigned?_eq_some_iff {limit n : Nat} {cs : List Char} :
    readUnsigned? limit cs = some n ↔ DenotesUnsigned cs n ∧ n < limit := by
  unfold readUnsigned?
  split
  · rename_i ds
    rw [readNumeral?_eq_some_iff]
    constructor
    · exact fun ⟨h, hlt⟩ => ⟨.plus h, hlt⟩
    · rintro ⟨h | h, hlt⟩
      · exact absurd (h.all_isDigit '+' List.mem_cons_self) (by decide)
      · exact ⟨h, hlt⟩
  · rename_i hplus
    rw [readNumeral?_eq_some_iff]
    constructor
    · exact fun ⟨h, hlt⟩ => ⟨.bare h, hlt⟩
    · rintro ⟨h | h, hlt⟩
      · exact ⟨h, hlt⟩
      · exact absurd rfl (hplus _)

theorem denotes_digits (n : Nat) : Denotes (digits n) n :=
  denotes_iff.2 ⟨isNumeral_digits n, ofDigits_digits n⟩

theorem readUnsigned?_digits {limit n : Nat} (h : n < limit) :
    readUnsigned? limit (digits n) = some n :=
  readUnsigned?_eq_some_iff.2 ⟨.bare (denotes_digits n), h⟩

/-! ## Blanks around a text -/

/-- A text of blanks only, perhaps of none. -/
def AreBlank (cs : List Char) : Prop :=
  ∀ c ∈ cs, isBlank c = true

instance (cs : List Char) : Decidable (AreBlank cs) :=
  decidable_of_iff (cs.all isBlank = true) List.all_eq_true

theorem trim_append {before cs after : List Char} (hbefore : AreBlank before)
    (hafter : AreBlank after) (hcs : ∀ c ∈ cs, isBlank c = false) :
    trim (before ++ (cs ++ after)) = cs := by
  have hkeep {ds : List Char} (hds : ∀ c ∈ ds, isBlank c = false) :
      ds.dropWhile isBlank = ds := by
    rcases ds with _ | ⟨c, ds⟩
    · rfl
    · exact trimStart_cons (hds c List.mem_cons_self) ds
  have hreverse : ∀ c ∈ after.reverse, isBlank c = true := fun c hc =>
    hafter c (List.mem_reverse.1 hc)
  rw [trim, trimStart, List.dropWhile_append_of_pos hbefore]
  rcases cs with _ | ⟨c, cs⟩
  · have hall : after.dropWhile isBlank = [] := by
      rw [← List.append_nil after, List.dropWhile_append_of_pos hafter]
      rfl
    rw [List.nil_append, hall]
    rfl
  · have hstart : (c :: cs ++ after).dropWhile isBlank = c :: cs ++ after :=
      trimStart_cons (hcs c List.mem_cons_self) _
    rw [hstart, trimEnd, List.reverse_append, List.dropWhile_append_of_pos hreverse,
      hkeep fun c hc => hcs c (List.mem_reverse.1 hc), List.reverse_reverse]

theorem exists_trim (cs : List Char) :
    ∃ before after, cs = before ++ (trim cs ++ after) ∧ AreBlank before ∧ AreBlank after := by
  refine ⟨cs.takeWhile isBlank, ((trimStart cs).reverse.takeWhile isBlank).reverse, ?_,
    List.all_eq_true.1 List.all_takeWhile, fun c hc => ?_⟩
  · rw [trim, trimEnd, ← List.reverse_append, List.takeWhile_append_dropWhile,
      List.reverse_reverse, trimStart, List.takeWhile_append_dropWhile]
  · exact List.all_eq_true.1 List.all_takeWhile c (List.mem_reverse.1 hc)

/-- A text denotes a number if all but the blanks at its ends does. -/
inductive DenotesPadded : List Char → Nat → Prop
  | padded {before ds after : List Char} {n : Nat} (hbefore : AreBlank before)
    (h : DenotesUnsigned ds n) (hafter : AreBlank after) : DenotesPadded (before ++ (ds ++ after)) n

theorem denotesPadded_digits {before after : List Char} (hbefore : AreBlank before)
    (hafter : AreBlank after) (n : Nat) : DenotesPadded (before ++ (digits n ++ after)) n :=
  .padded hbefore (.bare (denotes_digits n)) hafter

theorem denotesPadded_digits_self (n : Nat) : DenotesPadded (digits n) n := by
  have hnone : AreBlank [] := nofun
  have hpadded := denotesPadded_digits hnone hnone n
  rwa [List.nil_append, List.append_nil] at hpadded

theorem DenotesUnsigned.isBlank_eq_false {ds : List Char} {n : Nat} (h : DenotesUnsigned ds n) :
    ∀ c ∈ ds, isBlank c = false := by
  intro c hc
  rcases h.mem_cases c hc with rfl | hdigit
  · decide
  · exact isBlank_of_isDigit hdigit

theorem readUnsigned?_trim_eq_some_iff {limit n : Nat} {cs : List Char} :
    readUnsigned? limit (trim cs) = some n ↔ DenotesPadded cs n ∧ n < limit := by
  constructor
  · intro h
    obtain ⟨before, after, hcs, hbefore, hafter⟩ := exists_trim cs
    obtain ⟨hdenotes, hlt⟩ := readUnsigned?_eq_some_iff.1 h
    rw [hcs]
    exact ⟨.padded hbefore hdenotes hafter, hlt⟩
  · rintro ⟨⟨hbefore, hdenotes, hafter⟩, hlt⟩
    rw [trim_append hbefore hafter hdenotes.isBlank_eq_false]
    exact readUnsigned?_eq_some_iff.2 ⟨hdenotes, hlt⟩

end Temperament.Text
