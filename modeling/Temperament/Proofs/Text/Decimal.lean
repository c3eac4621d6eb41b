import Mathlib.Tactic.SplitIfs
import Temperament.Text.Decimal

/-!
# Numerals and what follows them

A numeral is split off a text up to the first character that is no digit (`spanDigits_append_rest`).
-/

namespace Temperament.Text

theorem ne_of_isDigit {c d : Char} (hc : c.isDigit = true) (hd : d.isDigit = false) : c ≠ d := by
  rintro rfl
  rw [hd] at hc
  cases hc

theorem all_isDigit_digits (n : Nat) : (digits n).all Char.isDigit = true := by
  have hn := isNumeral_digits n
  rw [isNumeral, Bool.and_eq_true] at hn
  exact hn.2

theorem notMem_digits {c : Char} (hc : c.isDigit = false) (n : Nat) : c ∉ digits n := fun hmem =>
  ne_of_isDigit (List.all_eq_true.1 (all_isDigit_digits n) c hmem) hc rfl

theorem exists_cons_of_isNumeral {ds : List Char} (h : isNumeral ds = true) :
    ∃ d ds', ds = d :: ds' ∧ d.isDigit = true := by
  rw [isNumeral, Bool.and_eq_true] at h
  rcases ds with _ | ⟨d, ds⟩
  · cases h.1
  · exact ⟨d, ds, rfl, List.all_eq_true.1 h.2 d List.mem_cons_self⟩

theorem digits_eq_cons (n : Nat) : ∃ d ds, digits n = d :: ds ∧ d.isDigit = true :=
  exists_cons_of_isNumeral (isNumeral_digits n)

/-- A numeral without superfluous zeros begins with a zero only if it is the zero. -/
theorem eq_zero_of_head?_digits {n : Nat} (h : (digits n).head? = some '0') : n = 0 := by
  induction n using Nat.strongRecOn with
  | _ n ih =>
    rw [digits, Nat.toDigits_eq_if (by decide)] at h
    split_ifs at h with hn
    · have checked : ∀ k : Fin 10, k.val.digitChar = '0' → k.val = 0 := by decide
      exact checked ⟨n, hn⟩ (by simpa using h)
    · have hne : Nat.toDigits 10 (n / 10) ≠ [] := Nat.toDigits_ne_nil
      rw [List.head?_append, Option.or_of_isSome (List.isSome_head?.2 hne)] at h
      have := ih (n / 10) (by omega) h
      omega

theorem span_append {p : Char → Bool} {cs rest : List Char} (hcs : ∀ c ∈ cs, p c = true)
    (hrest : ∀ c ∈ rest.head?, p c = false) :
    (cs ++ rest).takeWhile p = cs ∧ (cs ++ rest).dropWhile p = rest := by
  rw [List.takeWhile_append_of_pos hcs, List.dropWhile_append_of_pos hcs]
  rcases rest with _ | ⟨c, rest⟩
  · simp
  · simp [hrest c rfl]

theorem span_append_cons {c : Char} {cs : List Char} (hcs : c ∉ cs) (rest : List Char) :
    (cs ++ c :: rest).takeWhile (· != c) = cs ∧
      (cs ++ c :: rest).dropWhile (· != c) = c :: rest :=
  span_append (fun _ hd => bne_iff_ne.2 fun heq => hcs (heq ▸ hd)) (by simp)

/-- A text is cut in one way only before a character that the part before it does not hold. -/
theorem append_cons_inj {c : Char} {cs cs' rest rest' : List Char} (hcs : c ∉ cs) (hcs' : c ∉ cs')
    (h : cs ++ c :: rest = cs' ++ c :: rest') : cs = cs' ∧ rest = rest' := by
  obtain ⟨htake, hdrop⟩ := span_append_cons hcs rest
  obtain ⟨htake', hdrop'⟩ := span_append_cons hcs' rest'
  rw [← h] at htake' hdrop'
  exact ⟨htake.symm.trans htake', (List.cons.inj (hdrop.symm.trans hdrop')).2⟩

theorem spanDigits_append_rest {ds rest : List Char} (hds : ds.all Char.isDigit = true)
    (hrest : ∀ c ∈ rest.head?, c.isDigit = false) : spanDigits (ds ++ rest) = (ds, rest) := by
  obtain ⟨htake, hdrop⟩ := span_append (List.all_eq_true.1 hds) hrest
  rw [spanDigits, htake, hdrop]

end Temperament.Text
