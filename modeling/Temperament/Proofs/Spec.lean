import Temperament.Proofs.Text.Numeral
import Temperament.Questionnaire

/-!
# The language of specs

A spec reads as an answer if it is a number for the question, a `=` and a number for the option, each
with blanks around it as one likes, and as no answer otherwise (`parseSpec_accepts`).  What follows
the `=` is read as a line at the prompt is, but for its bound.
-/

namespace Temperament

open Text

namespace Questionnaire

/-- The texts for an answer: two numbers with a `=` between them. -/
inductive SpellsAnswer : List Char → Nat → Nat → Prop
  | pair {before after : List Char} {id index : Nat} (hid : DenotesPadded before id)
    (hindex : DenotesPadded after index) : SpellsAnswer (before ++ '=' :: after) id index

theorem splitSpec?_eq_some_iff {cs before after : List Char} :
    splitSpec? cs = some (before, after) ↔ cs = before ++ '=' :: after ∧ '=' ∉ before := by
  constructor
  · intro h
    have hcs := List.takeWhile_append_dropWhile (p := (· != '=')) (l := cs)
    have hhead := List.head?_dropWhile_not (· != '=') cs
    unfold splitSpec? at h
    split at h
    · cases h
    · rename_i c index hdrop
      rw [hdrop] at hcs hhead
      obtain rfl : c = '=' := by simpa using hhead
      cases h
      refine ⟨hcs.symm, fun hmem => ?_⟩
      exact absurd (List.all_eq_true.1 List.all_takeWhile _ hmem) (by decide)
  · rintro ⟨rfl, hbefore⟩
    obtain ⟨htake, hdrop⟩ := span_append_cons hbefore after
    rw [splitSpec?, hdrop, htake]

theorem notMem_of_denotesPadded {cs : List Char} {n : Nat} (h : DenotesPadded cs n) : '=' ∉ cs := by
  obtain ⟨hbefore, hdenotes, hafter⟩ := h
  have hblank {ds : List Char} (hds : AreBlank ds) : '=' ∉ ds := fun hmem =>
    absurd (hds _ hmem) (by decide)
  simp only [List.mem_append, not_or]
  refine ⟨hblank hbefore, fun hmem => ?_, hblank hafter⟩
  rcases hdenotes.mem_cases _ hmem with heq | hdigit
  · exact absurd heq (by decide)
  · exact absurd hdigit (by decide)

theorem readSpec?_eq_some_iff {cs : List Char} {answer : UInt32 × UInt64} :
    readSpec? cs = some answer ↔ SpellsAnswer cs answer.1.toNat answer.2.toNat := by
  unfold readSpec?
  simp only [Option.bind_eq_bind, Option.bind_eq_some_iff]
  constructor
  · rintro ⟨⟨before, after⟩, hsplit, id, hid, index, hindex, ⟨⟩⟩
    obtain ⟨rfl, -⟩ := splitSpec?_eq_some_iff.1 hsplit
    obtain ⟨hid, hidlt⟩ := readUnsigned?_trim_eq_some_iff.1 hid
    obtain ⟨hindex, hindexlt⟩ := readUnsigned?_trim_eq_some_iff.1 hindex
    show SpellsAnswer _ (UInt32.ofNat id).toNat (UInt64.ofNat index).toNat
    rw [UInt32.toNat_ofNat_of_lt' hidlt, UInt64.toNat_ofNat_of_lt' hindexlt]
    exact .pair hid hindex
  · rintro ⟨hid, hindex⟩
    refine ⟨_, splitSpec?_eq_some_iff.2 ⟨rfl, notMem_of_denotesPadded hid⟩, _,
      readUnsigned?_trim_eq_some_iff.2 ⟨hid, answer.1.toNat_lt⟩, _,
      readUnsigned?_trim_eq_some_iff.2 ⟨hindex, answer.2.toNat_lt⟩, ?_⟩
    rw [UInt32.ofNat_toNat, UInt64.ofNat_toNat]

theorem parseSpec_eq_ok_iff {spec : String} {answer : UInt32 × UInt64} :
    parseSpec spec = .ok answer ↔ SpellsAnswer spec.toList answer.1.toNat answer.2.toNat := by
  rw [← readSpec?_eq_some_iff, parseSpec]
  cases readSpec? spec.toList <;> simp

theorem parseSpec_eq_error_iff {spec : String} :
    parseSpec spec = .error (.invalidSpec spec) ↔
      ¬∃ id index, SpellsAnswer spec.toList id index ∧ id < UInt32.size ∧ index < UInt64.size := by
  constructor
  · rintro h ⟨id, index, hspells, hid, hindex⟩
    have hok : parseSpec spec = .ok (UInt32.ofNat id, UInt64.ofNat index) := by
      rw [parseSpec_eq_ok_iff, UInt32.toNat_ofNat_of_lt' hid, UInt64.toNat_ofNat_of_lt' hindex]
      exact hspells
    rw [h] at hok
    cases hok
  · intro h
    rw [parseSpec]
    split
    · rename_i answer hread
      exact absurd ⟨_, _, readSpec?_eq_some_iff.1 hread, answer.1.toNat_lt, answer.2.toNat_lt⟩ h
    · rfl

/-! ## Lines at the prompt -/

theorem choice?_eq_some_iff {line : String} {index : UInt64} :
    choice? line = some index ↔ DenotesPadded line.toList index.toNat ∧ index.toNat < 4 := by
  unfold choice? readChoice?
  constructor
  · intro h
    split at h
    · rename_i n hread
      obtain ⟨hdenotes, hlt⟩ := readUnsigned?_trim_eq_some_iff.1 hread
      split at h
      · rename_i hn
        cases h
        rw [UInt64.toNat_ofNat_of_lt' hlt]
        exact ⟨hdenotes, hn⟩
      · cases h
    · cases h
  · rintro ⟨hdenotes, hlt⟩
    simp only [readUnsigned?_trim_eq_some_iff.2 ⟨hdenotes, index.toNat_lt⟩, optionCount, if_pos hlt,
      UInt64.ofNat_toNat]

/-- A spec with the number of a question reads as an answer just if its end reads as a number. -/
theorem parseSpec_decimal_eq_ok_iff {id : UInt32} {line : String} {index : UInt64} :
    parseSpec (decimal id.toNat ++ "=" ++ line) = .ok (id, index) ↔
      DenotesPadded line.toList index.toNat := by
  have htext : (decimal id.toNat ++ "=" ++ line).toList = digits id.toNat ++ '=' :: line.toList := by
    simp [decimal]
  rw [parseSpec_eq_ok_iff, htext]
  constructor
  · intro h
    generalize hspec : digits id.toNat ++ '=' :: line.toList = cs at h
    cases h with
    | pair hid hindex =>
      have hid := notMem_of_denotesPadded hid
      rw [(append_cons_inj (notMem_digits rfl _) hid hspec).2]
      exact hindex
  · exact fun h => .pair (denotesPadded_digits_self _) h

/-- The language of specs, and how the line at the prompt goes with it. -/
theorem parseSpec_accepts :
    (∀ (spec : String) (id : UInt32) (index : UInt64),
      parseSpec spec = .ok (id, index) ↔ SpellsAnswer spec.toList id.toNat index.toNat) ∧
    (∀ spec : String, parseSpec spec = .error (.invalidSpec spec) ↔
      ¬∃ id index, SpellsAnswer spec.toList id index ∧ id < UInt32.size ∧ index < UInt64.size) ∧
    (∀ (id : UInt32) (index : UInt64) (w₁ w₂ w₃ w₄ : String),
      AreBlank w₁.toList → AreBlank w₂.toList → AreBlank w₃.toList → AreBlank w₄.toList →
        parseSpec (w₁ ++ decimal id.toNat ++ w₂ ++ "=" ++ w₃ ++ decimal index.toNat ++ w₄) =
          .ok (id, index)) ∧
    ∀ (id : UInt32) (line : String) (index : UInt64),
      choice? line = some index ↔
        parseSpec (decimal id.toNat ++ "=" ++ line) = .ok (id, index) ∧ index.toNat < 4 := by
  refine ⟨fun spec id index => parseSpec_eq_ok_iff, fun spec => parseSpec_eq_error_iff, ?_, ?_⟩
  · intro id index w₁ w₂ w₃ w₄ hw₁ hw₂ hw₃ hw₄
    have htext : (w₁ ++ decimal id.toNat ++ w₂ ++ "=" ++ w₃ ++ decimal index.toNat ++ w₄).toList =
        w₁.toList ++ (digits id.toNat ++ w₂.toList) ++
          '=' :: (w₃.toList ++ (digits index.toNat ++ w₄.toList)) := by
      simp [decimal]
    rw [parseSpec_eq_ok_iff, htext]
    exact .pair (denotesPadded_digits hw₁ hw₂ _) (denotesPadded_digits hw₃ hw₄ _)
  · intro id line index
    rw [choice?_eq_some_iff, parseSpec_decimal_eq_ok_iff]

/-- Blanks from all over Unicode around the largest numbers. -/
theorem parseSpec_accepts_padded :
    (AreBlank "\u3000 ".toList ∧ AreBlank "\u00a0".toList ∧ AreBlank "\t".toList ∧
      AreBlank "\u2028".toList) ∧
    parseSpec ("\u3000 " ++ decimal (4294967295 : UInt32).toNat ++ "\u00a0" ++ "=" ++ "\t" ++
        decimal (18446744073709551615 : UInt64).toNat ++ "\u2028") =
      .ok (4294967295, 18446744073709551615) := by
  have h₁ : AreBlank "\u3000 ".toList := by decide
  have h₂ : AreBlank "\u00a0".toList := by decide
  have h₃ : AreBlank "\t".toList := by decide
  have h₄ : AreBlank "\u2028".toList := by decide
  exact ⟨⟨h₁, h₂, h₃, h₄⟩, parseSpec_accepts.2.2.1 _ _ _ _ _ _ h₁ h₂ h₃ h₄⟩

end Questionnaire

end Temperament
