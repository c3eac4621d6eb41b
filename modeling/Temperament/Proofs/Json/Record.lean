import Temperament.Proofs.Json.Text
import Temperament.Proofs.Text.Numeral

/-!
# Reading back data

Text, counts and lists of texts are read back from the values that they are written as, and the
fields of a record from an object with these fields.
-/

namespace Temperament.Json

open Text

theorem mapM_map_eq_some {α β : Type} {f : α → β} {g : β → Option α} (h : ∀ a, g (f a) = some a)
    (l : List α) : (l.map f).mapM g = some l := by
  induction l with
  | nil => rfl
  | cons a l ih =>
    rw [List.map_cons, List.mapM_cons, h, ih]
    rfl

theorem mapM_cons_eq_some_iff {α β : Type} {f : α → Option β} {a : α} {l : List α} {bs : List β} :
    (a :: l).mapM f = some bs ↔
      ∃ b rest, bs = b :: rest ∧ f a = some b ∧ l.mapM f = some rest := by
  simp only [List.mapM_cons, Option.bind_eq_bind, Option.pure_def, Option.bind_eq_some_iff,
    Option.some.injEq]
  constructor
  · rintro ⟨b, hb, rest, hrest, rfl⟩
    exact ⟨b, rest, rfl, hb, hrest⟩
  · rintro ⟨b, rest, rfl, hb, hrest⟩
    exact ⟨b, hb, rest, hrest, rfl⟩

/-! ## Text and numbers -/

@[simp]
theorem string?_ofString (s : String) : (ofString s).string? = some s :=
  pieceText?_encode s

theorem nat?_eq_some_iff {limit n : Nat} {v : Json} :
    v.nat? limit = some n ↔ ∃ literal, v = .number literal ∧ Denotes literal n ∧ n < limit := by
  cases v <;> simp [nat?, readNumeral?_eq_some_iff]

theorem uint32?_eq_some_iff {v : Json} {n : UInt32} :
    v.uint32? = some n ↔ ∃ literal, v = .number literal ∧ Denotes literal n.toNat := by
  rw [uint32?, Option.map_eq_some_iff]
  constructor
  · rintro ⟨k, hk, rfl⟩
    obtain ⟨literal, rfl, hdenotes, hlt⟩ := nat?_eq_some_iff.1 hk
    exact ⟨literal, rfl, by rwa [UInt32.toNat_ofNat_of_lt' hlt]⟩
  · rintro ⟨literal, rfl, hdenotes⟩
    exact ⟨n.toNat, nat?_eq_some_iff.2 ⟨literal, rfl, hdenotes, n.toNat_lt⟩, UInt32.ofNat_toNat⟩

@[simp]
theorem uint32?_ofNat (n : UInt32) : (ofNat n.toNat).uint32? = some n :=
  uint32?_eq_some_iff.2 ⟨_, rfl, denotes_digits n.toNat⟩

@[simp]
theorem uint64?_ofNat (n : UInt64) : (ofNat n.toNat).uint64? = some n := by
  have hread : nat? UInt64.size (ofNat n.toNat) = some n.toNat :=
    readNumeral?_digits n.toNat_lt
  rw [uint64?, hread, Option.map_some, UInt64.ofNat_toNat]

@[simp]
theorem strings?_ofStrings (l : List String) : (ofStrings l).strings? = some l :=
  mapM_map_eq_some string?_ofString l

/-! ## Records -/

theorem mapM_key?_ofFields (fields : List (String × Json)) :
    (fields.map fun (name, value) => (encode name.toList, value)).mapM key? = some fields :=
  mapM_map_eq_some (fun (name, value) => by simp [key?]) fields

theorem fields?_ofFields (names : List String) (fields : List (String × Json)) :
    (ofFields fields).fields? names = names.mapM (field? fields) := by
  show ((fields.map fun (name, value) => (encode name.toList, value)).mapM key?).bind
    (fun members => names.mapM (field? members)) = _
  rw [mapM_key?_ofFields, Option.bind_some]

/-! ## Values that are written -/

theorem isWritable_ofString (s : String) : (ofString s).IsWritable := by
  intro t ht
  obtain rfl : t = .string (encode s.toList) := by simpa [ofString, tokens] using ht
  exact fun p hp => isWritable_of_mem_encode hp

theorem isWritable_ofNat (n : Nat) : (ofNat n).IsWritable := by
  intro t ht
  obtain rfl : t = .number (Text.digits n) := by simpa [ofNat, tokens] using ht
  exact ⟨n, rfl⟩

theorem isWritable_moreItems {items : List Json} (h : ∀ v ∈ items, v.IsWritable) :
    ∀ t ∈ moreItems items, t.IsWritable := by
  induction items with
  | nil =>
    intro t ht
    obtain rfl : t = .closeArray := by simpa [moreItems] using ht
    trivial
  | cons v items ih =>
    intro t ht
    simp only [moreItems, List.mem_cons, List.mem_append] at ht
    rcases ht with rfl | ht | ht
    · trivial
    · exact h v List.mem_cons_self t ht
    · exact ih (fun v hv => h v (List.mem_cons_of_mem _ hv)) t ht

theorem isWritable_array {items : List Json} (h : ∀ v ∈ items, v.IsWritable) :
    (array items).IsWritable := by
  intro t ht
  rcases items with _ | ⟨v, items⟩
  · simp only [tokens, List.mem_cons, List.not_mem_nil, or_false] at ht
    rcases ht with rfl | rfl <;> trivial
  · have hmore := isWritable_moreItems h t
    simp only [tokens, List.mem_cons] at ht
    rcases ht with rfl | ht
    · trivial
    · exact hmore (by simp only [moreItems, List.mem_cons]; exact .inr ht)

theorem isWritable_ofStrings (l : List String) : (ofStrings l).IsWritable := by
  refine isWritable_array fun v hv => ?_
  obtain ⟨s, -, rfl⟩ := List.mem_map.1 hv
  exact isWritable_ofString s

theorem isWritable_moreMembers {members : List (List Piece × Json)}
    (h : ∀ m ∈ members, (Token.string m.1).IsWritable ∧ m.2.IsWritable) :
    ∀ t ∈ moreMembers members, t.IsWritable := by
  induction members with
  | nil =>
    intro t ht
    obtain rfl : t = .closeObject := by simpa [moreMembers] using ht
    trivial
  | cons m members ih =>
    obtain ⟨hkey, hvalue⟩ := h m List.mem_cons_self
    intro t ht
    simp only [moreMembers, List.mem_cons, List.mem_append] at ht
    rcases ht with rfl | rfl | rfl | ht | ht
    · trivial
    · exact hkey
    · trivial
    · exact hvalue t ht
    · exact ih (fun m hm => h m (List.mem_cons_of_mem _ hm)) t ht

theorem isWritable_object {members : List (List Piece × Json)}
    (h : ∀ m ∈ members, (Token.string m.1).IsWritable ∧ m.2.IsWritable) :
    (object members).IsWritable := by
  intro t ht
  rcases members with _ | ⟨m, members⟩
  · simp only [tokens, List.mem_cons, List.not_mem_nil, or_false] at ht
    rcases ht with rfl | rfl <;> trivial
  · have hmore := isWritable_moreMembers h t
    simp only [tokens, List.mem_cons] at ht
    rcases ht with rfl | ht
    · trivial
    · exact hmore (by simp only [moreMembers, List.mem_cons]; exact .inr ht)

theorem isWritable_ofFields {fields : List (String × Json)}
    (h : ∀ field ∈ fields, field.2.IsWritable) : (ofFields fields).IsWritable := by
  refine isWritable_object fun m hm => ?_
  obtain ⟨field, hfield, rfl⟩ := List.mem_map.1 hm
  exact ⟨fun p hp => isWritable_of_mem_encode hp, h field hfield⟩

end Temperament.Json
