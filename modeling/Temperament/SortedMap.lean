/-!
# Sorted maps

Finite maps kept as lists of entries with strictly increasing keys.  Two maps with the same
look-ups are equal (`ext_get?`), whatever insertions and erasures led to them.
-/

namespace Temperament

open Std

/-- A finite map, its entries in increasing order of their keys. -/
structure SortedMap (α β : Type) [Ord α] where
  toList : List (α × β)
  sorted : toList.Pairwise fun a b => compare a.1 b.1 = .lt

namespace SortedMap

variable {α β : Type} [Ord α]

instance [DecidableEq α] [DecidableEq β] : DecidableEq (SortedMap α β) := fun a b =>
  if h : a.toList = b.toList then
    isTrue (by cases a; cases b; simp_all)
  else
    isFalse fun e => h (e ▸ rfl)

def empty : SortedMap α β := ⟨[], .nil⟩

instance : EmptyCollection (SortedMap α β) := ⟨empty⟩

instance : Inhabited (SortedMap α β) := ⟨empty⟩

def size (m : SortedMap α β) : Nat := m.toList.length

def keys (m : SortedMap α β) : List α := m.toList.map Prod.fst

/-! ## Entries -/

def lookup (k : α) : List (α × β) → Option β
  | [] => none
  | e :: rest => if compare k e.1 = .eq then some e.2 else lookup k rest

/-- Puts an entry at its place, replacing one with the same key. -/
def insertEntry (k : α) (v : β) : List (α × β) → List (α × β)
  | [] => [(k, v)]
  | e :: rest =>
    match compare k e.1 with
    | .lt => (k, v) :: e :: rest
    | .eq => (k, v) :: rest
    | .gt => e :: insertEntry k v rest

def eraseEntry (k : α) (l : List (α × β)) : List (α × β) :=
  l.filter fun e => compare k e.1 != .eq

theorem mem_insertEntry {k : α} {v : β} {l : List (α × β)} {e : α × β}
    (h : e ∈ insertEntry k v l) : e = (k, v) ∨ e ∈ l := by
  induction l with
  | nil => simpa [insertEntry] using h
  | cons a rest ih =>
    unfold insertEntry at h
    split at h
    · simpa using h
    · rcases List.mem_cons.1 h with h | h
      · exact .inl h
      · exact .inr (List.mem_cons_of_mem _ h)
    · rcases List.mem_cons.1 h with h | h
      · exact .inr (h ▸ List.mem_cons_self)
      · exact (ih h).imp_right (List.mem_cons_of_mem _)

theorem sorted_insertEntry [TransOrd α] [LawfulEqOrd α] (k : α) (v : β) {l : List (α × β)}
    (h : l.Pairwise fun a b => compare a.1 b.1 = .lt) :
    (insertEntry k v l).Pairwise fun a b => compare a.1 b.1 = .lt := by
  induction l with
  | nil => simp [insertEntry]
  | cons a rest ih =>
    obtain ⟨ha, hrest⟩ := List.pairwise_cons.1 h
    unfold insertEntry
    split <;> rename_i hk
    · refine List.pairwise_cons.2 ⟨fun e he => ?_, h⟩
      rcases List.mem_cons.1 he with rfl | he
      · exact hk
      · exact TransCmp.lt_trans hk (ha e he)
    · have : k = a.1 := LawfulEqCmp.eq_of_compare hk
      subst this
      exact List.pairwise_cons.2 ⟨ha, hrest⟩
    · refine List.pairwise_cons.2 ⟨fun e he => ?_, ih hrest⟩
      rcases mem_insertEntry he with rfl | he
      · exact OrientedCmp.gt_iff_lt.1 hk
      · exact ha e he

theorem lookup_insertEntry [TransOrd α] [LawfulEqOrd α] [DecidableEq α] (k k' : α) (v : β)
    (l : List (α × β)) :
    lookup k' (insertEntry k v l) = if k' = k then some v else lookup k' l := by
  induction l with
  | nil => simp [insertEntry, lookup]
  | cons a rest ih =>
    unfold insertEntry
    split <;> rename_i hk
    · by_cases h : k' = k <;> simp [lookup, h]
    · have : k = a.1 := LawfulEqCmp.eq_of_compare hk
      subst this
      by_cases h : k' = a.1 <;> simp [lookup, h]
    · simp only [lookup, Std.compare_eq_iff_eq, ih]
      by_cases h : k' = a.1
      · subst h
        have : k ≠ a.1 := by rintro rfl; simp at hk
        simp [Ne.symm this]
      · simp [h]

theorem lookup_eraseEntry [TransOrd α] [LawfulEqOrd α] [DecidableEq α] (k k' : α)
    (l : List (α × β)) :
    lookup k' (eraseEntry k l) = if k' = k then none else lookup k' l := by
  induction l with
  | nil => simp [eraseEntry, lookup]
  | cons a rest ih =>
    simp only [eraseEntry, List.filter_cons] at ih ⊢
    by_cases ha : k = a.1
    · subst ha
      by_cases h : k' = a.1 <;> simp_all [lookup]
    · by_cases h : k' = a.1
      · subst h; simp [lookup, ha, Ne.symm ha]
      · simp_all [lookup]

theorem lookup_eq_none_of_lt {k : α} {l : List (α × β)} (h : ∀ e ∈ l, compare k e.1 = .lt) :
    lookup k l = none := by
  induction l with
  | nil => rfl
  | cons a rest ih => simp_all [lookup]

theorem eq_of_lookup_eq [TransOrd α] [LawfulEqOrd α] {l l' : List (α × β)}
    (h : l.Pairwise fun a b => compare a.1 b.1 = .lt)
    (h' : l'.Pairwise fun a b => compare a.1 b.1 = .lt)
    (heq : ∀ k, lookup k l = lookup k l') : l = l' := by
  induction l generalizing l' with
  | nil =>
    cases l' with
    | nil => rfl
    | cons b rest' => have := heq b.1; simp [lookup] at this
  | cons a rest ih =>
    cases l' with
    | nil => have := heq a.1; simp [lookup] at this
    | cons b rest' =>
      obtain ⟨ha, hrest⟩ := List.pairwise_cons.1 h
      obtain ⟨hb, hrest'⟩ := List.pairwise_cons.1 h'
      have hab : a.1 = b.1 := by
        match hc : compare a.1 b.1 with
        | .eq => exact LawfulEqCmp.eq_of_compare hc
        | .lt =>
          have := lookup_eq_none_of_lt (k := a.1) (l := b :: rest') (by
            intro e he
            rcases List.mem_cons.1 he with rfl | he
            · exact hc
            · exact TransCmp.lt_trans hc (hb e he))
          rw [← heq] at this
          simp [lookup] at this
        | .gt =>
          have hc := OrientedCmp.gt_iff_lt.1 hc
          have := lookup_eq_none_of_lt (k := b.1) (l := a :: rest) (by
            intro e he
            rcases List.mem_cons.1 he with rfl | he
            · exact hc
            · exact TransCmp.lt_trans hc (ha e he))
          rw [heq] at this
          simp [lookup] at this
      have hv : a.2 = b.2 := by simpa [lookup, hab] using heq a.1
      have htail : rest = rest' := by
        refine ih hrest hrest' fun k => ?_
        by_cases hk : compare k a.1 = .eq
        · obtain rfl := LawfulEqCmp.eq_of_compare hk
          rw [lookup_eq_none_of_lt ha, hab, lookup_eq_none_of_lt hb]
        · simpa [lookup, ← hab, show ¬k = a.1 by simpa using hk] using heq k
      rw [htail, show a = b from Prod.ext hab hv]

/-! ## Operations -/

def get? (m : SortedMap α β) (k : α) : Option β := lookup k m.toList

def contains (m : SortedMap α β) (k : α) : Bool := (m.get? k).isSome

def erase (m : SortedMap α β) (k : α) : SortedMap α β :=
  ⟨eraseEntry k m.toList, m.sorted.filter _⟩

theorem get?_empty (k : α) : (∅ : SortedMap α β).get? k = none := rfl

variable [TransOrd α] [LawfulEqOrd α]

def insert (m : SortedMap α β) (k : α) (v : β) : SortedMap α β :=
  ⟨insertEntry k v m.toList, sorted_insertEntry k v m.sorted⟩

/-- The map of a list of entries; of several with one key the last counts. -/
def ofList (l : List (α × β)) : SortedMap α β :=
  l.foldl (fun m e => m.insert e.1 e.2) ∅

theorem get?_insert [DecidableEq α] (m : SortedMap α β) (k k' : α) (v : β) :
    (m.insert k v).get? k' = if k' = k then some v else m.get? k' :=
  lookup_insertEntry k k' v m.toList

theorem get?_erase [DecidableEq α] (m : SortedMap α β) (k k' : α) :
    (m.erase k).get? k' = if k' = k then none else m.get? k' :=
  lookup_eraseEntry k k' m.toList

theorem ext_get? {m m' : SortedMap α β} (h : ∀ k, m.get? k = m'.get? k) : m = m' := by
  cases m
  cases m'
  congr
  exact eq_of_lookup_eq ‹_› ‹_› h

end SortedMap

end Temperament
