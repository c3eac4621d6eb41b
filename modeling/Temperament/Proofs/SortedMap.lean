import Mathlib.Data.List.Dedup
import Mathlib.Data.List.Nodup
import Temperament.SortedMap

/-!
# Sorted maps and their lists of entries

A map is the map of its own list of entries (`ofList_toList`): entries that come in order are put
one behind the other.  Entries with different keys make the same map in any order (`ofList_perm`), and
a map has as many entries as there are different keys to it (`size_ofList`).
-/

namespace Temperament.SortedMap

open Std

variable {α β : Type} [Ord α] [TransOrd α] [LawfulEqOrd α]

omit [LawfulEqOrd α] in
theorem insertEntry_of_forall_lt {k : α} {v : β} {l : List (α × β)}
    (h : ∀ e ∈ l, compare e.1 k = .lt) : insertEntry k v l = l ++ [(k, v)] := by
  induction l with
  | nil => rfl
  | cons e l ih =>
    have hgt : compare k e.1 = .gt := OrientedCmp.gt_iff_lt.2 (h e List.mem_cons_self)
    rw [insertEntry, hgt, List.cons_append]
    exact congrArg _ (ih fun e' he' => h e' (List.mem_cons_of_mem _ he'))

theorem toList_foldl_insert (m : SortedMap α β) {l : List (α × β)}
    (h : (m.toList ++ l).Pairwise fun a b => compare a.1 b.1 = .lt) :
    (l.foldl (fun m e => m.insert e.1 e.2) m).toList = m.toList ++ l := by
  induction l generalizing m with
  | nil => simp
  | cons e l ih =>
    have hlast : (m.insert e.1 e.2).toList = m.toList ++ [e] :=
      insertEntry_of_forall_lt fun e' he' =>
        (List.pairwise_append.1 h).2.2 e' he' e List.mem_cons_self
    rw [List.foldl_cons, ih, hlast, List.append_assoc, List.singleton_append]
    rwa [hlast, List.append_assoc, List.singleton_append]

theorem ofList_toList (m : SortedMap α β) : ofList m.toList = m := by
  have h := toList_foldl_insert ∅ (l := m.toList) m.sorted
  cases hm : ofList m.toList with
  | mk l sorted =>
    rw [ofList] at hm
    rw [hm] at h
    cases m
    subst h
    rfl

variable [DecidableEq α]

omit [LawfulEqOrd α] [DecidableEq α] [TransOrd α] in
theorem get?_of_contains_eq_false {m : SortedMap α β} {k : α} (h : m.contains k = false) :
    m.get? k = none := by
  rw [contains] at h
  exact Option.isNone_iff_eq_none.1 (by rw [← Option.not_isSome, h]; rfl)

theorem erase_eq_self {m : SortedMap α β} {k : α} (h : m.contains k = false) : m.erase k = m := by
  refine ext_get? fun k' => ?_
  rw [get?_erase]
  split
  · rename_i hk
    rw [hk, get?_of_contains_eq_false h]
  · rfl

/-! ## Entries in any order -/

theorem insert_comm (m : SortedMap α β) {k k' : α} (h : k ≠ k') (v v' : β) :
    (m.insert k v).insert k' v' = (m.insert k' v').insert k v := by
  refine ext_get? fun key => ?_
  rw [get?_insert, get?_insert, get?_insert, get?_insert]
  by_cases hk : key = k
  · rw [hk, if_neg h, if_pos rfl, if_pos rfl]
  · rw [if_neg hk, if_neg hk]

theorem ofList_perm {l l' : List (α × β)} (h : l.Perm l') (hkeys : (l.map Prod.fst).Nodup) :
    ofList l = ofList l' := by
  refine h.foldl_eq' (fun x hx y hy m => ?_) ∅
  by_cases hkey : x.1 = y.1
  · rw [List.inj_on_of_nodup_map hkeys hx hy hkey]
  · exact insert_comm m hkey x.2 y.2

theorem isSome_get?_foldl_insert (l : List (α × β)) (m : SortedMap α β) (k : α) :
    ((l.foldl (fun m e => m.insert e.1 e.2) m).get? k).isSome = true ↔
      k ∈ l.map Prod.fst ∨ (m.get? k).isSome = true := by
  induction l generalizing m with
  | nil => simp
  | cons e l ih =>
    rw [List.foldl_cons, ih, get?_insert, List.map_cons, List.mem_cons]
    by_cases hk : k = e.1
    · simp [hk]
    · simp [hk]

theorem isSome_get?_ofList {l : List (α × β)} {k : α} :
    ((ofList l).get? k).isSome = true ↔ k ∈ l.map Prod.fst := by
  rw [ofList, isSome_get?_foldl_insert, get?_empty]
  simp

theorem get?_foldl_insert (l : List (α × β)) (m : SortedMap α β) (k : α) :
    (l.foldl (fun m e => m.insert e.1 e.2) m).get? k = (l.reverse.lookup k).or (m.get? k) := by
  induction l generalizing m with
  | nil => simp
  | cons e l ih =>
    obtain ⟨k', v⟩ := e
    rw [List.foldl_cons, ih, get?_insert, List.reverse_cons, List.lookup_append, Option.or_assoc,
      List.lookup_cons, List.lookup_nil]
    by_cases hk : k = k'
    · simp [hk]
    · simp [hk, beq_false_of_ne hk]

/-- Under a key is the last of the values that are given for it. -/
theorem get?_ofList (l : List (α × β)) (k : α) : (ofList l).get? k = l.reverse.lookup k := by
  rw [ofList, get?_foldl_insert, get?_empty, Option.or_none]

/-! ## Keys -/

omit [LawfulEqOrd α] [DecidableEq α] in
theorem nodup_keys (m : SortedMap α β) : m.keys.Nodup := by
  refine List.pairwise_map.2 (m.sorted.imp fun {a b} hlt heq => ?_)
  have hself : compare b.1 b.1 = .eq := ReflCmp.compare_self
  rw [heq, hself] at hlt
  cases hlt

omit [TransOrd α] [DecidableEq α] in
theorem isSome_lookup_iff {l : List (α × β)} {k : α} :
    (lookup k l).isSome = true ↔ k ∈ l.map Prod.fst := by
  induction l with
  | nil => simp [lookup]
  | cons e l ih =>
    rw [lookup, List.map_cons, List.mem_cons]
    split
    · rename_i heq
      simp [LawfulEqCmp.eq_of_compare heq]
    · rename_i hne
      have hk : k ≠ e.1 := by
        rintro rfl
        exact hne ReflCmp.compare_self
      rw [ih]
      simp [hk]

/-- The size of a map is the number of different keys among the entries that it is made of. -/
theorem size_ofList (l : List (α × β)) : (ofList l).size = (l.map Prod.fst).dedup.length := by
  have hkeys : (ofList l).keys.Perm (l.map Prod.fst).dedup := by
    refine (List.perm_ext_iff_of_nodup (nodup_keys _) (List.nodup_dedup _)).2 fun k => ?_
    rw [List.mem_dedup, ← isSome_get?_ofList]
    exact isSome_lookup_iff.symm
  rw [← hkeys.length_eq, keys, List.length_map, size]

end Temperament.SortedMap
