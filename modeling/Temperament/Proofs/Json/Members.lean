import Mathlib.Data.List.Forall2
import Temperament.Proofs.Json.Record

/-!
# The members of an object

What the fields of a record are by the members of an object (`fields?_object_eq_some_iff`): those of one
name are looked at together, whatever their order, their spelling and the other members.
-/

namespace Temperament.Json

theorem mapM_eq_some_iff {α β : Type} {f : α → Option β} {l : List α} {bs : List β} :
    l.mapM f = some bs ↔ List.Forall₂ (fun a b => f a = some b) l bs := by
  induction l generalizing bs with
  | nil => simp [eq_comm]
  | cons a l ih =>
    rw [mapM_cons_eq_some_iff, List.forall₂_cons_left_iff]
    constructor
    · rintro ⟨b, rest, rfl, hb, hrest⟩
      exact ⟨b, rest, hb, ih.1 hrest, rfl⟩
    · rintro ⟨b, rest, hb, hrest, rfl⟩
      exact ⟨b, rest, rfl, hb, ih.2 hrest⟩

/-- The values under a name, in whatever way it is spelled. -/
def valuesOf (members : List (List Piece × Json)) (name : String) : List Json :=
  (members.filter fun member => pieceText? member.1 = some name).map Prod.snd

variable {members : List (List Piece × Json)} {named : List (String × Json)} {name : String}

theorem key?_eq_some_iff {member : List Piece × Json} {field : String × Json} :
    key? member = some field ↔ pieceText? member.1 = some field.1 ∧ member.2 = field.2 := by
  obtain ⟨name, v⟩ := field
  simp [key?, Option.map_eq_some_iff]

theorem filter_name_eq (h : members.mapM key? = some named) (name : String) :
    named.filter (·.1 == name) = (valuesOf members name).map fun v => (name, v) := by
  have hpairs := mapM_eq_some_iff.1 h
  clear h
  induction hpairs with
  | nil => rfl
  | @cons member field members named hkey _ ih =>
    obtain ⟨hname, hvalue⟩ := key?_eq_some_iff.1 hkey
    obtain ⟨key, v⟩ := field
    by_cases heq : key = name
    · subst heq
      simp_all [valuesOf]
    · simp_all [valuesOf]

theorem valuesOf_eq (h : members.mapM key? = some named) (name : String) :
    valuesOf members name = (named.filter (·.1 == name)).map Prod.snd := by
  rw [filter_name_eq h, List.map_map, Function.comp_def, List.map_id']

theorem field?_eq_some_iff (h : members.mapM key? = some named) {value : Option Json} :
    field? named name = some value ↔ valuesOf members name = value.toList := by
  rw [field?, filter_name_eq h]
  rcases valuesOf members name with _ | ⟨v, _ | ⟨v', vs⟩⟩ <;> cases value <;> simp

/-- An object has the fields of a record just if no name of them occurs twice. -/
theorem fields?_object_eq_some_iff {names : List String} {values : List (Option Json)} :
    (object members).fields? names = some values ↔ (∃ named, members.mapM key? = some named) ∧
      List.Forall₂ (fun name value => valuesOf members name = value.toList) names values := by
  show ((members.mapM key?).bind fun named => names.mapM (field? named)) = some values ↔ _
  rw [Option.bind_eq_some_iff]
  constructor
  · rintro ⟨named, hnamed, hvalues⟩
    refine ⟨⟨named, hnamed⟩, ?_⟩
    simpa only [mapM_eq_some_iff, field?_eq_some_iff hnamed] using hvalues
  · rintro ⟨⟨named, hnamed⟩, hvalues⟩
    refine ⟨named, hnamed, ?_⟩
    simpa only [mapM_eq_some_iff, field?_eq_some_iff hnamed] using hvalues

/-! ## Any order, other members -/

theorem filter_name_of_notMem {known : List (String × Json)} (h : name ∉ known.map Prod.fst) :
    known.filter (·.1 == name) = [] :=
  List.filter_eq_nil_iff.2 fun field hfield heq =>
    h (List.mem_map.2 ⟨field, hfield, beq_iff_eq.1 heq⟩)

theorem filter_name_of_mem {known : List (String × Json)} (hdistinct : (known.map Prod.fst).Nodup)
    {v : Json} (hmem : (name, v) ∈ known) : known.filter (·.1 == name) = [(name, v)] := by
  induction known with
  | nil => cases hmem
  | cons field known ih =>
    rw [List.map_cons, List.nodup_cons] at hdistinct
    obtain ⟨hnew, hdistinct⟩ := hdistinct
    rcases List.mem_cons.1 hmem with rfl | hmem
    · rw [List.filter_cons_of_pos (by simp), filter_name_of_notMem hnew]
    · have hne : field.1 ≠ name := by
        rintro rfl
        exact hnew (List.mem_map.2 ⟨_, hmem, rfl⟩)
      rw [List.filter_cons_of_neg (by simpa using hne), ih hdistinct hmem]

section

variable {known others : List (String × Json)} (hnamed : members.mapM key? = some named)
  (hperm : named.Perm (known ++ others)) (hothers : name ∉ others.map Prod.fst)

include hnamed hperm hothers

/-- Neither the order of the members nor others with other names matter. -/
theorem valuesOf_perm :
    (valuesOf members name).Perm ((known.filter (·.1 == name)).map Prod.snd) := by
  have hvalues := (hperm.filter (·.1 == name)).map Prod.snd
  rwa [List.filter_append, filter_name_of_notMem hothers, List.append_nil,
    ← valuesOf_eq hnamed] at hvalues

theorem valuesOf_of_mem (hdistinct : (known.map Prod.fst).Nodup) {v : Json}
    (hmem : (name, v) ∈ known) : valuesOf members name = [v] := by
  have hvalues := valuesOf_perm hnamed hperm hothers
  rw [filter_name_of_mem hdistinct hmem] at hvalues
  exact List.perm_singleton.1 hvalues

theorem valuesOf_of_notMem (hmem : name ∉ known.map Prod.fst) : valuesOf members name = [] := by
  have hvalues := valuesOf_perm hnamed hperm hothers
  rw [filter_name_of_notMem hmem] at hvalues
  exact hvalues.eq_nil

end

end Temperament.Json
