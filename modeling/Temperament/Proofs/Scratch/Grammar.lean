import Temperament.Proofs.Json.Grammar
import Temperament.Proofs.Json.Record
import Temperament.Proofs.Json.Value
import Temperament.Proofs.SortedMap
import Temperament.Scratch

/-!
# The texts that a scratch file may hold

A text reads as entries just if it is one JSON object with strings for values
(`ofText?_eq_some_iff`).  The proof follows an object from its parts to the whole, with what is read
of a text on the one side and its characters on the other.
-/

namespace Temperament.Scratch.Entries

open Json

/-! ## Objects of strings -/

/-- A string that denotes a text, with white space around it. -/
def IsPadded (cs : List Char) (s : String) : Prop :=
  ∃ blank body blank', cs = blank ++ '"' :: body ++ '"' :: blank' ∧
    IsBlank blank ∧ IsBody body s.toList ∧ IsBlank blank'

/-- A key and a value with a colon between them. -/
def IsMember (cs : List Char) (entry : String × String) : Prop :=
  ∃ key value, cs = key ++ ':' :: value ∧ IsPadded key entry.1 ∧ IsPadded value entry.2

/-- One or more members with commas between them. -/
inductive IsMembers : List Char → List (String × String) → Prop
  | single {member : List Char} {entry : String × String} (h : IsMember member entry) :
    IsMembers member [entry]
  | cons {member members : List Char} {entry : String × String} {entries : List (String × String)}
    (h : IsMember member entry) (hs : IsMembers members entries) :
    IsMembers (member ++ ',' :: members) (entry :: entries)

/-- An object with these entries in this order, with white space around it. -/
def IsObject (cs : List Char) (entries : List (String × String)) : Prop :=
  ∃ blank contents blank', cs = blank ++ '\x7b' :: contents ++ '\x7d' :: blank' ∧
    IsBlank blank ∧ (IsBlank contents ∧ entries = [] ∨ IsMembers contents entries) ∧ IsBlank blank'

/-! ## Reading them -/

variable {cs : List Char}

/-- A string is read up to the mark behind it. -/
theorem scan?_padded_iff {t : Token} {mark : Char} (ht : t.IsMark mark) {s : String}
    {ts : List Token} :
    (∃ ps, scan? cs = some (.string ps :: t :: ts) ∧ pieceText? ps = some s) ↔
      ∃ padded rest, cs = padded ++ mark :: rest ∧ IsPadded padded s ∧ scan? rest = some ts := by
  simp only [scan?_eq_some_cons_iff, readToken?_string_iff, scan?_mark_iff ht,
    pieceText?_eq_some_iff]
  constructor
  · rintro ⟨ps, ⟨blank, _, _, rfl, hblank, ⟨body, rfl, hbody⟩, blank', rest, rfl, hblank', hscan⟩,
      hdecode⟩
    exact ⟨blank ++ '"' :: body ++ '"' :: blank', rest, by simp,
      ⟨blank, body, blank', rfl, hblank, isBody_iff.2 ⟨ps, hbody, hdecode⟩, hblank'⟩, hscan⟩
  · rintro ⟨_, rest, rfl, ⟨blank, body, blank', rfl, hblank, hbody, hblank'⟩, hscan⟩
    obtain ⟨ps, hspelled, hdecode⟩ := isBody_iff.1 hbody
    exact ⟨ps, ⟨blank, _, _, by simp, hblank, ⟨body, rfl, hspelled⟩, blank', rest, rfl, hblank',
      hscan⟩, hdecode⟩

theorem ofMember?_eq_some_iff {member : List Piece × Json} {entry : String × String} :
    ofMember? member = some entry ↔ ∃ value, member.2 = .string value ∧
      pieceText? member.1 = some entry.1 ∧ pieceText? value = some entry.2 := by
  obtain ⟨key, value⟩ := member
  obtain ⟨k, v⟩ := entry
  cases value <;> simp [ofMember?, string?, Option.bind_eq_some_iff]

/-- A member is read up to the mark behind it. -/
theorem scan?_member_iff {t : Token} {mark : Char} (ht : t.IsMark mark)
    {entry : String × String} {ts : List Token} :
    (∃ member, scan? cs = some (.string member.1 :: .colon :: (member.2.tokens ++ t :: ts)) ∧
      ofMember? member = some entry) ↔
      ∃ text rest, cs = text ++ mark :: rest ∧ IsMember text entry ∧ scan? rest = some ts := by
  constructor
  · rintro ⟨⟨k, _⟩, hscan, hmember⟩
    obtain ⟨v, rfl, hk, hv⟩ := ofMember?_eq_some_iff.1 hmember
    obtain ⟨key, after, rfl, hkey, hafter⟩ := (scan?_padded_iff .colon).1 ⟨k, hscan, hk⟩
    obtain ⟨value, rest, rfl, hvalue, hrest⟩ := (scan?_padded_iff ht).1 ⟨v, hafter, hv⟩
    exact ⟨key ++ ':' :: value, rest, by simp, ⟨key, value, rfl, hkey, hvalue⟩, hrest⟩
  · rintro ⟨_, rest, rfl, ⟨key, value, rfl, hkey, hvalue⟩, hrest⟩
    obtain ⟨v, hafter, hv⟩ := (scan?_padded_iff ht).2 ⟨value, rest, rfl, hvalue, hrest⟩
    obtain ⟨k, hscan, hk⟩ := (scan?_padded_iff .colon).2 ⟨key, _, rfl, hkey, hafter⟩
    refine ⟨(k, .string v), ?_, ofMember?_eq_some_iff.2 ⟨v, rfl, hk, hv⟩⟩
    rw [List.append_assoc]
    exact hscan

theorem isMembers_of_scan? {member : List Piece × Json} {members : List (List Piece × Json)}
    {entries : List (String × String)}
    (hscan : scan? cs =
      some (.string member.1 :: .colon :: (member.2.tokens ++ moreMembers members)))
    (hentries : (member :: members).mapM ofMember? = some entries) :
    ∃ text blank, cs = text ++ '\x7d' :: blank ∧ IsMembers text entries ∧ IsBlank blank := by
  induction members generalizing cs member entries with
  | nil =>
    obtain ⟨entry, rest, rfl, hentry, hrest⟩ := mapM_cons_eq_some_iff.1 hentries
    cases hrest
    obtain ⟨text, blank, rfl, htext, hblank⟩ :=
      (scan?_member_iff .closeObject).1 ⟨member, hscan, hentry⟩
    exact ⟨text, blank, rfl, .single htext, scan?_eq_some_nil_iff.1 hblank⟩
  | cons next members ih =>
    obtain ⟨entry, rest, rfl, hentry, hrest⟩ := mapM_cons_eq_some_iff.1 hentries
    obtain ⟨text, after, rfl, htext, hafter⟩ :=
      (scan?_member_iff .comma).1 ⟨member, hscan, hentry⟩
    obtain ⟨texts, blank, rfl, htexts, hblank⟩ := ih hafter hrest
    exact ⟨text ++ ',' :: texts, blank, by simp, .cons htext htexts, hblank⟩

theorem scan?_of_isMembers {text blank : List Char} {entries : List (String × String)}
    (h : IsMembers text entries) (hblank : IsBlank blank) :
    ∃ member members, scan? (text ++ '\x7d' :: blank) =
        some (.string member.1 :: .colon :: (member.2.tokens ++ moreMembers members)) ∧
      (member :: members).mapM ofMember? = some entries := by
  induction h with
  | single h =>
    obtain ⟨member, hscan, hentry⟩ := (scan?_member_iff .closeObject).2
      ⟨_, blank, rfl, h, scan?_eq_some_nil_iff.2 hblank⟩
    exact ⟨member, [], hscan, mapM_cons_eq_some_iff.2 ⟨_, [], rfl, hentry, rfl⟩⟩
  | cons h _ ih =>
    obtain ⟨next, members, hafter, hrest⟩ := ih
    obtain ⟨member, hscan, hentry⟩ := (scan?_member_iff .comma).2 ⟨_, _, rfl, h, hafter⟩
    refine ⟨member, next :: members, ?_, mapM_cons_eq_some_iff.2 ⟨_, _, rfl, hentry, hrest⟩⟩
    rw [List.append_assoc]
    exact hscan

/-- An object is read with its entries just if it is written with them. -/
theorem isObject_iff {entries : List (String × String)} :
    IsObject cs entries ↔
      ∃ members, scan? cs = some (object members).tokens ∧ members.mapM ofMember? = some entries := by
  constructor
  · rintro ⟨blank, contents, blank', rfl, hblank, hcontents, hblank'⟩
    have hopen {ts : List Token} (h : scan? (contents ++ '\x7d' :: blank') = some ts) :
        scan? (blank ++ '\x7b' :: contents ++ '\x7d' :: blank') = some (.openObject :: ts) :=
      (scan?_mark_iff .openObject).2 ⟨blank, _, by simp, hblank, h⟩
    rcases hcontents with ⟨hempty, rfl⟩ | hmembers
    · refine ⟨[], hopen ?_, rfl⟩
      exact (scan?_mark_iff .closeObject).2
        ⟨contents, blank', rfl, hempty, scan?_eq_some_nil_iff.2 hblank'⟩
    · obtain ⟨member, members, hscan, hentries⟩ := scan?_of_isMembers hmembers hblank'
      exact ⟨member :: members, hopen hscan, hentries⟩
  · rintro ⟨members, hscan, hentries⟩
    rcases members with _ | ⟨member, members⟩
    · cases hentries
      obtain ⟨blank, after, rfl, hblank, hafter⟩ := (scan?_mark_iff .openObject).1 hscan
      obtain ⟨contents, blank', rfl, hempty, hblank'⟩ := (scan?_mark_iff .closeObject).1 hafter
      exact ⟨blank, contents, blank', by simp, hblank, .inl ⟨hempty, rfl⟩,
        scan?_eq_some_nil_iff.1 hblank'⟩
    · obtain ⟨blank, after, rfl, hblank, hafter⟩ := (scan?_mark_iff .openObject).1 hscan
      obtain ⟨contents, blank', rfl, hmembers, hblank'⟩ := isMembers_of_scan? hafter hentries
      exact ⟨blank, contents, blank', by simp, hblank, .inr hmembers, hblank'⟩

/-- A text reads as entries just if it is an object of strings; of several members with one key the
last one counts. -/
theorem ofText?_eq_some_iff {s : String} {m : Entries} :
    ofText? s = some m ↔ ∃ entries, IsObject s.toList entries ∧ m = SortedMap.ofList entries := by
  simp only [isObject_iff, ← read?_eq_some_iff]
  rw [ofText?, Option.bind_eq_some_iff]
  constructor
  · rintro ⟨v, hread, hv⟩
    cases v with
    | object members =>
      obtain ⟨entries, hentries, rfl⟩ := Option.map_eq_some_iff.1 hv
      exact ⟨entries, ⟨members, hread, hentries⟩, rfl⟩
    | null | bool _ | number _ | string _ | array _ => cases hv
  · rintro ⟨entries, ⟨members, hread, hentries⟩, rfl⟩
    refine ⟨object members, hread, ?_⟩
    rw [ofJson?, hentries, Option.map_some]

end Temperament.Scratch.Entries
