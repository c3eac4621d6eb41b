import Temperament.Proofs.Encoding
import Temperament.Proofs.Json.Members
import Temperament.Proofs.Json.Spacing
import Temperament.Proofs.Profile

/-!
# Reports among other data

What an object is read as, if it is read as a report: each name of a report has one value, the words
aside, and nothing else matters (`ofJson?_object_iff`).  So a report is read from its members in any
order, among others and with any white space, and an object that lacks a member, repeats one or has
something else for a count is no report (`decode_members`).  An entry of a store that holds such an
object is as good as none.
-/

namespace Temperament.Progress

open Json Text

/-! ## Members -/

def countNames : List String :=
  ["completedLearning", "targetLearning", "completedSports", "targetSports"]

/-- The names that a report must have. -/
def requiredNames : List String :=
  "weekStartIsoDate" :: countNames

def counts (p : Progress) : List (String × UInt32) :=
  [("completedLearning", p.completedLearning), ("targetLearning", p.targetLearning),
    ("completedSports", p.completedSports), ("targetSports", p.targetSports)]

/-- The members for the words of a report; none or a `null` if there are no words. -/
inductive IsFeedback : Option String → List (String × Json) → Prop
  | absent : IsFeedback none []
  | null : IsFeedback none [("parentFeedback", .null)]
  | words {ps : List Piece} {s : String} (h : pieceText? ps = some s) :
    IsFeedback (some s) [("parentFeedback", .string ps)]

/-- The members of a report in their order. -/
inductive IsForm (p : Progress) : List (String × Json) → Prop
  | mk {date : List Piece} {feedback : List (String × Json)}
    (hdate : pieceText? date = some p.weekStart.text) (hfeedback : IsFeedback p.feedback feedback) :
    IsForm p (("weekStartIsoDate", .string date) ::
      (p.counts.map fun (name, n) => (name, ofNat n.toNat)) ++ feedback)

/-- A number up to 4294967295, written as a plain numeral. -/
def IsCount (v : Json) : Prop :=
  ∃ literal n, v = .number literal ∧ Denotes literal n ∧ n ≤ 4294967295

/-- What keeps an object from being a report. -/
inductive IsFaulty (members : List (List Piece × Json)) : Prop
  | missing {name : String} (hname : name ∈ requiredNames) (h : valuesOf members name = [])
  | twice {name : String} (hname : name ∈ fieldNames) (h : 2 ≤ (valuesOf members name).length)
  | count {name : String} {v : Json} (hname : name ∈ countNames) (hv : v ∈ valuesOf members name)
    (h : ¬IsCount v)

/-- A report is written in its form. -/
theorem exists_isForm_toJson (p : Progress) :
    ∃ known, p.IsForm known ∧ p.toJson = ofFields known := by
  obtain ⟨weekStart, completedLearning, targetLearning, completedSports, targetSports, feedback⟩ := p
  cases feedback with
  | none => exact ⟨_, .mk (pieceText?_encode _) .absent, rfl⟩
  | some words => exact ⟨_, .mk (pieceText?_encode _) (.words (pieceText?_encode words)), rfl⟩

/-! ## What is read of an object -/

variable {p : Progress} {members : List (List Piece × Json)}

theorem isCount_of_uint32? {v : Json} {n : UInt32} (h : v.uint32? = some n) : IsCount v := by
  obtain ⟨literal, rfl, hdenotes⟩ := uint32?_eq_some_iff.1 h
  exact ⟨literal, n.toNat, rfl, hdenotes, Nat.le_of_lt_succ n.toNat_lt⟩

/-- A report is what the members of an object say. -/
structure IsRead (p : Progress) (members : List (List Piece × Json)) : Prop where
  weekStart : ∃ v, valuesOf members "weekStartIsoDate" = [v] ∧
    v.string?.bind Date.ofText? = some p.weekStart
  counts : ∀ count ∈ p.counts, ∃ v, valuesOf members count.1 = [v] ∧ v.uint32? = some count.2
  feedback : ∃ value, valuesOf members "parentFeedback" = value.toList ∧
    feedbackOfJson? value = some p.feedback

theorem forall_mem_counts {q : String × UInt32 → Prop} :
    (∀ count ∈ p.counts, q count) ↔ q ("completedLearning", p.completedLearning) ∧
      q ("targetLearning", p.targetLearning) ∧ q ("completedSports", p.completedSports) ∧
      q ("targetSports", p.targetSports) := by
  rw [counts, List.forall_mem_cons, List.forall_mem_cons, List.forall_mem_cons,
    List.forall_mem_singleton]

theorem ofJson?_object_iff :
    ofJson? (object members) = some p ↔
      (∃ named, members.mapM key? = some named) ∧ p.IsRead members := by
  rw [ofJson?]
  constructor
  · intro h
    obtain ⟨values, hvalues, h⟩ := Option.bind_eq_some_iff.1 h
    obtain ⟨hnamed, hvalues⟩ := fields?_object_eq_some_iff.1 hvalues
    simp only [fieldNames, List.forall₂_cons_left_iff, List.forall₂_nil_left_iff] at hvalues
    obtain ⟨weekStart, _, hweekStart, ⟨completedLearning, _, hcompletedLearning, ⟨targetLearning, _,
      htargetLearning, ⟨completedSports, _, hcompletedSports, ⟨targetSports, _, htargetSports,
      ⟨feedback, _, hfeedback, rfl, rfl⟩, rfl⟩, rfl⟩, rfl⟩, rfl⟩, rfl⟩ := hvalues
    split at h
    · rename_i heq
      cases heq
      simp only [Option.bind_eq_bind, Option.bind_eq_some_iff] at h
      obtain ⟨date, hdate, n, hn, n', hn', k, hk, k', hk', words, hwords, heq⟩ := h
      cases heq
      refine ⟨hnamed, ⟨_, hweekStart, Option.bind_eq_some_iff.2 hdate⟩, forall_mem_counts.2 ?_,
        ⟨_, hfeedback, hwords⟩⟩
      exact ⟨⟨_, hcompletedLearning, hn⟩, ⟨_, htargetLearning, hn'⟩, ⟨_, hcompletedSports, hk⟩,
        ⟨_, htargetSports, hk'⟩⟩
    · cases h
  · rintro ⟨hnamed, ⟨date, hdate, hweekStart⟩, hcounts, words, hwords, hfeedback⟩
    obtain ⟨⟨n, hn, hcompletedLearning⟩, ⟨n', hn', htargetLearning⟩, ⟨k, hk, hcompletedSports⟩,
      ⟨k', hk', htargetSports⟩⟩ := forall_mem_counts.1 hcounts
    have hvalues : (object members).fields? fieldNames =
        some [some date, some n, some n', some k, some k', words] :=
      fields?_object_eq_some_iff.2 ⟨hnamed,
        .cons hdate (.cons hn (.cons hn' (.cons hk (.cons hk' (.cons hwords .nil)))))⟩
    rw [hvalues]
    simp [hweekStart, hcompletedLearning, htargetLearning, hcompletedSports, htargetSports,
      hfeedback]

/-! ## Any order, other members -/

theorem IsFeedback.exists_value {words : Option String} {feedback : List (String × Json)}
    (h : IsFeedback words feedback) :
    ∃ value : Option Json, feedback = value.toList.map (("parentFeedback", ·)) ∧
      feedbackOfJson? value = some words := by
  cases h with
  | absent => exact ⟨none, rfl, rfl⟩
  | null => exact ⟨some .null, rfl, rfl⟩
  | @words ps s hs =>
    refine ⟨some (.string ps), rfl, ?_⟩
    show (pieceText? ps).map some = some (some s)
    rw [hs, Option.map_some]

theorem IsForm.names_nodup {known : List (String × Json)} (h : p.IsForm known) :
    (known.map Prod.fst).Nodup := by
  obtain ⟨-, hfeedback⟩ := h
  obtain ⟨value, rfl, -⟩ := hfeedback.exists_value
  have hdistinct : fieldNames.Nodup := by decide
  cases value with
  | none => exact hdistinct.sublist (List.sublist_append_left requiredNames _)
  | some => exact hdistinct

theorem fst_mem_fieldNames {count : String × UInt32} (h : count ∈ p.counts) :
    count.1 ∈ fieldNames := by
  have hnames : p.counts.map Prod.fst ⊆ fieldNames :=
    show countNames ⊆ fieldNames by decide
  exact hnames (List.mem_map_of_mem h)

theorem isRead_of_perm {named known others : List (String × Json)}
    (hnamed : members.mapM key? = some named) (hperm : named.Perm (known ++ others))
    (hform : p.IsForm known) (hothers : ∀ other ∈ others, other.1 ∉ fieldNames) :
    p.IsRead members := by
  have hother {name : String} (hname : name ∈ fieldNames) : name ∉ others.map Prod.fst := by
    intro hmem
    obtain ⟨other, hother, rfl⟩ := List.mem_map.1 hmem
    exact hothers other hother hname
  have hvalue {name : String} (hname : name ∈ fieldNames) {v : Json} (hmem : (name, v) ∈ known) :
      valuesOf members name = [v] :=
    valuesOf_of_mem hnamed hperm (hother hname) hform.names_nodup hmem
  have hnone := valuesOf_of_notMem hnamed hperm (@hother "parentFeedback" (by decide))
  obtain @⟨date, feedback, hdate, hfeedback⟩ := hform
  obtain ⟨value, rfl, hwords⟩ := hfeedback.exists_value
  refine ⟨⟨.string date, hvalue (by decide) (by simp), ?_⟩, fun count hcount => ?_,
    value, ?_, hwords⟩
  · rw [string?, hdate, Option.bind_some, Date.ofText?_text]
  · have hname := fst_mem_fieldNames hcount
    have hmem := List.mem_map_of_mem (f := fun (name, n) => (name, ofNat n.toNat)) hcount
    exact ⟨_, hvalue hname (List.mem_append_left _ (List.mem_cons_of_mem _ hmem)), uint32?_ofNat _⟩
  · cases value with
    | none => exact hnone (by simp [counts])
    | some v => exact hvalue (by decide) (by simp)

/-! ## Faults -/

theorem IsRead.count (h : p.IsRead members) {name : String} (hname : name ∈ countNames) :
    ∃ v, valuesOf members name = [v] ∧ IsCount v := by
  have hcounts : countNames = p.counts.map Prod.fst := rfl
  rw [hcounts] at hname
  obtain ⟨count, hcount, rfl⟩ := List.mem_map.1 hname
  obtain ⟨v, hv, hread⟩ := h.counts count hcount
  exact ⟨v, hv, isCount_of_uint32? hread⟩

theorem IsRead.required (h : p.IsRead members) {name : String} (hname : name ∈ requiredNames) :
    ∃ v, valuesOf members name = [v] := by
  rcases List.mem_cons.1 hname with rfl | hcount
  · obtain ⟨v, hv, -⟩ := h.weekStart
    exact ⟨v, hv⟩
  · obtain ⟨v, hv, -⟩ := h.count hcount
    exact ⟨v, hv⟩

theorem IsRead.length_le_one (h : p.IsRead members) {name : String} (hname : name ∈ fieldNames) :
    (valuesOf members name).length ≤ 1 := by
  have hnames : fieldNames = requiredNames ++ ["parentFeedback"] := rfl
  rw [hnames] at hname
  rcases List.mem_append.1 hname with hrequired | hfeedback
  · obtain ⟨v, hv⟩ := h.required hrequired
    rw [hv]
    rfl
  · obtain rfl := List.mem_singleton.1 hfeedback
    obtain ⟨value, hvalue, -⟩ := h.feedback
    rw [hvalue]
    exact Option.length_toList_le

theorem not_isRead_of_isFaulty (h : IsFaulty members) : ¬p.IsRead members := by
  intro hread
  cases h with
  | missing hname h =>
    obtain ⟨v, hv⟩ := hread.required hname
    cases h.symm.trans hv
  | twice hname h =>
    have := hread.length_le_one hname
    omega
  | count hname hv h =>
    obtain ⟨w, hw, hcount⟩ := hread.count hname
    rw [hw] at hv
    obtain rfl := List.mem_singleton.1 hv
    exact h hcount

/-! ## Texts -/

theorem decode_object {text : String} (htext : IsSpaced (object members).tokens text.toList) :
    decode ofJson? text =
      match ofJson? (object members) with
      | some p => .ok p
      | none => .error .malformedJson := by
  have hread : ofText? text = some (object members) := read?_eq_some_iff_isSpaced.2 htext
  rw [decode, hread, Option.bind_some]
  cases ofJson? (object members) <;> rfl

/-- A report is read from its members, which are those that it is written with, in any order, among
members with other names and with any white space.  If one is missing, stands there twice or is no
count where there should be one, then nothing is read, and a store with such an entry is loaded as if
it were not there. -/
theorem decode_members {members : List (List Piece × Json)} {text : String}
    (htext : IsSpaced (object members).tokens text.toList) :
    (∀ p : Progress, (∃ known, p.IsForm known ∧ p.toJson = ofFields known) ∧
      ∀ known others named : List (String × Json), p.IsForm known →
        (∀ other ∈ others, other.1 ∉ fieldNames) → named.Perm (known ++ others) →
        members.mapM key? = some named → decode ofJson? text = .ok p) ∧
    (IsFaulty members →
      decode ofJson? text = .error .malformedJson ∧
      ∀ (s : Scratch) (fs : Files) (m : Scratch.Entries), s.load fs = .ok m fs →
        m.get? Profile.progressKey = some text →
        ∃ category, Profile.load s fs = .ok ⟨category, none⟩ fs ∧
          ∀ (s' : Scratch) (fs' : Files), s'.load fs' = .ok (m.erase Profile.progressKey) fs' →
            Profile.load s' fs' = .ok ⟨category, none⟩ fs') := by
  constructor
  · refine fun p => ⟨p.exists_isForm_toJson, fun known others named hform hothers hperm hnamed => ?_⟩
    have hread := isRead_of_perm hnamed hperm hform hothers
    rw [decode_object htext, ofJson?_object_iff.2 ⟨⟨named, hnamed⟩, hread⟩]
  · intro hfaulty
    have hnone : ofJson? (object members) = none := Option.eq_none_iff_forall_ne_some.2 fun p hp =>
      not_isRead_of_isFaulty hfaulty (ofJson?_object_iff.1 hp).2
    have hdecode : decode ofJson? text = .error .malformedJson := by
      rw [decode_object htext, hnone]
    refine ⟨hdecode, fun s fs m hload hentry => ?_⟩
    have hignored : Profile.progressOf? text = none := by
      rw [Profile.progressOf?, hdecode]
      rfl
    have hprofile := Profile.ofEntries_of_ignored hentry hignored
    refine ⟨_, Profile.load_eq_ok_iff.2 ⟨m, hload, hprofile.symm⟩, fun s' fs' hload' => ?_⟩
    exact Profile.load_eq_ok_iff.2 ⟨_, hload', (Profile.ofEntries_erase m).symm⟩

/-- A report without words. -/
def septemberReport : Progress where
  weekStart := { year := 2024, month := 9, day := 2 }
  completedLearning := 0
  targetLearning := 5
  completedSports := 4294967295
  targetSports := 3

/-- Its members from the last one to the first, one name with an escape in it, behind another member. -/
def reversedMembers : List (List Piece × Json) :=
  [(encode "mood".toList, .array [.number "-1.5e+3".toList,
      .object [(encode "a".toList, .string [.unit 0xD800])], .bool true]),
    (encode "parentFeedback".toList, .null),
    (.unit 0x74 :: encode "argetSports".toList, .number "3".toList),
    (encode "completedSports".toList, .number "4294967295".toList),
    (encode "targetLearning".toList, .number "5".toList),
    (encode "completedLearning".toList, .number "0".toList),
    (encode "weekStartIsoDate".toList, .string (encode "2024-09-02".toList))]

def reversedText : String :=
  "\x7b \"mood\" : [ -1.5e+3,\x7b\"a\":\"\\uD800\"\x7d , true ],\n\"parentFeedback\":null," ++
    "\t\"\\u0074argetSports\":3,\"completedSports\":4294967295,\"targetLearning\" :5," ++
    "\"completedLearning\":0,\r\n\"weekStartIsoDate\":\"2024-09-02\"\x7d\n"

def negativeMembers : List (List Piece × Json) :=
  [(encode "targetSports".toList, .number ['-', '1'])]

def negativeText : String :=
  "\x7b\"targetSports\": -1\x7d"

/-- A store with a category, and with a negative count in its report. -/
def negativeFiles : Files where
  root := .folder [("state", .folder [("session.json", .file
    ("\x7b\"huidong.personality\": \"social\", " ++
      "\"huidong.progress\": \"\x7b\\\"targetSports\\\": -1\x7d\"\x7d").toUTF8)])]

/-- The first report is read from its members, the second one is as good as none. -/
theorem decode_members_reversed :
    decode ofJson? reversedText = .ok septemberReport ∧
      Profile.load ⟨"/state"⟩ negativeFiles = .ok ⟨some .social, none⟩ negativeFiles := by
  constructor
  · have hscan : scan? reversedText.toList = some (object reversedMembers).tokens := by
      decide +kernel
    obtain ⟨hread, -⟩ := decode_members (isSpaced_of_scan? hscan)
    have hform : septemberReport.IsForm
        (("weekStartIsoDate", .string (encode "2024-09-02".toList)) ::
          (septemberReport.counts.map fun (name, n) => (name, ofNat n.toNat)) ++
            [("parentFeedback", .null)]) :=
      .mk (by decide +kernel) .null
    exact (hread septemberReport).2 _ [("mood", .array [.number "-1.5e+3".toList,
      .object [(encode "a".toList, .string [.unit 0xD800])], .bool true])] _ hform
      (by simp [fieldNames]) (List.reverse_perm _) (by rfl)
  · have hscan : scan? negativeText.toList = some (object negativeMembers).tokens := by
      decide +kernel
    obtain ⟨-, hfaulty⟩ := decode_members (isSpaced_of_scan? hscan)
    have hcount : ¬IsCount (.number ['-', '1']) := by
      rintro ⟨literal, n, heq, hdenotes, -⟩
      cases heq
      exact absurd (hdenotes.all_isDigit '-' List.mem_cons_self) (by decide)
    have hholds : Scratch.Holds ⟨"/state"⟩ negativeFiles
        (some ((SortedMap.insert ∅ Profile.categoryKey "social").insert Profile.progressKey
          negativeText)) := by
      refine ⟨"\x7b\"huidong.personality\": \"social\", " ++
        "\"huidong.progress\": \"\x7b\\\"targetSports\\\": -1\x7d\"\x7d", ?_, ?_⟩
      · decide +kernel
      · decide +kernel
    have hname : "targetSports" ∈ countNames := by decide
    have hvalues : valuesOf negativeMembers "targetSports" = [.number ['-', '1']] := by rfl
    obtain ⟨-, hload⟩ := hfaulty (.count hname (hvalues ▸ List.mem_singleton_self _) hcount)
    obtain ⟨category, hignored, -⟩ := hload _ _ _ hholds.load (by decide +kernel)
    obtain ⟨m, hm, hprofile⟩ := Profile.load_eq_ok_iff.1 hignored
    cases hholds.load.symm.trans hm
    have hcategory : category = some .social :=
      (congrArg Profile.category hprofile).trans (by decide +kernel)
    rwa [hcategory] at hignored

end Temperament.Progress
