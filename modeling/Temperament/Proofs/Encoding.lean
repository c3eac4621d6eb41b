import Temperament.Encoding
import Temperament.Proofs.Date
import Temperament.Proofs.Json.Record
import Temperament.Proofs.Json.Spacing
import Temperament.Proofs.SortedMap

/-!
# Reading back data

Reports, plans, questions, answers and categories are read back from their JSON texts, whatever texts,
numbers and dates they hold (`isLossless_forms`).
-/

namespace Temperament

open Json

/-! ## Forms without loss -/

namespace Json

variable {α : Type} {toJson : α → Json} {ofJson? : Json → Option α}

theorem decode_text_of {a : α} (hwritable : (toJson a).IsWritable)
    (hread : ofJson? (toJson a) = some a) : decode ofJson? (toJson a).text = .ok a := by
  rw [decode, ofText?_text hwritable, Option.bind_some, hread]

/-- The text that is written for the value that a text is read as. -/
def normalized (toJson : α → Json) (ofJson? : Json → Option α) (s : String) :
    Except Fault String :=
  (decode ofJson? s).map fun a => (toJson a).text

/-- Every value is read back from its text.  So different values have different texts, and the text
written for what was read is not changed when it is read and written again. -/
structure IsLossless (toJson : α → Json) (ofJson? : Json → Option α) : Prop where
  decode_text : ∀ a, decode ofJson? (toJson a).text = .ok a
  text_injective : ∀ a a', (toJson a).text = (toJson a').text → a = a'
  normalized_normalized : ∀ s t, normalized toJson ofJson? s = .ok t →
    normalized toJson ofJson? t = .ok t

theorem isLossless_of_decode_text (h : ∀ a, decode ofJson? (toJson a).text = .ok a) :
    IsLossless toJson ofJson? where
  decode_text := h
  text_injective a a' htext := by
    have := h a
    rw [htext, h a'] at this
    exact (Except.ok.inj this).symm
  normalized_normalized s t hs := by
    rw [normalized] at hs
    cases hdecode : decode ofJson? s with
    | error fault =>
      rw [hdecode] at hs
      cases hs
    | ok a =>
      rw [hdecode] at hs
      obtain rfl := Except.ok.inj hs
      rw [normalized, h a]
      rfl

end Json

/-! ## Reports -/

namespace Progress

theorem isWritable_toJson (p : Progress) : p.toJson.IsWritable := by
  refine isWritable_ofFields fun field hfield => ?_
  simp only [List.mem_append, List.mem_cons, List.not_mem_nil, or_false, List.mem_map] at hfield
  rcases hfield with (rfl | rfl | rfl | rfl | rfl) | ⟨words, -, rfl⟩
  · exact isWritable_ofString _
  · exact isWritable_ofNat _
  · exact isWritable_ofNat _
  · exact isWritable_ofNat _
  · exact isWritable_ofNat _
  · exact isWritable_ofString _

theorem ofJson?_toJson (p : Progress) : ofJson? p.toJson = some p := by
  have hfeedback (words : String) : feedbackOfJson? (some (ofString words)) = some (some words) := by
    show (ofString words).string?.map some = _
    rw [string?_ofString, Option.map_some]
  obtain ⟨weekStart, completedLearning, targetLearning, completedSports, targetSports, feedback⟩ := p
  rw [ofJson?, toJson, fields?_ofFields]
  cases feedback with
  | none =>
    simp [fieldNames, field?, Date.ofText?_text, feedbackOfJson?]
  | some words =>
    simp [fieldNames, field?, Date.ofText?_text, hfeedback]

theorem decode_text (p : Progress) : decode ofJson? p.toJson.text = .ok p :=
  decode_text_of p.isWritable_toJson p.ofJson?_toJson

end Progress

/-! ## Plans, questions and categories -/

namespace Plan

theorem isWritable_toJson (p : Plan) : p.toJson.IsWritable := by
  refine isWritable_ofFields fun field hfield => ?_
  simp only [List.mem_cons, List.not_mem_nil, or_false] at hfield
  rcases hfield with rfl | rfl | rfl
  · exact isWritable_ofStrings _
  · exact isWritable_ofStrings _
  · exact isWritable_ofStrings _

theorem ofJson?_toJson (p : Plan) : ofJson? p.toJson = some p := by
  rw [ofJson?, toJson, fields?_ofFields]
  simp [field?]

end Plan

namespace Question

theorem isWritable_toJson (q : Question) : q.toJson.IsWritable := by
  refine isWritable_ofFields fun field hfield => ?_
  simp only [List.mem_cons, List.not_mem_nil, or_false] at hfield
  rcases hfield with rfl | rfl | rfl
  · exact isWritable_ofNat _
  · exact isWritable_ofString _
  · exact isWritable_ofStrings _

theorem ofJson?_toJson (q : Question) : ofJson? q.toJson = some q := by
  obtain ⟨id, title, ⟨options, hsize⟩⟩ := q
  rw [ofJson?, toJson, fields?_ofFields]
  simp [field?, hsize]

end Question

namespace Category

theorem isWritable_toJson (c : Category) : c.toJson.IsWritable :=
  isWritable_ofString c.name

theorem ofJson?_toJson (c : Category) : ofJson? c.toJson = some c := by
  show (pieceText? (encode c.name.toList)).bind ofName? = some c
  rw [pieceText?_encode, Option.bind_some, ofName?_name]

end Category

/-! ## Answers -/

namespace Answers

/-- An answer as a member of the object of all answers. -/
def member (answer : UInt32 × UInt64) : List Piece × Json :=
  (encode (Text.digits answer.1.toNat), ofNat answer.2.toNat)

theorem isWritable_toJson (a : Answers) : a.toJson.IsWritable := by
  refine isWritable_ofFields fun field hfield => ?_
  obtain rfl := List.mem_singleton.1 hfield
  refine isWritable_object fun m hm => ?_
  obtain ⟨answer, -, rfl⟩ := List.mem_map.1 hm
  exact ⟨fun p hp => isWritable_of_mem_encode hp, isWritable_ofNat _⟩

theorem idOfKey?_digits (id : UInt32) : idOfKey? (encode (Text.digits id.toNat)) = some id := by
  have hdigits := List.all_eq_true.1 (Text.all_isDigit_digits id.toNat)
  have hzeros : ¬((Text.digits id.toNat).head? = some '0' ∧ Text.digits id.toNat ≠ ['0']) :=
    fun h => h.2 (by rw [Text.eq_zero_of_head?_digits h.1]; rfl)
  rw [idOfKey?, plain?_encode hdigits, Option.bind_eq_bind, Option.bind_some, if_neg hzeros,
    Text.readNumeral?_digits id.toNat_lt, Option.map_some, UInt32.ofNat_toNat]

theorem choiceOfMember?_member (answer : UInt32 × UInt64) :
    choiceOfMember? (member answer) = some answer := by
  rw [choiceOfMember?, member, idOfKey?_digits, uint64?_ofNat]
  rfl

theorem ofJson?_toJson (a : Answers) : ofJson? a.toJson = some a := by
  have hfields : a.toJson.fields? ["selections"] = some [some (.object (a.toPairs.map member))] := by
    rw [toJson, fields?_ofFields]
    rfl
  rw [ofJson?, hfields]
  show (((a.toPairs.map member).mapM choiceOfMember?).map ofPairs) = some a
  rw [mapM_map_eq_some choiceOfMember?_member, Option.map_some, ofPairs, toPairs,
    SortedMap.ofList_toList]

end Answers

/-! ## All data -/

/-- Data of every kind is written without loss.  In particular a report without words and one with
empty words have different texts, and the members of the object of answers are as many as these. -/
theorem isLossless_forms :
    IsLossless Progress.toJson Progress.ofJson? ∧ IsLossless Plan.toJson Plan.ofJson? ∧
      IsLossless Question.toJson Question.ofJson? ∧ IsLossless Answers.toJson Answers.ofJson? ∧
      IsLossless Category.toJson Category.ofJson? ∧
      (∀ p : Progress, { p with feedback := none }.toJson.text ≠
        { p with feedback := some "" }.toJson.text) ∧
      ∀ a : Answers, ∃ members, a.toJson = ofFields [("selections", .object members)] ∧
        members.mapM Answers.choiceOfMember? = some a.toPairs := by
  have hprogress : IsLossless Progress.toJson Progress.ofJson? :=
    isLossless_of_decode_text Progress.decode_text
  refine ⟨hprogress, isLossless_of_decode_text fun p => ?_, isLossless_of_decode_text fun q => ?_,
    isLossless_of_decode_text fun a => ?_, isLossless_of_decode_text fun c => ?_,
    fun p h => ?_, fun a => ?_⟩
  · exact decode_text_of p.isWritable_toJson p.ofJson?_toJson
  · exact decode_text_of q.isWritable_toJson q.ofJson?_toJson
  · exact decode_text_of a.isWritable_toJson a.ofJson?_toJson
  · exact decode_text_of c.isWritable_toJson c.ofJson?_toJson
  · have := congrArg Progress.feedback (hprogress.text_injective _ _ h)
    cases this
  · exact ⟨a.toPairs.map Answers.member, rfl, mapM_map_eq_some Answers.choiceOfMember?_member _⟩

end Temperament
