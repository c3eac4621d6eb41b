import Temperament.Proofs.Prompt
import Temperament.Proofs.Spec

/-!
# Answers at the prompt and in specs

The prompt gives each question the next line that is a choice, until the questions or the lines end
(`outcome_run`).  Specs of known questions and options give the answers that they name, in any order
(`answerSpecs_perm`); the first that is not one is the fault of all of them
(`answerSpecs_of_refuses`).
-/

namespace Temperament

open Text

namespace Questionnaire

/-! ## Answers at the prompt -/

theorem zip_take (ids : List UInt32) (choices : List UInt64) :
    ids.zip (choices.take ids.length) = ids.zip choices := by
  induction ids generalizing choices with
  | nil => rfl
  | cons id ids ih =>
    cases choices with
    | nil => rfl
    | cons index choices => simp [ih]

/-- The choices that the prompt accepts from an input, one for each question at most. -/
def accepted (questions : List Question) (input : List UInt8) : List UInt64 :=
  (lineChoices (splitLines input)).take questions.length

theorem outcome_run {questions : List Question} {input : List UInt8}
    (htexts : AreTexts (splitLines input)) :
    (run questions input).outcome =
      .ok (.ofPairs ((questions.map Question.id).zip (accepted questions input))) := by
  have hzip := zip_take (questions.map Question.id) (lineChoices (splitLines input))
  rw [List.length_map] at hzip
  rw [accepted, hzip]
  exact outcome_ask (List.Subset.refl questions) ∅ htexts

theorem isKnown_of_mem_zip {questions : List Question} {input : List UInt8}
    {answer : UInt32 × UInt64}
    (h : answer ∈ (questions.map Question.id).zip (accepted questions input)) :
    Answers.IsKnown questions answer :=
  ⟨(List.of_mem_zip h).1, lt_of_mem_lineChoices (List.mem_of_mem_take (List.of_mem_zip h).2)⟩

/-! ## Specs -/

/-- The spec of an answer. -/
def spec (answer : UInt32 × UInt64) : String :=
  decimal answer.1.toNat ++ "=" ++ decimal answer.2.toNat

theorem toList_spec (answer : UInt32 × UInt64) :
    (spec answer).toList = digits answer.1.toNat ++ '=' :: digits answer.2.toNat := by
  simp [spec, decimal]

theorem readSpec?_spec (answer : UInt32 × UInt64) :
    readSpec? (spec answer).toList = some answer := by
  rw [toList_spec, readSpec?_eq_some_iff]
  exact .pair (denotesPadded_digits_self _) (denotesPadded_digits_self _)

/-- The answers that specs are read as. -/
def specAnswers (specs : List String) : List (UInt32 × UInt64) :=
  specs.filterMap fun spec => readSpec? spec.toList

theorem specAnswers_map_spec (answers : List (UInt32 × UInt64)) :
    specAnswers (answers.map spec) = answers := by
  rw [specAnswers, List.filterMap_map]
  have hread : (fun spec => readSpec? spec.toList) ∘ spec = some := funext readSpec?_spec
  rw [hread, List.filterMap_some]

/-- A spec is taken that reads as an answer to a question of a list, with one of its options. -/
def IsTaken (questions : List Question) (spec : String) : Prop :=
  ∃ answer, readSpec? spec.toList = some answer ∧ Answers.IsKnown questions answer

/-- The fault of a spec that is not taken. -/
inductive Refuses (questions : List Question) (spec : String) : Fault → Prop
  | unread (h : readSpec? spec.toList = none) : Refuses questions spec (.invalidSpec spec)
  | unknown (answer : UInt32 × UInt64) (h : readSpec? spec.toList = some answer)
      (hid : answer.1 ∉ questions.map Question.id) :
      Refuses questions spec (.unknownQuestion answer.1)
  | invalid (answer : UInt32 × UInt64) (h : readSpec? spec.toList = some answer)
      (hid : answer.1 ∈ questions.map Question.id) (hindex : optionCount ≤ answer.2.toNat) :
      Refuses questions spec (.invalidAnswer answer.1 answer.2)

/-- Answers with the one of a spec. -/
def takeSpec (questions : List Question) (answers : Answers) (spec : String) :
    Except Fault Answers := do
  let (id, index) ← parseSpec spec
  answers.select questions id index

variable {questions : List Question} {specs : List String}

theorem answerSpecs_eq_foldlM (questions : List Question) (specs : List String) :
    answerSpecs questions specs = specs.foldlM (takeSpec questions) ∅ := rfl

theorem takeSpec_of_isKnown {spec : String} {answer : UInt32 × UInt64}
    (hread : readSpec? spec.toList = some answer) (hknown : Answers.IsKnown questions answer)
    (answers : Answers) :
    takeSpec questions answers spec = .ok (answers.putAll [answer]) := by
  rw [takeSpec, parseSpec, hread]
  exact Answers.select_of_isKnown hknown answers

theorem takeSpec_of_refuses {spec : String} {fault : Fault} (h : Refuses questions spec fault)
    (answers : Answers) : takeSpec questions answers spec = .error fault := by
  cases h with
  | unread hread =>
    rw [takeSpec, parseSpec, hread]
    rfl
  | unknown answer hread hid =>
    rw [takeSpec, parseSpec, hread]
    exact Answers.select_of_notMem hid answers
  | invalid answer hread hid hindex =>
    rw [takeSpec, parseSpec, hread]
    exact Answers.select_of_optionCount_le hid hindex answers

/-- Specs that are all taken give the answers that they read as. -/
theorem answerSpecs_eq_ofPairs (h : ∀ spec ∈ specs, IsTaken questions spec) :
    answerSpecs questions specs = .ok (.ofPairs (specAnswers specs)) := by
  rw [answerSpecs_eq_foldlM, ← Answers.putAll_empty]
  generalize (∅ : Answers) = answers
  induction specs generalizing answers with
  | nil => rfl
  | cons spec specs ih =>
    obtain ⟨answer, hread, hknown⟩ := h spec List.mem_cons_self
    have hspecs : specAnswers (spec :: specs) = answer :: specAnswers specs :=
      List.filterMap_cons_some hread
    rw [List.foldlM_cons, takeSpec_of_isKnown hread hknown, hspecs]
    exact ih (fun spec hspec => h spec (List.mem_cons_of_mem _ hspec)) _

theorem exists_refuses {spec : String} (h : ¬IsTaken questions spec) :
    ∃ fault, Refuses questions spec fault := by
  cases hread : readSpec? spec.toList with
  | none => exact ⟨_, .unread hread⟩
  | some answer =>
    by_cases hid : answer.1 ∈ questions.map Question.id
    · have hindex : optionCount ≤ answer.2.toNat :=
        Nat.not_lt.1 fun hlt => h ⟨answer, hread, hid, hlt⟩
      exact ⟨_, .invalid answer hread hid hindex⟩
    · exact ⟨_, .unknown answer hread hid⟩

/-- The first spec that is not taken ends the answers with its fault, whatever comes after it. -/
theorem answerSpecs_of_refuses {before : List String} {spec : String} {fault : Fault}
    (hbefore : ∀ spec ∈ before, IsTaken questions spec) (h : Refuses questions spec fault)
    (after : List String) : answerSpecs questions (before ++ spec :: after) = .error fault := by
  have hfold : answerSpecs questions (before ++ spec :: after) =
      answerSpecs questions before >>= fun answers =>
        takeSpec questions answers spec >>= after.foldlM (takeSpec questions) := by
    rw [answerSpecs_eq_foldlM, List.foldlM_append]
    rfl
  rw [hfold, answerSpecs_eq_ofPairs hbefore]
  show (takeSpec questions _ spec >>= _) = _
  rw [takeSpec_of_refuses h]
  rfl

theorem isKnown_of_mem_specAnswers (h : ∀ spec ∈ specs, IsTaken questions spec)
    {answer : UInt32 × UInt64} (hanswer : answer ∈ specAnswers specs) :
    Answers.IsKnown questions answer := by
  obtain ⟨spec, hspec, hread⟩ := List.mem_filterMap.1 hanswer
  obtain ⟨answer', hread', hknown⟩ := h spec hspec
  cases hread.symm.trans hread'
  exact hknown

/-- Specs of different questions give the same answers in any order. -/
theorem answerSpecs_perm {answers : List (UInt32 × UInt64)}
    (hknown : ∀ answer ∈ answers, Answers.IsKnown questions answer)
    (hids : (answers.map Prod.fst).Nodup)
    (hspecs : specs.Perm (answers.map spec)) :
    answerSpecs questions specs = .ok (.ofPairs answers) := by
  have hread : (specAnswers specs).Perm answers := by
    have hmap := hspecs.filterMap fun spec => readSpec? spec.toList
    rwa [← specAnswers, ← specAnswers, specAnswers_map_spec] at hmap
  have hall : ∀ spec ∈ specs, IsTaken questions spec := by
    intro s hs
    obtain ⟨answer, hanswer, rfl⟩ := List.mem_map.1 (hspecs.mem_iff.1 hs)
    exact ⟨answer, readSpec?_spec answer, hknown answer hanswer⟩
  rw [answerSpecs_eq_ofPairs hall, Answers.ofPairs, Answers.ofPairs,
    SortedMap.ofList_perm hread ((hread.map Prod.fst).nodup_iff.2 hids)]

end Questionnaire

end Temperament
