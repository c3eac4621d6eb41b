import Mathlib.Data.List.Induction
import Temperament.Proofs.SortedMap
import Temperament.Proofs.Tally

/-!
# Answers that are offered

Answers are offered one by one, and `select` takes those to a question of the list and with one of its
options; it refuses the others and leaves the answers as they are.  What was taken decides everything:
the answers, their number, whether they are complete, and how many of them are counted
(`offerAll_gathered`).
-/

namespace Temperament

/-! ## Answers put together -/

namespace Answers

/-- Answers with further pairs, each in place of an earlier one for the same id. -/
def putAll (a : Answers) (pairs : List (UInt32 × UInt64)) : Answers :=
  ⟨pairs.foldl (fun choices answer => choices.insert answer.1 answer.2) a.choices⟩

theorem putAll_empty (pairs : List (UInt32 × UInt64)) : putAll ∅ pairs = ofPairs pairs := rfl

/-- An answer to a question of a list with one of its options. -/
def IsKnown (questions : List Question) (answer : UInt32 × UInt64) : Prop :=
  answer.1 ∈ questions.map Question.id ∧ answer.2.toNat < optionCount

theorem any_id_iff {questions : List Question} {id : UInt32} :
    questions.any (·.id == id) = true ↔ id ∈ questions.map Question.id := by
  rw [List.any_eq_true, List.mem_map]
  simp only [beq_iff_eq]

theorem select_of_isKnown {questions : List Question} {answer : UInt32 × UInt64}
    (h : IsKnown questions answer) (a : Answers) :
    a.select questions answer.1 answer.2 = .ok (a.putAll [answer]) := by
  rw [select, any_id_iff.2 h.1, if_pos h.2]
  rfl

theorem isAnswered_ofPairs {pairs : List (UInt32 × UInt64)} {q : Question} :
    (ofPairs pairs).isAnswered q = true ↔ q.id ∈ pairs.map Prod.fst :=
  SortedMap.isSome_get?_ofList

/-! ## The last answer for an id -/

/-- The last of the answers that are given for an id. -/
def lastFor? (pairs : List (UInt32 × UInt64)) (id : UInt32) : Option UInt64 :=
  ((pairs.filter (·.1 == id)).getLast?).map Prod.snd

theorem lookup_reverse (pairs : List (UInt32 × UInt64)) (id : UInt32) :
    pairs.reverse.lookup id = lastFor? pairs id := by
  induction pairs using List.reverseRecOn with
  | nil => rfl
  | append_singleton pairs pair ih =>
    obtain ⟨id', index⟩ := pair
    rw [List.reverse_append, List.reverse_singleton, List.singleton_append, List.lookup_cons, ih,
      lastFor?, lastFor?, List.filter_append, List.filter_singleton]
    by_cases h : id = id'
    · simp [h]
    · simp [beq_false_of_ne h, beq_false_of_ne (Ne.symm h)]

theorem get?_ofPairs (pairs : List (UInt32 × UInt64)) (id : UInt32) :
    (ofPairs pairs).get? id = lastFor? pairs id := by
  rw [← lookup_reverse]
  exact SortedMap.get?_ofList pairs id

theorem mem_of_lastFor?_eq_some {pairs : List (UInt32 × UInt64)} {id : UInt32} {index : UInt64}
    (h : lastFor? pairs id = some index) : (id, index) ∈ pairs := by
  obtain ⟨⟨id', index'⟩, hlast, rfl⟩ := Option.map_eq_some_iff.1 h
  obtain ⟨hmem, hid⟩ := List.mem_filter.1 (List.mem_of_getLast? hlast)
  rw [beq_iff_eq] at hid
  exact hid ▸ hmem

/-! ## Complete answers -/

theorem isComplete_iff_countP {a : Answers} {qs : List Question} :
    a.isComplete qs = true ↔ qs.countP a.isAnswered = qs.length := by
  rw [isComplete, List.all_eq_true, List.countP_eq_length]

theorem ensureComplete_eq_ok_iff {a : Answers} {qs : List Question} :
    a.ensureComplete qs = .ok ⟨⟩ ↔ a.isComplete qs = true := by
  rw [ensureComplete]
  split
  · rename_i h
    exact iff_of_true rfl h
  · rename_i h
    exact iff_of_false nofun h

theorem ensureComplete_of_isComplete_eq_false {a : Answers} {qs : List Question}
    (h : a.isComplete qs = false) :
    a.ensureComplete qs = .error (.incomplete (qs.countP a.isAnswered) qs.length) ∧
      qs.countP a.isAnswered < qs.length := by
  refine ⟨?_, Nat.lt_of_le_of_ne List.countP_le_length fun heq => ?_⟩
  · rw [ensureComplete, h]
    rfl
  · rw [isComplete_iff_countP.2 heq] at h
    cases h

theorem map_fst_zip (ids : List UInt32) (choices : List UInt64) :
    (ids.zip choices).map Prod.fst = ids.take choices.length := by
  induction ids generalizing choices with
  | nil => simp
  | cons id ids ih =>
    cases choices with
    | nil => rfl
    | cons index choices => simp [ih]

/-- As many of different questions are answered as there are answers to them in order. -/
theorem countP_isAnswered {questions : List Question} (hids : (questions.map Question.id).Nodup)
    {choices : List UInt64} (hlength : choices.length ≤ questions.length) :
    questions.countP (ofPairs ((questions.map Question.id).zip choices)).isAnswered =
      choices.length := by
  have hanswered (q : Question) :
      (ofPairs ((questions.map Question.id).zip choices)).isAnswered q = true ↔
        q.id ∈ (questions.take choices.length).map Question.id := by
    rw [isAnswered_ofPairs, map_fst_zip, List.map_take]
  generalize (ofPairs ((questions.map Question.id).zip choices)).isAnswered = p at hanswered
  rw [← List.take_append_drop choices.length questions, List.map_append, List.nodup_append] at hids
  have htaken : (questions.take choices.length).countP p = choices.length := by
    have hall : ∀ q ∈ questions.take choices.length, p q = true := fun q hq =>
      (hanswered q).2 (List.mem_map_of_mem hq)
    rw [List.countP_eq_length.2 hall, List.length_take_of_le hlength]
  have hdropped : (questions.drop choices.length).countP p = 0 := by
    refine List.countP_eq_zero.2 fun q hq hp => ?_
    exact hids.2.2 _ ((hanswered q).1 hp) _ (List.mem_map_of_mem hq) rfl
  rw [← List.take_append_drop choices.length questions, List.countP_append, htaken, hdropped,
    Nat.add_zero]

theorem ensureComplete_of_length_lt {questions : List Question}
    (hids : (questions.map Question.id).Nodup) {choices : List UInt64}
    (hlength : choices.length < questions.length) :
    (ofPairs ((questions.map Question.id).zip choices)).ensureComplete questions =
      .error (.incomplete choices.length questions.length) := by
  have hcount := countP_isAnswered hids (Nat.le_of_lt hlength)
  have hlacks :
      (ofPairs ((questions.map Question.id).zip choices)).isComplete questions = false := by
    refine Bool.eq_false_iff.2 fun hcomplete => ?_
    rw [isComplete_iff_countP, hcount] at hcomplete
    exact Nat.ne_of_lt hlength hcomplete
  rw [(ensureComplete_of_isComplete_eq_false hlacks).1, hcount]

/-! ## Offers -/

instance (questions : List Question) (answer : UInt32 × UInt64) :
    Decidable (IsKnown questions answer) :=
  inferInstanceAs (Decidable (_ ∧ _))

/-- Offers an answer to a question of a list: what `select` says to it, and the answers afterwards, which
stay as they are if it is refused. -/
def offer (a : Answers) (questions : List Question) (answer : UInt32 × UInt64) :
    Except Fault Unit × Answers :=
  match a.select questions answer.1 answer.2 with
  | .ok a' => (.ok ⟨⟩, a')
  | .error fault => (.error fault, a)

/-- Offers answers one after the other. -/
def offerAll (questions : List Question) :
    List (UInt32 × UInt64) → Answers → List (Except Fault Unit) × Answers
  | [], a => ([], a)
  | answer :: answers, a =>
    let (reply, a) := a.offer questions answer
    let (replies, a) := offerAll questions answers a
    (reply :: replies, a)

/-- The offers that are accepted. -/
def accepted (questions : List Question) (offers : List (UInt32 × UInt64)) :
    List (UInt32 × UInt64) :=
  offers.filter fun answer => decide (IsKnown questions answer)

/-- What an offer has to be told: that it is accepted if it is to a question of the list and one of its
options; else that there is no such question, whatever the option, or no such option. -/
structure IsReply (questions : List Question) (answer : UInt32 × UInt64)
    (reply : Except Fault Unit) : Prop where
  ok_iff : reply = .ok ⟨⟩ ↔
    answer.1 ∈ questions.map Question.id ∧ answer.2.toNat < optionCount
  unknown : answer.1 ∉ questions.map Question.id → reply = .error (.unknownQuestion answer.1)
  invalid : answer.1 ∈ questions.map Question.id → optionCount ≤ answer.2.toNat →
    reply = .error (.invalidAnswer answer.1 answer.2)

/-- The same offers in an order that keeps those for each id. -/
def AlikeById (offers offers' : List (UInt32 × UInt64)) : Prop :=
  ∀ id, offers'.filter (·.1 == id) = offers.filter (·.1 == id)

variable {questions : List Question} {a : Answers} {answer : UInt32 × UInt64}

theorem select_of_notMem (h : answer.1 ∉ questions.map Question.id) (a : Answers) :
    a.select questions answer.1 answer.2 = .error (.unknownQuestion answer.1) := by
  rw [select, Bool.eq_false_iff.2 (mt any_id_iff.1 h)]
  rfl

theorem select_of_optionCount_le (h : answer.1 ∈ questions.map Question.id)
    (hindex : optionCount ≤ answer.2.toNat) (a : Answers) :
    a.select questions answer.1 answer.2 = .error (.invalidAnswer answer.1 answer.2) := by
  rw [select, any_id_iff.2 h, if_neg (Nat.not_lt.2 hindex)]
  rfl

theorem offer_of_isKnown (h : IsKnown questions answer) (a : Answers) :
    a.offer questions answer = (.ok ⟨⟩, a.putAll [answer]) := by
  rw [offer, select_of_isKnown h]

theorem offer_of_not_isKnown (h : ¬IsKnown questions answer) (a : Answers) :
    ∃ fault, a.offer questions answer = (.error fault, a) := by
  by_cases hid : answer.1 ∈ questions.map Question.id
  · have hindex : optionCount ≤ answer.2.toNat := Nat.not_lt.1 fun hlt => h ⟨hid, hlt⟩
    exact ⟨_, by rw [offer, select_of_optionCount_le hid hindex]⟩
  · exact ⟨_, by rw [offer, select_of_notMem hid]⟩

theorem isReply_offer (a : Answers) (questions : List Question) (answer : UInt32 × UInt64) :
    IsReply questions answer (a.offer questions answer).1 where
  ok_iff := by
    by_cases h : IsKnown questions answer
    · rw [offer_of_isKnown h]
      exact iff_of_true rfl h
    · obtain ⟨fault, hoffer⟩ := offer_of_not_isKnown h a
      rw [hoffer]
      exact iff_of_false nofun h
  unknown h := by rw [offer, select_of_notMem h]
  invalid h hindex := by rw [offer, select_of_optionCount_le h hindex]

/-- Offers leave the answers that are made of the accepted ones. -/
theorem snd_offerAll (offers : List (UInt32 × UInt64)) (a : Answers) :
    (offerAll questions offers a).2 = a.putAll (accepted questions offers) := by
  induction offers generalizing a with
  | nil => rfl
  | cons answer offers ih =>
    have hcons : (offerAll questions (answer :: offers) a).2 =
        (offerAll questions offers (a.offer questions answer).2).2 := rfl
    rw [hcons, ih]
    by_cases h : IsKnown questions answer
    · have haccepted : accepted questions (answer :: offers) = answer :: accepted questions offers :=
        List.filter_cons_of_pos (decide_eq_true h)
      rw [offer_of_isKnown h, haccepted]
      rfl
    · have haccepted : accepted questions (answer :: offers) = accepted questions offers :=
        List.filter_cons_of_neg (by rw [decide_eq_true_eq]; exact h)
      obtain ⟨fault, hoffer⟩ := offer_of_not_isKnown h a
      rw [hoffer, haccepted]

theorem offerAll_concat (offers : List (UInt32 × UInt64)) (a : Answers) :
    offerAll questions (offers ++ [answer]) a =
      ((offerAll questions offers a).1 ++
          [((offerAll questions offers a).2.offer questions answer).1],
        ((offerAll questions offers a).2.offer questions answer).2) := by
  induction offers generalizing a with
  | nil => rfl
  | cons first offers ih =>
    show ((a.offer questions first).1 ::
        (offerAll questions (offers ++ [answer]) (a.offer questions first).2).1,
      (offerAll questions (offers ++ [answer]) (a.offer questions first).2).2) = _
    rw [ih]
    rfl

theorem forall₂_isReply_offerAll (questions : List Question) (offers : List (UInt32 × UInt64))
    (a : Answers) : List.Forall₂ (IsReply questions) offers (offerAll questions offers a).1 := by
  induction offers generalizing a with
  | nil => exact .nil
  | cons answer offers ih => exact .cons (isReply_offer a questions answer) (ih _)

/-! ## What is gathered -/

/-- For how many questions of a list some answers have an id. -/
def coverage (questions : List Question) (taken : List (UInt32 × UInt64)) : Nat :=
  questions.countP fun q => decide (q.id ∈ taken.map Prod.fst)

/-- Of different questions as many are covered as there are different ids among answers to them. -/
theorem coverage_eq_length_dedup {questions : List Question}
    (hids : (questions.map Question.id).Nodup) {taken : List (UInt32 × UInt64)}
    (htaken : ∀ answer ∈ taken, answer.1 ∈ questions.map Question.id) :
    coverage questions taken = (taken.map Prod.fst).dedup.length := by
  have hcoverage : coverage questions taken =
      ((questions.map Question.id).filter fun id => decide (id ∈ taken.map Prod.fst)).length := by
    rw [coverage, ← List.countP_eq_length_filter, List.countP_map]
    rfl
  have hperm : ((questions.map Question.id).filter fun id =>
      decide (id ∈ taken.map Prod.fst)).Perm (taken.map Prod.fst).dedup := by
    refine (List.perm_ext_iff_of_nodup (hids.filter _) (List.nodup_dedup _)).2 fun id => ?_
    rw [List.mem_filter, decide_eq_true_eq, List.mem_dedup, and_iff_right_iff_imp]
    intro hid
    obtain ⟨answer, hanswer, rfl⟩ := List.mem_map.1 hid
    exact htaken answer hanswer
  rw [hcoverage, hperm.length_eq]

/-- What the answers come to that were taken one after the other for the questions of a list.  Their
tally leaves none of them out; its total is a number of 32 bits, and theirs if that is one. -/
structure Gathered (questions : List Question) (taken : List (UInt32 × UInt64)) (a : Answers) :
    Prop where
  get?_eq : ∀ id, a.get? id = lastFor? taken id
  size_eq : a.size = (taken.map Prod.fst).dedup.length
  isComplete_iff : a.isComplete questions = true ↔
    ∀ q ∈ questions, q.id ∈ taken.map Prod.fst
  ensureComplete_eq_ok : a.ensureComplete questions = .ok ⟨⟩ ↔ a.isComplete questions = true
  ensureComplete_eq_error : a.isComplete questions = false →
    a.ensureComplete questions = .error (.incomplete (coverage questions taken) questions.length) ∧
      coverage questions taken < questions.length
  coverage_eq_length : coverage questions taken = questions.length ↔
    a.isComplete questions = true
  isScored : ∀ q ∈ questions, a.isAnswered q = true → a.isScored q = true
  total_eq : (a.tally questions).total = UInt32.ofNat (coverage questions taken)
  counts : coverage questions taken < UInt32.size →
    (a.tally questions).Counts (a.votes questions) (coverage questions taken)

theorem isAnswered_ofPairs_eq (taken : List (UInt32 × UInt64)) :
    (ofPairs taken).isAnswered = fun q => decide (q.id ∈ taken.map Prod.fst) := by
  funext q
  rw [Bool.eq_iff_iff, isAnswered_ofPairs, decide_eq_true_eq]

theorem isScored_of_isAnswered {taken : List (UInt32 × UInt64)}
    (htaken : ∀ answer ∈ taken, answer.2.toNat < optionCount) {q : Question}
    (h : (ofPairs taken).isAnswered q = true) : (ofPairs taken).isScored q = true := by
  obtain ⟨index, hindex⟩ := Option.isSome_iff_exists.1 h
  rw [isScored, hindex, Option.any_some, decide_eq_true_eq]
  rw [get?_ofPairs] at hindex
  exact htaken _ (mem_of_lastFor?_eq_some hindex)

/-- An answer that counts is an answer. -/
theorem isAnswered_of_isScored {q : Question} (h : a.isScored q = true) : a.isAnswered q = true := by
  rw [isScored, Option.any_eq_true] at h
  obtain ⟨index, hindex, -⟩ := h
  rw [isAnswered, hindex, Option.isSome_some]

theorem gathered_ofPairs {taken : List (UInt32 × UInt64)}
    (htaken : ∀ answer ∈ taken, answer.2.toNat < optionCount) (questions : List Question) :
    (ofPairs taken).Gathered questions taken := by
  have hanswered : questions.countP (ofPairs taken).isAnswered = coverage questions taken := by
    rw [isAnswered_ofPairs_eq, coverage]
  have hscored : questions.countP (ofPairs taken).isScored = coverage questions taken := by
    rw [← hanswered]
    exact List.countP_congr fun q _ => ⟨isAnswered_of_isScored, isScored_of_isAnswered htaken⟩
  exact {
    get?_eq := get?_ofPairs taken
    size_eq := SortedMap.size_ofList taken
    isComplete_iff := by
      rw [isComplete, List.all_eq_true]
      exact forall₂_congr fun q _ => isAnswered_ofPairs
    ensureComplete_eq_ok := ensureComplete_eq_ok_iff
    ensureComplete_eq_error := fun h => by
      rw [← hanswered]
      exact ensureComplete_of_isComplete_eq_false h
    coverage_eq_length := by rw [← hanswered, isComplete_iff_countP]
    isScored := fun q _ => isScored_of_isAnswered htaken
    total_eq := by rw [tally, Scoreboard.total_ofAwards, length_awards, hscored]
    counts := fun h => by
      rw [← hscored] at h ⊢
      exact counts_tally h }

theorem AlikeById.lastFor?_accepted {offers offers' : List (UInt32 × UInt64)}
    (h : AlikeById offers offers') (id : UInt32) :
    lastFor? (accepted questions offers') id = lastFor? (accepted questions offers) id := by
  have hcomm (l : List (UInt32 × UInt64)) : (accepted questions l).filter (·.1 == id) =
      accepted questions (l.filter (·.1 == id)) := by
    rw [accepted, accepted, List.filter_filter, List.filter_filter]
    exact List.filter_congr fun answer _ => Bool.and_comm _ _
  rw [lastFor?, lastFor?, hcomm, hcomm, h id]

theorem AlikeById.ofPairs_accepted {offers offers' : List (UInt32 × UInt64)}
    (h : AlikeById offers offers') :
    ofPairs (accepted questions offers') = ofPairs (accepted questions offers) := by
  refine congrArg Answers.mk (SortedMap.ext_get? fun id => ?_)
  calc
    (ofPairs (accepted questions offers')).get? id
      = lastFor? (accepted questions offers') id := get?_ofPairs _ id
    _ = lastFor? (accepted questions offers) id := h.lastFor?_accepted id
    _ = (ofPairs (accepted questions offers)).get? id := (get?_ofPairs _ id).symm

/-- Offers to no answers are accepted if they are to a question of the list and one of its options, and
leave the answers as they are if not.  After any offers the answers are the last accepted one for each
id, and no others, in whatever order the offers for different ids were made.  They are complete if one
was accepted for each question, and are else said to lack some.  The tally counts all of them. -/
theorem offerAll_gathered (questions : List Question) (offers : List (UInt32 × UInt64)) :
    let a := (offerAll questions offers ∅).2
    List.Forall₂ (IsReply questions) offers (offerAll questions offers ∅).1 ∧
      (∀ answer, offerAll questions (offers ++ [answer]) ∅ =
          ((offerAll questions offers ∅).1 ++ [(a.offer questions answer).1],
            (a.offer questions answer).2) ∧
        IsReply questions answer (a.offer questions answer).1 ∧
        ((a.offer questions answer).1 ≠ .ok ⟨⟩ → (a.offer questions answer).2 = a)) ∧
      a.Gathered questions (accepted questions offers) ∧
      ∀ offers', AlikeById offers offers' → (offerAll questions offers' ∅).2 = a := by
  intro a
  have hpairs (l : List (UInt32 × UInt64)) :
      (offerAll questions l ∅).2 = ofPairs (accepted questions l) := by
    rw [snd_offerAll, putAll_empty]
  refine ⟨forall₂_isReply_offerAll questions offers ∅, fun answer => ?_, ?_,
    fun offers' halike => ?_⟩
  · refine ⟨offerAll_concat offers ∅, isReply_offer a questions answer, fun hrefused => ?_⟩
    by_cases h : IsKnown questions answer
    · rw [offer_of_isKnown h] at hrefused
      exact absurd rfl hrefused
    · obtain ⟨fault, hoffer⟩ := offer_of_not_isKnown h a
      rw [hoffer]
  · have htaken : ∀ answer ∈ accepted questions offers, answer.2.toNat < optionCount :=
      fun answer hanswer => (of_decide_eq_true (List.mem_filter.1 hanswer).2).2
    rw [show a = _ from hpairs offers]
    exact gathered_ofPairs htaken questions
  · rw [show a = _ from hpairs offers, hpairs]
    exact halike.ofPairs_accepted

end Answers

end Temperament
