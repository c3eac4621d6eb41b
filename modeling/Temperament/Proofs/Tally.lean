import Temperament.Proofs.Scoreboard
import Temperament.Proofs.SortedMap

/-!
# Tallies of changed answers and of questions put together

Giving a question the answer of the leading category takes points from the others only, so the leader
stays (`classify_support`), wherever it stands in the canonical order.  Two lists of questions that
speak for the same category speak for it together (`classify_append`).
-/

namespace Temperament

/-- A first maximum stays one where it does not fall and nothing else rises. -/
theorem IsFirstMax.of_le {n n' : Category → Nat} {c : Category} (h : IsFirstMax n c)
    (hleader : n c ≤ n' c) (hother : ∀ c', c' ≠ c → n' c' ≤ n c') : IsFirstMax n' c := by
  have hother' (c' : Category) (hposition : c'.position ≠ c.position) : n' c' ≤ n c' :=
    hother c' fun heq => hposition (heq ▸ rfl)
  constructor
  · intro c' hbefore
    calc
      n' c' ≤ n c' := hother' c' (Nat.ne_of_lt hbefore)
      _ < n c := h.1 c' hbefore
      _ ≤ n' c := hleader
  · intro c' hafter
    calc
      n' c' ≤ n c' := hother' c' (Nat.ne_of_gt hafter)
      _ ≤ n c := h.2 c' hafter
      _ ≤ n' c := hleader

/-- Where two counts have the same first maximum, so has their sum. -/
theorem IsFirstMax.add {n n' : Category → Nat} {c : Category} (h : IsFirstMax n c)
    (h' : IsFirstMax n' c) : IsFirstMax (fun c => n c + n' c) c := by
  constructor
  · intro c' hbefore
    exact Nat.add_lt_add (h.1 c' hbefore) (h'.1 c' hbefore)
  · intro c' hafter
    exact Nat.add_le_add (h.2 c' hafter) (h'.2 c' hafter)

namespace Answers

/-- A tally counts the answers for each category, however long the list of questions is, as long as
there are fewer than 2³² answers to count. -/
theorem counts_tally {a : Answers} {qs : List Question} (h : qs.countP a.isScored < UInt32.size) :
    (a.tally qs).Counts (a.votes qs) (qs.countP a.isScored) := by
  have hcount : (qs.filterMap a.category?).count = a.votes qs := funext (a.count_awards qs)
  rw [← length_awards] at h ⊢
  rw [← hcount]
  exact Scoreboard.counts_ofAwards h

theorem counts_tally_of_length_lt {qs : List Question} (hqs : qs.length < UInt32.size)
    (a : Answers) : (a.tally qs).Counts (a.votes qs) (qs.countP a.isScored) :=
  counts_tally (Nat.lt_of_le_of_lt List.countP_le_length hqs)

theorem classify_eq_iff {qs : List Question} (hqs : qs.length < UInt32.size) {a : Answers}
    {c : Category} : a.classify qs = c ↔ IsFirstMax (a.votes qs) c :=
  (counts_tally_of_length_lt hqs a).leader_eq_iff c

/-! ## Support for a category -/

/-- The answers with the position of a category for one id, whatever was answered before. -/
def support (a : Answers) (c : Category) (id : UInt32) : Answers :=
  ⟨a.choices.insert id (UInt64.ofNat c.position)⟩

theorem get?_support (a : Answers) (c : Category) (id id' : UInt32) :
    (a.support c id).get? id' =
      if id' = id then some (UInt64.ofNat c.position) else a.get? id' :=
  a.choices.get?_insert id id' _

theorem ofNat_position_inj {c c' : Category}
    (h : UInt64.ofNat c.position = UInt64.ofNat c'.position) : c = c' := by
  have hposition (c : Category) : (UInt64.ofNat c.position).toNat = c.position :=
    UInt64.toNat_ofNat_of_lt' (Nat.lt_trans c.position_lt (by decide))
  exact Category.position_inj (by rw [← hposition, h, hposition])

theorem votes_le_votes_support (a : Answers) (qs : List Question) (c : Category) (id : UInt32) :
    a.votes qs c ≤ (a.support c id).votes qs c := by
  refine List.countP_mono_left fun q _ hq => ?_
  rw [decide_eq_true_eq] at hq ⊢
  rw [get?_support]
  split
  · rfl
  · exact hq

theorem votes_support_le (a : Answers) (qs : List Question) {c c' : Category} (h : c' ≠ c)
    (id : UInt32) : (a.support c id).votes qs c' ≤ a.votes qs c' := by
  refine List.countP_mono_left fun q _ hq => ?_
  rw [decide_eq_true_eq] at hq ⊢
  rw [get?_support] at hq
  split at hq
  · exact absurd (ofNat_position_inj (Option.some.inj hq)).symm h
  · exact hq

theorem classify_support_of_eq {qs : List Question} (hqs : qs.length < UInt32.size) {a : Answers}
    {c : Category} (h : a.classify qs = c) (id : UInt32) : (a.support c id).classify qs = c := by
  have hmax := (classify_eq_iff hqs).1 h
  exact (classify_eq_iff hqs).2
    (hmax.of_le (a.votes_le_votes_support qs c id) fun c' hne => a.votes_support_le qs hne id)

theorem classify_foldl_support {qs : List Question} (hqs : qs.length < UInt32.size) {c : Category}
    (ids : List UInt32) {a : Answers} (h : a.classify qs = c) :
    (ids.foldl (fun a id => a.support c id) a).classify qs = c := by
  induction ids generalizing a with
  | nil => exact h
  | cons id ids ih => exact ih (classify_support_of_eq hqs h id)

/-- Answers that are changed to the position of the leading category leave it in the lead: one answer,
or any number of them. -/
theorem classify_support {qs : List Question} (hqs : qs.length < UInt32.size) (a : Answers) :
    (∀ id, (a.support (a.classify qs) id).classify qs = a.classify qs) ∧
    ∀ ids : List UInt32, (ids.foldl (fun b id => b.support (a.classify qs) id) a).classify qs =
      a.classify qs :=
  ⟨classify_support_of_eq hqs rfl, fun ids => classify_foldl_support hqs ids rfl⟩

/-- The questions twice over, where an answer that is no option, one for another category and one to no
question are changed. -/
theorem classify_support_twice :
    (Question.builtin ++ Question.builtin).length < UInt32.size ∧
      mixed.classify (Question.builtin ++ Question.builtin) = .social ∧
      ([2, 3, 42].foldl (fun a id => a.support .social id) mixed).classify
        (Question.builtin ++ Question.builtin) = .social := by
  have hlength : (Question.builtin ++ Question.builtin).length < UInt32.size := by decide
  have hsocial : mixed.classify (Question.builtin ++ Question.builtin) = .social := by decide +kernel
  obtain ⟨-, hall⟩ := classify_support hlength mixed
  rw [hsocial] at hall
  exact ⟨hlength, hsocial, hall [2, 3, 42]⟩

/-! ## Questions put together -/

theorem votes_append (a : Answers) (qs qs' : List Question) (c : Category) :
    a.votes (qs ++ qs') c = a.votes qs c + a.votes qs' c :=
  List.countP_append

theorem classify_append_comm (a : Answers) (qs qs' : List Question) :
    a.classify (qs ++ qs') = a.classify (qs' ++ qs) :=
  congrArg Scoreboard.leader (a.tally_perm List.perm_append_comm)

theorem classify_append_of_eq {qs qs' : List Question}
    (hqs : qs.length + qs'.length < UInt32.size) {a : Answers} {c : Category}
    (h : a.classify qs = c) (h' : a.classify qs' = c) : a.classify (qs ++ qs') = c := by
  have hmax := (classify_eq_iff (by omega)).1 h
  have hmax' := (classify_eq_iff (by omega)).1 h'
  rw [classify_eq_iff (by rw [List.length_append]; exact hqs),
    funext (a.votes_append qs qs')]
  exact hmax.add hmax'

/-- Questions that give no points do not change what the others speak for. -/
theorem classify_append_of_score_eq_zero {qs qs' : List Question}
    (hqs : qs.length + qs'.length < UInt32.size) {a : Answers}
    (h : ∀ c, (a.tally qs).score c = 0) : a.classify (qs ++ qs') = a.classify qs' := by
  have hvotes : a.votes (qs ++ qs') = a.votes qs' := by
    funext c
    have hlength : qs.length < UInt32.size := by omega
    have hscore := (counts_tally_of_length_lt hlength a).score_eq c
    rw [h c, UInt32.toNat_zero] at hscore
    rw [votes_append, ← hscore, Nat.zero_add]
  rw [classify_eq_iff (by rw [List.length_append]; exact hqs), hvotes,
    ← classify_eq_iff (by omega)]

/-- The tally of two lists of questions put together has for each category the points of both.  A
category that each of them speaks for is the one that they speak for together, in either order, and
where one of them gives no points the other one decides. -/
theorem classify_append {qs qs' : List Question} (hqs : qs.length + qs'.length < UInt32.size)
    (a : Answers) :
    (∀ c, ((a.tally (qs ++ qs')).score c).toNat =
      ((a.tally qs).score c).toNat + ((a.tally qs').score c).toNat) ∧
    (∀ c, a.classify qs = c → a.classify qs' = c →
      a.classify (qs ++ qs') = c ∧ a.classify (qs' ++ qs) = c) ∧
    ((∀ c, (a.tally qs).score c = 0) →
      a.classify (qs ++ qs') = a.classify qs' ∧ a.classify (qs' ++ qs) = a.classify qs') ∧
    ((∀ c, (a.tally qs').score c = 0) →
      a.classify (qs ++ qs') = a.classify qs ∧ a.classify (qs' ++ qs) = a.classify qs) := by
  have hqs' : qs'.length + qs.length < UInt32.size := by rwa [Nat.add_comm]
  have hscore {l : List Question} (hl : l.length < UInt32.size) (c : Category) :
      ((a.tally l).score c).toNat = a.votes l c :=
    (counts_tally_of_length_lt hl a).score_eq c
  refine ⟨fun c => ?_, fun c h h' => ?_, fun hzero => ?_, fun hzero => ?_⟩
  · rw [hscore (by rw [List.length_append]; exact hqs), hscore (by omega), hscore (by omega),
      votes_append]
  · exact ⟨classify_append_of_eq hqs h h', classify_append_of_eq hqs' h' h⟩
  · rw [classify_append_comm a qs' qs, and_self]
    exact classify_append_of_score_eq_zero hqs hzero
  · rw [classify_append_comm a qs qs', and_self]
    exact classify_append_of_score_eq_zero hqs' hzero

/-- Answers that leave two categories with the same score in the first two questions, and three in the
others. -/
def divided : Answers :=
  ofPairs [(1, 1), (2, 2), (3, 2), (4, 1), (5, 3)]

/-- The first of the leading categories in each part leads in both together. -/
theorem classify_append_divided :
    (Question.builtin.take 2).length + (Question.builtin.drop 2).length < UInt32.size ∧
      divided.classify (Question.builtin.take 2) = .thinker ∧
      divided.classify (Question.builtin.drop 2) = .thinker ∧
      divided.classify (Question.builtin.take 2 ++ Question.builtin.drop 2) = .thinker := by
  have hlength : (Question.builtin.take 2).length + (Question.builtin.drop 2).length <
      UInt32.size := by decide
  have hfirst : divided.classify (Question.builtin.take 2) = .thinker := by decide +kernel
  have hsecond : divided.classify (Question.builtin.drop 2) = .thinker := by decide +kernel
  obtain ⟨-, hagree, -⟩ := classify_append hlength divided
  exact ⟨hlength, hfirst, hsecond, (hagree .thinker hfirst hsecond).1⟩

end Answers

end Temperament
