import Mathlib.Data.List.Basic
import Temperament.Scoreboard

/-!
# Scores and their leader

A category has one point for each award (`score_ofAwards`), and in a tally one for each question that
is answered with its position (`count_awards`).  The leader is the first of the categories with the
most points (`leader_eq_iff`).  Below 2³² awards no addition of points wraps around
(`ofAwards?_eq_some`), so all of this holds of the numbers themselves (`tally_counts`).
-/

namespace Temperament

namespace Category

theorem mem_all (c : Category) : c ∈ all := by
  cases c <;> decide

theorem pairwise_all : all.Pairwise fun c c' => c.position < c'.position := by decide

theorem position_lt (c : Category) : c.position < optionCount := by
  cases c <;> decide

theorem position_inj {c c' : Category} (h : c.position = c'.position) : c = c' := by
  have := ofPosition?_position c
  rw [h, ofPosition?_position] at this
  exact (Option.some.inj this).symm

end Category

/-! ## First maxima -/

/-- A category before which all have less, and after which none has more. -/
def IsFirstMax (n : Category → Nat) (c : Category) : Prop :=
  (∀ c', c'.position < c.position → n c' < n c) ∧ ∀ c', c.position < c'.position → n c' ≤ n c

instance (n : Category → Nat) (c : Category) : Decidable (IsFirstMax n c) :=
  decidable_of_iff (∀ c' ∈ Category.all, (c'.position < c.position → n c' < n c) ∧
      (c.position < c'.position → n c' ≤ n c))
    ⟨fun h => ⟨fun c' => (h c' c'.mem_all).1, fun c' => (h c' c'.mem_all).2⟩,
      fun h c' _ => ⟨h.1 c', h.2 c'⟩⟩

theorem IsFirstMax.unique {n : Category → Nat} {c c' : Category} (h : IsFirstMax n c)
    (h' : IsFirstMax n c') : c = c' := by
  rcases Nat.lt_trichotomy c.position c'.position with hlt | heq | hgt
  · have := h.2 c' hlt
    have := h'.1 c hlt
    omega
  · exact Category.position_inj heq
  · have := h.1 c' hgt
    have := h'.2 c hgt
    omega

namespace Scoreboard

theorem ext_score {b b' : Scoreboard} (h : ∀ c, b.score c = b'.score c) : b = b' := by
  cases b
  cases b'
  have hexplorer := h .explorer
  have hthinker := h .thinker
  have hsocial := h .social
  have hdisciplined := h .disciplined
  simp_all [score]

/-! ## Awards -/

theorem score_foldl_award (cs : List Category) (b : Scoreboard) (c : Category) :
    (cs.foldl award b).score c = b.score c + UInt32.ofNat (cs.count c) := by
  induction cs generalizing b with
  | nil => simp
  | cons d cs ih =>
    rw [List.foldl_cons, ih, score_award, List.count_cons]
    by_cases h : c = d
    · rw [if_pos h, h, beq_self_eq_true, if_pos rfl, UInt32.ofNat_add, UInt32.add_assoc,
        UInt32.add_comm 1]
      rfl
    · simp [h, Ne.symm h]

theorem score_ofAwards (cs : List Category) (c : Category) :
    (ofAwards cs).score c = UInt32.ofNat (cs.count c) := by
  have hempty : (∅ : Scoreboard).score c = 0 := by cases c <;> rfl
  rw [ofAwards, score_foldl_award, hempty, UInt32.zero_add]

theorem sum_count (cs : List Category) :
    cs.count .explorer + cs.count .thinker + cs.count .social + cs.count .disciplined =
      cs.length := by
  induction cs with
  | nil => rfl
  | cons c cs ih =>
    cases c <;> simp only [List.count_cons, List.length_cons, beq_self_eq_true, if_true] <;>
      simp <;> omega

theorem total_ofAwards (cs : List Category) : (ofAwards cs).total = UInt32.ofNat cs.length := by
  have hscore := score_ofAwards cs
  rw [total, ← sum_count, UInt32.ofNat_add, UInt32.ofNat_add, UInt32.ofNat_add, ← hscore, ← hscore,
    ← hscore, ← hscore]
  rfl

theorem ofAwards_perm {cs cs' : List Category} (h : cs.Perm cs') : ofAwards cs = ofAwards cs' :=
  ext_score fun c => by rw [score_ofAwards, score_ofAwards, h.count_eq]

/-! ## Additions that do not wrap around -/

/-- The sum of two numbers, if it is one of 32 bits. -/
def exactSum? (m n : UInt32) : Option UInt32 :=
  if m.toNat + n.toNat < UInt32.size then some (m + n) else none

/-- Gives a category a point, if its points stay below 2³². -/
def award? (b : Scoreboard) (c : Category) : Option Scoreboard :=
  (exactSum? (b.score c) 1).map fun _ => b.award c

def ofAwards? (cs : List Category) : Option Scoreboard :=
  cs.foldlM award? ∅

/-- The sum of all points, if every sum on the way to it is one of 32 bits. -/
def total? (b : Scoreboard) : Option UInt32 :=
  [b.explorer, b.thinker, b.social, b.disciplined].foldlM exactSum? 0

theorem exactSum?_eq_some {m n : UInt32} (h : m.toNat + n.toNat < UInt32.size) :
    exactSum? m n = some (m + n) :=
  if_pos h

theorem foldlM_award?_eq_some {cs : List Category} {b : Scoreboard}
    (h : ∀ c, (b.score c).toNat + cs.count c < UInt32.size) :
    cs.foldlM award? b = some (cs.foldl award b) := by
  induction cs generalizing b with
  | nil => rfl
  | cons c cs ih =>
    have hc := h c
    rw [List.count_cons_self] at hc
    have haward : award? b c = some (b.award c) := by
      rw [award?, exactSum?_eq_some (by rw [UInt32.toNat_one]; omega), Option.map_some]
    have hrest : ∀ c', ((b.award c).score c').toNat + cs.count c' < UInt32.size := by
      intro c'
      have hc' := h c'
      rw [score_award]
      split
      · rename_i heq
        subst heq
        rw [UInt32.toNat_add, UInt32.toNat_one]
        have := Nat.mod_le ((b.score c').toNat + 1) (2 ^ 32)
        omega
      · rw [List.count_cons] at hc'
        omega
    rw [List.foldlM_cons, haward]
    exact ih hrest

theorem ofAwards?_eq_some {cs : List Category} (h : cs.length < UInt32.size) :
    ofAwards? cs = some (ofAwards cs) := by
  refine foldlM_award?_eq_some fun c => ?_
  have hempty : (∅ : Scoreboard).score c = 0 := by cases c <;> rfl
  have := cs.count_le_length (a := c)
  rw [hempty, UInt32.toNat_zero]
  omega

theorem total?_eq_some {b : Scoreboard}
    (h : b.explorer.toNat + b.thinker.toNat + b.social.toNat + b.disciplined.toNat < UInt32.size) :
    b.total? = some b.total := by
  have hadd (m n : UInt32) (hmn : m.toNat + n.toNat < UInt32.size) :
      (m + n).toNat = m.toNat + n.toNat := by
    rw [UInt32.toNat_add]
    exact Nat.mod_eq_of_lt hmn
  have h₁ := hadd b.explorer b.thinker (by omega)
  have h₂ := hadd (b.explorer + b.thinker) b.social (by omega)
  have h₀ : exactSum? 0 b.explorer = some b.explorer := by
    rw [exactSum?_eq_some (by rw [UInt32.toNat_zero]; omega), UInt32.zero_add]
  rw [total?, List.foldlM_cons, h₀, Option.bind_eq_bind, Option.bind_some, List.foldlM_cons,
    exactSum?_eq_some (by omega), Option.bind_eq_bind, Option.bind_some, List.foldlM_cons,
    exactSum?_eq_some (by omega), Option.bind_eq_bind, Option.bind_some, List.foldlM_cons,
    exactSum?_eq_some (by omega)]
  rfl

/-! ## The leader -/

/-- A category has more points than another, or as many and comes no later. -/
def Leads (b : Scoreboard) (c c' : Category) : Prop :=
  b.score c' < b.score c ∨ b.score c' = b.score c ∧ c.position ≤ c'.position

theorem Leads.trans {b : Scoreboard} {c c' c'' : Category} (h : b.Leads c c')
    (h' : b.Leads c' c'') : b.Leads c c'' := by
  simp only [Leads, UInt32.lt_iff_toNat_lt, ← UInt32.toNat_inj] at *
  omega

theorem better_leads (b : Scoreboard) {best c : Category} (h : best.position < c.position) :
    b.Leads (b.better best c) best ∧ b.Leads (b.better best c) c := by
  simp only [better, Leads, UInt32.lt_iff_toNat_lt, ← UInt32.toNat_inj]
  split <;> omega

/-- The running best of categories in canonical order leads all that it has passed. -/
theorem foldl_better_leads (b : Scoreboard) {best : Category} {cs : List Category}
    (h : (best :: cs).Pairwise fun c c' => c.position < c'.position) :
    ∀ c ∈ best :: cs, b.Leads (cs.foldl b.better best) c := by
  induction cs generalizing best with
  | nil =>
    intro c hc
    obtain rfl := List.mem_singleton.1 hc
    exact .inr ⟨rfl, Nat.le_refl _⟩
  | cons d cs ih =>
    obtain ⟨hbest, hrest⟩ := List.pairwise_cons.1 h
    obtain ⟨hd, hcs⟩ := List.pairwise_cons.1 hrest
    obtain ⟨hleadsBest, hleadsD⟩ := b.better_leads (hbest d List.mem_cons_self)
    have hnext : (b.better best d :: cs).Pairwise fun c c' => c.position < c'.position := by
      refine List.pairwise_cons.2 ⟨fun c hc => ?_, hcs⟩
      rw [better]
      split
      · exact hd c hc
      · exact hbest c (List.mem_cons_of_mem _ hc)
    have hleads := ih hnext
    have hnew := hleads _ List.mem_cons_self
    intro c hc
    rcases List.mem_cons.1 hc with rfl | hc
    · exact hnew.trans hleadsBest
    rcases List.mem_cons.1 hc with rfl | hc
    · exact hnew.trans hleadsD
    · exact hleads c (List.mem_cons_of_mem _ hc)

theorem isFirstMax_leader (b : Scoreboard) : IsFirstMax (fun c => (b.score c).toNat) b.leader := by
  have hleads (c : Category) : b.Leads b.leader c :=
    foldl_better_leads b Category.pairwise_all c c.mem_all
  constructor <;> intro c hc <;> have := hleads c <;>
    simp only [Leads, UInt32.lt_iff_toNat_lt, ← UInt32.toNat_inj] at * <;> omega

theorem leader_eq_iff {b : Scoreboard} {c : Category} :
    b.leader = c ↔ IsFirstMax (fun c => (b.score c).toNat) c := by
  constructor
  · rintro rfl
    exact b.isFirstMax_leader
  · exact b.isFirstMax_leader.unique

/-! ## Scoreboards that count -/

/-- A scoreboard that counts `n` points for each category, `sum` in all, without wrapping around. -/
structure Counts (b : Scoreboard) (n : Category → Nat) (sum : Nat) : Prop where
  score_eq : ∀ c, (b.score c).toNat = n c
  total?_eq : b.total? = some b.total
  total_eq : b.total.toNat = sum
  breakdown_eq : b.breakdown = [(.explorer, b.score .explorer), (.thinker, b.score .thinker),
    (.social, b.score .social), (.disciplined, b.score .disciplined)]
  leader_eq_iff : ∀ c, b.leader = c ↔ IsFirstMax n c

theorem counts_ofAwards {cs : List Category} (h : cs.length < UInt32.size) :
    (ofAwards cs).Counts cs.count cs.length := by
  have hscore (c : Category) : ((ofAwards cs).score c).toNat = cs.count c := by
    rw [score_ofAwards]
    exact UInt32.toNat_ofNat_of_lt' (Nat.lt_of_le_of_lt List.count_le_length h)
  have hsum : (ofAwards cs).explorer.toNat + (ofAwards cs).thinker.toNat +
      (ofAwards cs).social.toNat + (ofAwards cs).disciplined.toNat = cs.length := by
    have := sum_count cs
    rwa [← hscore, ← hscore, ← hscore, ← hscore] at this
  exact {
    score_eq := hscore
    total?_eq := total?_eq_some (by omega)
    total_eq := by rw [total_ofAwards, UInt32.toNat_ofNat_of_lt' h]
    breakdown_eq := rfl
    leader_eq_iff := fun c => by
      rw [Scoreboard.leader_eq_iff, show (fun c => ((ofAwards cs).score c).toNat) = cs.count from
        funext hscore] }

/-- The sum of all points as a number of any size. -/
def points (b : Scoreboard) : Nat :=
  (b.score .explorer).toNat + (b.score .thinker).toNat + (b.score .social).toNat +
    (b.score .disciplined).toNat

theorem toNat_of_exactSum? {m n k : UInt32} (h : exactSum? m n = some k) :
    k.toNat = m.toNat + n.toNat := by
  rw [exactSum?] at h
  split at h
  · rename_i hlt
    rw [← Option.some.inj h, UInt32.toNat_add, Nat.mod_eq_of_lt hlt]
  · cases h

/-- A total that does not wrap around is the sum of the scores. -/
theorem Counts.points_eq {b : Scoreboard} {n : Category → Nat} {sum : Nat} (h : b.Counts n sum) :
    b.points = sum := by
  have htotal := h.total?_eq
  rw [total?] at htotal
  simp only [List.foldlM_cons, List.foldlM_nil, Option.bind_eq_bind, Option.bind_eq_some_iff]
    at htotal
  obtain ⟨first, hfirst, second, hsecond, third, hthird, fourth, hfourth, hlast⟩ := htotal
  rw [← h.total_eq, ← Option.some.inj hlast, toNat_of_exactSum? hfourth,
    toNat_of_exactSum? hthird, toNat_of_exactSum? hsecond, toNat_of_exactSum? hfirst,
    UInt32.toNat_zero, Nat.zero_add]
  rfl

end Scoreboard

/-! ## Tallies -/

namespace Answers

/-- How many questions are answered with the position of a category. -/
def votes (a : Answers) (qs : List Question) (c : Category) : Nat :=
  qs.countP fun q => a.get? q.id = some (UInt64.ofNat c.position)

/-- Whether an answer is one of the options. -/
def isScored (a : Answers) (q : Question) : Bool :=
  (a.get? q.id).any fun index => index.toNat < optionCount

/-- Two sets of answers that differ only at ids of no question, or where neither gives the position of
an option. -/
def AgreeOn (qs : List Question) (a a' : Answers) : Prop :=
  ∀ id, a'.get? id = a.get? id ∨ (∀ q ∈ qs, q.id ≠ id) ∨
    ((∀ index ∈ a.get? id, optionCount ≤ index.toNat) ∧
      ∀ index ∈ a'.get? id, optionCount ≤ index.toNat)

theorem category?_eq_some_iff {a : Answers} {q : Question} {c : Category} :
    a.category? q = some c ↔ a.get? q.id = some (UInt64.ofNat c.position) := by
  have hposition (index : UInt64) : index.toNat = c.position ↔ index = UInt64.ofNat c.position := by
    have := c.position_lt
    rw [← UInt64.toNat_inj, UInt64.toNat_ofNat_of_lt' (Nat.lt_trans this (by decide))]
  rw [category?, Option.bind_eq_some_iff]
  simp only [Category.ofPosition?_eq_some_iff, hposition, exists_eq_right]

theorem isSome_category? (a : Answers) (q : Question) : (a.category? q).isSome = a.isScored q := by
  rw [category?, isScored]
  cases a.get? q.id with
  | none => rfl
  | some index =>
    show Category.all[index.toNat]?.isSome = decide (index.toNat < Category.all.length)
    grind

theorem category?_eq_none {a : Answers} {q : Question}
    (h : ∀ index ∈ a.get? q.id, optionCount ≤ index.toNat) : a.category? q = none := by
  rw [← Option.not_isSome_iff_eq_none, isSome_category?, isScored]
  cases hget : a.get? q.id with
  | none => simp
  | some index => simpa using h index hget

theorem count_awards (a : Answers) (qs : List Question) (c : Category) :
    (qs.filterMap a.category?).count c = a.votes qs c := by
  rw [List.count_filterMap, votes]
  refine List.countP_congr fun q _ => ?_
  simp [category?_eq_some_iff]

theorem length_awards (a : Answers) (qs : List Question) :
    (qs.filterMap a.category?).length = qs.countP a.isScored := by
  rw [List.length_filterMap_eq_countP]
  exact List.countP_congr fun q _ => by rw [isSome_category?]

theorem tally_perm (a : Answers) {qs qs' : List Question} (h : qs.Perm qs') :
    a.tally qs = a.tally qs' :=
  Scoreboard.ofAwards_perm (h.filterMap _)

theorem AgreeOn.tally_eq {a a' : Answers} {qs : List Question} (h : AgreeOn qs a a') :
    a'.tally qs = a.tally qs := by
  have hcategory : ∀ q ∈ qs, a'.category? q = a.category? q := by
    intro q hq
    rcases h q.id with heq | hother | ⟨hbefore, hafter⟩
    · rw [category?, category?, heq]
    · exact absurd rfl (hother q hq)
    · rw [category?_eq_none hbefore, category?_eq_none hafter]
  rw [tally, tally, List.filterMap_congr hcategory]

/-- A tally counts the questions answered with each position, in any order of the questions, and
whatever is answered that scores for none.  So does a scoreboard of any awards. -/
theorem tally_counts {qs : List Question} (hqs : qs.length < UInt32.size) (a : Answers) :
    (Scoreboard.ofAwards? (qs.filterMap a.category?) = some (a.tally qs) ∧
      (a.tally qs).Counts (a.votes qs) (qs.countP a.isScored) ∧
      (∀ c, a.classify qs = c ↔ IsFirstMax (a.votes qs) c) ∧
      (∀ qs', qs'.Perm qs → a.tally qs' = a.tally qs ∧ a.classify qs' = a.classify qs) ∧
      (∀ a', AgreeOn qs a a' → a'.tally qs = a.tally qs ∧ a'.classify qs = a.classify qs)) ∧
    ∀ cs : List Category, cs.length < UInt32.size →
      Scoreboard.ofAwards? cs = some (Scoreboard.ofAwards cs) ∧
      (Scoreboard.ofAwards cs).Counts cs.count cs.length ∧
      ∀ cs' : List Category, cs'.Perm cs → Scoreboard.ofAwards cs' = Scoreboard.ofAwards cs := by
  have hlength : (qs.filterMap a.category?).length < UInt32.size :=
    Nat.lt_of_le_of_lt (List.length_filterMap_le _ _) hqs
  have hcounts : (a.tally qs).Counts (a.votes qs) (qs.countP a.isScored) := by
    have := Scoreboard.counts_ofAwards hlength
    rwa [length_awards, show (qs.filterMap a.category?).count = a.votes qs from
      funext (a.count_awards qs)] at this
  have hclassify {a' : Answers} {qs' : List Question} (h : a'.tally qs' = a.tally qs) :
      a'.tally qs' = a.tally qs ∧ a'.classify qs' = a.classify qs :=
    ⟨h, congrArg Scoreboard.leader h⟩
  refine ⟨⟨Scoreboard.ofAwards?_eq_some hlength, hcounts, hcounts.leader_eq_iff,
    fun qs' h => hclassify (a.tally_perm h), fun a' h => hclassify h.tally_eq⟩, fun cs hcs => ?_⟩
  exact ⟨Scoreboard.ofAwards?_eq_some hcs, Scoreboard.counts_ofAwards hcs,
    fun cs' h => Scoreboard.ofAwards_perm h⟩

/-- Answers at an id of no question and at no option, next to two of one kind and one of another. -/
def mixed : Answers :=
  ofPairs [(1, 2), (2, 18446744073709551615), (42, 3), (3, 1), (5, 2)]

theorem tally_counts_twice :
    (Question.builtin ++ Question.builtin).length < UInt32.size ∧
      (mixed.tally (Question.builtin ++ Question.builtin)).Counts
        (mixed.votes (Question.builtin ++ Question.builtin)) 6 ∧
      mixed.classify (Question.builtin ++ Question.builtin) = .social := by
  have hlength : (Question.builtin ++ Question.builtin).length < UInt32.size := by decide
  obtain ⟨-, hcounts, hclassify, -⟩ := (tally_counts hlength mixed).1
  exact ⟨hlength, hcounts, (hclassify .social).2 (by decide +kernel)⟩

end Answers

end Temperament
