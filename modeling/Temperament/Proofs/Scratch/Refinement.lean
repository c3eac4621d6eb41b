import Temperament.Proofs.Scratch.Operations

/-!
# The scratch store as a map

A store behaves as a map from texts to texts that may be absent: a store that is usable and readable
answers any sequence of operations as the map does (`runAll_refines`).  Its file is the canonical text
of the map after each write, and is left alone by what only reads.
-/

namespace Temperament.Scratch

open Files Temperament.Path

/-! ## Histories -/

inductive Operation
  | set (key value : String)
  | remove (key : String)
  | get (key : String)
  | loadAll
  | clear

/-- What an operation returns. -/
inductive Reply
  | done
  | value (value : Option String)
  | entries (m : Entries)
  /-- Whether there was a file. -/
  | existed (file : Bool)

namespace Operation

/-- Carries out an operation on a store. -/
def run (s : Scratch) : Operation → Filing Reply
  | set key value => (fun _ => .done) <$> s.insert key value
  | remove key => (fun _ => .done) <$> s.erase key
  | get key => .value <$> s.get? key
  | loadAll => .entries <$> s.load
  | clear => .existed <$> s.clear

/-- What an operation returns and leaves, given the entries of the file or `none` without a file. -/
def apply : Operation → Option Entries → Reply × Option Entries
  | set key value, state => (.done, some ((state.getD ∅).insert key value))
  | remove key, state => (.done, state.map fun m => m.erase key)
  | get key, state => (.value ((state.getD ∅).get? key), state)
  | loadAll, state => (.entries (state.getD ∅), state)
  | clear, state => (.existed state.isSome, none)

/-- Whether an operation writes the file. -/
def writes : Operation → Option Entries → Bool
  | set _ _, _ => true
  | remove key, state => (state.getD ∅).contains key
  | _, _ => false

/-- Whether an operation only reads. -/
def reads : Operation → Option Entries → Bool
  | remove key, state => !(state.getD ∅).contains key
  | get _, _ => true
  | loadAll, _ => true
  | _, _ => false

/-- Carries out operations one after the other. -/
def runAll (s : Scratch) : List Operation → Filing (List Reply)
  | [] => return []
  | op :: ops => do
    let reply ← op.run s
    return reply :: (← runAll s ops)

def applyAll : List Operation → Option Entries → List Reply × Option Entries
  | [], state => ([], state)
  | op :: ops, state =>
    let (reply, state) := op.apply state
    let (replies, state) := applyAll ops state
    (reply :: replies, state)

/-! ## One operation -/

variable {s : Scratch} {fs : Files} {state : Option Entries}

/-- What an operation on a store has to do: it replies as the map does and leaves a usable store that
holds what the map holds.  If it writes, the file is the canonical text of the map; if it reads,
nothing changes. -/
structure Refines (s : Scratch) (fs : Files) (state : Option Entries) (op : Operation)
    (fs' : Files) : Prop where
  run_eq : op.run s fs = .ok (op.apply state).1 fs'
  holds : s.Holds fs' (op.apply state).2
  isUsable : s.IsUsable fs'
  written : op.writes state = true → ∃ m text, (op.apply state).2 = some m ∧
    fs'.read? s.path = some text.toUTF8 ∧ Entries.IsPretty m text
  unchanged : op.reads state = true → fs' = fs

theorem contains_eq_isSome (h : s.Holds fs state) : fs.contains s.path = state.isSome := by
  cases state with
  | none => exact h
  | some m =>
    obtain ⟨text, hread, -⟩ := h
    exact contains_of_readText? hread

theorem refines_set (hholds : s.Holds fs state) (husable : s.IsUsable fs) (key value : String) :
    ∃ fs', (set key value).Refines s fs state fs' := by
  obtain ⟨fs', hstore, hwrites⟩ := husable.store ((state.getD ∅).insert key value)
  refine ⟨fs', ?_, hwrites.holds, hwrites.isUsable, fun _ => ?_, nofun⟩
  · rw [run, map_apply, insert_eq, hholds.load]
    simp only [hstore]
    rfl
  · exact ⟨_, _, rfl, hwrites.read?, Entries.isPretty_text _⟩

theorem refines_remove (hholds : s.Holds fs state) (husable : s.IsUsable fs) (key : String) :
    ∃ fs', (remove key).Refines s fs state fs' := by
  cases hcontains : (state.getD ∅).contains key with
  | true =>
    obtain ⟨m, rfl⟩ : ∃ m, state = some m := by
      cases state with
      | none => cases hcontains
      | some m => exact ⟨m, rfl⟩
    obtain ⟨fs', hstore, hwrites⟩ := husable.store (m.erase key)
    refine ⟨fs', ?_, hwrites.holds, hwrites.isUsable, fun _ => ?_, fun hreads => ?_⟩
    · rw [run, map_apply, erase_eq, hholds.load]
      simp only [hcontains, if_true]
      simp only [Option.getD_some, hstore]
      rfl
    · exact ⟨_, _, rfl, hwrites.read?, Entries.isPretty_text _⟩
    · rw [reads, hcontains] at hreads
      cases hreads
  | false =>
    have herase : (state.map fun m => m.erase key) = state := by
      cases state with
      | none => rfl
      | some m => exact congrArg some (SortedMap.erase_eq_self hcontains)
    refine ⟨fs, ?_, ?_, husable, fun hwrites => ?_, fun _ => rfl⟩
    · rw [run, map_apply, erase_eq, hholds.load]
      simp only [hcontains]
      rfl
    · rw [apply, herase]
      exact hholds
    · rw [writes, hcontains] at hwrites
      cases hwrites

theorem refines_clear (hholds : s.Holds fs state) (husable : s.IsUsable fs) :
    ∃ fs', clear.Refines s fs state fs' := by
  have hcontains := contains_eq_isSome hholds
  rcases clear_cases s fs with ⟨hnone, hclear⟩ | ⟨fs', hclear, hlocate, hloc, hset⟩ |
    ⟨loc, hlocate, hloc, -⟩
  · have hstate : state.isSome = false := by rw [← hcontains, hnone]
    refine ⟨fs, ?_, hnone, husable, nofun, nofun⟩
    rw [run, map_apply, hclear, apply, hstate]
  · have hsome : state.isSome = true := by
      rw [← hcontains]
      exact contains_iff.2 ⟨_, hlocate, hloc⟩
    have hlocate' : fs'.locate? s.path = some (fs.target s.path) := by
      rw [hset.locate?_eq, hlocate]
    refine ⟨fs', ?_, ?_, ?_, nofun, nofun⟩
    · rw [run, map_apply, hclear, apply, hsome]
    · exact contains_eq_false hlocate' hset.get?_self
    · refine isUsable_of_locate? hlocate' ?_
      rw [hset.get?_self]
      nofun
  · -- A folder in place of the file cannot be read.
    have hsome : state.isSome = true := by
      rw [← hcontains]
      exact contains_iff.2 ⟨loc, hlocate, by rw [hloc]; nofun⟩
    obtain ⟨m, rfl⟩ := Option.isSome_iff_exists.1 hsome
    obtain ⟨text, hread, -⟩ := hholds
    obtain ⟨loc', bytes, hlocate', hloc', -⟩ := readText?_eq_some_iff.1 hread
    rw [Option.some.inj (hlocate'.symm.trans hlocate), hloc] at hloc'
    cases hloc'

theorem exists_refines (hholds : s.Holds fs state) (husable : s.IsUsable fs) (op : Operation) :
    ∃ fs', op.Refines s fs state fs' := by
  cases op with
  | set key value => exact refines_set hholds husable key value
  | remove key => exact refines_remove hholds husable key
  | get key =>
    refine ⟨fs, ?_, hholds, husable, nofun, fun _ => rfl⟩
    rw [run, map_apply, get?_eq, hholds.load]
    rfl
  | loadAll =>
    refine ⟨fs, ?_, hholds, husable, nofun, fun _ => rfl⟩
    rw [run, map_apply, hholds.load]
    rfl
  | clear => exact refines_clear hholds husable

/-! ## Histories of operations -/

theorem runAll_eq (hholds : s.Holds fs state) (husable : s.IsUsable fs) (ops : List Operation) :
    ∃ fs', runAll s ops fs = .ok (applyAll ops state).1 fs' ∧
      s.Holds fs' (applyAll ops state).2 ∧ s.IsUsable fs' := by
  induction ops generalizing fs state with
  | nil => exact ⟨fs, rfl, hholds, husable⟩
  | cons op ops ih =>
    obtain ⟨fs₁, hop⟩ := exists_refines hholds husable op
    obtain ⟨fs₂, hrun, hholds₂, husable₂⟩ := ih hop.holds hop.isUsable
    refine ⟨fs₂, ?_, hholds₂, husable₂⟩
    rw [runAll, bind_apply, hop.run_eq]
    simp only [bind_apply, hrun]
    rfl

/-- After any operations on a usable and readable store, which all reply as the map does, one more
does what it has to. -/
theorem runAll_refines (hholds : s.Holds fs state) (husable : s.IsUsable fs)
    (ops : List Operation) (op : Operation) :
    ∃ before after, runAll s ops fs = .ok (applyAll ops state).1 before ∧
      s.Holds before (applyAll ops state).2 ∧
      op.Refines s before (applyAll ops state).2 after := by
  obtain ⟨before, hrun, hbefore, husable⟩ := runAll_eq hholds husable ops
  obtain ⟨after, hop⟩ := exists_refines hbefore husable op
  exact ⟨before, after, hrun, hbefore, hop⟩

/-- A store in a folder that is missing at first, with an entry that is written over another one. -/
theorem runAll_refines_missing :
    ∃ before after, runAll ⟨"state"⟩ [.set "k" "v", .set "k" ""] {} =
        .ok [.done, .done] before ∧
      Holds ⟨"state"⟩ before (some ((SortedMap.insert ∅ "k" "v").insert "k" "")) ∧
      (remove "k").Refines ⟨"state"⟩ before (some ((SortedMap.insert ∅ "k" "v").insert "k" ""))
        after := by
  have hholds : Holds ⟨"state"⟩ {} none := by
    show contains {} _ = false
    decide +kernel
  have husable : IsUsable ⟨"state"⟩ {} :=
    ⟨["state", "session.json"], by decide +kernel, by decide +kernel⟩
  exact runAll_refines hholds husable [.set "k" "v", .set "k" ""] (.remove "k")

/-- A folder that can be made does not make a store usable: here making it puts a folder where the
file of the store should be. -/
theorem not_forall_set_succeeds :
    ¬ ∀ (s : Scratch) (fs : Files) (state : Option Entries), s.Holds fs state →
      (fs.makeFolders (ofText s.folder)).1 = true →
      ∃ fs', (set "k" "v").run s fs = .ok .done fs' := by
  intro h
  have hholds : Holds ⟨"session.json/.."⟩ {} none := by
    show contains {} _ = false
    decide +kernel
  obtain ⟨fs', hrun⟩ := h ⟨"session.json/.."⟩ {} none hholds (by decide +kernel)
  have hfails : (match (set "k" "v").run ⟨"session.json/.."⟩ {} with
      | .ok _ _ => true
      | .error _ _ => false) = false := by
    decide +kernel
  rw [hrun] at hfails
  cases hfails

end Operation

end Temperament.Scratch
