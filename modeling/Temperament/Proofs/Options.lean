import Temperament.Invocation.Switch

/-!
# Options in any order

What a level is given by its options depends on the values of each option alone, not on how the
options are mixed (`Given.of`, `takeAll_of`).
-/

namespace Temperament.Invocation

variable {os before after : List (Switch × String)} {g : Given}

/-! ## Values of options -/

/-- The values that an option stands with, in their order. -/
def values (os : List (Switch × String)) (switch : Switch) : List String :=
  os.filterMap fun o => if o.1 = switch then some o.2 else none

theorem values_append (os os' : List (Switch × String)) (switch : Switch) :
    values (os ++ os') switch = values os switch ++ values os' switch :=
  List.filterMap_append

theorem values_snoc (os : List (Switch × String)) (switch switch' : Switch) (text : String) :
    values (os ++ [(switch', text)]) switch =
      values os switch ++ if switch' = switch then [text] else [] := by
  rw [values_append]
  by_cases h : switch' = switch
  · simp [values, h]
  · simp [values, h]

theorem values_map (texts : List String) (switch switch' : Switch) :
    values (texts.map (switch', ·)) switch = if switch' = switch then texts else [] := by
  by_cases h : switch' = switch
  · have hsome : (fun o : Switch × String => if o.1 = switch then some o.2 else none) ∘
        (switch', ·) = some := funext fun _ => if_pos h
    rw [values, List.filterMap_map, hsome, List.filterMap_some, if_pos h]
  · simp [values, h]

theorem mem_values {switch : Switch} {text : String} :
    text ∈ values os switch ↔ (switch, text) ∈ os := by
  simp [values, eq_comm]

theorem values_eq_nil {switch : Switch} (h : ∀ o ∈ os, o.1 ≠ switch) : values os switch = [] :=
  List.eq_nil_iff_forall_not_mem.2 fun _ htext => h _ (mem_values.1 htext) rfl

/-! ## Options that a level may be given -/

/-- Whether an option may be met more than once. -/
def Switch.isRepeatable : Switch → Bool
  | verbose | answer => true
  | _ => false

/-- An option can be carried out with a value. -/
def Switch.Reads : Switch → String → Prop
  | config, text | stateDir, text => text ≠ ""
  | completedLearning, text | targetLearning, text | completedSports, text | targetSports, text =>
    ∃ n, readCount? text.toList = some n
  | weekStart, text => ∃ d, Date.ofText? text = some d
  | help, _ | version, _ => False
  | _, _ => True

/-- Options that can all be carried out at one level, whatever their order. -/
structure Fits (os : List (Switch × String)) : Prop where
  reads : ∀ switch, ∀ text ∈ values os switch, switch.Reads text
  once : ∀ switch, switch.isRepeatable = false → (values os switch).length ≤ 1
  count : (values os .verbose).length ≤ 255

theorem Fits.of_sublist (h : Fits os) {os' : List (Switch × String)}
    (hvalues : ∀ switch, (values os' switch).Sublist (values os switch)) : Fits os' where
  reads switch text htext := h.reads switch text ((hvalues switch).subset htext)
  once switch hswitch := Nat.le_trans (hvalues switch).length_le (h.once switch hswitch)
  count := Nat.le_trans (hvalues .verbose).length_le h.count

theorem Fits.left (h : Fits (before ++ after)) : Fits before :=
  h.of_sublist fun switch => by
    rw [values_append]
    exact List.sublist_append_left _ _

theorem Fits.right (h : Fits (before ++ after)) : Fits after :=
  h.of_sublist fun switch => by
    rw [values_append]
    exact List.sublist_append_right _ _

/-! ## What options give -/

/-- What a level is given by options that fit. -/
def Given.of (os : List (Switch × String)) : Given where
  config := (values os .config).head?
  stateDir := (values os .stateDir).head?
  verbose := UInt8.ofNat (values os .verbose).length
  isQuiet := !(values os .quiet).isEmpty
  noColor := !(values os .noColor).isEmpty
  answers := values os .answer
  completedLearning := (values os .completedLearning).head?.bind fun text => readCount? text.toList
  targetLearning := (values os .targetLearning).head?.bind fun text => readCount? text.toList
  completedSports := (values os .completedSports).head?.bind fun text => readCount? text.toList
  targetSports := (values os .targetSports).head?.bind fun text => readCount? text.toList
  feedback := (values os .feedback).head?
  weekStart := (values os .weekStart).head?.bind Date.ofText?
  init := !(values os .init).isEmpty

theorem pathValue_of_ne {text : String} (h : text ≠ "") : pathValue text = .ok text := by
  rw [pathValue, if_neg]
  simpa using h

theorem countValue_of_readCount? {text : String} {n : UInt32}
    (h : readCount? text.toList = some n) : countValue text = .ok n := by
  rw [countValue, h]

theorem dateValue_of_ofText? {text : String} {d : Date} (h : Date.ofText? text = some d) :
    dateValue text = .ok d := by
  rw [dateValue, h]

theorem countUp_ofNat {n : Nat} (h : n < 255) : countUp (UInt8.ofNat n) = UInt8.ofNat (n + 1) := by
  have hne : UInt8.ofNat n ≠ 255 := fun heq => by
    have := congrArg UInt8.toNat heq
    rw [UInt8.toNat_ofNat_of_lt' (Nat.lt_trans h (by decide))] at this
    exact absurd h (by rw [this]; decide)
  rw [countUp, if_neg hne, UInt8.ofNat_add]
  rfl

/-- An option that fits behind others adds its value to theirs. -/
theorem take_of {switch : Switch} {text : String} (h : Fits (os ++ [(switch, text)])) :
    (Given.of os).take switch text = .ok (Given.of (os ++ [(switch, text)])) := by
  have hmem : text ∈ values (os ++ [(switch, text)]) switch := by
    rw [values_snoc, if_pos rfl]
    exact List.mem_append_right _ (List.mem_singleton_self text)
  have hreads := h.reads switch text hmem
  -- An option that counts once was not met before.
  have hfirst (hswitch : switch.isRepeatable = false) : values os switch = [] := by
    have := h.once switch hswitch
    rw [values_snoc, if_pos rfl, List.length_append, List.length_singleton] at this
    exact List.eq_nil_of_length_eq_zero (by omega)
  cases switch with
  | help | version => exact hreads.elim
  | config | stateDir =>
    simp [Given.take, Given.of, values_snoc, hfirst rfl, once, pathValue_of_ne hreads,
      Functor.map, Except.map]
  | verbose =>
    have hcount := h.count
    rw [values_snoc, if_pos rfl, List.length_append, List.length_singleton] at hcount
    simp [Given.take, Given.of, values_snoc, countUp_ofNat hcount, pure, Except.pure]
  | quiet | noColor | init =>
    simp [Given.take, Given.of, values_snoc, hfirst rfl, flagOnce, Functor.map, Except.map]
  | answer => simp [Given.take, Given.of, values_snoc, pure, Except.pure]
  | completedLearning | targetLearning | completedSports | targetSports =>
    obtain ⟨n, hn⟩ := hreads
    simp [Given.take, Given.of, values_snoc, hfirst rfl, once, countValue_of_readCount? hn, hn,
      Functor.map, Except.map]
  | feedback =>
    simp [Given.take, Given.of, values_snoc, hfirst rfl, once, Functor.map, Except.map]
  | weekStart =>
    obtain ⟨d, hd⟩ := hreads
    simp [Given.take, Given.of, values_snoc, hfirst rfl, once, dateValue_of_ofText? hd, hd,
      Functor.map, Except.map]

/-! ## Carrying out options -/

/-- Carries out options in order. -/
def Given.takeAll (g : Given) (os : List (Switch × String)) : Except Rejection Given :=
  os.foldlM (fun g o => g.take o.1 o.2) g

theorem takeAll_cons (o : Switch × String) :
    g.takeAll (o :: os) = g.take o.1 o.2 >>= fun g => g.takeAll os :=
  List.foldlM_cons

/-- Options that fit behind others are all carried out. -/
theorem takeAll_of (h : Fits (before ++ os)) :
    (Given.of before).takeAll os = .ok (Given.of (before ++ os)) := by
  -- What was carried out joins the options before, so that what fits stays the same.
  induction os generalizing before with
  | nil =>
    rw [List.append_nil]
    rfl
  | cons o os ih =>
    have hsnoc : before ++ o :: os = before ++ [o] ++ os := by simp
    rw [hsnoc] at h ⊢
    rw [takeAll_cons, take_of h.left]
    exact ih h

theorem takeAll_empty (h : Fits os) : Given.takeAll {} os = .ok (Given.of os) :=
  takeAll_of (show Fits ([] ++ os) from h)

end Temperament.Invocation
