import Mathlib.Tactic.SplitIfs
import Temperament.Invocation.Scan

/-!
# Answers at the end of a command line

Answers that are written behind a command line for an assessment are taken in addition to those in
it, and change nothing else (`parse_append_answerFlags`).
-/

namespace Temperament.Invocation

theorem bind_eq_ok {ε α β : Type} {x : Except ε α} {f : α → Except ε β} {b : β} :
    x >>= f = .ok b ↔ ∃ a, x = .ok a ∧ f a = .ok b := by
  cases x with
  | error e => exact ⟨nofun, fun ⟨_, h, _⟩ => nomatch h⟩
  | ok a => exact ⟨fun h => ⟨a, rfl, h⟩, fun ⟨_, h, hf⟩ => Except.ok.inj h ▸ hf⟩

/-- The flags of some answers. -/
def answerFlags (specs : List String) : List String :=
  specs.flatMap fun spec => ["-a", spec]

namespace Scan

variable {level : Level} {s s' : Scan}

/-! ## Options before `--` -/

theorem settle_eq_ok (h : s.settle = .ok s') :
    s'.isTrailing = s.isTrailing ∧ s'.pending = none := by
  unfold settle at h
  split at h
  · rename_i hpending
    cases h
    exact ⟨rfl, hpending⟩
  · cases h
  · obtain ⟨given, -, h⟩ := bind_eq_ok.1 h
    cases h
    exact ⟨rfl, rfl⟩

theorem isTrailing_give {switch : Switch} {value : String} (h : s.give switch value = .ok s') :
    s'.isTrailing = s.isTrailing := by
  obtain ⟨s₁, hsettle, h⟩ := bind_eq_ok.1 h
  obtain ⟨given, -, h⟩ := bind_eq_ok.1 h
  cases h
  exact (settle_eq_ok hsettle).1

theorem isTrailing_await {switch : Switch} (h : s.await switch = .ok s') :
    s'.isTrailing = s.isTrailing := by
  obtain ⟨s₁, hsettle, h⟩ := bind_eq_ok.1 h
  cases h
  exact (settle_eq_ok hsettle).1

theorem isTrailing_takeLong {body : List Char} (h : s.takeLong level body = .ok s') :
    s'.isTrailing = s.isTrailing := by
  unfold takeLong at h
  split at h
  · cases h
  · split at h
    · exact isTrailing_give h
    · exact isTrailing_await h
    · cases h
    · exact isTrailing_give h

theorem isTrailing_takeShorts {letters : List Char} (h : s.takeShorts level letters = .ok s') :
    s'.isTrailing = s.isTrailing := by
  induction letters generalizing s with
  | nil =>
    cases h
    rfl
  | cons letter rest ih =>
    unfold takeShorts at h
    split at h
    · cases h
    · split_ifs at h
      · split at h
        · exact isTrailing_await h
        · exact isTrailing_give h
        · exact isTrailing_give h
      · obtain ⟨s₁, hgive, h⟩ := bind_eq_ok.1 h
        exact (ih h).trans (isTrailing_give hgive)

theorem isTrailing_take {arg : String} (harg : arg ≠ "--") (h : s.take level arg = .ok s') :
    s'.isTrailing = s.isTrailing := by
  unfold take at h
  split_ifs at h
  split at h
  · rename_i hhyphens
    exact absurd (String.toList_inj.1 (hhyphens.trans rfl)) harg
  · exact isTrailing_takeLong h
  · exact isTrailing_takeShorts h
  · unfold takeWord at h
    split at h
    · cases h
      rfl
    · cases h

theorem isTrailing_foldlM_take {args : List String} (hargs : "--" ∉ args)
    (h : args.foldlM (take level) s = .ok s') : s'.isTrailing = s.isTrailing := by
  induction args generalizing s with
  | nil =>
    cases h
    rfl
  | cons arg args ih =>
    rw [List.mem_cons, not_or] at hargs
    obtain ⟨s₁, htake, h⟩ := bind_eq_ok.1 h
    exact (ih hargs.2 h).trans (isTrailing_take (Ne.symm hargs.1) htake)

/-! ## Answers -/

theorem take_word {word : String} {switch : Switch} (hword : word.toList.head? ≠ some '-')
    (htrailing : s.isTrailing = false) (hpending : s.pending = some (switch, none)) :
    s.take level word = .ok { s with pending := some (switch, some word) } := by
  rw [take, htrailing]
  simp only [Bool.false_eq_true, if_false]
  split
  · rename_i hchars
    exact absurd (by rw [hchars]; rfl) hword
  · rename_i hchars
    exact absurd (by rw [hchars]; rfl) hword
  · rename_i hchars
    exact absurd (by rw [hchars]; rfl) hword
  · simp only [takeWord, hpending, htrailing]

/-- The flag of an answer is held back behind all that was met before. -/
theorem foldlM_take_flag {spec : String} (hspec : spec.toList.head? ≠ some '-')
    (htrailing : s.isTrailing = false) (hsettle : s.settle = .ok s') :
    ["-a", spec].foldlM (take (.below .assess)) s =
      .ok { s' with pending := some (.answer, some spec) } := by
  have hflag : s.take (.below .assess) "-a" =
      .ok { s' with pending := some (.answer, none) } := by
    have hawait : s.take (.below .assess) "-a" = s.await .answer := by
      rw [take, htrailing]
      rfl
    rw [hawait, await, hsettle]
    rfl
  have htrailing' : s'.isTrailing = false := (settle_eq_ok hsettle).1.trans htrailing
  rw [List.foldlM_cons, hflag]
  exact bind_eq_ok.2 ⟨_, rfl, bind_eq_ok.2 ⟨_, take_word hspec htrailing' rfl, rfl⟩⟩

theorem foldlM_take_answerFlags {specs : List String}
    (hspecs : ∀ spec ∈ specs, spec.toList.head? ≠ some '-') (htrailing : s.isTrailing = false)
    (hsettle : s.settle = .ok s') :
    ((answerFlags specs).foldlM (take (.below .assess)) s >>= settle) =
      .ok { s' with given := { s'.given with answers := s'.given.answers ++ specs } } := by
  induction specs generalizing s s' with
  | nil =>
    rw [List.append_nil]
    exact hsettle
  | cons spec specs ih =>
    have hflag := foldlM_take_flag (hspecs spec List.mem_cons_self) htrailing hsettle
    obtain ⟨htrailing', hpending⟩ := settle_eq_ok hsettle
    have hnext := ih (fun spec hspec => hspecs spec (List.mem_cons_of_mem _ hspec))
      (s := { s' with pending := some (.answer, some spec) }) (htrailing'.trans htrailing) rfl
    have hflags : answerFlags (spec :: specs) = ["-a", spec] ++ answerFlags specs := rfl
    rw [hflags, List.foldlM_append, hflag]
    refine Eq.trans hnext ?_
    rw [List.append_assoc, ← hpending]
    rfl

end Scan

/-! ## Levels -/

theorem below_append_answerFlags {args specs : List String} {inner : Given}
    (hargs : "--" ∉ args) (hspecs : ∀ spec ∈ specs, spec.toList.head? ≠ some '-')
    (h : below .assess args = .ok inner) :
    below .assess (args ++ answerFlags specs) =
      .ok { inner with answers := inner.answers ++ specs } := by
  obtain ⟨s, hfold, h⟩ := bind_eq_ok.1 h
  obtain ⟨s', hsettle, h⟩ := bind_eq_ok.1 h
  cases h
  have htrailing : s.isTrailing = false := Scan.isTrailing_foldlM_take hargs hfold
  have hflags := Scan.foldlM_take_answerFlags hspecs htrailing hsettle
  obtain ⟨s₁, hfold', hsettle'⟩ := bind_eq_ok.1 hflags
  rw [below, List.foldlM_append, hfold]
  exact bind_eq_ok.2 ⟨s₁, hfold', bind_eq_ok.2 ⟨_, hsettle', rfl⟩⟩

theorem command_eq_assess {inner : Given} {name : CommandName} {answers : List String}
    (h : inner.command name = .ok (.assess answers)) :
    name = .assess ∧ answers = inner.answers := by
  cases name with
  | assess =>
    cases h
    exact ⟨rfl, rfl⟩
  | progress =>
    rw [Given.command] at h
    cases hreport : inner.report with
    | ok report =>
      rw [hreport] at h
      cases h
    | error r =>
      rw [hreport] at h
      cases h
  | questions | plan | config | clean => cases h

theorem top_append_answerFlags {args specs : List String} {s : Scan} {outer inner : Given}
    {answers : List String} (hargs : "--" ∉ args) (htrailing : s.isTrailing = false)
    (hspecs : ∀ spec ∈ specs, spec.toList.head? ≠ some '-')
    (h : top s args = .ok (outer, some (inner, .assess answers))) :
    top s (args ++ answerFlags specs) =
      .ok (outer,
        some ({ inner with answers := answers ++ specs }, .assess (answers ++ specs))) := by
  -- The flags are only met behind the name of the command, so the top level reads on as before.
  induction args generalizing s with
  | nil =>
    obtain ⟨s', -, h⟩ := bind_eq_ok.1 h
    cases h
  | cons arg args ih =>
    rw [List.mem_cons, not_or] at hargs
    rw [List.cons_append]
    unfold top at h ⊢
    split_ifs at h ⊢ with hword hhelp
    · obtain ⟨s₁, htake, h⟩ := bind_eq_ok.1 h
      have htrailing₁ := (Scan.isTrailing_take (Ne.symm hargs.1) htake).trans htrailing
      exact bind_eq_ok.2 ⟨s₁, htake, ih hargs.2 htrailing₁ h⟩
    · cases hname : CommandName.ofText? arg with
      | none =>
        simp only [hname] at h ⊢
        obtain ⟨s₁, htake, h⟩ := bind_eq_ok.1 h
        have htrailing₁ := (Scan.isTrailing_take (Ne.symm hargs.1) htake).trans htrailing
        exact bind_eq_ok.2 ⟨s₁, htake, ih hargs.2 htrailing₁ h⟩
      | some name =>
        simp only [hname] at h ⊢
        obtain ⟨inner', hbelow, h⟩ := bind_eq_ok.1 h
        obtain ⟨command, hcommand, h⟩ := bind_eq_ok.1 h
        obtain ⟨s', hsettle, h⟩ := bind_eq_ok.1 h
        cases h
        obtain ⟨rfl, rfl⟩ := command_eq_assess hcommand
        rw [below_append_answerFlags hargs.2 hspecs hbelow]
        exact bind_eq_ok.2 ⟨_, rfl, bind_eq_ok.2 ⟨_, rfl, bind_eq_ok.2 ⟨_, hsettle, rfl⟩⟩⟩

/-- Answers behind a command line for an assessment are added to those in it. -/
theorem parse_append_answerFlags {args specs : List String} {i : Invocation}
    {answers : List String} (hargs : "--" ∉ args)
    (hspecs : ∀ spec ∈ specs, spec.toList.head? ≠ some '-') (h : parse args = .ok i)
    (hcommand : i.command = some (.assess answers)) :
    parse (args ++ answerFlags specs) =
      .ok { i with command := some (.assess (answers ++ specs)) } := by
  obtain ⟨⟨outer, inner⟩, htop, h⟩ := bind_eq_ok.1 h
  rcases inner with _ | ⟨inner, command⟩
  · cases h
    cases hcommand
  · cases h
    cases hcommand
    rw [parse, top_append_answerFlags hargs rfl hspecs htop]
    rfl

end Temperament.Invocation
