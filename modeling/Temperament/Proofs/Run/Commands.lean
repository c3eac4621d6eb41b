import Temperament.Proofs.Profile
import Temperament.Proofs.Settings.File
import Temperament.Run.Program

/-!
# What commands do to the files

Each command is specified by what it shows and leaves when it ends well, and by what it leaves when
it fails.  Notes never matter to either.
-/

namespace Temperament

open Scratch

namespace Work

/-! ## How work ends -/

/-- Work ends well with a result and a state that are good, or fails in a state that is bad. -/
def Ends {α : Type} (w : Work α) (st : RunState) (good : α → RunState → Prop)
    (bad : RunState → Prop) : Prop :=
  match w st with
  | .ok a st' => good a st'
  | .error _ st' => bad st'

section Rules

variable {α β : Type} {w : Work α} {f : α → Work β} {st : RunState}
  {good good' : α → RunState → Prop} {bad bad' : RunState → Prop}

theorem Ends.mono (h : w.Ends st good bad) (hgood : ∀ a st', good a st' → good' a st') :
    w.Ends st good' bad := by
  unfold Ends at h ⊢
  cases hw : w st with
  | ok a st' =>
    rw [hw] at h
    exact hgood a st' h
  | error fault st' =>
    rw [hw] at h
    exact h

theorem Ends.weaken (h : w.Ends st good bad) (hbad : ∀ st', bad st' → bad' st') :
    w.Ends st good bad' := by
  unfold Ends at h ⊢
  cases hw : w st with
  | ok a st' =>
    rw [hw] at h
    exact h
  | error fault st' =>
    rw [hw] at h
    exact hbad st' h

theorem Ends.bind {post : β → RunState → Prop} (h : w.Ends st good bad)
    (hf : ∀ a st', good a st' → (f a).Ends st' post bad) : (w >>= f).Ends st post bad := by
  unfold Ends at h ⊢
  rw [bind_apply]
  cases hw : w st with
  | ok a st' =>
    rw [hw] at h
    exact hf a st' h
  | error fault st' =>
    rw [hw] at h
    exact h

theorem Ends.ite_bind {post : β → RunState → Prop} {c : Prop} [Decidable c] {w' : Work α}
    (h : Ends (if c then w else w') st good bad)
    (hf : ∀ a st', good a st' → (f a).Ends st' post bad) :
    Ends (if c then w >>= f else w' >>= f) st post bad := by
  split
  · rename_i hc
    rw [if_pos hc] at h
    exact h.bind hf
  · rename_i hc
    rw [if_neg hc] at h
    exact h.bind hf

theorem ends_pure {a : α} (h : good a st) : Ends (pure a) st good bad := h

theorem ends_ofExcept (x : Except Fault α) (hgood : ∀ a, x = .ok a → good a st) (hbad : bad st) :
    (ofExcept x).Ends st good bad := by
  cases x with
  | ok a => exact hgood a rfl
  | error fault => exact hbad

theorem ends_filing (x : Filing α) (hgood : ∀ a fs', x st.files = .ok a fs' →
      good a { st with files := fs' })
    (hbad : ∀ fault fs', x st.files = .error fault fs' → bad { st with files := fs' }) :
    (filing x).Ends st good bad := by
  unfold Ends filing
  cases hx : x st.files with
  | ok a fs' => exact hgood a fs' hx
  | error fault fs' => exact hbad fault fs' hx

end Rules

end Work

/-! ## Showing and noting -/

/-- Text was shown, and the files are the same. -/
structure RunState.Shows (st : RunState) (text : Styled) (st' : RunState) : Prop where
  files_eq : st'.files = st.files
  shown_eq : st'.shown = st.shown ++ text

namespace RunState.Shows

variable {st st' st'' : RunState} {text text' : Styled}

theorem refl (st : RunState) : st.Shows [] st :=
  ⟨rfl, (List.append_nil _).symm⟩

theorem trans (h : st.Shows text st') (h' : st'.Shows text' st'') :
    st.Shows (text ++ text') st'' where
  files_eq := h'.files_eq.trans h.files_eq
  shown_eq := by rw [h'.shown_eq, h.shown_eq, List.append_assoc]

end RunState.Shows

namespace Work

variable {st : RunState} {bad : RunState → Prop}

theorem ends_showText (text : Styled) : (showText text).Ends st (fun _ => st.Shows text) bad :=
  ⟨rfl, rfl⟩

theorem ends_note (e : Journal.Event) : (note e).Ends st (fun _ => st.Shows []) bad :=
  ⟨rfl, (List.append_nil _).symm⟩

theorem ends_forM_note {α : Type} (f : α → Journal.Event) (l : List α) :
    Ends (l.forM fun a => note (f a)) st (fun _ => st.Shows []) bad := by
  induction l generalizing st with
  | nil => exact ends_pure (.refl st)
  | cons a l ih =>
    show (note (f a) >>= fun _ => l.forM fun a => note (f a)).Ends st _ _
    refine (ends_note (f a)).bind fun _ st₁ h₁ => ?_
    exact ih.mono (fun _ _ h₂ => h₁.trans h₂)

/-! ## Profiles -/

variable {s : Scratch}

theorem ends_loadProfile (s : Scratch) :
    (loadProfile s).Ends st
      (fun p st' => (∃ m, s.load st.files = .ok m st.files ∧ p = .ofEntries m) ∧ st.Shows [] st')
      (fun st' => st'.files = st.files) := by
  let good (m : Entries) (st' : RunState) : Prop :=
    s.load st.files = .ok m st.files ∧ st.Shows [] st'
  have hload : (filing s.load).Ends st good (fun st' => st'.files = st.files) := by
    refine ends_filing s.load (fun m fs' h => ?_) fun fault fs' h => load_eq_error h
    obtain ⟨rfl, -⟩ := load_eq_ok_iff.1 h
    exact ⟨h, .refl st⟩
  refine hload.bind fun m st₁ ⟨hm, h₁⟩ => ?_
  refine (ends_forM_note _ _).bind fun _ st₂ h₂ => ?_
  exact ends_pure ⟨⟨m, hm, rfl⟩, h₁.trans h₂⟩

theorem ends_saveProfile {m : Entries} (hload : s.load st.files = .ok m st.files) (p : Profile) :
    (saveProfile s p).Ends st
      (fun _ st' => (∃ sizes, p.save s st.files = .ok sizes st'.files) ∧ st'.shown = st.shown)
      (fun st' => s.FailsToWrite st.files st'.files) := by
  let good (sizes : List Nat) (st' : RunState) : Prop :=
    p.save s st.files = .ok sizes st'.files ∧ st'.shown = st.shown
  have hsave : (filing (p.save s)).Ends st good (fun st' => s.FailsToWrite st.files st'.files) := by
    refine ends_filing (p.save s) (fun sizes fs' h => ⟨h, rfl⟩) fun fault fs' h => ?_
    rcases p.save_cases hload with ⟨-, hsave⟩ | ⟨sizes, fs₁, hsave, -⟩ | ⟨fs₁, hsave, hfails⟩
    · cases hsave.symm.trans h
    · cases hsave.symm.trans h
    · cases hsave.symm.trans h
      exact hfails
  refine hsave.bind fun sizes st₁ ⟨hsizes, hshown⟩ => ?_
  refine (ends_forM_note _ _).mono (fun _ st₂ h₂ => ⟨⟨sizes, ?_⟩, ?_⟩)
  · rw [h₂.files_eq, hsizes]
  · rw [h₂.shown_eq, hshown, List.append_nil]

theorem ends_showPlan (p : Profile) :
    (showPlan p).Ends st
      (fun _ => st.Shows (View.plan p.categoryOrDefault p.currentPlan p.progress)) bad := by
  refine (ends_forM_note _ _).bind fun _ st₁ h₁ => ?_
  exact (ends_showText _).mono (fun _ _ h₂ => h₁.trans h₂)

/-- The files when a command has failed that would write to a store. -/
def Unwritten (s : Scratch) (fs fs' : Files) : Prop :=
  fs' = fs ∨ s.FailsToWrite fs fs'

/-- A profile is loaded, saved with changes, and then something is shown. -/
theorem ends_updateProfile (s : Scratch) (change : Profile → Profile) {k : Profile → Work Unit}
    {t : Profile → Styled}
    (hshow : ∀ p st', (k p).Ends st' (fun _ => st'.Shows (t p))
      fun st' => Unwritten s st.files st'.files) :
    Ends (loadProfile s >>= fun p => saveProfile s (change p) >>= fun _ => k p) st
      (fun _ st' => ∃ m sizes, s.load st.files = .ok m st.files ∧
        (change (.ofEntries m)).save s st.files = .ok sizes st'.files ∧
        st'.shown = st.shown ++ t (.ofEntries m))
      (fun st' => Unwritten s st.files st'.files) := by
  refine ((ends_loadProfile s).weaken fun _ h => .inl h).bind
    fun p st₁ ⟨⟨m, hm, hp⟩, h₁⟩ => ?_
  subst hp
  rw [← h₁.files_eq] at hm hshow ⊢
  refine ((ends_saveProfile hm _).weaken fun _ h => .inr h).bind
    fun _ st₂ ⟨⟨sizes, hsave⟩, hshown⟩ => ?_
  refine (hshow _ st₂).mono (fun _ st₃ h₃ => ⟨m, sizes, hm, ?_, ?_⟩)
  · rw [h₃.files_eq, hsave]
  · rw [h₃.shown_eq, hshown, h₁.shown_eq, List.append_nil]

/-! ## Commands -/

theorem ends_plan (s : Scratch) :
    (plan s).Ends st
      (fun _ st' => ∃ m, s.load st.files = .ok m st.files ∧ st.Shows
        (View.plan (Profile.ofEntries m).categoryOrDefault (Profile.ofEntries m).currentPlan
          (Profile.ofEntries m).progress) st')
      (fun st' => st'.files = st.files) := by
  refine (ends_loadProfile s).bind fun p st₁ ⟨⟨m, hm, hp⟩, h₁⟩ => ?_
  subst hp
  have hshow {st₂ : RunState} (h₂ : st.Shows [] st₂) : (showPlan (Profile.ofEntries m)).Ends st₂
      (fun _ st' => ∃ m, s.load st.files = .ok m st.files ∧ st.Shows
        (View.plan (Profile.ofEntries m).categoryOrDefault (Profile.ofEntries m).currentPlan
          (Profile.ofEntries m).progress) st')
      (fun st' => st'.files = st.files) :=
    (ends_showPlan _).mono (fun _ _ h₃ => ⟨m, hm, h₂.trans h₃⟩)
  split
  · exact (ends_note _).bind fun _ st₂ h₂ => hshow (h₁.trans h₂)
  · exact hshow h₁

theorem ends_recordProgress (s : Scratch) (progress : Progress) :
    (recordProgress s progress).Ends st
      (fun _ st' => ∃ m sizes p, s.load st.files = .ok m st.files ∧
        p = { Profile.ofEntries m with progress := some progress } ∧
        p.save s st.files = .ok sizes st'.files ∧
        st'.shown = st.shown ++ View.plan p.categoryOrDefault p.currentPlan p.progress)
      (fun st' => Unwritten s st.files st'.files) := by
  let change (p : Profile) : Profile := { p with progress := some progress }
  let view (p : Profile) : Styled :=
    View.plan (change p).categoryOrDefault (change p).currentPlan (change p).progress
  refine (ends_updateProfile s change (t := view) fun p st₁ => ?_).mono
    fun _ st' ⟨m, sizes, hload, hsave, hshown⟩ => ⟨m, sizes, _, hload, rfl, hsave, hshown⟩
  refine (ends_note _).bind fun _ st₂ h₂ => ?_
  exact (ends_showPlan (change p)).mono (fun _ _ h₃ => h₂.trans h₃)

/-- The answers that an assessment goes by: those on the command line, or else those of the input. -/
def collected (specs : List String) (input : List UInt8) : Except Fault Answers :=
  if specs.isEmpty then (Questionnaire.run Question.builtin input).outcome
  else Questionnaire.answerSpecs Question.builtin specs

theorem ends_collect (specs : List String) (input : List UInt8) :
    Ends (if specs.isEmpty then ask Question.builtin input
        else ofExcept (Questionnaire.answerSpecs Question.builtin specs)) st
      (fun answers st' => collected specs input = .ok answers ∧ st'.files = st.files)
      (fun st' => st'.files = st.files) := by
  unfold collected
  split
  · refine (ends_showText _).bind fun _ st₁ h₁ => ?_
    refine (ends_forM_note id _).bind fun _ st₂ h₂ => ?_
    exact ends_ofExcept _ (fun answers h => ⟨h, h₂.files_eq.trans h₁.files_eq⟩)
      (h₂.files_eq.trans h₁.files_eq)
  · exact ends_ofExcept _ (fun answers h => ⟨h, rfl⟩) rfl

theorem ends_assess (s : Scratch) (v : Verbosity) (specs : List String) (input : List UInt8) :
    (assess s v specs input).Ends st
      (fun _ st' => ∃ answers m sizes, collected specs input = .ok answers ∧
        s.load st.files = .ok m st.files ∧
        Profile.save { Profile.ofEntries m with category := some (answers.classify Question.builtin) }
          s st.files = .ok sizes st'.files)
      (fun st' => Unwritten s st.files st'.files) := by
  refine ((ends_collect specs input).weaken fun _ h => Or.inl h).ite_bind
    fun answers st₁ ⟨hanswers, h₁⟩ => ?_
  rw [← h₁]
  have hcomplete : (ofExcept (answers.ensureComplete Question.builtin)).Ends st₁
      (fun _ st' => st'.files = st₁.files) (fun st' => Unwritten s st₁.files st'.files) :=
    ends_ofExcept _ (fun _ _ => rfl) (.inl rfl)
  refine hcomplete.bind fun _ st₂ h₂ => ?_
  refine (ends_note _).bind fun _ st₃ h₃ => ?_
  rw [← h₂, ← h₃.files_eq]
  let c := answers.classify Question.builtin
  let view : Styled :=
    if v.showsDetails then View.assessment c (some (answers.tally Question.builtin)) ++ hint
    else View.assessment c none
  refine (ends_updateProfile s (fun p => { p with category := some c }) (t := fun _ => view)
    fun p st₄ => ?_).mono
    fun _ st' ⟨m, sizes, hload, hsave, _⟩ => ⟨answers, m, sizes, hanswers, hload, hsave⟩
  refine (ends_note _).bind fun _ st₅ h₅ => ?_
  show Ends _ st₅ (fun _ => st₄.Shows (if v.showsDetails then _ else _)) _
  split
  · refine (ends_showText _).bind fun _ st₆ h₆ => ?_
    exact (ends_showText _).mono (fun _ _ h₇ => h₅.trans (h₆.trans h₇))
  · exact (ends_showText _).mono (fun _ _ h₆ => h₅.trans h₆)

theorem ends_clean (s : Scratch) :
    (clean s).Ends st (fun _ st' => ∃ existed, s.clear st.files = .ok existed st'.files)
      (fun st' => st'.files = st.files) := by
  let good (existed : Bool) (st' : RunState) : Prop := s.clear st.files = .ok existed st'.files
  have hclear : (filing s.clear).Ends st good (fun st' => st'.files = st.files) := by
    refine ends_filing s.clear (fun existed fs' h => h) fun fault fs' h => ?_
    rcases clear_cases s st.files with ⟨-, hclear⟩ | ⟨fs₁, hclear, -⟩ | ⟨loc, -, -, hclear⟩
    · cases hclear.symm.trans h
    · cases hclear.symm.trans h
    · cases hclear.symm.trans h
      rfl
  refine hclear.bind fun existed st₁ h₁ => ?_
  have hshow {st' : RunState} (h : st'.files = st₁.files) :
      ∃ existed, s.clear st.files = .ok existed st'.files :=
    ⟨existed, by rw [h]; exact h₁⟩
  split
  · exact (ends_showText _).mono (fun _ _ h₂ => hshow h₂.files_eq)
  · exact (ends_showText _).mono (fun _ _ h₂ => hshow h₂.files_eq)

theorem ends_initSettings (path : String) :
    (initSettings path).Ends st
      (fun _ st' => ∃ written, Settings.create path st.files = .ok written st'.files)
      (fun st' => ∃ fault, Settings.create path st.files = .error fault st'.files) := by
  let good (written : Bool) (st' : RunState) : Prop :=
    Settings.create path st.files = .ok written st'.files
  have hcreate : (filing (Settings.create path)).Ends st good
      (fun st' => ∃ fault, Settings.create path st.files = .error fault st'.files) :=
    ends_filing _ (fun written fs' h => h) fun fault fs' h => ⟨fault, h⟩
  refine hcreate.bind fun written st₁ h₁ => ?_
  have hshow {st' : RunState} (h : st'.files = st₁.files) :
      ∃ written, Settings.create path st.files = .ok written st'.files :=
    ⟨written, by rw [h]; exact h₁⟩
  split
  · refine (ends_showText _).bind fun _ st₂ h₂ => ?_
    exact (ends_showText _).mono (fun _ _ h₃ => hshow (h₃.files_eq.trans h₂.files_eq))
  · refine (ends_showText _).bind fun _ st₂ h₂ => ?_
    exact (ends_showText _).mono (fun _ _ h₃ => hshow (h₃.files_eq.trans h₂.files_eq))

theorem ends_showSettings (settings : Settings) (path : String) (s : Scratch) (v : Verbosity)
    (isColoured : Bool) :
    (showSettings settings path s v isColoured).Ends st (fun _ st' => st'.files = st.files) bad :=
  rfl

end Work

end Temperament
