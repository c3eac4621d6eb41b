import Temperament.Proofs.Run.Verbosity

/-!
# Assessments by specs

Specs are complete if each is taken and every question has one, of which the last counts; else they
have a fault (`exists_isFaultOf`).  An assessment by specs stores and shows what complete ones come
to, and does nothing but report the fault of others (`runProgram_assess`).
-/

namespace Temperament

open Journal

/-! ## What specs come to -/

namespace Questionnaire

/-- For how many built-in questions the last of some specs stands for a category. -/
def specVotes (specs : List String) (c : Category) : Nat :=
  Question.builtin.countP fun q =>
    decide (Answers.lastFor? (specAnswers specs) q.id = some (UInt64.ofNat c.position))

/-- Specs that are all taken, with one for every built-in question. -/
structure AreComplete (specs : List String) : Prop where
  isTaken : ∀ spec ∈ specs, IsTaken Question.builtin spec
  covers : ∀ q ∈ Question.builtin, q.id ∈ (specAnswers specs).map Prod.fst

/-- The fault of specs that do not answer all built-in questions: that of the first one that is not
taken, or else how many different questions they name. -/
inductive IsFaultOf (specs : List String) : Fault → Prop
  | refused (before : List String) (spec : String) (after : List String) (fault : Fault)
      (hspecs : specs = before ++ spec :: after)
      (hbefore : ∀ spec ∈ before, IsTaken Question.builtin spec)
      (hrefuses : Refuses Question.builtin spec fault) : IsFaultOf specs fault
  | incomplete (htaken : ∀ spec ∈ specs, IsTaken Question.builtin spec)
      (hlt : ((specAnswers specs).map Prod.fst).dedup.length < 5) :
      IsFaultOf specs (.incomplete ((specAnswers specs).map Prod.fst).dedup.length 5)

instance (questions : List Question) (spec : String) : Decidable (IsTaken questions spec) :=
  decidable_of_iff ((readSpec? spec.toList).any fun answer =>
      decide (Answers.IsKnown questions answer)) (by
    rw [Option.any_eq_true]
    simp only [decide_eq_true_eq]
    rfl)

instance (specs : List String) : Decidable (AreComplete specs) :=
  decidable_of_iff ((∀ spec ∈ specs, IsTaken Question.builtin spec) ∧
      ∀ q ∈ Question.builtin, q.id ∈ (specAnswers specs).map Prod.fst)
    ⟨fun h => ⟨h.1, h.2⟩, fun h => ⟨h.isTaken, h.covers⟩⟩

variable {specs : List String}

theorem gathered_specAnswers (htaken : ∀ spec ∈ specs, IsTaken Question.builtin spec) :
    (Answers.ofPairs (specAnswers specs)).Gathered Question.builtin (specAnswers specs) :=
  Answers.gathered_ofPairs (fun _ h => (isKnown_of_mem_specAnswers htaken h).2) _

theorem coverage_specAnswers (htaken : ∀ spec ∈ specs, IsTaken Question.builtin spec) :
    Answers.coverage Question.builtin (specAnswers specs) =
      ((specAnswers specs).map Prod.fst).dedup.length :=
  Answers.coverage_eq_length_dedup nodup_builtin
    fun _ h => (isKnown_of_mem_specAnswers htaken h).1

theorem AreComplete.ensureComplete (h : AreComplete specs) :
    (Answers.ofPairs (specAnswers specs)).ensureComplete Question.builtin = .ok ⟨⟩ := by
  have hgathered := gathered_specAnswers h.isTaken
  exact hgathered.ensureComplete_eq_ok.2 (hgathered.isComplete_iff.2 h.covers)

theorem votes_specAnswers (specs : List String) :
    (Answers.ofPairs (specAnswers specs)).votes Question.builtin = specVotes specs := by
  funext c
  simp only [Answers.votes, specVotes, Answers.get?_ofPairs]

theorem AreComplete.counts (h : AreComplete specs) :
    ((Answers.ofPairs (specAnswers specs)).tally Question.builtin).Counts (specVotes specs) 5 := by
  have hgathered := gathered_specAnswers h.isTaken
  have hcoverage : Answers.coverage Question.builtin (specAnswers specs) = 5 :=
    hgathered.coverage_eq_length.2 (hgathered.isComplete_iff.2 h.covers)
  have hcounts := hgathered.counts (by rw [hcoverage]; decide)
  rwa [hcoverage, votes_specAnswers] at hcounts

/-- Specs that are not complete have a fault, which is found when they are read or when their
answers are looked through. -/
theorem exists_isFaultOf (h : ¬AreComplete specs) :
    ∃ fault, IsFaultOf specs fault ∧
      (answerSpecs Question.builtin specs = .error fault ∨
        ∃ answers, answerSpecs Question.builtin specs = .ok answers ∧
          answers.ensureComplete Question.builtin = .error fault) := by
  -- if all are taken, some question has none; else the first that is not taken decides
  rcases forall_mem_or_exists_append (IsTaken Question.builtin) specs with
    htaken | ⟨before, spec, after, hspecs, hbefore, hspec⟩
  · have hgathered := gathered_specAnswers htaken
    have hlacks : (Answers.ofPairs (specAnswers specs)).isComplete Question.builtin = false :=
      Bool.eq_false_iff.2 fun hcomplete => h ⟨htaken, hgathered.isComplete_iff.1 hcomplete⟩
    obtain ⟨hensure, hlt⟩ := hgathered.ensureComplete_eq_error hlacks
    rw [coverage_specAnswers htaken] at hensure hlt
    exact ⟨_, .incomplete htaken hlt, .inr ⟨_, answerSpecs_eq_ofPairs htaken, hensure⟩⟩
  · obtain ⟨fault, hrefuses⟩ := exists_refuses hspec
    refine ⟨fault, .refused before spec after fault hspecs hbefore hrefuses, .inl ?_⟩
    rw [hspecs]
    exact answerSpecs_of_refuses hbefore hrefuses after

end Questionnaire

/-! ## Concluding an assessment -/

namespace Work

variable {s : Scratch} {st : RunState} {m : Scratch.Entries} {fs fs' : Files}

theorem loadProfile_apply (hload : s.load st.files = .ok m st.files) :
    loadProfile s st = .ok (.ofEntries m)
      { st with events := st.events ++ (Profile.ignored m).map Events.ignored } := by
  rw [loadProfile, bind_apply, filing, hload]
  simp only [bind_apply, forM_note_map_apply]
  rfl

theorem saveProfile_apply {p : Profile} {sizes : List Nat}
    (hsave : p.save s st.files = .ok sizes fs') :
    saveProfile s p st = .ok ⟨⟩
      { st with files := fs', events := st.events ++ sizes.map (Events.wroteStore s) } := by
  rw [saveProfile, bind_apply, filing, hsave]
  simp only [forM_note_map_apply]

/-- An assessment with complete answers stores their category in the profile and shows it. -/
theorem conclude_of_complete {answers : Answers} {sizes : List Nat}
    (hcomplete : answers.ensureComplete Question.builtin = .ok ⟨⟩) (hload : s.load fs = .ok m fs)
    (hsave : Profile.save
      { Profile.ofEntries m with category := some (answers.classify Question.builtin) } s fs =
      .ok sizes fs') (v : Verbosity) :
    ∃ events, conclude s v answers { files := fs } = .ok ⟨⟩
      ⟨fs', View.assessment (answers.classify Question.builtin) none ++
        if v = .quiet then [] else View.details (answers.tally Question.builtin), events⟩ := by
  have hloadProfile (events : List Event) : ∃ events', loadProfile s ⟨fs, [], events⟩ =
      .ok (.ofEntries m) ⟨fs, [], events'⟩ := ⟨_, loadProfile_apply hload⟩
  have hsaveProfile (events : List Event) : ∃ events', saveProfile s
      { Profile.ofEntries m with category := some (answers.classify Question.builtin) }
      ⟨fs, [], events⟩ = .ok ⟨⟩ ⟨fs', [], events'⟩ := ⟨_, saveProfile_apply hsave⟩
  obtain ⟨first, hfirst⟩ := hloadProfile
    [Events.classified answers (answers.tally Question.builtin) (answers.classify Question.builtin)]
  obtain ⟨second, hsecond⟩ := hsaveProfile first
  refine ⟨second ++ [Events.storedAssessment (answers.classify Question.builtin)], ?_⟩
  rw [conclude, hcomplete]
  simp only [ofExcept, bind_apply, pure_apply, note_apply, List.nil_append, hfirst, hsecond]
  exact showAssessment_apply v _ _ _

end Work

/-! ## Outcomes of assessments -/

/-- A run that has stored a category in a profile and shown it, and unless it was quiet the scores
of a board and a hint. -/
structure Outcome.Assesses (o : Outcome) (s : Scratch) (p : Profile) (c : Category)
    (board : Scoreboard) (v : Verbosity) (inColour : Bool) : Prop where
  exit_eq : o.exit = 0
  load_eq : Profile.load s o.files = .ok { p with category := some c } o.files
  output_eq : o.output = if v = .quiet then (View.assessment c none).render inColour
    else (View.assessment c (some board) ++ Work.hint).render inColour

/-- A run that has done nothing but report a fault. -/
structure Outcome.Reports (o : Outcome) (files : Files) (noted : String) (fault : Fault) :
    Prop where
  exit_eq : o.exit = 1
  output_eq : o.output = ""
  files_eq : o.files = files
  errors_eq : o.errors = noted ++ report (some fault)

namespace Work

open Questionnaire Invocation

variable {s : Scratch} {specs : List String} {m : Scratch.Entries} {files : Files}

theorem render_assessment (c : Category) (board : Scoreboard) (v : Verbosity) (inColour : Bool) :
    (View.assessment c none ++ if v = .quiet then [] else View.details board).render inColour =
      if v = .quiet then (View.assessment c none).render inColour
      else (View.assessment c (some board) ++ hint).render inColour := by
  split
  · rw [List.append_nil]
  · rw [View.assessment_some, View.details, List.append_assoc]

theorem assesses_of_areComplete (h : AreComplete specs) (hspecs : specs ≠ [])
    (hread : s.load files = .ok m files) (husable : s.IsUsable files) (v : Verbosity)
    (input : List UInt8) (events : List Event) (filter : Filter) (inColour : Bool) :
    ∃ c board, (outcomeOf filter inColour (assess s v specs input { files, events })).Assesses s
        (.ofEntries m) c board v inColour ∧
      IsFirstMax (specVotes specs) c ∧ board.Counts (specVotes specs) 5 := by
  let answers := Answers.ofPairs (specAnswers specs)
  let c := answers.classify Question.builtin
  let p : Profile := { Profile.ofEntries m with category := some c }
  obtain ⟨sizes, fs', hsave⟩ := p.exists_save hread husable
  obtain ⟨noted, hconclude⟩ := conclude_of_complete h.ensureComplete hread hsave v
  have hassess : assess s v specs input { files, events } = _ :=
    assess_specs hspecs (answerSpecs_eq_ofPairs h.isTaken) input files events
  have hload : Profile.load s fs' = .ok p fs' := Profile.load_eq_ok_iff.2
    ⟨_, Profile.load_of_save hread hsave, (Profile.ofEntries_entries p m).symm⟩
  rw [hconclude] at hassess
  rw [hassess]
  exact ⟨c, answers.tally Question.builtin, ⟨rfl, hload, render_assessment c _ v inColour⟩,
    (h.counts.leader_eq_iff c).1 rfl, h.counts⟩

theorem assess_of_fault {fault : Fault} (hspecs : specs ≠ [])
    (h : answerSpecs Question.builtin specs = .error fault ∨
      ∃ answers, answerSpecs Question.builtin specs = .ok answers ∧
        answers.ensureComplete Question.builtin = .error fault)
    (v : Verbosity) (input : List UInt8) (events : List Event) :
    assess s v specs input { files, events } = .error fault { files, events } := by
  rcases h with hread | ⟨answers, hread, hincomplete⟩
  · rw [assess, if_neg (by simpa using hspecs), hread]
    rfl
  · rw [assess_specs hspecs hread, conclude_of_incomplete hincomplete]
    simp [behind, RunState.behind]

theorem reports_of_not_areComplete (h : ¬AreComplete specs) (hspecs : specs ≠ []) (s : Scratch)
    (v : Verbosity) (input : List UInt8) (files : Files) (events : List Event) (filter : Filter)
    (inColour : Bool) :
    ∃ fault, IsFaultOf specs fault ∧
      (outcomeOf filter inColour (assess s v specs input { files, events })).Reports files
        (Journal.text filter events) fault := by
  obtain ⟨fault, hfault, hread⟩ := exists_isFaultOf h
  rw [assess_of_fault hspecs hread]
  exact ⟨fault, hfault, rfl, rfl, rfl, rfl⟩

end Work

open Questionnaire in
/-- An assessment by specs, on a store that can be read and written, ends well exactly if all specs
are taken and there is one for every built-in question.  It then stores and shows the first of the
categories that have the most questions, the last spec for each question counting; the scores are
these numbers of questions, which add up to 5, and are shown unless the run is quiet.  Otherwise it
changes no file and shows nothing, and reports the fault of the specs. -/
theorem runProgram_assess {args : List String} {i : Invocation} {around : Surroundings}
    {files : Files} {settings : Settings} {specs : List String} {m : Scratch.Entries}
    (hparse : Invocation.parse args = .ok i) (hcommand : i.command = some (.assess specs))
    (hspecs : specs ≠ [])
    (hload : Settings.loadFrom around.home i.config files = .ok settings files)
    (hread : (i.scratch around.home settings).load files = .ok m files)
    (husable : (i.scratch around.home settings).IsUsable files) :
    let s := i.scratch around.home settings
    let v := i.verbosity settings.verbosity
    let o := runProgram args around files
    (o.exit = 0 ↔ AreComplete specs) ∧
      (AreComplete specs → ∃ c board,
        o.Assesses s (.ofEntries m) c board v (around.isColoured && i.allowsColour settings) ∧
        IsFirstMax (specVotes specs) c ∧ (∀ c', (board.score c').toNat = specVotes specs c') ∧
        board.points = 5) ∧
      (¬AreComplete specs → ∃ fault, IsFaultOf specs fault ∧
        o.Reports files (Journal.text (Filter.choose around.log v) [Events.usingStorage s])
          fault) := by
  intro s v o
  have houtcome : o = Invocation.outcomeOf (Filter.choose around.log v)
      (around.isColoured && i.allowsColour settings)
      (Work.assess s v specs around.input { files, events := [Events.usingStorage s] }) := by
    rw [show o = _ from runProgram_of_parse hparse around files, Invocation.run_of_load hload,
      Invocation.outcome_eq, Invocation.perform_assess hcommand]
    rfl
  rw [houtcome]
  by_cases h : AreComplete specs
  · obtain ⟨c, board, hassesses, hmax, hcounts⟩ := Work.assesses_of_areComplete h hspecs hread
      husable v around.input [Events.usingStorage s] (Filter.choose around.log v)
      (around.isColoured && i.allowsColour settings)
    exact ⟨iff_of_true hassesses.exit_eq h,
      fun _ => ⟨c, board, hassesses, hmax, hcounts.score_eq, hcounts.points_eq⟩,
      fun hnot => absurd h hnot⟩
  · obtain ⟨fault, hfault, hreports⟩ := Work.reports_of_not_areComplete h hspecs s v around.input
      files [Events.usingStorage s] (Filter.choose around.log v)
      (around.isColoured && i.allowsColour settings)
    refine ⟨iff_of_false ?_ h, fun hcomplete => absurd hcomplete h,
      fun _ => ⟨fault, hfault, hreports⟩⟩
    rw [hreports.exit_eq]
    decide

theorem loadFrom_empty : Settings.loadFrom Surroundings.quiet.home none {} = .ok {} {} :=
  Settings.loadFrom_none_of_contains_eq_false (by decide +kernel)

theorem load_empty : Scratch.load ⟨"home/.huidong"⟩ {} = .ok ∅ {} := by
  have hholds : Scratch.Holds ⟨"home/.huidong"⟩ {} none := by
    show Files.contains {} _ = false
    decide +kernel
  exact hholds.load

theorem isUsable_empty : Scratch.IsUsable ⟨"home/.huidong"⟩ {} :=
  ⟨["home", ".huidong", "session.json"], by decide +kernel, by decide +kernel⟩

/-- Arguments for an assessment by specs. -/
def assessBy (specs : List String) : List String :=
  "assess" :: Invocation.answerFlags specs

/-- Specs in no order, of which the last changes the first and with it the category. -/
def changedSpecs : List String :=
  ["1=0", "2=0", "5=+2", " 4 = 2", "3=0", "1=2"]

/-- Specs of which the second is not taken, and the third cannot be read. -/
def refusedSpecs : List String :=
  ["1=2", "7=9", "x"]

theorem runProgram_assess_changed :
    let changed := runProgram (assessBy changedSpecs) .quiet {}
    let refused := runProgram (assessBy refusedSpecs) .quiet {}
    changed.exit = 0 ∧ Profile.load ⟨"home/.huidong"⟩ changed.files =
        .ok { category := some .social } changed.files ∧
      (∃ board : Scoreboard, board.points = 5 ∧
        changed.output = (View.assessment .social (some board) ++ Work.hint).render false) ∧
      refused.exit = 1 ∧ refused.output = "" ∧ refused.files = {} := by
  intro changed refused
  have hparse : Invocation.parse (assessBy changedSpecs) =
      .ok { command := some (.assess changedSpecs) } := by
    decide +kernel
  have hparse' : Invocation.parse (assessBy refusedSpecs) =
      .ok { command := some (.assess refusedSpecs) } := by
    decide +kernel
  have hcomplete : Questionnaire.AreComplete changedSpecs := by decide +kernel
  have hrefused : ¬Questionnaire.AreComplete refusedSpecs := by decide +kernel
  obtain ⟨hzero, hassesses, -⟩ := @runProgram_assess (assessBy changedSpecs) _ .quiet {} {} _ ∅
    hparse rfl (List.cons_ne_nil _ _) loadFrom_empty load_empty isUsable_empty
  obtain ⟨-, -, hreports⟩ := @runProgram_assess (assessBy refusedSpecs) _ .quiet {} {} _ ∅
    hparse' rfl (List.cons_ne_nil _ _) loadFrom_empty load_empty isUsable_empty
  obtain ⟨c, board, hends, hmax, -, hpoints⟩ := hassesses hcomplete
  obtain rfl : c = .social := hmax.unique (by decide +kernel)
  have houtput := hends.output_eq.trans (if_neg (by decide))
  obtain ⟨fault, -, hends'⟩ := hreports hrefused
  exact ⟨hzero.2 hcomplete, hends.load_eq, ⟨board, hpoints, houtput⟩, hends'.exit_eq,
    hends'.output_eq, hends'.files_eq⟩

/-! ## Assessments that are quiet -/

theorem render_breakdown (board : Scoreboard) (inColour : Bool) :
    ∃ rest, Styled.render inColour (board.breakdown.flatMap View.scoreLine) =
      "  探索型 (explorer): " ++ rest := by
  have hfirst : (View.scoreLine (.explorer, board.explorer)).render inColour =
      "  探索型 (explorer): " ++ (toString board.explorer ++ "\n") := by
    rw [View.scoreLine, View.render_line_plain, ← String.append_assoc]
    rfl
  have hcons : board.breakdown = (.explorer, board.explorer) :: board.breakdown.tail := rfl
  rw [hcons, List.flatMap_cons, Styled.render_append, hfirst, String.append_assoc]
  exact ⟨_, rfl⟩

/-- A quiet assessment shows no scores. -/
theorem not_forall_scores_shown :
    ¬ ∀ (args : List String) (i : Invocation) (around : Surroundings) (files : Files)
        (settings : Settings) (specs : List String) (m : Scratch.Entries),
      Invocation.parse args = .ok i → i.command = some (.assess specs) → specs ≠ [] →
      Settings.loadFrom around.home i.config files = .ok settings files →
      (i.scratch around.home settings).load files = .ok m files →
      (i.scratch around.home settings).IsUsable files → Questionnaire.AreComplete specs →
      ∃ (board : Scoreboard) (before after : String), board.points = 5 ∧
        (runProgram args around files).output = before ++
          Styled.render (around.isColoured && i.allowsColour settings)
            (board.breakdown.flatMap View.scoreLine) ++ after := by
  intro h
  have hparse : Invocation.parse ("-q" :: assessBy changedSpecs) =
      .ok { isQuiet := true, command := some (.assess changedSpecs) } := by
    decide +kernel
  obtain ⟨board, before, after, -, houtput⟩ := h ("-q" :: assessBy changedSpecs) _ .quiet {} {}
    changedSpecs ∅ hparse rfl (List.cons_ne_nil _ _) loadFrom_empty load_empty isUsable_empty
    (by decide +kernel)
  have hquiet : (runProgram ("-q" :: assessBy changedSpecs) .quiet {}).output =
      "评估完成，当前更匹配：社交型 (social)\n" := by
    decide +kernel
  obtain ⟨rest, hscores⟩ := render_breakdown board (Surroundings.quiet.isColoured && _)
  have hmem : '探' ∈ "评估完成，当前更匹配：社交型 (social)\n".toList := by
    rw [← hquiet, houtput, hscores]
    simp
  exact absurd hmem (by decide)

end Temperament
