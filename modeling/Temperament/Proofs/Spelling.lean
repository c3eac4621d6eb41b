import Mathlib.Data.List.Forall2
import Mathlib.Data.List.Perm.Basic
import Temperament.Proofs.Date
import Temperament.Proofs.Invocation
import Temperament.Proofs.Options
import Temperament.Proofs.Text.Numeral

/-!
# Command lines and what they ask for

An invocation is written option by option, in any order that keeps its answers in theirs and puts
the options of a command behind the command's name.  Reading gives the invocation back
(`parse_spelled`).
-/

namespace Temperament

open Text Invocation

/-! ## Writing -/

namespace Invocation

/-- The ways to write an option and its value as one argument.  A flag has the empty text for its
value. -/
inductive Spells : Switch × String → String → Prop
  | value {switch : Switch} (takes : switch.takesValue = true) (text : String) :
    Spells (switch, text) ("--" ++ switch.long ++ "=" ++ text)
  | long {switch : Switch} (takes : switch.takesValue = false) :
    Spells (switch, "") ("--" ++ switch.long)
  | short {switch : Switch} {letter : Char} (takes : switch.takesValue = false)
    (hletter : switch.short? = some letter) : Spells (switch, "") (String.ofList ['-', letter])

/-- A flag is written once if it is set. -/
def flagTexts (isSet : Bool) : List String :=
  if isSet then [""] else []

end Invocation

namespace Command

def name : Command → CommandName
  | questions => .questions
  | assess _ => .assess
  | plan => .plan
  | progress _ => .progress
  | config _ => .config
  | clean => .clean

/-- The values that the options of a command are written with. -/
def texts : Command → Switch → List String
  | assess answers, .answer => answers
  | progress r, .completedLearning => [decimal r.completedLearning.toNat]
  | progress r, .targetLearning => (r.targetLearning.map fun n => decimal n.toNat).toList
  | progress r, .completedSports => [decimal r.completedSports.toNat]
  | progress r, .targetSports => (r.targetSports.map fun n => decimal n.toNat).toList
  | progress r, .feedback => r.feedback.toList
  | progress r, .weekStart => (r.weekStart.map Date.text).toList
  | config init, .init => flagTexts init
  | _, _ => []

end Command

namespace Invocation

/-- The values that each option is written with. -/
def texts (i : Invocation) : Switch → List String
  | .config => i.config.toList
  | .stateDir => i.stateDir.toList
  | .verbose => List.replicate i.verbose.toNat ""
  | .quiet => flagTexts i.isQuiet
  | .noColor => flagTexts i.noColor
  | switch => i.command.elim [] (·.texts switch)

def Switch.all : List Switch :=
  [.config, .stateDir, .verbose, .quiet, .noColor, .help, .version, .answer, .completedLearning,
    .targetLearning, .completedSports, .targetSports, .feedback, .weekStart, .init]

/-- The options that an invocation is written with. -/
def options (i : Invocation) : List (Switch × String) :=
  Switch.all.flatMap fun switch => (i.texts switch).map (switch, ·)

def commandWords (i : Invocation) : List String :=
  (i.command.map fun command => command.name.text).toList

/-- The options of an invocation in some order, the answers in theirs, on the two sides of its
command's name: none of the command's own before it, and all that count verbosity on one side. -/
structure Arranges (i : Invocation) (before after : List (Switch × String)) : Prop where
  perm : (before ++ after).Perm i.options
  answers : values (before ++ after) .answer = i.texts .answer
  before_top : ∀ o ∈ before, o.1 ∈ Level.top.switches
  verbose : values before .verbose = [] ∨ values after .verbose = []

/-! ## The values of an invocation -/

variable {i : Invocation} {os before after : List (Switch × String)} {args args' : List String}
  {level : Level} {g : Given}

theorem values_options (i : Invocation) (switch : Switch) :
    values i.options switch = i.texts switch := by
  cases switch <;> simp [options, Switch.all, values_append, values_map]

theorem readCount?_decimal (n : UInt32) : readCount? (decimal n.toNat).toList = some n := by
  obtain ⟨d, ds, hd, hdigit⟩ := digits_eq_cons n.toNat
  have hread : readUnsigned? UInt32.size (digits n.toNat) = some n.toNat :=
    readUnsigned?_digits n.toNat_lt
  rw [decimal, String.toList_ofList]
  rw [hd] at hread ⊢
  rw [readCount?, hread, Option.map_some, UInt32.ofNat_toNat]
  rintro cs heq
  exact ne_of_isDigit hdigit rfl (List.cons.inj heq).1

theorem length_flagTexts_le (isSet : Bool) : (flagTexts isSet).length ≤ 1 := by
  cases isSet <;> decide

theorem length_commandTexts_le (c : Command) {switch : Switch}
    (h : switch.isRepeatable = false) : (c.texts switch).length ≤ 1 := by
  fun_cases Command.texts c switch with
  | case1 => cases h
  | case2 | case4 => exact Nat.le_refl 1
  | case3 | case5 | case6 | case7 => exact Option.length_toList_le
  | case8 => exact length_flagTexts_le _
  | case9 => exact Nat.zero_le 1

theorem length_texts_le (i : Invocation) {switch : Switch} (h : switch.isRepeatable = false) :
    (i.texts switch).length ≤ 1 := by
  fun_cases texts i switch with
  | case1 | case2 => exact Option.length_toList_le
  | case3 => cases h
  | case4 | case5 => exact length_flagTexts_le _
  | case6 =>
    cases i.command with
    | none => exact Nat.zero_le 1
    | some c => exact length_commandTexts_le c h

theorem reads_commandTexts (c : Command) (switch : Switch) :
    ∀ text ∈ c.texts switch, switch.Reads text := by
  have hcount (n : UInt32) : ∃ m, readCount? (decimal n.toNat).toList = some m :=
    ⟨n, readCount?_decimal n⟩
  fun_cases Command.texts c switch with
  | case1 | case6 | case8 => exact fun _ _ => trivial
  | case2 r => exact List.forall_mem_singleton.2 (hcount r.completedLearning)
  | case4 r => exact List.forall_mem_singleton.2 (hcount r.completedSports)
  | case3 r | case5 r =>
    intro text htext
    obtain ⟨n, -, rfl⟩ := Option.map_eq_some_iff.1 (Option.mem_toList.1 htext)
    exact hcount n
  | case7 r =>
    intro text htext
    obtain ⟨d, -, rfl⟩ := Option.map_eq_some_iff.1 (Option.mem_toList.1 htext)
    exact ⟨d, Date.ofText?_text d⟩
  | case9 => exact fun _ htext => nomatch htext

theorem reads_texts (hconfig : i.config ≠ some "") (hstate : i.stateDir ≠ some "")
    (switch : Switch) : ∀ text ∈ i.texts switch, switch.Reads text := by
  fun_cases texts i switch with
  | case1 =>
    rintro text htext rfl
    exact hconfig (Option.mem_toList.1 htext)
  | case2 =>
    rintro text htext rfl
    exact hstate (Option.mem_toList.1 htext)
  | case3 | case4 | case5 => exact fun _ _ => trivial
  | case6 =>
    cases i.command with
    | none => exact fun _ htext => nomatch htext
    | some c => exact reads_commandTexts c switch

/-- Options with the values of an invocation fit, whatever their order. -/
theorem fits_of_values (hconfig : i.config ≠ some "") (hstate : i.stateDir ≠ some "")
    (h : ∀ switch, values os switch = i.texts switch) : Fits os where
  reads switch := by
    rw [h]
    exact reads_texts hconfig hstate switch
  once switch hswitch := by
    rw [h]
    exact length_texts_le i hswitch
  count := by
    rw [h, texts, List.length_replicate]
    exact Nat.le_of_lt_succ i.verbose.toNat_lt

/-- No other order than that of the answers is in the values of options. -/
theorem Arranges.values_eq (h : i.Arranges before after) (switch : Switch) :
    values (before ++ after) switch = i.texts switch := by
  have hperm : (values (before ++ after) switch).Perm (i.texts switch) := by
    rw [← values_options i switch]
    exact h.perm.filterMap _
  cases hswitch : switch.isRepeatable with
  | false =>
    have hlength := length_texts_le i hswitch
    match htexts : i.texts switch with
    | [] =>
      rw [htexts] at hperm
      exact hperm.eq_nil
    | [text] =>
      rw [htexts] at hperm
      exact List.perm_singleton.1 hperm
    | _ :: _ :: _ =>
      rw [htexts] at hlength
      exact absurd hlength (by simp)
  | true =>
    cases switch with
    | answer => exact h.answers
    | verbose => exact List.perm_replicate.1 hperm
    | _ => cases hswitch

/-! ## Reading options -/

theorem long?_long {switch : Switch} (h : switch ∈ level.switches) :
    level.long? switch.long = some switch := by
  have hall (level : Level) : ∀ switch ∈ level.switches, level.long? switch.long = some switch := by
    rcases level with _ | _ | _ | _ | _ | _ | _ <;> decide +kernel
  exact hall level switch h

theorem short?_short {switch : Switch} {letter : Char} (h : switch ∈ level.switches)
    (hletter : switch.short? = some letter) : level.short? letter = some switch := by
  have hall (level : Level) : ∀ switch ∈ level.switches,
      switch.short?.bind level.short? = switch.short?.map fun _ => switch := by
    rcases level with _ | _ | _ | _ | _ | _ | _ <;> decide +kernel
  have hswitch := hall level switch h
  rwa [hletter] at hswitch

/-- The name of an option is split off what is behind it. -/
theorem span_long (switch : Switch) {rest : List Char}
    (hrest : ∀ c ∈ rest.head?, (c != '=') = false) :
    (switch.long.toList ++ rest).takeWhile (· != '=') = switch.long.toList ∧
      (switch.long.toList ++ rest).dropWhile (· != '=') = rest := by
  have hlong : switch.long.toList.all (· != '=') = true := by
    cases switch <;> decide +kernel
  exact span_append (List.all_eq_true.1 hlong) hrest

theorem take_long {arg : String} {body : List Char} (harg : arg.toList = '-' :: '-' :: body)
    (hbody : body ≠ []) :
    Scan.take level { given := g } arg = Scan.takeLong level { given := g } body := by
  obtain ⟨c, cs, rfl⟩ := List.exists_cons_of_ne_nil hbody
  rw [Scan.take]
  simp only [harg]
  rfl

theorem take_short {letter : Char} (h : letter ≠ '-') :
    Scan.take level { given := g } (String.ofList ['-', letter]) =
      Scan.takeShorts level { given := g } [letter] := by
  rw [Scan.take]
  simp only [String.toList_ofList, Bool.false_eq_true, if_false]
  split
  · rename_i heq
    exact absurd (List.cons.inj (List.cons.inj heq).2).1 h
  · rename_i heq
    exact absurd (List.cons.inj (List.cons.inj heq).2).1 h
  · rename_i heq
    rw [(List.cons.inj heq).2]
  · rename_i hother
    exact absurd rfl (hother letter [])

theorem give_of_given (switch : Switch) (text : String) :
    Scan.give { given := g } switch text = (g.take switch text).map fun g => { given := g } := by
  have hgive : Scan.give { given := g } switch text =
      g.take switch text >>= fun g => .ok { given := g } := rfl
  rw [hgive]
  cases g.take switch text with
  | ok g' => rfl
  | error r => rfl

/-- An option that is written as one argument is carried out. -/
theorem take_spelled {o : Switch × String} {arg : String} (h : Spells o arg)
    (hmem : o.1 ∈ level.switches) :
    Scan.take level { given := g } arg = (g.take o.1 o.2).map fun g => { given := g } := by
  rw [← give_of_given]
  cases h with
  | @value switch takes text =>
    have harg : ("--" ++ switch.long ++ "=" ++ text).toList =
        '-' :: '-' :: (switch.long.toList ++ '=' :: text.toList) := by simp
    have hrest : ∀ c ∈ ('=' :: text.toList).head?, (c != '=') = false := by simp
    obtain ⟨htake, hdrop⟩ := span_long switch hrest
    rw [take_long harg (by simp), Scan.takeLong, htake, String.ofList_toList, long?_long hmem]
    simp only [takes, Scan.attached?, hdrop, String.ofList_toList]
  | @long switch takes =>
    have harg : ("--" ++ switch.long).toList = '-' :: '-' :: (switch.long.toList ++ []) := by simp
    have hlong : switch.long.toList ++ [] ≠ [] := by
      cases switch <;> decide +kernel
    have hrest : ∀ c ∈ ([] : List Char).head?, (c != '=') = false := nofun
    obtain ⟨htake, hdrop⟩ := span_long switch hrest
    rw [take_long harg hlong, Scan.takeLong, htake, String.ofList_toList, long?_long hmem]
    simp only [takes, Scan.attached?, hdrop]
  | @short switch letter takes hletter =>
    have hhyphen : letter ≠ '-' := by
      rintro rfl
      cases switch <;> cases hletter
    rw [take_short hhyphen, Scan.takeShorts, short?_short hmem hletter]
    simp only [takes, Bool.false_eq_true, if_false]
    rw [give_of_given]
    cases g.take switch "" with
    | ok g' => rfl
    | error r => rfl

theorem takeAll_spelled (hspells : List.Forall₂ Spells os args)
    (hmem : ∀ o ∈ os, o.1 ∈ level.switches) :
    args.foldlM (Scan.take level) { given := g } =
      (g.takeAll os).map fun g => { given := g } := by
  induction hspells generalizing g with
  | nil => rfl
  | @cons o arg os args ho _ ih =>
    rw [List.forall_mem_cons] at hmem
    rw [List.foldlM_cons, take_spelled ho hmem.1, takeAll_cons]
    cases g.take o.1 o.2 with
    | ok g' => exact ih hmem.2
    | error r => rfl

/-! ## Reading levels -/

theorem head?_of_spells {o : Switch × String} {arg : String} (h : Spells o arg) :
    arg.toList.head? = some '-' := by
  cases h with
  | value | long | short => simp

theorem ofText?_of_spells {o : Switch × String} {arg : String} (h : Spells o arg) :
    CommandName.ofText? arg = none := by
  have hall : ∀ name ∈ CommandName.all, name.text.toList.head? ≠ some '-' := by decide +kernel
  refine List.find?_eq_none.2 fun name hname heq => hall name hname ?_
  rw [beq_iff_eq.1 heq]
  exact head?_of_spells h

theorem ne_help_of_spells {o : Switch × String} {arg : String} (h : Spells o arg) :
    arg ≠ "help" := by
  rintro rfl
  exact absurd (head?_of_spells h) (by decide +kernel)

theorem top_spelled (hspells : List.Forall₂ Spells os args)
    (hmem : ∀ o ∈ os, o.1 ∈ Level.top.switches) (rest : List String) :
    top { given := g } (args ++ rest) = g.takeAll os >>= fun g => top { given := g } rest := by
  -- Every argument begins with a hyphen, so none of them is taken for the name of a command.
  induction hspells generalizing g with
  | nil => rfl
  | @cons o arg os args ho _ ih =>
    rw [List.forall_mem_cons] at hmem
    rw [List.cons_append, takeAll_cons, top]
    simp only [Scan.isAwaiting, Bool.or_self, Bool.false_eq_true, if_false,
      if_neg (ne_help_of_spells ho), ofText?_of_spells ho, take_spelled ho hmem.1]
    cases g.take o.1 o.2 with
    | ok g' => exact ih hmem.2
    | error r => rfl

theorem below_spelled {name : CommandName} (hspells : List.Forall₂ Spells os args)
    (hmem : ∀ o ∈ os, o.1 ∈ (Level.below name).switches) (hfits : Fits os) :
    below name args = .ok (Given.of os) := by
  have hscan : args.foldlM (Scan.take (.below name)) {} = .ok { given := Given.of os } := by
    refine (takeAll_spelled hspells hmem).trans ?_
    rw [takeAll_empty hfits]
    rfl
  rw [below, hscan]
  rfl

/-! ## Reading an invocation -/

/-- The level that all options of an invocation may stand at. -/
def lastLevel (i : Invocation) : Level :=
  i.command.elim .top fun command => .below command.name

theorem mem_own_of_commandTexts (c : Command) (switch : Switch) :
    ∀ text ∈ c.texts switch, switch ∈ (Level.below c.name).own := by
  fun_cases Command.texts c switch with
  | case9 => exact fun _ htext => nomatch htext
  | _ => simp [Command.name, Level.own]

theorem mem_switches_of_texts (i : Invocation) (switch : Switch) :
    ∀ text ∈ i.texts switch, switch ∈ i.lastLevel.switches := by
  fun_cases texts i switch with
  | case6 =>
    rw [lastLevel]
    cases i.command with
    | none => exact fun _ htext => nomatch htext
    | some c =>
      intro text htext
      exact List.mem_append_right _ (mem_own_of_commandTexts c switch text htext)
  | _ => simp [Level.switches]

theorem Arranges.mem_switches (h : i.Arranges before after) :
    ∀ o ∈ before ++ after, o.1 ∈ i.lastLevel.switches := by
  intro o ho
  refine mem_switches_of_texts i o.1 o.2 ?_
  rw [← h.values_eq]
  exact mem_values.2 ho

theorem texts_of_notMem_top {c : Command} {switch : Switch} (hcommand : i.command = some c)
    (hswitch : switch ∉ Level.top.switches) : i.texts switch = c.texts switch := by
  fun_cases texts i switch with
  | case6 =>
    rw [hcommand]
    rfl
  | _ => exact absurd (by decide) hswitch

/-- The options of a command are all behind its name. -/
theorem Arranges.values_after (h : i.Arranges before after) {c : Command} {switch : Switch}
    (hcommand : i.command = some c) (hswitch : switch ∉ Level.top.switches) :
    values after switch = c.texts switch := by
  have hbefore : values before switch = [] :=
    values_eq_nil fun o ho heq => hswitch (heq ▸ h.before_top o ho)
  rw [← texts_of_notMem_top hcommand hswitch, ← h.values_eq, values_append, hbefore,
    List.nil_append]

theorem head?_orElse {xs ys : List String} {x : Option String} (h : xs ++ ys = x.toList) :
    (ys.head? <|> xs.head?) = x := by
  cases x with
  | none =>
    obtain ⟨rfl, rfl⟩ := List.append_eq_nil_iff.1 h
    rfl
  | some text =>
    rcases List.append_eq_singleton_iff.1 h with ⟨rfl, rfl⟩ | ⟨rfl, rfl⟩
    · rfl
    · rfl

theorem not_isEmpty_flagTexts (isSet : Bool) : (!(flagTexts isSet).isEmpty) = isSet := by
  cases isSet <;> rfl

theorem not_isEmpty_or {xs ys : List String} {isSet : Bool} (h : xs ++ ys = flagTexts isSet) :
    (!ys.isEmpty || !xs.isEmpty) = isSet := by
  rw [← not_isEmpty_flagTexts isSet, ← h]
  cases xs with
  | nil => exact Bool.or_false _
  | cons => exact Bool.or_true _

/-- A count on one side is the count. -/
theorem count_of_append {xs ys : List String} {n : UInt8} {text : String}
    (h : xs ++ ys = List.replicate n.toNat text) (hside : xs = [] ∨ ys = []) :
    (if UInt8.ofNat ys.length = 0 then UInt8.ofNat xs.length else UInt8.ofNat ys.length) = n := by
  rcases hside with rfl | rfl
  · rw [List.nil_append] at h
    rw [h, List.length_replicate, UInt8.ofNat_toNat]
    split
    · rename_i hzero
      exact hzero.symm
    · rfl
  · rw [List.append_nil] at h
    rw [h, List.length_replicate, UInt8.ofNat_toNat]
    rfl

/-- What both levels are given, put together. -/
theorem merge_of (hvalues : ∀ switch, values (before ++ after) switch = i.texts switch)
    (hverbose : values before .verbose = [] ∨ values after .verbose = []) :
    merge (.of before) (.of after) i.command = i := by
  simp only [values_append] at hvalues
  have hcount : (if (Given.of after).verbose = 0 then (Given.of before).verbose
      else (Given.of after).verbose) = i.verbose := count_of_append (hvalues .verbose) hverbose
  rw [merge, hcount]
  simp only [Given.of, head?_orElse (hvalues .config), head?_orElse (hvalues .stateDir),
    not_isEmpty_or (hvalues .quiet), not_isEmpty_or (hvalues .noColor)]

theorem bind_readCount?_decimal (x : Option UInt32) :
    ((x.map fun n => decimal n.toNat).bind fun text => readCount? text.toList) = x := by
  cases x with
  | none => rfl
  | some n => exact readCount?_decimal n

theorem bind_ofText?_text (x : Option Date) : (x.map Date.text).bind Date.ofText? = x := by
  cases x with
  | none => rfl
  | some d => exact d.ofText?_text

theorem command_of {c : Command}
    (hvalues : ∀ switch, switch ∉ Level.top.switches → values os switch = c.texts switch) :
    (Given.of os).command c.name = .ok c := by
  cases c with
  | questions | plan | clean => rfl
  | assess answers =>
    rw [Command.name, Given.command, Given.of, hvalues .answer (by decide)]
    rfl
  | progress r =>
    rw [Command.name, Given.command, Given.report, Given.of]
    simp only [hvalues .completedLearning (by decide), hvalues .targetLearning (by decide),
      hvalues .completedSports (by decide), hvalues .targetSports (by decide),
      hvalues .feedback (by decide), hvalues .weekStart (by decide), Command.texts,
      List.head?_cons, Option.bind_some, readCount?_decimal, Option.head?_toList,
      bind_readCount?_decimal, bind_ofText?_text]
    rfl
  | config init =>
    rw [Command.name, Given.command, Given.of, hvalues .init (by decide)]
    simp only [Command.texts, not_isEmpty_flagTexts]

theorem top_command (name : CommandName) (args : List String) :
    top { given := g } (name.text :: args) = below name args >>= fun inner =>
      inner.command name >>= fun command => .ok (g, some (inner, command)) := by
  have hhelp : name.text ≠ "help" := by
    cases name <;> decide +kernel
  have hname : CommandName.ofText? name.text = some name := by
    cases name <;> decide +kernel
  rw [top]
  simp only [Scan.isAwaiting, Bool.or_self, Bool.false_eq_true, if_false, if_neg hhelp, hname]
  rfl

/-- Whatever the order of its options, and on whichever side of the command's name those that every
command takes are, an invocation that is written out is read back. -/
theorem parse_spelled (hconfig : i.config ≠ some "") (hstate : i.stateDir ≠ some "")
    (harranges : i.Arranges before after) (hbefore : List.Forall₂ Spells before args)
    (hafter : List.Forall₂ Spells after args') :
    parse (args ++ i.commandWords ++ args') = .ok i := by
  have hvalues := harranges.values_eq
  have hfits : Fits (before ++ after) := fits_of_values hconfig hstate hvalues
  have hmem := harranges.mem_switches
  cases hcommand : i.command with
  | none =>
    -- All arguments stand at the top level.
    have hwords : i.commandWords = [] := by
      rw [commandWords, hcommand]
      rfl
    have hspells : List.Forall₂ Spells (before ++ after) (args ++ args') :=
      List.rel_append hbefore hafter
    rw [lastLevel, hcommand] at hmem
    have htop : top {} (args ++ args') = .ok (.of (before ++ after), none) := by
      rw [← List.append_nil (args ++ args')]
      refine (top_spelled hspells hmem []).trans ?_
      rw [takeAll_empty hfits]
      rfl
    have hmerge : merge (.of (before ++ after)) (.of []) i.command = i :=
      merge_of (fun switch => by rw [List.append_nil, hvalues]) (.inr rfl)
    rw [hwords, List.append_nil, parse, htop]
    rw [hcommand] at hmerge
    exact congrArg Except.ok hmerge
  | some c =>
    have hwords : i.commandWords = [c.name.text] := by
      rw [commandWords, hcommand]
      rfl
    -- The level of the command is read in full; the top level only keeps what came before.
    have hinner : below c.name args' = .ok (.of after) := by
      rw [lastLevel, hcommand] at hmem
      exact below_spelled hafter (fun o ho => hmem o (List.mem_append_right _ ho)) hfits.right
    have hread : (Given.of after).command c.name = .ok c :=
      command_of fun switch => harranges.values_after hcommand
    have htop : top {} (args ++ c.name.text :: args') = .ok (.of before, some (.of after, c)) := by
      refine (top_spelled hbefore harranges.before_top _).trans ?_
      rw [takeAll_empty hfits.left]
      refine (top_command c.name args').trans ?_
      exact bind_eq_ok.2 ⟨_, hinner, bind_eq_ok.2 ⟨c, hread, rfl⟩⟩
    have hmerge := merge_of hvalues harranges.verbose
    rw [hwords, List.append_assoc, List.singleton_append, parse, htop]
    rw [hcommand] at hmerge
    exact congrArg Except.ok hmerge

/-- A report whose feedback looks like an option, between options that every command takes. -/
def mixedReport : Invocation where
  config := some "a.toml"
  verbose := 2
  isQuiet := true
  command := some (.progress {
    completedLearning := 3
    completedSports := 0
    feedback := some "-x=y"
    weekStart := some ⟨-1, 2, 3, by decide⟩ })

theorem parse_spelled_mixedReport :
    mixedReport.config ≠ some "" ∧ mixedReport.stateDir ≠ some "" ∧
    parse ["-v", "--quiet", "-v", "progress", "--feedback=-x=y", "--config=a.toml",
      "--week-start=-0001-02-03", "--completed-sports=0", "--completed-learning=3"] =
      .ok mixedReport := by
  have hconfig : mixedReport.config ≠ some "" := by decide
  have hstate : mixedReport.stateDir ≠ some "" := by decide
  have harranges : mixedReport.Arranges [(.verbose, ""), (.quiet, ""), (.verbose, "")]
      [(.feedback, "-x=y"), (.config, "a.toml"), (.weekStart, "-0001-02-03"),
        (.completedSports, "0"), (.completedLearning, "3")] := {
    perm := by decide +kernel
    answers := by decide +kernel
    before_top := by decide +kernel
    verbose := .inr (by decide +kernel) }
  have hbefore : List.Forall₂ Spells [(.verbose, ""), (.quiet, ""), (.verbose, "")]
      ["-v", "--quiet", "-v"] :=
    .cons (.short rfl rfl) (.cons (.long rfl) (.cons (.short rfl rfl) .nil))
  have hafter : List.Forall₂ Spells [(.feedback, "-x=y"), (.config, "a.toml"),
      (.weekStart, "-0001-02-03"), (.completedSports, "0"), (.completedLearning, "3")]
      ["--feedback=-x=y", "--config=a.toml", "--week-start=-0001-02-03", "--completed-sports=0",
        "--completed-learning=3"] :=
    .cons (.value rfl _) (.cons (.value rfl _) (.cons (.value rfl _) (.cons (.value rfl _)
      (.cons (.value rfl _) .nil))))
  exact ⟨hconfig, hstate, parse_spelled hconfig hstate harranges hbefore hafter⟩

end Invocation

end Temperament
