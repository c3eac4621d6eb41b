import Temperament.Proofs.Run.Changes

/-!
# Where the session store is

A state folder that is given below `~/` lies in the home folder, component by component, unless another
slash follows; so does the scratch file, which is all that a run changes of the store
(`stateDir_below_home`).  Behind another slash the rest is an absolute path and takes the place of the
home folder (`not_forall_stateDir_below_home`).
-/

namespace Temperament

open Files Temperament.Path

/-! ## Paths that go on -/

namespace Path

/-- The names that a text adds to a path: its parts, of which `.` adds nothing. -/
def names (rest : String) : List String :=
  (ofText rest).parts.filter (· != ".")

/-- An absolute path has the components of another one, and some more behind them. -/
structure Continues (base path : String) (more : List String) : Prop where
  isAbsolute_eq : (ofText path).isAbsolute = true
  components_eq : (ofText path).components = (ofText base).components ++ more

theorem components_of_isAbsolute {p : Path} (h : p.isAbsolute = true) :
    p.components = p.parts.filter (· != ".") := by
  rw [components, h]

theorem continues_join {base rest : String} (hbase : (ofText base).isAbsolute = true)
    (hrest : rest.toList.head? ≠ some '/') : Continues base (join base rest) (names rest) := by
  have hjoin : (ofText (join base rest)).isAbsolute = true := by
    rw [isAbsolute_join_of_head?_ne hrest, hbase]
  refine ⟨hjoin, ?_⟩
  rw [components_of_isAbsolute hjoin, components_of_isAbsolute hbase, parts_join_of_head?_ne hrest,
    List.filter_append, names]

theorem Continues.trans {base path path' : String} {more more' : List String}
    (h : Continues base path more) (h' : Continues path path' more') :
    Continues base path' (more ++ more') :=
  ⟨h'.isAbsolute_eq, by rw [h'.components_eq, h.components_eq, List.append_assoc]⟩

end Path

theorem Scratch.continues_path {s : Scratch} (h : (ofText s.folder).isAbsolute = true) :
    Continues s.folder s.path ["session.json"] :=
  continues_join h isFileName_session.head?_ne

namespace Settings

variable {home rest : String} {settings : Settings}

theorem stateDir_eq_join (hdir : settings.paths.stateDir = "~/" ++ rest) :
    settings.stateDir home = join home rest := by
  have hbelow : belowHome? settings.paths.stateDir = some rest := by
    rw [belowHome?, hdir, String.toList_append]
    exact congrArg some String.ofList_toList
  rw [stateDir, expand, hbelow]

end Settings

/-! ## Runs -/

/-- Everything is as before, apart from new folders and the places that a path leads to. -/
def ChangesOnlyAt (path : String) (fs fs' : Files) : Prop :=
  ∀ loc, fs'.get? loc = fs.get? loc ∨ (fs.get? loc = none ∧ fs'.get? loc = some .folder) ∨
    fs.locate? path = some loc ∨ fs'.locate? path = some loc

namespace Invocation

variable {i : Invocation} {around : Surroundings} {settings : Settings} {fs fs' : Files}

theorem Changes.changesOnlyAt (hcommand : i.command ≠ some (.config true))
    (h : i.Changes around settings fs fs') :
    ChangesOnlyAt (i.scratch around.home settings).path fs fs' := by
  intro loc
  rcases h loc with hsame | hnew | hchange
  · exact .inl hsame
  · exact .inr (.inl hnew)
  · cases hchange with
    | stored _ _ _ _ hlocate _ => exact .inr (.inr (.inr hlocate))
    | cleaned _ hlocate _ => exact .inr (.inr (.inl hlocate))
    | created hcreates _ _ _ => exact absurd hcreates hcommand

theorem changesOnlyAt_of_growsTo (path : String) (h : fs.GrowsTo fs') :
    ChangesOnlyAt path fs fs' := fun loc =>
  (h.get?_eq loc).imp_right .inl

theorem changesOnlyAt_run (hcommand : i.command ≠ some (.config true))
    (hload : Settings.loadFrom around.home i.config fs = .ok settings fs) :
    ChangesOnlyAt (i.scratch around.home settings).path fs (i.run around fs).files := by
  rcases i.run_cases around fs with ⟨settings', hload', hconfig, ⟨-, shown, -, hdone⟩ |
    ⟨-, hfailed⟩⟩ | ⟨-, hfiles⟩
  · cases hload.symm.trans hload'
    exact (hdone.changes hconfig).changesOnlyAt hcommand
  · exact changesOnlyAt_of_growsTo _ (hfailed.growsTo hconfig)
  · rw [hfiles]
    exact changesOnlyAt_of_growsTo _ (.refl fs)

end Invocation

/-- Where a state folder below `~/` is.  Unless another slash follows, it is the home folder continued
by the names of the rest, and the scratch file of every invocation that gives no folder of its own is
in it; such a run changes nothing else, if it is not to create settings.  Behind another slash the rest
itself is the folder. -/
theorem stateDir_below_home {home rest : String} {settings : Settings}
    (hhome : (ofText home).isAbsolute = true) (hdir : settings.paths.stateDir = "~/" ++ rest) :
    (rest.toList.head? ≠ some '/' →
      Continues home (settings.stateDir home) (names rest) ∧
      ∀ i : Invocation, i.stateDir = none →
        Continues home (i.scratch home settings).path (names rest ++ ["session.json"]) ∧
        ∀ (args : List String) (around : Surroundings) (fs : Files),
          Invocation.parse args = .ok i → around.home = home →
          Settings.loadFrom around.home i.config fs = .ok settings fs →
          i.command ≠ some (.config true) →
          ChangesOnlyAt (i.scratch home settings).path fs (runProgram args around fs).files) ∧
    (rest.toList.head? = some '/' → settings.stateDir home = rest) := by
  have hjoin : settings.stateDir home = join home rest := Settings.stateDir_eq_join hdir
  refine ⟨fun hrest => ?_, fun hrest => ?_⟩
  · have hbelow : Continues home (settings.stateDir home) (names rest) := by
      rw [hjoin]
      exact continues_join hhome hrest
    refine ⟨hbelow, fun i hnone => ⟨?_, fun args around fs hparse haround hload hcommand => ?_⟩⟩
    · have hfolder : (i.scratch home settings).folder = settings.stateDir home := by
        rw [Invocation.scratch, Invocation.storeFolder, hnone, Option.getD_none]
      refine hbelow.trans ?_
      rw [← hfolder]
      exact Scratch.continues_path (by rw [hfolder, hbelow.isAbsolute_eq])
    · subst haround
      rw [runProgram_of_parse hparse]
      exact Invocation.changesOnlyAt_run hcommand hload
  · rw [hjoin, join, hrest]
    rfl

/-- Surroundings with an absolute home folder. -/
def Surroundings.atHome : Surroundings :=
  { Surroundings.quiet with home := "/home/kid/" }

/-- A home folder with a store in the default folder. -/
def homeFiles : Files where
  root := .folder [("home", .folder [("kid", .folder [(".huidong", .folder
    [("session.json", .file "\x7b\x7d".toUTF8)])])])]

/-- A store in the default folder is cleaned, and nothing else. -/
theorem stateDir_below_home_default :
    (ofText (Scratch.path ⟨Settings.stateDir "/home/kid/" {}⟩)).components =
        ["home", "kid", ".huidong", "session.json"] ∧
      ChangesOnlyAt "/home/kid/.huidong/session.json" homeFiles
        (runProgram ["clean"] .atHome homeFiles).files := by
  have hparse : Invocation.parse ["clean"] = .ok { command := some .clean } := by decide +kernel
  have hload : Settings.loadFrom Surroundings.atHome.home none homeFiles = .ok {} homeFiles :=
    Settings.loadFrom_none_of_contains_eq_false (by decide +kernel)
  obtain ⟨-, hruns⟩ := (@stateDir_below_home "/home/kid/" ".huidong" {} (by decide) (by decide)).1
    (by decide)
  obtain ⟨hpath, hchanges⟩ := hruns { command := some .clean } rfl
  exact ⟨hpath.components_eq, hchanges ["clean"] .atHome homeFiles hparse rfl hload (by decide)⟩

/-- A state folder below `~/` that is not in the home folder. -/
theorem not_forall_stateDir_below_home :
    ¬ ∀ (home : String) (settings : Settings), (ofText home).isAbsolute = true →
      settings.validate = .ok ⟨⟩ → "~/".toList <+: settings.paths.stateDir.toList →
      (ofText home).components <+: (ofText (settings.stateDir home)).components := by
  intro h
  have hbelow := h "/home/kid" { paths := ⟨"~//abs/x"⟩ } (by decide) (by decide) (by decide)
  exact absurd hbelow (by decide)

end Temperament
