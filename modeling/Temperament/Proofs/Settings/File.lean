import Temperament.Proofs.Scratch.Operations
import Temperament.Proofs.Settings.Document
import Temperament.Settings.File

/-!
# The settings file and the tree

Loading settings changes nothing (`loadFrom_cases`).  Saving settings writes one file behind the
folders it makes, and makes folders only if it fails (`save_cases`).  What was saved is loaded again,
and all that is loaded is valid (`load_of_save_and_validate`).
-/

namespace Temperament.Settings

open Files Temperament.Path

variable {fs fs' : Files} {settings : Settings} {fault : Fault}

/-! ## Loading -/

theorem load_of_readText? {path text : String} (hread : fs.readText? path = some text) :
    load path fs =
      match parse text with
      | .ok settings => .ok settings fs
      | .error fault => .error fault fs := by
  rw [load, bind_apply, get_apply]
  simp only [hread]
  cases parse text <;> rfl

theorem load_of_readText?_eq_none {path : String} (hread : fs.readText? path = none) :
    load path fs = .error .unreadableSettings fs := by
  rw [load, bind_apply, get_apply]
  simp only [hread]
  rfl

theorem load_cases (path : String) (fs : Files) :
    (∃ settings, load path fs = .ok settings fs ∧ fs.contains path = true) ∨
    (∃ fault, load path fs = .error fault fs) := by
  cases hread : fs.readText? path with
  | none => exact .inr ⟨_, load_of_readText?_eq_none hread⟩
  | some text =>
    rw [load_of_readText? hread]
    cases parse text with
    | ok settings => exact .inl ⟨settings, rfl, contains_of_readText? hread⟩
    | error fault => exact .inr ⟨fault, rfl⟩

theorem load_of_contains_eq_false {path : String} (h : fs.contains path = false) :
    load path fs = .error .unreadableSettings fs := by
  refine load_of_readText?_eq_none (Option.eq_none_iff_forall_ne_some.2 fun text hread => ?_)
  rw [contains_of_readText? hread] at h
  cases h

theorem loadFrom_none_of_contains {home : String} (h : fs.contains (defaultPath home) = true) :
    loadFrom home none fs = load (defaultPath home) fs := by
  rw [loadFrom, bind_apply, get_apply]
  simp only [h, if_true]

theorem loadFrom_none_of_contains_eq_false {home : String}
    (h : fs.contains (defaultPath home) = false) : loadFrom home none fs = .ok {} fs := by
  rw [loadFrom, bind_apply, get_apply]
  simp only [h]
  rfl

/-- Settings of a path that is given are in a file that is there. -/
theorem loadFrom_cases (home : String) (config : Option String) (fs : Files) :
    (∃ settings, loadFrom home config fs = .ok settings fs ∧
      ∀ path, config = some path → fs.contains path = true) ∨
    (∃ fault, loadFrom home config fs = .error fault fs) := by
  cases config with
  | some path =>
    rcases load_cases path fs with ⟨settings, hload, hcontains⟩ | hload
    · exact .inl ⟨settings, hload, fun path' h => Option.some.inj h ▸ hcontains⟩
    · exact .inr hload
  | none =>
    cases hcontains : fs.contains (defaultPath home) with
    | false => exact .inl ⟨{}, loadFrom_none_of_contains_eq_false hcontains, nofun⟩
    | true =>
      rw [loadFrom_none_of_contains hcontains]
      rcases load_cases (defaultPath home) fs with ⟨settings, hload, -⟩ | hload
      · exact .inl ⟨settings, hload, nofun⟩
      · exact .inr hload

theorem validate_of_parse {text : String} (h : parse text = .ok settings) :
    settings.validate = .ok ⟨⟩ := by
  rw [parse] at h
  split at h
  · rename_i read _
    cases hvalid : read.validate with
    | error fault =>
      rw [hvalid] at h
      cases h
    | ok =>
      rw [hvalid] at h
      cases h
      exact hvalid
  · cases h

theorem validate_of_load {path : String} (h : load path fs = .ok settings fs') :
    settings.validate = .ok ⟨⟩ := by
  cases hread : fs.readText? path with
  | none => cases (load_of_readText?_eq_none hread).symm.trans h
  | some text =>
    rw [load_of_readText? hread] at h
    cases hparse : parse text with
    | error fault =>
      rw [hparse] at h
      cases h
    | ok read =>
      rw [hparse] at h
      cases h
      exact validate_of_parse hparse

theorem validate_of_loadFrom {home : String} {config : Option String}
    (h : loadFrom home config fs = .ok settings fs') : settings.validate = .ok ⟨⟩ := by
  cases config with
  | some path => exact validate_of_load h
  | none =>
    cases hcontains : fs.contains (defaultPath home) with
    | false =>
      cases (loadFrom_none_of_contains_eq_false hcontains).symm.trans h
      decide
    | true =>
      rw [loadFrom_none_of_contains hcontains] at h
      exact validate_of_load h

theorem name_of_ofName? {name : String} {v : Verbosity} (h : Verbosity.ofName? name = some v) :
    v.name = name := by
  rw [Verbosity.ofName?] at h
  have hfound := List.find?_some h
  exact beq_iff_eq.1 hfound

/-- The check lets names of verbosities through only. -/
theorem name_verbosity_of_validate (h : settings.validate = .ok ⟨⟩) :
    settings.verbosity.name = settings.display.defaultVerbosity := by
  rw [validate] at h
  split_ifs at h with hblank hname
  rw [Option.isNone_iff_eq_none] at hname
  obtain ⟨v, hv⟩ := Option.ne_none_iff_exists'.1 hname
  rw [verbosity, Verbosity.ofName, hv, Option.getD_some]
  exact name_of_ofName? hv

/-! ## Saving and creating -/

/-- The folders of a settings file were made, as far as that went. -/
def Makes (path : String) (fs fs' : Files) : Prop :=
  fs' = fs ∨ ∃ parent, (ofText path).parent? = some parent ∧ fs' = (fs.makeFolders parent).2

/-- The folders that may be made for the default settings file. -/
def folders (home : String) (fs : Files) : List Location :=
  match (ofText (defaultPath home)).parent? with
  | some parent => waypoints (fs.start parent) parent.components
  | none => []

theorem Makes.growsTo {path : String} (h : Makes path fs fs') : fs.GrowsTo fs' := by
  rcases h with rfl | ⟨parent, -, rfl⟩
  · exact .refl _
  · exact growsTo_makeFolders fs parent

theorem makeFolderOf_cases (path : String) (fs : Files) : ∃ fs', Makes path fs fs' ∧
    (makeFolderOf path fs = .ok ⟨⟩ fs' ∨ makeFolderOf path fs = .error .settingsFolder fs') := by
  rw [makeFolderOf]
  cases hparent : (ofText path).parent? with
  | none => exact ⟨fs, .inl rfl, .inl rfl⟩
  | some parent =>
    refine ⟨(fs.makeFolders parent).2, .inr ⟨parent, hparent, rfl⟩, ?_⟩
    simp only [bind_apply, get_apply, set_apply]
    cases (fs.makeFolders parent).1 with
    | true => exact .inl rfl
    | false => exact .inr rfl

/-- Saving writes one file behind the folders it makes, or makes folders only. -/
theorem save_cases (s : Settings) (path : String) (fs : Files) :
    ∃ fs₁, Makes path fs fs₁ ∧
      ((∃ fault, s.save path fs = .error fault fs₁) ∨
        (∃ loc fs', s.save path fs = .ok ⟨⟩ fs' ∧ fs₁.locate? path = some loc ∧
          fs₁.SetsFile loc (some s.text.toUTF8) fs')) := by
  obtain ⟨fs₁, hmakes, hfolder⟩ := makeFolderOf_cases path fs
  refine ⟨fs₁, hmakes, ?_⟩
  rw [save, bind_apply]
  rcases hfolder with hfolder | hfolder
  · simp only [hfolder, bind_apply, get_apply]
    cases hwrite : fs₁.writeText? path s.text with
    | none => exact .inl ⟨_, rfl⟩
    | some fs' =>
      obtain ⟨loc, hlocate, hset⟩ := setsFile_of_write? hwrite
      exact .inr ⟨loc, fs', rfl, hlocate, hset⟩
  · simp only [hfolder]
    exact .inl ⟨_, rfl⟩

theorem load_of_save {path : String} (h : settings.save path fs = .ok ⟨⟩ fs') :
    load path fs' =
      match settings.validate with
      | .ok _ => .ok settings fs'
      | .error fault => .error fault fs' := by
  obtain ⟨fs₁, -, ⟨fault, hsave⟩ | ⟨loc, fs₂, hsave, hlocate, hset⟩⟩ := save_cases settings path fs
  · cases hsave.symm.trans h
  · cases hsave.symm.trans h
    have hread : fs'.readText? path = some settings.text :=
      readText?_eq_some_iff.2 ⟨loc, _, by rw [hset.locate?_eq, hlocate], hset.get?_self,
        fromUTF8?_toUTF8 _⟩
    rw [load_of_readText? hread, parse_text]
    cases settings.validate <;> rfl

/-- Settings that were saved are loaded as they are, or refused with the fault that the check finds in
them.  Settings that are loaded from anywhere have passed the check, and the text of their verbosity
is its name. -/
theorem load_of_save_and_validate :
    (∀ (settings : Settings) (path : String) (fs fs' : Files),
      settings.save path fs = .ok ⟨⟩ fs' →
        load path fs' =
          match settings.validate with
          | .ok _ => .ok settings fs'
          | .error fault => .error fault fs') ∧
    ∀ (home : String) (config : Option String) (settings : Settings) (fs fs' : Files),
      loadFrom home config fs = .ok settings fs' →
        settings.validate = .ok ⟨⟩ ∧
          (Verbosity.ofName settings.display.defaultVerbosity).name =
            settings.display.defaultVerbosity := by
  refine ⟨fun _ _ _ _ h => load_of_save h, fun _ _ _ _ _ h => ?_⟩
  have hvalid := validate_of_loadFrom h
  exact ⟨hvalid, name_verbosity_of_validate hvalid⟩

/-- Settings with a folder whose name needs triple apostrophes. -/
def quoted : Settings where
  paths := ⟨"it's \\\"\"\"\"\n"⟩
  display := ⟨"quiet", false⟩
  targets := ⟨4294967295, 0⟩

/-- Settings that are loaded after they were saved, and some with a blank folder, which are not. -/
theorem load_of_save_and_validate_quoted :
    (∃ fs, quoted.save "a.toml" {} = .ok ⟨⟩ fs ∧ loadFrom "" (some "a.toml") fs = .ok quoted fs ∧
      quoted.validate = .ok ⟨⟩ ∧
      (Verbosity.ofName quoted.display.defaultVerbosity).name = quoted.display.defaultVerbosity) ∧
    ∃ fs, save { quoted with paths := ⟨" "⟩ } "a.toml" {} = .ok ⟨⟩ fs ∧
      load "a.toml" fs = .error .blankStateDir fs := by
  have hsaved (settings : Settings)
      (hok : (match settings.save "a.toml" {} with | .ok .. => true | .error .. => false) = true) :
      ∃ fs, settings.save "a.toml" {} = .ok ⟨⟩ fs := by
    cases h : settings.save "a.toml" {} with
    | ok _ fs => exact ⟨fs, rfl⟩
    | error =>
      rw [h] at hok
      cases hok
  obtain ⟨fs, hfs⟩ := hsaved quoted (by decide +kernel)
  obtain ⟨fs', hfs'⟩ := hsaved { quoted with paths := ⟨" "⟩ } (by decide +kernel)
  have hload : load "a.toml" fs = .ok quoted fs := load_of_save_and_validate.1 _ _ _ _ hfs
  exact ⟨⟨fs, hfs, hload, load_of_save_and_validate.2 "" (some "a.toml") _ _ _ hload⟩,
    fs', hfs', load_of_save_and_validate.1 _ _ _ _ hfs'⟩

theorem create_of_contains {path : String} (h : fs.contains path = true) :
    create path fs = .ok false fs := by
  rw [create, bind_apply, get_apply]
  simp only [h]
  rfl

theorem create_cases {path : String} (h : fs.contains path = false) :
    ∃ fs₁, Makes path fs fs₁ ∧
      ((∃ fault, create path fs = .error fault fs₁) ∨
        (∃ loc bytes fs', create path fs = .ok true fs' ∧
          fs₁.locate? path = some loc ∧ fs₁.SetsFile loc (some bytes) fs')) := by
  obtain ⟨fs₁, hmakes, hsave⟩ := save_cases {} path fs
  refine ⟨fs₁, hmakes, ?_⟩
  rw [create, bind_apply, get_apply]
  simp only [h, Bool.false_eq_true, if_false, bind_apply]
  rcases hsave with ⟨fault, hsave⟩ | ⟨loc, fs', hsave, hlocate, hset⟩
  · exact .inl ⟨fault, by simp only [hsave]⟩
  · exact .inr ⟨loc, _, fs', by simp only [hsave]; rfl, hlocate, hset⟩

end Temperament.Settings
