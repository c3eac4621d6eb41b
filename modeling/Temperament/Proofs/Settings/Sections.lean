import Temperament.Proofs.Settings.File
import Temperament.Proofs.Text.Numeral
import Temperament.Proofs.Toml.Tree

/-!
# Settings by the sections of a document

A document whose sections are tables describes settings (`Describes`): a section that is there gives
all its values, one that is not has its defaults.  It does so just if each section that is there has all
its keys, with values of their kinds (`IsComplete`).  Loading returns the settings that are described, if
they pass the check, and fails in every other case (`load_of_document`).
-/

namespace Temperament.Settings

open Toml

/-! ## What a document states -/

/-- What the value of a key has to be. -/
inductive Kind
  | text
  | boolean
  | count

def Kind.Fits : Kind → Toml → Prop
  | text, v => ∃ s, v = .text s
  | boolean, v => ∃ b, v = .boolean b
  | count, v => ∃ n : Int, v = .integer n ∧ 0 ≤ n ∧ n ≤ 4294967295

def Paths.keys : List (String × Kind) :=
  [("state_dir", .text)]

def Display.keys : List (String × Kind) :=
  [("default_verbosity", .text), ("color_output", .boolean)]

def Targets.keys : List (String × Kind) :=
  [("default_target_learning", .count), ("default_target_sports", .count)]

/-- The sections and their keys. -/
def sections : List (String × List (String × Kind)) :=
  [("paths", Paths.keys), ("display", Display.keys), ("progress", Targets.keys)]

theorem forall_mem_sections {p : String × List (String × Kind) → Prop} :
    (∀ part ∈ sections, p part) ↔
      p ("paths", Paths.keys) ∧ p ("display", Display.keys) ∧ p ("progress", Targets.keys) := by
  rw [sections, List.forall_mem_cons, List.forall_mem_cons, List.forall_mem_singleton]

def HasSection (entries : Toml.Entries) (name : String) : Prop :=
  ∃ v, (name, v) ∈ entries

/-- A key of a section that is a table has a value. -/
def States (entries : Toml.Entries) (name key : String) (x : Toml) : Prop :=
  ∃ v members, (name, v) ∈ entries ∧ v.entries? = some members ∧ (key, x) ∈ members

/-- Whether the sections that are there are tables, by whatever syntax. -/
def HasTables (entries : Toml.Entries) : Prop :=
  ∀ part ∈ sections, ∀ v, (part.1, v) ∈ entries → ∃ members, v.entries? = some members

/-- Whether each section that is there has all its keys, with values of their kinds. -/
def IsComplete (entries : Toml.Entries) : Prop :=
  ∀ part ∈ sections, HasSection entries part.1 →
    ∀ key ∈ part.2, ∃ x, States entries part.1 key.1 x ∧ key.2.Fits x

/-- Two documents have the same sections, with the same values under their keys.  Neither the order of
sections and keys nor any other ones matter. -/
def SameSections (entries entries' : Toml.Entries) : Prop :=
  ∀ part ∈ sections, (HasSection entries part.1 ↔ HasSection entries' part.1) ∧
    ∀ key ∈ part.2, ∀ x, States entries part.1 key.1 x ↔ States entries' part.1 key.1 x

/-! ## What settings it describes -/

def Paths.fields (p : Paths) : Toml.Entries :=
  [("state_dir", .text p.stateDir)]

def Display.fields (d : Display) : Toml.Entries :=
  [("default_verbosity", .text d.defaultVerbosity), ("color_output", .boolean d.colorOutput)]

def Targets.fields (t : Targets) : Toml.Entries :=
  [("default_target_learning", .integer t.learning.toNat),
    ("default_target_sports", .integer t.sports.toNat)]

/-- A section is there with all its fields, or it is not there and is the default. -/
def Gives {α : Type} (entries : Toml.Entries) (name : String) (fields : α → Toml.Entries)
    (fallback a : α) : Prop :=
  (HasSection entries name → ∀ field ∈ fields a, States entries name field.1 field.2) ∧
  (¬HasSection entries name → a = fallback)

structure Describes (entries : Toml.Entries) (s : Settings) : Prop where
  paths : Gives entries "paths" Paths.fields {} s.paths
  display : Gives entries "display" Display.fields {} s.display
  targets : Gives entries "progress" Targets.fields {} s.targets

/-! ## Values -/

theorem text?_eq_some_iff {v : Toml} {s : String} : v.text? = some s ↔ v = .text s := by
  cases v <;> simp [text?]

theorem boolean?_eq_some_iff {v : Toml} {b : Bool} : v.boolean? = some b ↔ v = .boolean b := by
  cases v <;> simp [boolean?]

theorem count?_eq_some_iff {v : Toml} {n : UInt32} : v.count? = some n ↔ v = .integer n.toNat := by
  constructor
  · intro h
    unfold count? at h
    split at h
    · rename_i k
      split_ifs at h with hrange
      cases h
      rw [UInt32.toNat_ofNat_of_lt' (by omega), Int.toNat_of_nonneg hrange.1]
    · cases h
  · rintro rfl
    exact count?_toNat n

theorem fits_count_iff {v : Toml} : Kind.count.Fits v ↔ ∃ n : UInt32, v = .integer n.toNat := by
  constructor
  · rintro ⟨n, rfl, hle, hlt⟩
    refine ⟨UInt32.ofNat n.toNat, ?_⟩
    rw [UInt32.toNat_ofNat_of_lt' (by rw [UInt32.size]; omega), Int.toNat_of_nonneg hle]
  · rintro ⟨n, rfl⟩
    have := n.toNat_lt
    exact ⟨_, rfl, by omega, by omega⟩

/-! ## Sections -/

section

variable {v : Toml} {members : Toml.Entries} (hv : v.entries? = some members)

include hv

theorem fields?_of_entries? (keys : List String) :
    v.fields? keys = keys.mapM fun key => members.lookup key := by
  cases v with
  | inline | table =>
    cases hv
    rfl
  | text | integer | boolean | float | moment | array | tables => cases hv

theorem paths_ofToml?_iff {p : Paths} :
    Paths.ofToml? v = some p ↔ ∀ field ∈ p.fields, members.lookup field.1 = some field.2 := by
  rw [Paths.ofToml?, fields?_of_entries? hv, Paths.fields, List.forall_mem_singleton]
  obtain ⟨stateDir⟩ := p
  simp [Option.bind_eq_some_iff, text?_eq_some_iff]

theorem display_ofToml?_iff {d : Display} :
    Display.ofToml? v = some d ↔ ∀ field ∈ d.fields, members.lookup field.1 = some field.2 := by
  rw [Display.ofToml?, fields?_of_entries? hv, Display.fields, List.forall_mem_cons,
    List.forall_mem_singleton]
  obtain ⟨defaultVerbosity, colorOutput⟩ := d
  simp [Option.bind_eq_some_iff, text?_eq_some_iff, boolean?_eq_some_iff]

theorem targets_ofToml?_iff {t : Targets} :
    Targets.ofToml? v = some t ↔ ∀ field ∈ t.fields, members.lookup field.1 = some field.2 := by
  rw [Targets.ofToml?, fields?_of_entries? hv, Targets.fields, List.forall_mem_cons,
    List.forall_mem_singleton]
  obtain ⟨learning, sports⟩ := t
  simp [Option.bind_eq_some_iff, count?_eq_some_iff]

end

section

variable {entries entries' : Toml.Entries} (hdistinct : entries.AreDistinct)

include hdistinct

theorem states_iff {name key : String} {v x : Toml} {members : Toml.Entries}
    (hv : (name, v) ∈ entries) (hmembers : v.entries? = some members) :
    States entries name key x ↔ members.lookup key = some x := by
  have hinner := ((hdistinct.hasDistinctKeys _ hv).entries? hmembers).nodup_keys
  rw [lookup_eq_some_iff_mem hinner]
  constructor
  · rintro ⟨v', members', hv', hmembers', hmem⟩
    have hsame := (lookup_eq_some_iff_mem hdistinct.nodup_keys).2 hv
    rw [(lookup_eq_some_iff_mem hdistinct.nodup_keys).2 hv'] at hsame
    cases hsame
    cases hmembers.symm.trans hmembers'
    exact hmem
  · exact fun hmem => ⟨v, members, hv, hmembers, hmem⟩

theorem section?_eq_some_iff {α : Type} {ofToml? : Toml → Option α} {fields : α → Toml.Entries}
    (hread : ∀ {v members}, v.entries? = some members → ∀ {a}, ofToml? v = some a ↔
      ∀ field ∈ fields a, members.lookup field.1 = some field.2) {name : String}
    (htable : ∀ v, (name, v) ∈ entries → ∃ members, v.entries? = some members) {fallback a : α} :
    (section? ofToml? fallback entries name = some a) ↔ Gives entries name fields fallback a := by
  rw [section?]
  cases hlookup : entries.lookup name with
  | none =>
    have hmissing : ¬HasSection entries name := by
      rintro ⟨v, hv⟩
      exact notMem_keys_of_lookup hlookup (List.mem_map_of_mem hv)
    simp only [Option.some.injEq]
    exact ⟨fun h => ⟨fun hthere => absurd hthere hmissing, fun _ => h.symm⟩,
      fun h => (h.2 hmissing).symm⟩
  | some v =>
    have hv := mem_of_lookup hlookup
    have hthere : HasSection entries name := ⟨v, hv⟩
    obtain ⟨members, hmembers⟩ := htable v hv
    simp only [hread hmembers, ← states_iff hdistinct hv hmembers]
    exact ⟨fun h => ⟨fun _ => h, fun hmissing => absurd hthere hmissing⟩, fun h => h.1 hthere⟩

theorem ofEntries?_eq_some_iff (htables : HasTables entries) {s : Settings} :
    ofEntries? entries = some s ↔ Describes entries s := by
  obtain ⟨hpaths, hdisplay, htargets⟩ := forall_mem_sections.1 htables
  have hp := @section?_eq_some_iff _ hdistinct _ _ _ paths_ofToml?_iff _ hpaths {}
  have hd := @section?_eq_some_iff _ hdistinct _ _ _ display_ofToml?_iff _ hdisplay {}
  have ht := @section?_eq_some_iff _ hdistinct _ _ _ targets_ofToml?_iff _ htargets {}
  rw [ofEntries?]
  constructor
  · intro h
    obtain ⟨paths, hpaths, h⟩ := Option.bind_eq_some_iff.1 h
    obtain ⟨display, hdisplay, h⟩ := Option.bind_eq_some_iff.1 h
    obtain ⟨targets, htargets, heq⟩ := Option.bind_eq_some_iff.1 h
    cases heq
    exact ⟨hp.1 hpaths, hd.1 hdisplay, ht.1 htargets⟩
  · intro h
    simp only [hp.2 h.paths, hd.2 h.display, ht.2 h.targets]
    rfl

end

/-! ## Complete documents -/

section

variable {entries entries' : Toml.Entries}

/-- A section can be given just if its keys have values of their kinds, where these are the values that
its fields can have. -/
theorem exists_gives_iff {α : Type} {name : String} {keys : List (String × Kind)}
    {fields : α → Toml.Entries} (hfields : ∀ p : String → Toml → Prop,
      (∃ a, ∀ field ∈ fields a, p field.1 field.2) ↔ ∀ key ∈ keys, ∃ x, p key.1 x ∧ key.2.Fits x)
    {fallback : α} :
    (∃ a, Gives entries name fields fallback a) ↔
      (HasSection entries name → ∀ key ∈ keys, ∃ x, States entries name key.1 x ∧ key.2.Fits x) := by
  rw [← hfields (States entries name)]
  constructor
  · rintro ⟨a, hgiven, -⟩ hthere
    exact ⟨a, hgiven hthere⟩
  · intro h
    by_cases hthere : HasSection entries name
    · obtain ⟨a, ha⟩ := h hthere
      exact ⟨a, fun _ => ha, fun hmissing => absurd hthere hmissing⟩
    · exact ⟨fallback, fun h => absurd h hthere, fun _ => rfl⟩

theorem exists_paths_iff (p : String → Toml → Prop) :
    (∃ a : Paths, ∀ field ∈ a.fields, p field.1 field.2) ↔
      ∀ key ∈ Paths.keys, ∃ x, p key.1 x ∧ key.2.Fits x := by
  rw [Paths.keys, List.forall_mem_singleton]
  simp only [Paths.fields, List.forall_mem_singleton, Kind.Fits]
  constructor
  · rintro ⟨⟨stateDir⟩, h⟩
    exact ⟨_, h, stateDir, rfl⟩
  · rintro ⟨_, h, stateDir, rfl⟩
    exact ⟨⟨stateDir⟩, h⟩

theorem exists_display_iff (p : String → Toml → Prop) :
    (∃ a : Display, ∀ field ∈ a.fields, p field.1 field.2) ↔
      ∀ key ∈ Display.keys, ∃ x, p key.1 x ∧ key.2.Fits x := by
  rw [Display.keys, List.forall_mem_cons, List.forall_mem_singleton]
  simp only [Display.fields, List.mem_cons, List.not_mem_nil, or_false, forall_eq_or_imp, forall_eq,
    Kind.Fits]
  constructor
  · rintro ⟨⟨defaultVerbosity, colorOutput⟩, h, h'⟩
    exact ⟨⟨_, h, defaultVerbosity, rfl⟩, ⟨_, h', colorOutput, rfl⟩⟩
  · rintro ⟨⟨_, h, defaultVerbosity, rfl⟩, ⟨_, h', colorOutput, rfl⟩⟩
    exact ⟨⟨defaultVerbosity, colorOutput⟩, h, h'⟩

theorem exists_targets_iff (p : String → Toml → Prop) :
    (∃ a : Targets, ∀ field ∈ a.fields, p field.1 field.2) ↔
      ∀ key ∈ Targets.keys, ∃ x, p key.1 x ∧ key.2.Fits x := by
  rw [Targets.keys, List.forall_mem_cons, List.forall_mem_singleton]
  simp only [Targets.fields, List.mem_cons, List.not_mem_nil, or_false, forall_eq_or_imp, forall_eq,
    fits_count_iff]
  constructor
  · rintro ⟨⟨learning, sports⟩, h, h'⟩
    exact ⟨⟨_, h, learning, rfl⟩, ⟨_, h', sports, rfl⟩⟩
  · rintro ⟨⟨_, h, learning, rfl⟩, ⟨_, h', sports, rfl⟩⟩
    exact ⟨⟨learning, sports⟩, h, h'⟩

theorem exists_describes_iff : (∃ s, Describes entries s) ↔ IsComplete entries := by
  have hcomplete : IsComplete entries ↔ (∃ a, Gives entries "paths" Paths.fields {} a) ∧
      (∃ a, Gives entries "display" Display.fields {} a) ∧
      ∃ a, Gives entries "progress" Targets.fields {} a := by
    rw [exists_gives_iff exists_paths_iff, exists_gives_iff exists_display_iff,
      exists_gives_iff exists_targets_iff, IsComplete, forall_mem_sections]
  rw [hcomplete]
  constructor
  · rintro ⟨s, hpaths, hdisplay, htargets⟩
    exact ⟨⟨_, hpaths⟩, ⟨_, hdisplay⟩, ⟨_, htargets⟩⟩
  · rintro ⟨⟨paths, hpaths⟩, ⟨display, hdisplay⟩, ⟨targets, htargets⟩⟩
    exact ⟨⟨paths, display, targets⟩, hpaths, hdisplay, htargets⟩

theorem Describes.unique (h : entries.AreDistinct) (htables : HasTables entries) {s s' : Settings}
    (hs : Describes entries s) (hs' : Describes entries s') : s' = s :=
  Option.some.inj (((ofEntries?_eq_some_iff h htables).2 hs').symm.trans
    ((ofEntries?_eq_some_iff h htables).2 hs))

theorem Gives.of_states {α : Type} {name : String} {keys : List (String × Kind)}
    {fields : α → Toml.Entries} {fallback a : α}
    (hkeys : (fields a).map Prod.fst = keys.map Prod.fst)
    (hsame : (HasSection entries name ↔ HasSection entries' name) ∧
      ∀ key ∈ keys, ∀ x, States entries name key.1 x ↔ States entries' name key.1 x)
    (h : Gives entries name fields fallback a) : Gives entries' name fields fallback a := by
  refine ⟨fun hthere field hfield => ?_, fun hmissing => h.2 (mt hsame.1.1 hmissing)⟩
  obtain ⟨key, hkey, hname⟩ := List.mem_map.1 (hkeys ▸ List.mem_map_of_mem hfield)
  rw [← hname, ← hsame.2 key hkey, hname]
  exact h.1 (hsame.1.2 hthere) field hfield

theorem Describes.of_sameSections (h : SameSections entries entries') {s : Settings}
    (hs : Describes entries s) : Describes entries' s := by
  obtain ⟨hpaths, hdisplay, htargets⟩ := forall_mem_sections.1 h
  exact ⟨hs.paths.of_states rfl hpaths, hs.display.of_states rfl hdisplay,
    hs.targets.of_states rfl htargets⟩

theorem SameSections.symm (h : SameSections entries entries') : SameSections entries' entries :=
  fun part hpart =>
    ⟨(h part hpart).1.symm, fun key hkey x => ((h part hpart).2 key hkey x).symm⟩

end

/-! ## The check -/

theorem isEmpty_trimmed_iff (s : String) :
    (Text.trimmed s).isEmpty = true ↔ Text.AreBlank s.toList := by
  rw [Text.trimmed, String.isEmpty_iff, ← String.toList_eq_nil_iff, String.toList_ofList]
  constructor
  · intro h
    obtain ⟨before, after, hs, hbefore, hafter⟩ := Text.exists_trim s.toList
    rw [hs, h, List.nil_append]
    exact List.forall_mem_append.2 ⟨hbefore, hafter⟩
  · intro h
    have := @Text.trim_append s.toList [] [] h nofun nofun
    rwa [List.append_nil, List.append_nil] at this

theorem isNone_ofName?_iff (name : String) :
    (Verbosity.ofName? name).isNone = true ↔
      name ∉ ["quiet", "normal", "verbose", "very_verbose"] := by
  have hnames : ["quiet", "normal", "verbose", "very_verbose"] = Verbosity.all.map Verbosity.name :=
    rfl
  rw [Option.isNone_iff_eq_none, Verbosity.ofName?, List.find?_eq_none, hnames]
  simp

/-- The check refuses a blank state folder before it looks at the verbosity. -/
theorem validate_eq (s : Settings) :
    s.validate =
      if Text.AreBlank s.paths.stateDir.toList then .error .blankStateDir
      else if s.display.defaultVerbosity ∈ ["quiet", "normal", "verbose", "very_verbose"] then .ok ⟨⟩
      else .error (.unknownVerbosity s.display.defaultVerbosity) := by
  rw [validate]
  simp only [isEmpty_trimmed_iff, isNone_ofName?_iff, ite_not]

/-! ## Loading -/

section

variable {fs : Files} {path text : String} {entries : Toml.Entries} {s : Settings}

variable (hdocument : Toml.Entries.ofText? text = some entries) (htables : HasTables entries)

include hdocument htables

theorem parse_of_describes (hs : Describes entries s) :
    parse text = s.validate.map fun _ => s := by
  have hdistinct := areDistinct_of_ofText? hdocument
  rw [parse_of_ofText? hdocument, (ofEntries?_eq_some_iff hdistinct htables).2 hs]

theorem parse_of_not_isComplete (h : ¬IsComplete entries) :
    parse text = .error .malformedSettings := by
  have hdistinct := areDistinct_of_ofText? hdocument
  have hnone : ofEntries? entries = none := Option.eq_none_iff_forall_ne_some.2 fun s hs =>
    h (exists_describes_iff.1 ⟨s, (ofEntries?_eq_some_iff hdistinct htables).1 hs⟩)
  rw [parse_of_ofText? hdocument, hnone]

theorem parse_of_sameSections {text' : String} {entries' : Toml.Entries}
    (hdocument' : Toml.Entries.ofText? text' = some entries') (htables' : HasTables entries')
    (hsame : SameSections entries entries') : parse text' = parse text := by
  by_cases hcomplete : IsComplete entries
  · obtain ⟨s, hs⟩ := exists_describes_iff.2 hcomplete
    rw [parse_of_describes hdocument htables hs,
      parse_of_describes hdocument' htables' (hs.of_sameSections hsame)]
  · have hcomplete' : ¬IsComplete entries' := fun h => by
      obtain ⟨s, hs⟩ := exists_describes_iff.2 h
      exact hcomplete (exists_describes_iff.1 ⟨s, hs.of_sameSections hsame.symm⟩)
    rw [parse_of_not_isComplete hdocument htables hcomplete,
      parse_of_not_isComplete hdocument' htables' hcomplete']

end

/-- What loading a file returns, by the document in it, if the sections that this has are tables.
Complete sections describe settings, which are loaded unless the check refuses them, a blank state
folder first.  A section that is not complete is never completed.  Two documents with the same sections
are loaded alike, whatever else they hold and in whatever order. -/
theorem load_of_document {fs : Files} {path text : String} {entries : Toml.Entries}
    (hread : fs.readText? path = some text) (hdocument : Toml.Entries.ofText? text = some entries)
    (htables : HasTables entries) :
    ((∃ s, load path fs = .ok s fs) ↔ IsComplete entries ∧ ∀ s, Describes entries s →
      ¬Text.AreBlank s.paths.stateDir.toList ∧
        s.display.defaultVerbosity ∈ ["quiet", "normal", "verbose", "very_verbose"]) ∧
    (IsComplete entries → ∃ s, (∀ s', Describes entries s' ↔ s' = s) ∧
      load path fs =
        if Text.AreBlank s.paths.stateDir.toList then .error .blankStateDir fs
        else if s.display.defaultVerbosity ∈ ["quiet", "normal", "verbose", "very_verbose"] then
          .ok s fs
        else .error (.unknownVerbosity s.display.defaultVerbosity) fs) ∧
    (¬IsComplete entries → load path fs = .error .malformedSettings fs) ∧
    ∀ (fs' : Files) (path' text' : String) (entries' : Toml.Entries),
      fs'.readText? path' = some text' → Toml.Entries.ofText? text' = some entries' →
      HasTables entries' → SameSections entries entries' →
      load path' fs' =
        match load path fs with
        | .ok s _ => .ok s fs'
        | .error fault _ => .error fault fs' := by
  have hload := load_of_readText? hread
  have hrefused (h : ¬IsComplete entries) : load path fs = .error .malformedSettings fs := by
    rw [hload, parse_of_not_isComplete hdocument htables h]
  have hcomplete (h : IsComplete entries) : ∃ s, (∀ s', Describes entries s' ↔ s' = s) ∧
      load path fs =
        if Text.AreBlank s.paths.stateDir.toList then .error .blankStateDir fs
        else if s.display.defaultVerbosity ∈ ["quiet", "normal", "verbose", "very_verbose"] then
          .ok s fs
        else .error (.unknownVerbosity s.display.defaultVerbosity) fs := by
    obtain ⟨s, hs⟩ := exists_describes_iff.2 h
    have hunique (s' : Settings) (hs' : Describes entries s') : s' = s :=
      hs.unique (areDistinct_of_ofText? hdocument) htables hs'
    refine ⟨s, fun s' => ⟨hunique s', fun heq => heq ▸ hs⟩, ?_⟩
    rw [hload, parse_of_describes hdocument htables hs, validate_eq]
    split_ifs <;> rfl
  refine ⟨?_, hcomplete, hrefused, fun fs' path' text' entries' hread' hdocument' htables' hsame => ?_⟩
  · constructor
    · rintro ⟨s, hs⟩
      have hthere : IsComplete entries := by
        by_contra h
        cases hs.symm.trans (hrefused h)
      obtain ⟨s', hdescribes, hs'⟩ := hcomplete hthere
      refine ⟨hthere, fun s'' hs'' => ?_⟩
      obtain rfl := (hdescribes s'').1 hs''
      rw [hs'] at hs
      split_ifs at hs with hblank hname
      exact ⟨hblank, hname⟩
    · rintro ⟨hthere, hsound⟩
      obtain ⟨s, hdescribes, hs⟩ := hcomplete hthere
      obtain ⟨hblank, hname⟩ := hsound s ((hdescribes s).2 rfl)
      rw [if_neg hblank, if_pos hname] at hs
      exact ⟨s, hs⟩
  · rw [load_of_readText? hread', parse_of_sameSections hdocument htables hdocument' htables' hsame,
      hload]
    cases parse text <;> rfl

/-- One section, with its keys in another order and among other ones. -/
def unorderedText : String :=
  "progress.default_target_sports = 0x10\nprogress.extra = true\nowner = 1\n" ++
    "progress.default_target_learning = 4_294_967_295\n"

def unorderedEntries : Toml.Entries :=
  [("progress", .table .dotted [("default_target_sports", .integer 16),
      ("extra", .boolean true), ("default_target_learning", .integer 4294967295)]),
    ("owner", .integer 1)]

def unorderedFiles : Files where
  root := .folder [("config.toml", .file unorderedText.toUTF8)]

set_option maxRecDepth 1024 in
/-- Its section is loaded, with the defaults of the other ones. -/
theorem load_of_document_unordered :
    load "/config.toml" unorderedFiles = .ok ⟨{}, {}, ⟨4294967295, 16⟩⟩ unorderedFiles := by
  have hread : unorderedFiles.readText? "/config.toml" = some unorderedText := by decide +kernel
  have hdocument : Toml.Entries.ofText? unorderedText = some unorderedEntries := by rfl
  have htables : HasTables unorderedEntries :=
    forall_mem_sections.2 (by simp [unorderedEntries, entries?])
  have hdescribes : Describes unorderedEntries ⟨{}, {}, ⟨4294967295, 16⟩⟩ :=
    (ofEntries?_eq_some_iff (areDistinct_of_ofText? hdocument) htables).1 rfl
  obtain ⟨-, hcomplete, -⟩ := load_of_document hread hdocument htables
  obtain ⟨s, hs, hload⟩ := hcomplete (exists_describes_iff.1 ⟨_, hdescribes⟩)
  obtain rfl := (hs _).1 hdescribes
  exact hload

end Temperament.Settings
