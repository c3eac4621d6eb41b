import Temperament.Profile
import Temperament.Proofs.Encoding
import Temperament.Proofs.Scratch.Operations

/-!
# Saving profiles

To save a profile is to set two entries.  Either the store cannot be written, and then its file is as
it was, or both entries are set and the profile is what is loaded (`save_saved`).
-/

namespace Temperament

open Files Temperament.Path Scratch

/-! ## Setting an entry -/

namespace Scratch

/-- Puts an entry under a key, or removes the one there. -/
def Entries.setEntry (m : Entries) (key : String) : Option String → Entries
  | some value => m.insert key value
  | none => m.erase key

/-- Whether there is nothing to put and nothing to remove. -/
def Entries.lacks (m : Entries) (key : String) (value : Option String) : Bool :=
  value.isNone && !m.contains key

/-- Puts an entry into a store, or removes the one there. -/
def setEntry (s : Scratch) (key : String) : Option String → Filing (Option Nat)
  | some value => some <$> s.insert key value
  | none => s.erase key

theorem Entries.get?_setEntry (m : Entries) (key key' : String) (value : Option String) :
    (m.setEntry key value).get? key' = if key' = key then value else m.get? key' := by
  cases value with
  | none => exact SortedMap.get?_erase m key key'
  | some value => exact SortedMap.get?_insert m key key' value

theorem Entries.setEntry_of_lacks {m : Entries} {key : String} {value : Option String}
    (h : m.lacks key value = true) : m.setEntry key value = m := by
  cases value with
  | none => exact SortedMap.erase_eq_self (by simpa [lacks] using h)
  | some value => cases h

variable {s : Scratch} {fs fs' : Files} {m : Entries}

theorem setEntry_eq (hload : s.load fs = .ok m fs) (key : String) (value : Option String) :
    s.setEntry key value fs =
      if m.lacks key value then .ok none fs else (some <$> s.store (m.setEntry key value)) fs := by
  cases value with
  | none =>
    rw [setEntry, erase_eq, hload, map_apply]
    simp only [Entries.lacks, Entries.setEntry, Option.isNone_none, Bool.true_and]
    cases m.contains key with
    | false => rfl
    | true =>
      simp only [Bool.not_true, Bool.false_eq_true, if_false, if_true]
      cases s.store (m.erase key) fs <;> rfl
  | some value =>
    rw [setEntry, map_apply, insert_eq, hload]
    rfl

theorem setEntry_cases (hload : s.load fs = .ok m fs) (key : String) (value : Option String) :
    (m.lacks key value = true ∧ s.setEntry key value fs = .ok none fs) ∨
    (∃ size fs', s.setEntry key value fs = .ok (some size) fs' ∧
      s.Writes (m.setEntry key value) fs fs') ∨
    (∃ fs', s.setEntry key value fs = .error .inputOutput fs' ∧ s.FailsToWrite fs fs') := by
  rw [setEntry_eq hload, map_apply]
  cases m.lacks key value with
  | true => exact .inl ⟨rfl, rfl⟩
  | false =>
    rcases store_cases s (m.setEntry key value) fs with ⟨fs', hstore, hwrites⟩ |
      ⟨fs', hstore, hfails⟩
    · rw [hstore]
      exact .inr (.inl ⟨_, fs', rfl, hwrites⟩)
    · rw [hstore]
      exact .inr (.inr ⟨fs', rfl, hfails⟩)

/-- Once the file is written, setting an entry cannot fail. -/
theorem Writes.setEntry (h : s.Writes m fs fs') (key : String) (value : Option String) :
    ∃ size fs'', s.setEntry key value fs' = .ok size fs'' ∧
      s.Writes (m.setEntry key value) fs fs'' := by
  rw [setEntry_eq h.holds.load, map_apply, Option.getD_some]
  cases hlacks : m.lacks key value with
  | true =>
    refine ⟨none, fs', rfl, ?_⟩
    rwa [Entries.setEntry_of_lacks hlacks]
  | false =>
    obtain ⟨fs'', hstore, hwrites, -⟩ := h.store (m.setEntry key value)
    rw [hstore]
    exact ⟨_, fs'', rfl, hwrites⟩

end Scratch

namespace Profile

/-! ## Entries of a profile -/

/-- The text that a report is kept as. -/
def reportText (progress : Progress) : String :=
  progress.toJson.text

/-- Entries with those of a profile in place of the ones under its keys. -/
def entries (p : Profile) (m : Entries) : Entries :=
  (m.setEntry categoryKey (p.category.map Category.name)).setEntry progressKey
    (p.progress.map reportText)

theorem progressKey_ne_categoryKey : progressKey ≠ categoryKey := by decide

variable {p : Profile} {s : Scratch} {fs fs' : Files} {m : Entries}

theorem get?_entries (p : Profile) (m : Entries) (key : String) :
    (p.entries m).get? key =
      if key = progressKey then p.progress.map reportText
      else if key = categoryKey then p.category.map Category.name
      else m.get? key := by
  rw [entries, Entries.get?_setEntry, Entries.get?_setEntry]

theorem get?_entries_category (p : Profile) (m : Entries) :
    (p.entries m).get? categoryKey = p.category.map Category.name := by
  rw [get?_entries, if_neg progressKey_ne_categoryKey.symm, if_pos rfl]

theorem get?_entries_progress (p : Profile) (m : Entries) :
    (p.entries m).get? progressKey = p.progress.map reportText := by
  rw [get?_entries, if_pos rfl]

theorem get?_entries_of_ne {key : String} (hcategory : key ≠ categoryKey)
    (hprogress : key ≠ progressKey) : (p.entries m).get? key = m.get? key := by
  rw [get?_entries, if_neg hprogress, if_neg hcategory]

theorem contains_entries_category (p : Profile) (m : Entries) :
    (p.entries m).contains categoryKey = p.category.isSome := by
  rw [SortedMap.contains, get?_entries_category, Option.isSome_map]

theorem contains_entries_progress (p : Profile) (m : Entries) :
    (p.entries m).contains progressKey = p.progress.isSome := by
  rw [SortedMap.contains, get?_entries_progress, Option.isSome_map]

/-- An entry is gone only if it stood for a part that the profile lacks. -/
theorem contains_entries_iff {key : String} (hkey : m.contains key = true) :
    (p.entries m).contains key = true ↔
      ¬((key = categoryKey ∧ p.category = none) ∨ (key = progressKey ∧ p.progress = none)) := by
  by_cases hcategory : key = categoryKey
  · rw [hcategory, contains_entries_category]
    simp [progressKey_ne_categoryKey.symm, Option.isSome_iff_ne_none]
  · by_cases hprogress : key = progressKey
    · rw [hprogress, contains_entries_progress]
      simp [progressKey_ne_categoryKey, Option.isSome_iff_ne_none]
    · rw [SortedMap.contains, get?_entries_of_ne hcategory hprogress]
      simp only [hcategory, hprogress, false_and, or_self, not_false_iff, iff_true]
      exact hkey

theorem categoryOf?_name (c : Category) : categoryOf? c.name = some c := by
  cases c <;> decide +kernel

theorem progressOf?_reportText (progress : Progress) :
    progressOf? (reportText progress) = some progress := by
  rw [progressOf?, reportText, Progress.decode_text]
  rfl

theorem ofEntries_entries (p : Profile) (m : Entries) : ofEntries (p.entries m) = p := by
  have hcategory : (p.category.map Category.name).bind categoryOf? = p.category := by
    cases p.category with
    | none => rfl
    | some c => exact categoryOf?_name c
  have hprogress : (p.progress.map reportText).bind progressOf? =
      p.progress := by
    cases p.progress with
    | none => rfl
    | some progress => exact progressOf?_reportText progress
  rw [ofEntries, get?_entries_category, get?_entries_progress, hcategory, hprogress]

/-- A report that cannot be read is as good as none. -/
theorem ofEntries_of_ignored {text : String} (hentry : m.get? progressKey = some text)
    (h : progressOf? text = none) :
    ofEntries m = ⟨(m.get? categoryKey).bind categoryOf?, none⟩ := by
  rw [ofEntries, hentry, Option.bind_some, h]

theorem ofEntries_erase (m : Entries) :
    ofEntries (m.erase progressKey) = ⟨(m.get? categoryKey).bind categoryOf?, none⟩ := by
  rw [ofEntries, SortedMap.get?_erase, SortedMap.get?_erase, if_pos rfl,
    if_neg progressKey_ne_categoryKey.symm, Option.bind_none]

theorem entries_entries (p : Profile) (m : Entries) : p.entries (p.entries m) = p.entries m := by
  refine SortedMap.ext_get? fun key => ?_
  rw [get?_entries, get?_entries]
  split
  · rfl
  · split <;> rfl

/-! ## Saving -/

theorem saveCategory_eq (s : Scratch) (c : Option Category) :
    saveCategory s c = s.setEntry categoryKey (c.map Category.name) := by
  cases c <;> rfl

theorem saveProgress_eq (s : Scratch) (progress : Option Progress) :
    saveProgress s progress =
      s.setEntry progressKey (progress.map reportText) := by
  cases progress <;> rfl

theorem load_eq_ok_iff {p : Profile} :
    Profile.load s fs = .ok p fs' ↔ ∃ m, s.load fs = .ok m fs' ∧ p = ofEntries m := by
  rw [Profile.load, bind_apply]
  cases s.load fs with
  | ok m fs₁ =>
    simp only [pure_apply, EStateM.Result.ok.injEq]
    constructor
    · rintro ⟨rfl, rfl⟩
      exact ⟨m, ⟨rfl, rfl⟩, rfl⟩
    · rintro ⟨m', ⟨rfl, rfl⟩, rfl⟩
      exact ⟨rfl, rfl⟩
  | error => simp

theorem save_eq (p : Profile) (s : Scratch) (fs : Files) :
    p.save s fs =
      match s.setEntry categoryKey (p.category.map Category.name) fs with
      | .ok first fs₁ =>
        match s.setEntry progressKey (p.progress.map reportText) fs₁ with
        | .ok second fs₂ => .ok (first.toList ++ second.toList) fs₂
        | .error fault fs₂ => .error fault fs₂
      | .error fault fs₁ => .error fault fs₁ := by
  rw [save, saveCategory_eq, saveProgress_eq, bind_apply]
  cases s.setEntry categoryKey (p.category.map Category.name) fs with
  | ok first fs₁ =>
    simp only [bind_apply]
    cases s.setEntry progressKey (p.progress.map reportText) fs₁ <;> rfl
  | error => rfl

/-- Saving a profile to a store that can be read has nothing to do, or writes the entries of the
profile, or fails before anything is written. -/
theorem save_cases (p : Profile) (hload : s.load fs = .ok m fs) :
    (p.entries m = m ∧ p.save s fs = .ok [] fs) ∨
    (∃ sizes fs', p.save s fs = .ok sizes fs' ∧ s.Writes (p.entries m) fs fs') ∨
    (∃ fs', p.save s fs = .error .inputOutput fs' ∧ s.FailsToWrite fs fs') := by
  rw [save_eq]
  rcases setEntry_cases hload categoryKey (p.category.map Category.name) with
    ⟨hlacks, hset⟩ | ⟨size, fs₁, hset, hwrites⟩ | ⟨fs', hset, hfails⟩
  · have hentries : p.entries m =
        m.setEntry progressKey (p.progress.map reportText) := by
      rw [entries, Entries.setEntry_of_lacks hlacks]
    rw [hset, hentries]
    rcases setEntry_cases hload progressKey (p.progress.map reportText)
      with ⟨hlacks', hset'⟩ | ⟨size, fs', hset', hwrites⟩ | ⟨fs', hset', hfails⟩
    · exact .inl ⟨Entries.setEntry_of_lacks hlacks', by simp only [hset']; rfl⟩
    · exact .inr (.inl ⟨[size], fs', by simp only [hset']; rfl, hwrites⟩)
    · exact .inr (.inr ⟨fs', by simp only [hset'], hfails⟩)
  · obtain ⟨size', fs₂, hset', hwrites'⟩ :=
      hwrites.setEntry progressKey (p.progress.map reportText)
    rw [hset]
    exact .inr (.inl ⟨_, fs₂, by simp only [hset']; rfl, hwrites'⟩)
  · rw [hset]
    exact .inr (.inr ⟨fs', rfl, hfails⟩)

/-- A profile can be saved to a store that can be read and written. -/
theorem exists_save (p : Profile) (hload : s.load fs = .ok m fs) (husable : s.IsUsable fs) :
    ∃ sizes fs', p.save s fs = .ok sizes fs' := by
  rcases p.save_cases hload with ⟨-, hsave⟩ | ⟨sizes, fs', hsave, -⟩ | ⟨fs', -, hfails⟩
  · exact ⟨[], fs, hsave⟩
  · exact ⟨sizes, fs', hsave⟩
  · exact absurd hfails husable.not_failsToWrite

/-- A store that was saved to holds the entries of the profile in place of those under its keys. -/
theorem load_of_save {sizes : List Nat} (hload : s.load fs = .ok m fs)
    (hsave : p.save s fs = .ok sizes fs') : s.load fs' = .ok (p.entries m) fs' := by
  rcases p.save_cases hload with ⟨hentries, h⟩ | ⟨sizes', fs₁, h, hwrites⟩ | ⟨fs₁, h, -⟩
  · cases h.symm.trans hsave
    rwa [hentries]
  · cases h.symm.trans hsave
    exact hwrites.holds.load
  · cases h.symm.trans hsave

/-- What a profile leaves behind when it is saved to a store with some entries. -/
structure Saved (p : Profile) (s : Scratch) (m : Entries) (fs' : Files) : Prop where
  load_eq : Profile.load s fs' = .ok p fs'
  /-- The entries under other keys are kept, and there is one for each part of the profile. -/
  entries : ∃ m', s.load fs' = .ok m' fs' ∧
    (∀ key, key ≠ categoryKey → key ≠ progressKey → m'.get? key = m.get? key) ∧
    m'.contains categoryKey = p.category.isSome ∧ m'.contains progressKey = p.progress.isSome
  /-- Nothing changes when the profile is saved again. -/
  again : ∃ sizes fs'', p.save s fs' = .ok sizes fs'' ∧ ∀ loc, fs''.get? loc = fs'.get? loc

theorem saved_of_load (hload : s.load fs' = .ok (p.entries m) fs')
    (hagain : ∃ sizes fs'', p.save s fs' = .ok sizes fs'' ∧ ∀ loc, fs''.get? loc = fs'.get? loc) :
    p.Saved s m fs' where
  load_eq := load_eq_ok_iff.2 ⟨_, hload, (ofEntries_entries p m).symm⟩
  entries := ⟨_, hload, fun _ => get?_entries_of_ne, contains_entries_category p m,
    contains_entries_progress p m⟩
  again := hagain

theorem save_again (h : s.Writes (p.entries m) fs fs') :
    ∃ sizes fs'', p.save s fs' = .ok sizes fs'' ∧ ∀ loc, fs''.get? loc = fs'.get? loc := by
  rcases save_cases p h.holds.load with ⟨-, hsave⟩ | ⟨sizes, fs'', hsave, hwrites⟩ |
    ⟨fs'', -, hfails⟩
  · exact ⟨[], fs', hsave, fun _ => rfl⟩
  · refine ⟨sizes, fs'', hsave, fun loc => ?_⟩
    have hset := hwrites.setsFile
    rw [h.makeFolders_after, Option.getD_some, entries_entries, h.target_eq] at hset
    rw [hset.get?_eq, ← h.setsFile.get?_self]
    split
    · rename_i hloc
      rw [hloc]
    · rfl
  · have hsame : fs'' = fs' := by rw [hfails.eq_makeFolders, h.makeFolders_after]
    rw [hsame] at hfails
    exact absurd (hfails.folder _ h.locate?_after) h.ne_folder

/-- Saving a profile to a store that can be read succeeds as a whole or leaves the file as it was. -/
theorem save_saved (p : Profile) (hload : s.load fs = .ok m fs) :
    ((∃ sizes fs', p.save s fs = .ok sizes fs' ∧ p.Saved s m fs') ∨
      (∃ fs', p.save s fs = .error .inputOutput fs' ∧ fs.GrowsTo fs' ∧
        fs'.read? s.path = fs.read? s.path)) ∧
    (p = {} → m.contains categoryKey = false → m.contains progressKey = false →
      p.save s fs = .ok [] fs) := by
  constructor
  · rcases save_cases p hload with ⟨hentries, hsave⟩ | ⟨sizes, fs', hsave, hwrites⟩ |
      ⟨fs', hsave, hfails⟩
    · refine .inl ⟨[], fs, hsave, saved_of_load ?_ ⟨[], fs, hsave, fun _ => rfl⟩⟩
      rw [hentries]
      exact hload
    · exact .inl ⟨sizes, fs', hsave, saved_of_load hwrites.holds.load (save_again hwrites)⟩
    · exact .inr ⟨fs', hsave, hfails.growsTo, hfails.read?_eq⟩
  · rintro rfl hcategory hprogress
    have hlacks (key : String) (h : m.contains key = false) :
        s.setEntry key none fs = .ok none fs := by
      rw [setEntry_eq hload, Entries.lacks, h]
      rfl
    rw [save_eq, Option.map_none, hlacks categoryKey hcategory]
    simp only [Option.map_none, hlacks progressKey hprogress]
    rfl

/-- A store with an entry of its own and one under a key of the profile that is not a category. -/
def oddFiles : Files where
  root := .folder [("state", .folder [("session.json", .file
    "\x7b\"note\": \"\\u0000\", \"huidong.personality\": \"\"\x7d".toUTF8)])]

theorem save_saved_oddFiles :
    Scratch.load ⟨"state"⟩ oddFiles =
        .ok ((SortedMap.insert ∅ "note" "\x00").insert categoryKey "") oddFiles ∧
      ((∃ sizes fs', save ⟨some .social, none⟩ ⟨"state"⟩ oddFiles = .ok sizes fs' ∧
          Saved ⟨some .social, none⟩ ⟨"state"⟩
            ((SortedMap.insert ∅ "note" "\x00").insert categoryKey "") fs') ∨
        (∃ fs', save ⟨some .social, none⟩ ⟨"state"⟩ oddFiles = .error .inputOutput fs' ∧
          oddFiles.GrowsTo fs' ∧
          fs'.read? (Scratch.path ⟨"state"⟩) = oddFiles.read? (Scratch.path ⟨"state"⟩))) := by
  have hholds : Scratch.Holds ⟨"state"⟩ oddFiles
      (some ((SortedMap.insert ∅ "note" "\x00").insert categoryKey "")) := by
    refine ⟨"\x7b\"note\": \"\\u0000\", \"huidong.personality\": \"\"\x7d", ?_, ?_⟩
    · decide +kernel
    · decide +kernel
  exact ⟨hholds.load, (save_saved ⟨some .social, none⟩ hholds.load).1⟩

end Profile

end Temperament
