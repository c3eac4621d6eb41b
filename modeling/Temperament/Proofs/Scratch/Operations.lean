import Temperament.Proofs.Effects
import Temperament.Proofs.Files.Folders
import Temperament.Proofs.Scratch.Text

/-!
# Operations on the scratch store

What a store holds is `none` without a file, and else the entries of the file (`Holds`).  Loading
reads what a store holds (`load_eq_ok_iff`).  A write that succeeds leaves its entries in the store
(`Writes.holds`) and the store ready for the next write (`Writes.store`), so that only the first of
several writes can fail.
-/

namespace Temperament

namespace Files

variable {fs : Files} {path : String}

theorem contains_iff :
    fs.contains path = true ↔ ∃ loc, fs.locate? path = some loc ∧ fs.get? loc ≠ none := by
  rw [contains]
  cases fs.locate? path with
  | none => simp
  | some loc => simp [Option.isSome_iff_ne_none]

theorem contains_eq_false {loc : Location} (hlocate : fs.locate? path = some loc)
    (hloc : fs.get? loc = none) : fs.contains path = false := by
  refine Bool.eq_false_iff.2 fun hcontains => ?_
  obtain ⟨loc', hlocate', hloc'⟩ := contains_iff.1 hcontains
  rw [Option.some.inj (hlocate'.symm.trans hlocate)] at hloc'
  exact hloc' hloc

theorem readText?_eq_some_iff {text : String} :
    fs.readText? path = some text ↔ ∃ loc bytes, fs.locate? path = some loc ∧
      fs.get? loc = some (.file bytes) ∧ String.fromUTF8? bytes = some text := by
  rw [readText?, read?, Option.bind_eq_bind]
  cases fs.locate? path with
  | none => simp
  | some loc => rcases hloc : fs.get? loc with _ | _ | _ <;> simp [hloc]

theorem contains_of_readText? {text : String} (h : fs.readText? path = some text) :
    fs.contains path = true := by
  obtain ⟨loc, bytes, hlocate, hloc, -⟩ := readText?_eq_some_iff.1 h
  exact contains_iff.2 ⟨loc, hlocate, by rw [hloc]; nofun⟩

end Files

namespace Scratch

open Files Temperament.Path

variable {s : Scratch} {fs fs' : Files} {m : Entries}

/-! ## What a store holds -/

/-- The entries in the file of a store, or `none` if there is no file. -/
def Holds (s : Scratch) (fs : Files) : Option Entries → Prop
  | none => fs.contains s.path = false
  | some m => ∃ text, fs.readText? s.path = some text ∧ Entries.ofText? text = some m

theorem load_eq (s : Scratch) (fs : Files) :
    s.load fs =
      if fs.contains s.path then
        match fs.readText? s.path with
        | none => .error .inputOutput fs
        | some text =>
          match Entries.ofText? text with
          | none => .error (.corruptStore s.path) fs
          | some m => .ok m fs
      else .ok ∅ fs := by
  rw [load]
  simp only [bind_apply, get_apply]
  cases fs.contains s.path with
  | false => rfl
  | true =>
    cases fs.readText? s.path with
    | none => rfl
    | some text =>
      simp only [Bool.not_true, Bool.false_eq_true, if_false, if_true]
      cases Entries.ofText? text <;> rfl

theorem Holds.load {state : Option Entries} (h : s.Holds fs state) :
    s.load fs = .ok (state.getD ∅) fs := by
  rw [load_eq]
  cases state with
  | none =>
    rw [if_neg (by rw [show fs.contains s.path = false from h]; nofun)]
    rfl
  | some m =>
    obtain ⟨text, hread, htext⟩ := h
    rw [if_pos (contains_of_readText? hread), hread]
    simp only [htext]
    rfl

theorem load_eq_ok_iff :
    s.load fs = .ok m fs' ↔ fs' = fs ∧ ∃ state, s.Holds fs state ∧ m = state.getD ∅ := by
  constructor
  · intro h
    rw [load_eq] at h
    split at h
    · split at h
      · cases h
      · rename_i text hread
        split at h
        · cases h
        · rename_i m htext
          cases h
          exact ⟨rfl, some m, ⟨text, hread, htext⟩, rfl⟩
    · rename_i hcontains
      cases h
      exact ⟨rfl, none, Bool.eq_false_iff.2 hcontains, rfl⟩
  · rintro ⟨rfl, state, hholds, rfl⟩
    exact hholds.load

theorem load_eq_error {fault : Fault} (h : s.load fs = .error fault fs') : fs' = fs := by
  rw [load_eq] at h
  split at h
  · split at h
    · cases h
      rfl
    · split at h
      · cases h
        rfl
      · cases h
  · cases h

/-! ## Writing -/

theorem store_eq (s : Scratch) (m : Entries) (fs : Files) :
    s.store m fs =
      if (fs.makeFolders (ofText s.folder)).1 then
        match (fs.makeFolders (ofText s.folder)).2.writeText? s.path m.text with
        | none => .error .inputOutput (fs.makeFolders (ofText s.folder)).2
        | some fs' => .ok m.size fs'
      else .error .inputOutput (fs.makeFolders (ofText s.folder)).2 := by
  rw [store]
  simp only [bind_apply, get_apply, set_apply]
  cases (fs.makeFolders (ofText s.folder)).1 with
  | false => rfl
  | true =>
    simp only [Bool.not_true, Bool.false_eq_true, if_false, if_true]
    cases (fs.makeFolders (ofText s.folder)).2.writeText? s.path m.text <;> rfl

/-- The file of a store was written in its folder, which is made if it is missing. -/
structure Writes (s : Scratch) (m : Entries) (fs fs' : Files) : Prop where
  locate? : (fs.makeFolders (ofText s.folder)).2.locate? s.path = some (fs.target s.path)
  setsFile : (fs.makeFolders (ofText s.folder)).2.SetsFile (fs.target s.path)
    (some m.text.toUTF8) fs'

/-- No file could be written: after the attempt to make its folder, the path of the file leads
nowhere or to a folder. -/
structure FailsToWrite (s : Scratch) (fs fs' : Files) : Prop where
  eq_makeFolders : fs' = (fs.makeFolders (ofText s.folder)).2
  folder : ∀ loc, fs'.locate? s.path = some loc → fs'.get? loc = some .folder

theorem FailsToWrite.growsTo (h : s.FailsToWrite fs fs') : fs.GrowsTo fs' :=
  h.eq_makeFolders ▸ growsTo_makeFolders fs (ofText s.folder)

theorem FailsToWrite.read?_eq (h : s.FailsToWrite fs fs') : fs'.read? s.path = fs.read? s.path := by
  cases hlocate : fs.locate? s.path with
  | some loc => rw [h.eq_makeFolders, makeFolders_of_locate? isFileName_session hlocate]
  | none =>
    have hnone : fs.read? s.path = none := by rw [read?, hlocate]; rfl
    rw [hnone, read?]
    cases hlocate' : fs'.locate? s.path with
    | none => rfl
    | some loc =>
      rw [Option.bind_eq_bind, Option.bind_some, h.folder loc hlocate']

theorem eq_target {loc : Location} (h : fs.locate? s.path = some loc) : loc = fs.target s.path :=
  eq_target_of_locate? isFileName_session h

theorem store_cases (s : Scratch) (m : Entries) (fs : Files) :
    (∃ fs', s.store m fs = .ok m.size fs' ∧ s.Writes m fs fs') ∨
    (∃ fs', s.store m fs = .error .inputOutput fs' ∧ s.FailsToWrite fs fs') := by
  have hgrows := growsTo_makeFolders fs (ofText s.folder)
  rw [store_eq]
  split
  · split
    · rename_i hwrite
      refine .inr ⟨_, rfl, rfl, fun loc hlocate => Classical.byContradiction fun hloc => ?_⟩
      obtain ⟨fs', hwrite'⟩ := write?_isSome hlocate hloc m.text.toUTF8
      exact Option.some_ne_none _ (hwrite'.symm.trans hwrite)
    · rename_i fs' hwrite
      obtain ⟨loc, hlocate, hset⟩ := setsFile_of_write? hwrite
      have htarget : loc = fs.target s.path := by
        rw [eq_target hlocate, hgrows.keepsFolders.target_eq]
      exact .inl ⟨fs', rfl, htarget ▸ hlocate, htarget ▸ hset⟩
  · rename_i hmade
    exact .inr ⟨_, rfl, rfl, fun loc hlocate =>
      absurd (fst_makeFolders_of_locate? isFileName_session hlocate) hmade⟩

/-- A write whose path leads to a place for a file succeeds, and makes no folder. -/
theorem store_of_locate? {loc : Location} (hlocate : fs.locate? s.path = some loc)
    (hloc : fs.get? loc ≠ some .folder) (m : Entries) :
    ∃ fs', s.store m fs = .ok m.size fs' ∧ s.Writes m fs fs' ∧
      fs.SetsFile loc (some m.text.toUTF8) fs' := by
  have hmade := makeFolders_of_locate? isFileName_session hlocate
  rcases store_cases s m fs with ⟨fs', hstore, hwrites⟩ | ⟨fs', -, hfails⟩
  · refine ⟨fs', hstore, hwrites, ?_⟩
    have hset := hwrites.setsFile
    rw [hmade] at hset
    rwa [eq_target hlocate]
  · have hsame : fs' = fs := by rw [hfails.eq_makeFolders, hmade]
    rw [hsame] at hfails
    exact absurd (hfails.folder loc hlocate) hloc

namespace Writes

variable (h : s.Writes m fs fs')

include h

theorem locate?_after : fs'.locate? s.path = some (fs.target s.path) := by
  rw [h.setsFile.locate?_eq, h.locate?]

theorem read? : fs'.read? s.path = some m.text.toUTF8 := by
  rw [Files.read?, h.locate?_after, Option.bind_eq_bind, Option.bind_some, h.setsFile.get?_self]
  rfl

theorem holds : s.Holds fs' (some m) :=
  ⟨m.text, by rw [readText?, h.read?, Option.bind_some, fromUTF8?_toUTF8], Entries.ofText?_text m⟩

theorem target_eq : fs'.target s.path = fs.target s.path :=
  (eq_target h.locate?_after).symm

theorem makeFolders_after : fs'.makeFolders (ofText s.folder) = (true, fs') :=
  makeFolders_of_locate? isFileName_session h.locate?_after

theorem ne_folder : fs'.get? (fs.target s.path) ≠ some .folder := by
  rw [h.setsFile.get?_self]
  nofun

/-- After a write the next one succeeds, in place of it. -/
theorem store (m' : Entries) : ∃ fs'', s.store m' fs' = .ok m'.size fs'' ∧ s.Writes m' fs fs'' ∧
    fs'.SetsFile (fs.target s.path) (some m'.text.toUTF8) fs'' := by
  obtain ⟨fs'', hstore, -, hset⟩ := store_of_locate? h.locate?_after h.ne_folder m'
  exact ⟨fs'', hstore, ⟨h.locate?, h.setsFile.trans hset⟩, hset⟩

end Writes

/-! ## Usable stores -/

/-- The folder of a store is there or can be made, and then the path of its file leads to a place
that is not a folder's. -/
def IsUsable (s : Scratch) (fs : Files) : Prop :=
  ∃ loc, (fs.makeFolders (ofText s.folder)).2.locate? s.path = some loc ∧
    (fs.makeFolders (ofText s.folder)).2.isFolderAt loc = false

theorem isUsable_of_locate? {loc : Location} (hlocate : fs.locate? s.path = some loc)
    (hloc : fs.get? loc ≠ some .folder) : s.IsUsable fs := by
  rw [IsUsable, makeFolders_of_locate? isFileName_session hlocate]
  exact ⟨loc, hlocate, Bool.eq_false_iff.2 (mt isFolderAt_iff.1 hloc)⟩

theorem IsUsable.not_failsToWrite (h : s.IsUsable fs) : ¬s.FailsToWrite fs fs' := by
  intro hfails
  obtain ⟨loc, hlocate, hloc⟩ := h
  rw [← hfails.eq_makeFolders] at hlocate hloc
  exact absurd (isFolderAt_iff.2 (hfails.folder loc hlocate)) (by rw [hloc]; nofun)

theorem IsUsable.store (h : s.IsUsable fs) (m : Entries) :
    ∃ fs', s.store m fs = .ok m.size fs' ∧ s.Writes m fs fs' := by
  rcases store_cases s m fs with hwrites | ⟨fs', -, hfails⟩
  · exact hwrites
  · exact absurd hfails h.not_failsToWrite

theorem Writes.isUsable (h : s.Writes m fs fs') : s.IsUsable fs' :=
  isUsable_of_locate? h.locate?_after h.ne_folder

/-! ## Entries -/

theorem get?_eq (s : Scratch) (key : String) (fs : Files) :
    s.get? key fs =
      match s.load fs with
      | .ok m fs' => .ok (m.get? key) fs'
      | .error fault fs' => .error fault fs' := by
  rw [Scratch.get?, bind_apply]
  cases s.load fs <;> rfl

theorem insert_eq (s : Scratch) (key value : String) (fs : Files) :
    s.insert key value fs =
      match s.load fs with
      | .ok m fs' => s.store (m.insert key value) fs'
      | .error fault fs' => .error fault fs' := by
  rw [insert, bind_apply]
  cases s.load fs <;> rfl

theorem erase_eq (s : Scratch) (key : String) (fs : Files) :
    s.erase key fs =
      match s.load fs with
      | .ok m fs' =>
        if m.contains key then
          match s.store (m.erase key) fs' with
          | .ok size fs' => .ok (some size) fs'
          | .error fault fs' => .error fault fs'
        else .ok none fs'
      | .error fault fs' => .error fault fs' := by
  rw [erase, bind_apply]
  rcases s.load fs with ⟨m, fs'⟩ | ⟨fault, fs'⟩
  · simp only
    cases m.contains key with
    | false => rfl
    | true =>
      simp only [if_true, bind_apply]
      cases s.store (m.erase key) fs' <;> rfl
  · rfl

/-! ## Clearing -/

theorem clear_eq (s : Scratch) (fs : Files) :
    s.clear fs =
      if fs.contains s.path then
        match fs.remove? s.path with
        | none => .error .inputOutput fs
        | some fs' => .ok true fs'
      else .ok false fs := by
  rw [clear]
  simp only [bind_apply, get_apply]
  cases fs.contains s.path with
  | false => rfl
  | true => cases fs.remove? s.path <;> rfl

/-- Clearing deletes the file if there is one, and does nothing else. -/
theorem clear_cases (s : Scratch) (fs : Files) :
    (fs.contains s.path = false ∧ s.clear fs = .ok false fs) ∨
    (∃ fs', s.clear fs = .ok true fs' ∧ fs.locate? s.path = some (fs.target s.path) ∧
      fs.get? (fs.target s.path) ≠ none ∧ fs.SetsFile (fs.target s.path) none fs') ∨
    (∃ loc, fs.locate? s.path = some loc ∧ fs.get? loc = some .folder ∧
      s.clear fs = .error .inputOutput fs) := by
  rw [clear_eq]
  split
  · rename_i hcontains
    obtain ⟨loc, hlocate, hloc⟩ := contains_iff.1 hcontains
    split
    · rename_i hremove
      refine .inr (.inr ⟨loc, hlocate, ?_, rfl⟩)
      rw [remove?, hlocate] at hremove
      rcases hnode : fs.get? loc with _ | _ | _
      · exact absurd hnode hloc
      · simp [hnode] at hremove
      · rfl
    · rename_i fs' hremove
      obtain ⟨loc', hlocate', hset⟩ := setsFile_of_remove? hremove
      have hsame : loc' = loc := Option.some.inj (hlocate'.symm.trans hlocate)
      subst hsame
      exact .inr (.inl ⟨fs', rfl, eq_target hlocate ▸ hlocate, eq_target hlocate ▸ hloc,
        eq_target hlocate ▸ hset⟩)
  · rename_i hcontains
    exact .inl ⟨Bool.eq_false_iff.2 hcontains, rfl⟩

end Scratch

end Temperament
