import Temperament.Profile
import Temperament.Proofs.Scratch.Grammar
import Temperament.Proofs.Scratch.Refinement

/-!
# Stores by the contents of their file

What is in the place of a scratch file either denotes entries (`Denotes`), and then all operations
succeed, or is refused (`Refuses`).  Everything that reads a refused file fails for the same reason and
leaves all as it was, and one deletion makes the store usable again (`operations_by_contents`).
-/

namespace Temperament

namespace Scratch

open Files

/-! ## Contents -/

/-- The entries of UTF-8 text that is an object of strings: under each key the last of its values. -/
def Denotes (node : Node) (m : Entries) : Prop :=
  ∃ (text : String) (entries : List (String × String)), node = .file text.toUTF8 ∧
    Entries.IsObject text.toList entries ∧ ∀ key, m.get? key = entries.reverse.lookup key

/-- What denotes no entries, and the fault of reading it: the store is corrupt if it is text, and
else it is not read at all. -/
inductive Refuses (s : Scratch) : Node → Fault → Prop
  | text {text : String} (h : ∀ entries, ¬ Entries.IsObject text.toList entries) :
    s.Refuses (.file text.toUTF8) (.corruptStore s.path)
  | bytes {bytes : ByteArray} (h : ∀ text : String, bytes ≠ text.toUTF8) :
    s.Refuses (.file bytes) .inputOutput
  | folder : s.Refuses .folder .inputOutput

variable {s : Scratch} {fs fs' : Files} {loc : Location} {node : Node} {m : Entries} {fault : Fault}

theorem exists_refuses (s : Scratch) (h : ∀ m, ¬ Denotes node m) :
    ∃ fault, s.Refuses node fault := by
  cases node with
  | folder => exact ⟨_, .folder⟩
  | file bytes =>
    by_cases htext : ∃ text : String, bytes = text.toUTF8
    · obtain ⟨text, rfl⟩ := htext
      exact ⟨_, .text fun entries hentries => h (SortedMap.ofList entries)
        ⟨text, entries, rfl, hentries, SortedMap.get?_ofList entries⟩⟩
    · exact ⟨_, .bytes fun text htext' => htext ⟨text, htext'⟩⟩

theorem denotes_file_iff {text : String} :
    Denotes (.file text.toUTF8) m ↔ Entries.ofText? text = some m := by
  rw [Entries.ofText?_eq_some_iff]
  constructor
  · rintro ⟨text', entries, hnode, hentries, hm⟩
    obtain rfl : text' = text :=
      Option.some.inj (fromUTF8?_eq_some_iff.2 (Node.file.inj hnode) ▸ fromUTF8?_toUTF8 text)
    exact ⟨entries, hentries, SortedMap.ext_get? fun key => by rw [hm, SortedMap.get?_ofList]⟩
  · rintro ⟨entries, hentries, rfl⟩
    exact ⟨text, entries, rfl, hentries, SortedMap.get?_ofList entries⟩

/-- The text in the place of a file, if it is a file and holds UTF-8. -/
def text? : Node → Option String
  | .file content => String.fromUTF8? content
  | .folder => none

theorem load_of_node (hlocate : fs.locate? s.path = some loc) (hnode : fs.get? loc = some node) :
    s.load fs =
      match text? node with
      | none => .error .inputOutput fs
      | some text =>
        match Entries.ofText? text with
        | none => .error (.corruptStore s.path) fs
        | some m => .ok m fs := by
  have hcontains : fs.contains s.path = true :=
    contains_iff.2 ⟨loc, hlocate, by rw [hnode]; nofun⟩
  have hread : fs.readText? s.path = text? node := by
    rw [readText?, read?, hlocate, Option.bind_eq_bind, Option.bind_some, hnode]
    cases node <;> rfl
  have hload := load_eq s fs
  rw [if_pos hcontains, hread] at hload
  exact hload

theorem Denotes.load (h : Denotes node m) (hlocate : fs.locate? s.path = some loc)
    (hnode : fs.get? loc = some node) : s.load fs = .ok m fs := by
  obtain ⟨text, -, rfl, -⟩ := id h
  rw [load_of_node hlocate hnode, text?, fromUTF8?_toUTF8]
  simp only [denotes_file_iff.1 h]

theorem Refuses.load (h : s.Refuses node fault) (hlocate : fs.locate? s.path = some loc)
    (hnode : fs.get? loc = some node) : s.load fs = .error fault fs := by
  rw [load_of_node hlocate hnode]
  cases h with
  | @text text htext =>
    have hnone : Entries.ofText? text = none := by
      refine Option.eq_none_iff_forall_ne_some.2 fun m hm => ?_
      obtain ⟨entries, hentries, -⟩ := Entries.ofText?_eq_some_iff.1 hm
      exact htext entries hentries
    rw [text?, fromUTF8?_toUTF8]
    simp only [hnone]
  | bytes hbytes =>
    have hnone : String.fromUTF8? _ = none :=
      Option.eq_none_iff_forall_ne_some.2 fun text htext =>
        hbytes text (fromUTF8?_eq_some_iff.1 htext)
    rw [text?, hnone]
  | folder => rfl

/-! ## Failures -/

namespace Operation

/-- Attempts operations one after the other, and goes on after those that fail. -/
def attemptAll (s : Scratch) : List Operation → Files → List (Except Fault Reply) × Files
  | [], fs => ([], fs)
  | op :: ops, fs =>
    let (reply, fs) := match op.run s fs with
      | .ok reply fs => (Except.ok reply, fs)
      | .error fault fs => (Except.error fault, fs)
    let (replies, fs) := attemptAll s ops fs
    (reply :: replies, fs)

/-- Every operation but the deletion reads the file before all else. -/
theorem run_of_load_error (h : s.load fs = .error fault fs) {op : Operation} (hop : op ≠ .clear) :
    op.run s fs = .error fault fs := by
  cases op with
  | set key value => rw [run, map_apply, insert_eq, h]
  | remove key => rw [run, map_apply, erase_eq, h]
  | get key => rw [run, map_apply, get?_eq, h]
  | loadAll => rw [run, map_apply, h]
  | clear => exact absurd rfl hop

theorem attemptAll_of_load_error (h : s.load fs = .error fault fs) {ops : List Operation}
    (hops : ∀ op ∈ ops, op ≠ .clear) :
    attemptAll s ops fs = (ops.map fun _ => .error fault, fs) := by
  induction ops with
  | nil => rfl
  | cons op ops ih =>
    obtain ⟨hop, hops⟩ := List.forall_mem_cons.1 hops
    rw [attemptAll, run_of_load_error h hop]
    simp only [ih hops]
    rfl

end Operation

end Scratch

namespace Profile

variable {s : Scratch} {fs : Files} {fault : Fault}

theorem load_of_load_error (h : s.load fs = .error fault fs) : load s fs = .error fault fs := by
  rw [load, bind_apply, h]

theorem save_of_load_error (h : s.load fs = .error fault fs) (p : Profile) :
    p.save s fs = .error fault fs := by
  have hcategory : saveCategory s p.category fs = .error fault fs := by
    cases p.category with
    | none => rw [saveCategory, Scratch.erase_eq, h]
    | some c => rw [saveCategory, map_apply, Scratch.insert_eq, h]
  rw [save, bind_apply, hcategory]

end Profile

namespace Scratch

open Files

variable {s : Scratch} {fs : Files} {loc : Location} {node : Node} {m : Entries}

/-! ## Successes -/

theorem insert_of_load (hlocate : fs.locate? s.path = some loc) (hloc : fs.get? loc ≠ some .folder)
    (hload : s.load fs = .ok m fs) (key value : String) :
    ∃ size fs', s.insert key value fs = .ok size fs' ∧ s.load fs' = .ok (m.insert key value) fs' := by
  obtain ⟨fs', hstore, hwrites, -⟩ := store_of_locate? hlocate hloc (m.insert key value)
  refine ⟨(m.insert key value).size, fs', ?_, hwrites.holds.load⟩
  rw [insert_eq, hload]
  exact hstore

theorem erase_of_load (hlocate : fs.locate? s.path = some loc) (hloc : fs.get? loc ≠ some .folder)
    (hload : s.load fs = .ok m fs) (key : String) :
    ∃ removed fs', s.erase key fs = .ok removed fs' ∧ s.load fs' = .ok (m.erase key) fs' := by
  rw [erase_eq, hload]
  dsimp only
  split
  · obtain ⟨fs', hstore, hwrites, -⟩ := store_of_locate? hlocate hloc (m.erase key)
    exact ⟨some (m.erase key).size, fs', by rw [hstore], hwrites.holds.load⟩
  · rename_i hcontains
    refine ⟨none, fs, rfl, ?_⟩
    rw [SortedMap.erase_eq_self (Bool.eq_false_iff.2 hcontains), hload]

theorem clear_of_file {bytes : ByteArray} (hlocate : fs.locate? s.path = some loc)
    (hfile : fs.get? loc = some (.file bytes)) :
    ∃ fs', s.clear fs = .ok true fs' ∧ s.load fs' = .ok ∅ fs' := by
  rcases clear_cases s fs with ⟨hcontains, -⟩ | ⟨fs', hclear, hlocate', -, hset⟩ |
    ⟨loc', hlocate', hfolder, -⟩
  · have hthere : fs.contains s.path = true :=
      contains_iff.2 ⟨loc, hlocate, by rw [hfile]; nofun⟩
    cases hthere.symm.trans hcontains
  · have hgone : s.Holds fs' none :=
      contains_eq_false (hset.locate?_eq _ ▸ hlocate') hset.get?_self
    exact ⟨fs', hclear, hgone.load⟩
  · cases hlocate.symm.trans hlocate'
    cases hfile.symm.trans hfolder

/-- What the operations on a store do, by what is in the place of its file.  They succeed just if it
denotes entries; else whatever reads it fails in the same way, any number of times in any order, and
changes nothing.  A file is deleted whatever it holds, which leaves a store without entries. -/
theorem operations_by_contents (hlocate : fs.locate? s.path = some loc)
    (hnode : fs.get? loc = some node) :
    (∀ m, Denotes node m →
      s.load fs = .ok m fs ∧ (∀ key, s.get? key fs = .ok (m.get? key) fs) ∧
      (∀ key value, ∃ size fs', s.insert key value fs = .ok size fs' ∧
        s.load fs' = .ok (m.insert key value) fs') ∧
      ∀ key, ∃ removed fs', s.erase key fs = .ok removed fs' ∧
        s.load fs' = .ok (m.erase key) fs') ∧
    ((∀ m, ¬ Denotes node m) → ∃ fault, s.Refuses node fault ∧
      (∀ ops : List Operation, (∀ op ∈ ops, op ≠ .clear) →
        Operation.attemptAll s ops fs = (ops.map fun _ => .error fault, fs)) ∧
      Profile.load s fs = .error fault fs ∧ ∀ p : Profile, p.save s fs = .error fault fs) ∧
    (node ≠ .folder → ∃ fs', s.clear fs = .ok true fs' ∧ s.load fs' = .ok ∅ fs') := by
  refine ⟨fun m hm => ?_, fun hnone => ?_, fun hfile => ?_⟩
  · have hload : s.load fs = .ok m fs := hm.load hlocate hnode
    have hloc : fs.get? loc ≠ some .folder := by
      obtain ⟨text, -, rfl, -⟩ := hm
      rw [hnode]
      nofun
    refine ⟨hload, fun key => ?_, insert_of_load hlocate hloc hload, erase_of_load hlocate hloc hload⟩
    rw [get?_eq, hload]
  · obtain ⟨fault, hrefuses⟩ := exists_refuses s hnone
    have hload : s.load fs = .error fault fs := hrefuses.load hlocate hnode
    exact ⟨fault, hrefuses, fun ops => Operation.attemptAll_of_load_error hload,
      Profile.load_of_load_error hload, Profile.save_of_load_error hload⟩
  · cases node with
    | folder => exact absurd rfl hfile
    | file bytes => exact clear_of_file hlocate hnode

/-- The files of a store whose file holds a text. -/
def filesHolding (text : String) : Files where
  root := .folder [("state", .folder [("session.json", .file text.toUTF8)])]

/-- One key written in two ways, the second time with a pair of surrogates for a value. -/
def pairedText : String :=
  "\x7b\"a\": \"1\", \"\\u0061\" : \"\\uD83d\\ude00\"\x7d\n"

/-- A surrogate that stands alone. -/
def loneText : String :=
  "\x7b\"a\": \"\\ud83d\"\x7d"

theorem operations_by_contents_surrogates :
    let s : Scratch := ⟨"state"⟩
    let paired := filesHolding pairedText
    let lone := filesHolding loneText
    s.load paired = .ok (SortedMap.insert ∅ "a" "😀") paired ∧
      (∃ fault, s.Refuses (.file loneText.toUTF8) fault ∧
        Operation.attemptAll s [.get "a", .set "a" "b", .remove "b", .get "a", .loadAll] lone =
          (List.replicate 5 (.error fault), lone) ∧
        Profile.load s lone = .error fault lone) ∧
      ∃ fs', s.clear lone = .ok true fs' ∧ s.load fs' = .ok ∅ fs' := by
  intro s paired lone
  have hpaired : Denotes (.file pairedText.toUTF8) (SortedMap.insert ∅ "a" "😀") :=
    denotes_file_iff.2 (by decide +kernel)
  have hlone (m : Entries) : ¬ Denotes (.file loneText.toUTF8) m := by
    have hnone : Entries.ofText? loneText = none := by decide +kernel
    rw [denotes_file_iff, hnone]
    nofun
  have hlocate : paired.locate? s.path = some ["state", "session.json"] := by decide +kernel
  have hlocate' : lone.locate? s.path = some ["state", "session.json"] := by decide +kernel
  have hnode : paired.get? ["state", "session.json"] = some (.file pairedText.toUTF8) := rfl
  have hnode' : lone.get? ["state", "session.json"] = some (.file loneText.toUTF8) := rfl
  obtain ⟨hloads, -⟩ := operations_by_contents hlocate hnode
  obtain ⟨-, hfails, hclear⟩ := operations_by_contents hlocate' hnode'
  obtain ⟨fault, hrefuses, hattempt, hprofile, -⟩ := hfails hlone
  refine ⟨(hloads _ hpaired).1, ⟨fault, hrefuses, ?_, hprofile⟩, hclear nofun⟩
  refine hattempt _ fun op hop => ?_
  simp only [List.mem_cons, List.not_mem_nil, or_false] at hop
  rcases hop with rfl | rfl | rfl | rfl | rfl <;> nofun

end Scratch

end Temperament
