import Mathlib.Data.List.Nodup
import Temperament.Toml.Statement

/-!
# Distinct keys

No table of a document has a key twice, at any depth (`areDistinct_of_ofText?`).  Each change of a
table keeps its keys distinct, whatever path leads to it (`keepsDistinct_update?`), and what is read as a
value has distinct keys already.  So the order of the entries of a table does not matter
(`lookup_eq_some_iff_mem`).
-/

namespace Temperament.Toml

/-! ## Look-ups -/

theorem notMem_keys_of_lookup {entries : Entries} {key : String} (h : entries.lookup key = none) :
    key ∉ entries.map Prod.fst := by
  intro hmem
  obtain ⟨entry, hentry, rfl⟩ := List.mem_map.1 hmem
  simpa using List.lookup_eq_none_iff.1 h entry hentry

theorem mem_of_lookup {entries : Entries} {key : String} {v : Toml}
    (h : entries.lookup key = some v) : (key, v) ∈ entries := by
  obtain ⟨before, after, rfl, -⟩ := List.lookup_eq_some_iff.1 h
  exact List.mem_append_right _ List.mem_cons_self

theorem lookup_eq_some_iff_mem {entries : Entries} (h : (entries.map Prod.fst).Nodup)
    {key : String} {v : Toml} : entries.lookup key = some v ↔ (key, v) ∈ entries := by
  refine ⟨mem_of_lookup, fun hmem => ?_⟩
  cases hlookup : entries.lookup key with
  | none => exact absurd (List.mem_map_of_mem hmem) (notMem_keys_of_lookup hlookup)
  | some v' =>
    have hsame := List.inj_on_of_nodup_map h hmem (mem_of_lookup hlookup) rfl
    rw [(Prod.mk.inj hsame).2]

/-! ## Values -/

/-- No table in a value has a key twice. -/
inductive HasDistinctKeys : Toml → Prop
  | text (s : String) : HasDistinctKeys (text s)
  | integer (n : Int) : HasDistinctKeys (integer n)
  | boolean (b : Bool) : HasDistinctKeys (boolean b)
  | float (literal : List Char) : HasDistinctKeys (float literal)
  | moment (literal : List Char) : HasDistinctKeys (moment literal)
  | array {items : List Toml} (h : ∀ v ∈ items, HasDistinctKeys v) : HasDistinctKeys (array items)
  | inline {entries : Entries} (hkeys : (entries.map Prod.fst).Nodup)
    (h : ∀ entry ∈ entries, HasDistinctKeys entry.2) : HasDistinctKeys (inline entries)
  | table {origin : Origin} {entries : Entries} (hkeys : (entries.map Prod.fst).Nodup)
    (h : ∀ entry ∈ entries, HasDistinctKeys entry.2) : HasDistinctKeys (table origin entries)
  | tables {elements : List Entries} (hkeys : ∀ entries ∈ elements, (entries.map Prod.fst).Nodup)
    (h : ∀ entries ∈ elements, ∀ entry ∈ entries, HasDistinctKeys entry.2) :
    HasDistinctKeys (tables elements)

/-- No key occurs twice, neither here nor in a table further inside. -/
structure Entries.AreDistinct (entries : Entries) : Prop where
  nodup_keys : (entries.map Prod.fst).Nodup
  hasDistinctKeys : ∀ entry ∈ entries, entry.2.HasDistinctKeys

namespace Entries

variable {entries : Entries} {key : String} {v : Toml}

theorem AreDistinct.nil : AreDistinct [] :=
  ⟨List.nodup_nil, nofun⟩

theorem AreDistinct.of_lookup (h : entries.AreDistinct) (hlookup : entries.lookup key = some v) :
    v.HasDistinctKeys :=
  h.hasDistinctKeys (key, v) (mem_of_lookup hlookup)

theorem AreDistinct.concat (h : entries.AreDistinct) (hlookup : entries.lookup key = none)
    (hv : v.HasDistinctKeys) : AreDistinct (entries ++ [(key, v)]) := by
  refine ⟨?_, fun entry hentry => ?_⟩
  · rw [List.map_append, List.map_singleton]
    rw [← List.concat_eq_append]
    exact h.nodup_keys.concat (notMem_keys_of_lookup hlookup)
  · rcases List.mem_append.1 hentry with hold | hnew
    · exact h.hasDistinctKeys entry hold
    · rw [List.mem_singleton.1 hnew]
      exact hv

theorem keys_put (entries : Entries) (key : String) (v : Toml) :
    (entries.put key v).map Prod.fst = entries.map Prod.fst := by
  rw [put, List.map_map]
  refine List.map_congr_left fun entry _ => ?_
  show (if entry.1 = key then (key, v) else entry).1 = entry.1
  split
  · rename_i hkey
    exact hkey.symm
  · rfl

theorem AreDistinct.put (h : entries.AreDistinct) (key : String) (hv : v.HasDistinctKeys) :
    (entries.put key v).AreDistinct := by
  refine ⟨by rw [keys_put]; exact h.nodup_keys, fun entry hentry => ?_⟩
  obtain ⟨old, hold, rfl⟩ := List.mem_map.1 hentry
  split
  · exact hv
  · exact h.hasDistinctKeys old hold

end Entries

theorem hasDistinctKeys_table {entries : Entries} (origin : Origin) (h : entries.AreDistinct) :
    (table origin entries).HasDistinctKeys :=
  .table h.nodup_keys h.hasDistinctKeys

theorem hasDistinctKeys_tables {elements : List Entries} (h : ∀ entries ∈ elements,
    entries.AreDistinct) : (tables elements).HasDistinctKeys :=
  .tables (fun entries hentries => (h entries hentries).nodup_keys)
    fun entries hentries => (h entries hentries).hasDistinctKeys

theorem HasDistinctKeys.of_table {origin : Origin} {entries : Entries}
    (h : (Toml.table origin entries).HasDistinctKeys) : entries.AreDistinct := by
  cases h with
  | table hkeys h => exact ⟨hkeys, h⟩

theorem HasDistinctKeys.of_tables {elements : List Entries}
    (h : (Toml.tables elements).HasDistinctKeys) : ∀ entries ∈ elements, entries.AreDistinct := by
  cases h with
  | tables hkeys h => exact fun entries hentries => ⟨hkeys entries hentries, h entries hentries⟩

theorem HasDistinctKeys.entries? {v : Toml} {entries : Entries} (h : v.HasDistinctKeys)
    (hv : v.entries? = some entries) : entries.AreDistinct := by
  cases h with
  | inline hkeys h | table hkeys h =>
    cases hv
    exact ⟨hkeys, h⟩
  | text | integer | boolean | float | moment | array | tables => cases hv

/-! ## Changes -/

/-- A partial change of a table that keeps keys distinct. -/
def KeepsDistinct (change : Origin → Entries → Option Entries) : Prop :=
  ∀ origin (entries entries' : Entries), change origin entries = some entries' →
    entries.AreDistinct → entries'.AreDistinct

theorem keepsDistinct_update? {change : Origin → Entries → Option Entries}
    (hchange : KeepsDistinct change) (made : Origin) (path : List String) :
    KeepsDistinct (update? made change path) := by
  intro origin entries entries' h hentries
  -- each case is one way to go on along the path
  fun_induction update? made change path origin entries generalizing entries' with
  | case1 => exact hchange _ _ _ h hentries
  | case2 key path _ entries hlookup ih =>
    obtain ⟨inner, hinner, rfl⟩ := Option.map_eq_some_iff.1 h
    exact hentries.concat hlookup (hasDistinctKeys_table made (ih inner hinner .nil))
  | case3 => cases h
  | case4 key path _ entries origin inner hlookup _ ih =>
    obtain ⟨inner', hinner, rfl⟩ := Option.map_eq_some_iff.1 h
    have hold := (hentries.of_lookup hlookup).of_table
    exact hentries.put key (hasDistinctKeys_table origin (ih inner' hinner hold))
  | case5 key path _ entries last others hlookup ih =>
    obtain ⟨last', hlast, rfl⟩ := Option.map_eq_some_iff.1 h
    obtain ⟨hold, hothers⟩ := List.forall_mem_cons.1 (hentries.of_lookup hlookup).of_tables
    exact hentries.put key (hasDistinctKeys_tables
      (List.forall_mem_cons.2 ⟨ih last' hlast hold, hothers⟩))
  | case6 => cases h

theorem keepsDistinct_insertNew? (isDotted : Bool) (key : String) {v : Toml}
    (hv : v.HasDistinctKeys) : KeepsDistinct (insertNew? isDotted key v) := by
  intro origin entries entries' h hentries
  unfold insertNew? at h
  split_ifs at h with _ hthere
  cases h
  exact hentries.concat (Option.not_isSome_iff_eq_none.1 hthere) hv

section

variable {path : List String} {key : String} {entries entries' : Entries}

theorem areDistinct_assign? {v : Toml} (hv : v.HasDistinctKeys)
    (h : assign? path key v entries = some entries') (hentries : entries.AreDistinct) :
    entries'.AreDistinct :=
  keepsDistinct_update? (keepsDistinct_insertNew? _ key hv) _ path _ _ _ h hentries

theorem areDistinct_foldlM_assign? {members : List ((List String × String) × Toml)}
    (hmembers : ∀ member ∈ members, member.2.HasDistinctKeys)
    (h : members.foldlM (fun entries (key, v) => assign? key.1 key.2 v entries) entries =
      some entries') (hentries : entries.AreDistinct) : entries'.AreDistinct := by
  induction members generalizing entries with
  | nil =>
    cases h
    exact hentries
  | cons member members ih =>
    obtain ⟨hmember, hmembers⟩ := List.forall_mem_cons.1 hmembers
    obtain ⟨next, hnext, hrest⟩ := Option.bind_eq_some_iff.1 h
    exact ih hmembers hrest (areDistinct_assign? hmember hnext hentries)

theorem areDistinct_assignBelow? {header : List String} {v : Toml} (hv : v.HasDistinctKeys)
    (h : assignBelow? header path key v entries = some entries') (hentries : entries.AreDistinct) :
    entries'.AreDistinct :=
  keepsDistinct_update? (fun _ _ _ => areDistinct_assign? hv) _ header _ _ _ h hentries

theorem areDistinct_openTable? (h : openTable? path key entries = some entries')
    (hentries : entries.AreDistinct) : entries'.AreDistinct := by
  refine keepsDistinct_update? (fun _ entries entries' h hentries => ?_) _ path _ _ _ h hentries
  split at h
  · rename_i hlookup
    cases h
    exact hentries.concat hlookup (hasDistinctKeys_table _ .nil)
  · rename_i inner hlookup
    cases h
    exact hentries.put key (hasDistinctKeys_table _ (hentries.of_lookup hlookup).of_table)
  · cases h

theorem areDistinct_pushTable? (h : pushTable? path key entries = some entries')
    (hentries : entries.AreDistinct) : entries'.AreDistinct := by
  refine keepsDistinct_update? (fun _ entries entries' h hentries => ?_) _ path _ _ _ h hentries
  split at h
  · rename_i hlookup
    cases h
    exact hentries.concat hlookup
      (hasDistinctKeys_tables (List.forall_mem_singleton.2 .nil))
  · rename_i elements hlookup
    cases h
    exact hentries.put key (hasDistinctKeys_tables
      (List.forall_mem_cons.2 ⟨.nil, (hentries.of_lookup hlookup).of_tables⟩))
  · cases h

end

/-! ## Reading values -/

/-- All that is read has distinct keys. -/
def ReadsDistinct (read? : List Char → Option (Toml × List Char)) : Prop :=
  ∀ cs v rest, read? cs = some (v, rest) → v.HasDistinctKeys

theorem ReadsDistinct.orElse {read? read?' : List Char → Option (Toml × List Char)}
    (h : ReadsDistinct read?) (h' : ReadsDistinct read?') :
    ReadsDistinct fun cs => read? cs <|> read?' cs := by
  intro cs v rest hread
  rcases Option.or_eq_some_iff.1 (Option.orElse_eq_or.symm.trans hread) with hread | ⟨-, hread⟩
  · exact h cs v rest hread
  · exact h' cs v rest hread

theorem readsDistinct_readBoolean? : ReadsDistinct readBoolean? := by
  intro cs v rest h
  unfold readBoolean? at h
  split at h <;> cases h <;> exact .boolean _

theorem readsDistinct_readMoment? : ReadsDistinct readMoment? := by
  intro cs v rest h
  rw [readMoment?] at h
  split at h
  · cases h
    exact .moment _
  · obtain ⟨_, -, heq⟩ := Option.bind_eq_some_iff.1 h
    cases heq
    exact .moment _

theorem readsDistinct_readFloat? : ReadsDistinct readFloat? := by
  intro cs v rest h
  rw [readFloat?] at h
  dsimp only at h
  split at h
  · cases h
    exact .float _
  · cases h
    exact .float _
  · obtain ⟨_, -, h⟩ := Option.bind_eq_some_iff.1 h
    obtain ⟨_, -, h⟩ := Option.bind_eq_some_iff.1 h
    obtain ⟨_, -, h⟩ := Option.bind_eq_some_iff.1 h
    split_ifs at h
    cases h
    exact .float _

theorem readsDistinct_readBased? (isDigit : Char → Bool) (base : Nat) :
    ReadsDistinct (readBased? isDigit base) := by
  intro cs v rest h
  rw [readBased?] at h
  obtain ⟨_, -, h⟩ := Option.bind_eq_some_iff.1 h
  obtain ⟨_, -, h⟩ := Option.bind_eq_some_iff.1 h
  split_ifs at h
  cases h
  exact .integer _

theorem readsDistinct_readDecimal? : ReadsDistinct readDecimal? := by
  intro cs v rest h
  rw [readDecimal?] at h
  obtain ⟨_, -, h⟩ := Option.bind_eq_some_iff.1 h
  dsimp only at h
  split_ifs at h <;> cases h <;> exact .integer _

theorem readsDistinct_readInteger? : ReadsDistinct readInteger? := by
  intro cs v rest h
  unfold readInteger? at h
  split at h
  · exact readsDistinct_readBased? _ _ _ v rest h
  · exact readsDistinct_readBased? _ _ _ v rest h
  · exact readsDistinct_readBased? _ _ _ v rest h
  · exact readsDistinct_readDecimal? cs v rest h

theorem readsDistinct_readFlat? : ReadsDistinct readFlat? := by
  intro cs v rest h
  unfold readFlat? at h
  split at h
  · cases h
    exact .text _
  · exact readsDistinct_readBoolean?.orElse (readsDistinct_readMoment?.orElse
      (readsDistinct_readFloat?.orElse readsDistinct_readInteger?)) cs v rest h

/-- What holds of each part holds of all parts that are read. -/
theorem forall_of_readSeparated? {α : Type} {read? : List Char → Option (α × List Char)}
    {p : α → Prop} (hread : ∀ cs part rest, read? cs = some (part, rest) → p part) {fuel : Nat}
    {cs rest : List Char} {parts : List α} (h : readSeparated? read? fuel cs = some (parts, rest)) :
    ∀ part ∈ parts, p part := by
  induction fuel generalizing cs rest parts with
  | zero => cases h
  | succ fuel ih =>
    rw [readSeparated?] at h
    obtain ⟨⟨part, after⟩, hpart, h⟩ := Option.bind_eq_some_iff.1 h
    have hfirst := hread cs part after hpart
    dsimp only at h
    split at h
    · split at h
      · rename_i hmore
        cases h
        exact List.forall_mem_cons.2 ⟨hfirst, ih hmore⟩
      · cases h
        exact List.forall_mem_singleton.2 hfirst
    · cases h
      exact List.forall_mem_singleton.2 hfirst

theorem forall_of_getD_readSeparated? {α : Type} {read? : List Char → Option (α × List Char)}
    {p : α → Prop} (hread : ∀ cs part rest, read? cs = some (part, rest) → p part) {fuel : Nat}
    {cs none rest : List Char} {parts : List α}
    (h : (readSeparated? read? fuel cs).getD ([], none) = (parts, rest)) :
    ∀ part ∈ parts, p part := by
  cases hparts : readSeparated? read? fuel cs with
  | none =>
    rw [hparts] at h
    cases h
    nofun
  | some parts' =>
    rw [hparts] at h
    cases h
    exact forall_of_readSeparated? hread hparts

section

variable {readValue? : List Char → Option (Toml × List Char)} (hread : ReadsDistinct readValue?)

include hread

theorem readsDistinct_readItems? : ReadsDistinct (readItems? readValue?) := by
  intro cs v rest h
  rw [readItems?] at h
  dsimp only at h
  generalize hparts : Option.getD _ _ = parts at h
  obtain ⟨items, after⟩ := parts
  have hitems : ∀ v ∈ items, HasDistinctKeys v := by
    refine forall_of_getD_readSeparated? (fun cs v rest hv => ?_) hparts
    obtain ⟨⟨v', rest'⟩, hv', heq⟩ := Option.bind_eq_some_iff.1 hv
    cases heq
    exact hread _ _ _ hv'
  dsimp only at h
  split at h
  all_goals
    obtain ⟨_, -, heq⟩ := Option.map_eq_some_iff.1 h
    cases heq
    exact .array hitems

theorem readsDistinct_readMembers? : ReadsDistinct (readMembers? readValue?) := by
  intro cs v rest h
  rw [readMembers?] at h
  dsimp only at h
  generalize hparts : Option.getD _ _ = parts at h
  obtain ⟨members, after⟩ := parts
  have hmembers : ∀ member ∈ members, member.2.HasDistinctKeys := by
    refine forall_of_getD_readSeparated? (fun cs member rest hmember => ?_) hparts
    obtain ⟨_, -, hmember⟩ := Option.bind_eq_some_iff.1 hmember
    obtain ⟨_, -, hmember⟩ := Option.bind_eq_some_iff.1 hmember
    obtain ⟨⟨v', rest'⟩, hv', heq⟩ := Option.bind_eq_some_iff.1 hmember
    cases heq
    exact hread _ _ _ hv'
  obtain ⟨_, -, h⟩ := Option.bind_eq_some_iff.1 h
  obtain ⟨entries, hentries, heq⟩ := Option.bind_eq_some_iff.1 h
  cases heq
  obtain ⟨hkeys, hvalues⟩ := areDistinct_foldlM_assign? hmembers hentries .nil
  exact .inline hkeys hvalues

end

theorem readsDistinct_readNested? (depth : Nat) : ReadsDistinct (readNested? depth) := by
  induction depth with
  | zero => exact readsDistinct_readFlat?
  | succ depth ih =>
    intro cs v rest h
    unfold readNested? at h
    split at h
    · exact readsDistinct_readItems? ih _ v rest h
    · exact readsDistinct_readMembers? ih _ v rest h
    · exact readsDistinct_readFlat? cs v rest h

/-! ## Documents -/

/-- The value that a statement assigns, if it does, has distinct keys. -/
def Statement.HasDistinctValue : Statement → Prop
  | .assign _ _ v => v.HasDistinctKeys
  | _ => True

theorem hasDistinctValue_of_readStatement? {cs rest : List Char} {statement : Statement}
    (h : readStatement? cs = some (statement, rest)) : statement.HasDistinctValue := by
  unfold readStatement? at h
  split at h
  · obtain ⟨_, -, h⟩ := Option.bind_eq_some_iff.1 h
    obtain ⟨_, -, h⟩ := Option.bind_eq_some_iff.1 h
    obtain ⟨_, -, heq⟩ := Option.bind_eq_some_iff.1 h
    cases heq
    trivial
  · obtain ⟨_, -, h⟩ := Option.bind_eq_some_iff.1 h
    obtain ⟨_, -, heq⟩ := Option.bind_eq_some_iff.1 h
    cases heq
    trivial
  · rw [readAssignment?] at h
    obtain ⟨_, -, h⟩ := Option.bind_eq_some_iff.1 h
    obtain ⟨_, -, h⟩ := Option.bind_eq_some_iff.1 h
    obtain ⟨⟨v, after⟩, hv, heq⟩ := Option.bind_eq_some_iff.1 h
    cases heq
    exact readsDistinct_readNested? depthLimit _ _ _ hv

theorem hasDistinctValue_of_readLines? {fuel : Nat} {cs : List Char} {statements : List Statement}
    (h : readLines? fuel cs = some statements) :
    ∀ statement ∈ statements, statement.HasDistinctValue := by
  induction fuel generalizing cs statements with
  | zero => cases h
  | succ fuel ih =>
    rw [readLines?] at h
    split at h
    · cases h
      nofun
    · split at h
      · exact ih h
      · obtain ⟨⟨statement, after⟩, hstatement, h⟩ := Option.bind_eq_some_iff.1 h
        obtain ⟨_, -, h⟩ := Option.bind_eq_some_iff.1 h
        obtain ⟨statements', hrest, heq⟩ := Option.bind_eq_some_iff.1 h
        cases heq
        exact List.forall_mem_cons.2 ⟨hasDistinctValue_of_readStatement? hstatement, ih hrest⟩

theorem Draft.areDistinct_add? {draft draft' : Draft} {statement : Statement}
    (hstatement : statement.HasDistinctValue) (h : draft.add? statement = some draft')
    (hdraft : draft.entries.AreDistinct) : draft'.entries.AreDistinct := by
  cases statement with
  | assign path key v =>
    obtain ⟨entries, hentries, rfl⟩ := Option.map_eq_some_iff.1 h
    exact areDistinct_assignBelow? hstatement hentries hdraft
  | openTable path key =>
    obtain ⟨entries, hentries, rfl⟩ := Option.map_eq_some_iff.1 h
    exact areDistinct_openTable? hentries hdraft
  | pushTable path key =>
    obtain ⟨entries, hentries, rfl⟩ := Option.map_eq_some_iff.1 h
    exact areDistinct_pushTable? hentries hdraft

theorem Draft.areDistinct_foldlM_add? {statements : List Statement}
    (hstatements : ∀ statement ∈ statements, statement.HasDistinctValue) {draft draft' : Draft}
    (h : statements.foldlM Draft.add? draft = some draft') (hdraft : draft.entries.AreDistinct) :
    draft'.entries.AreDistinct := by
  induction statements generalizing draft with
  | nil =>
    cases h
    exact hdraft
  | cons statement statements ih =>
    obtain ⟨hstatement, hstatements⟩ := List.forall_mem_cons.1 hstatements
    obtain ⟨next, hnext, hrest⟩ := Option.bind_eq_some_iff.1 h
    exact ih hstatements hrest (areDistinct_add? hstatement hnext hdraft)

theorem areDistinct_of_ofText? {s : String} {entries : Entries}
    (h : Entries.ofText? s = some entries) : entries.AreDistinct := by
  obtain ⟨statements, hstatements, h⟩ := Option.bind_eq_some_iff.1 h
  obtain ⟨draft, hdraft, rfl⟩ := Option.map_eq_some_iff.1 h
  exact Draft.areDistinct_foldlM_add? (hasDistinctValue_of_readLines? hstatements) hdraft .nil

end Temperament.Toml
