import Temperament.Files.Path

/-!
# Joined paths

A text that does not begin with a slash is joined to a path by putting its parts behind those of the
path (`parts_join_of_head?_ne`), whether or not the path ends in a slash, and whether it is empty or
not.  A name is one more part at its end (`parts_join`).
-/

namespace Temperament.Path

/-! ## Pieces -/

theorem splitSlashes_append_slash (cs ds : List Char) :
    splitSlashes (cs ++ '/' :: ds) = splitSlashes cs ++ splitSlashes ds := by
  induction cs with
  | nil => rfl
  | cons c cs ih =>
    rw [List.cons_append, splitSlashes, splitSlashes]
    split
    · rw [ih, List.cons_append]
    · rw [ih]
      rcases h : splitSlashes cs with _ | ⟨piece, pieces⟩
      · exact absurd h (splitSlashes_ne_nil cs)
      · rfl

theorem splitSlashes_of_notMem {cs : List Char} (h : '/' ∉ cs) : splitSlashes cs = [cs] := by
  induction cs with
  | nil => rfl
  | cons c cs ih =>
    obtain ⟨hc, hcs⟩ := not_or.1 (mt List.mem_cons.2 h)
    rw [splitSlashes, if_neg (Ne.symm hc), ih hcs]

theorem isAbsolute_ofText (s : String) :
    (ofText s).isAbsolute = (s.toList.head? = some '/' : Bool) := by
  rw [isAbsolute, ofText]
  cases s.toList with
  | nil => rfl
  | cons c cs =>
    rcases h : splitSlashes cs with _ | ⟨piece, pieces⟩
    · exact absurd h (splitSlashes_ne_nil cs)
    · by_cases hc : c = '/'
      · simp [splitSlashes, hc, h]
      · cases pieces <;> simp [splitSlashes, hc, h]

/-! ## Joining a text -/

variable {base name rest : String}

/-- The ways in which a text is joined: to nothing, behind a slash, or with a slash before it. -/
theorem join_cases (base : String) (hrest : rest.toList.head? ≠ some '/') :
    (base = "" ∧ join base rest = rest) ∨
    (∃ cs, base.toList = cs ++ ['/'] ∧ (join base rest).toList = cs ++ '/' :: rest.toList) ∨
    (base ≠ "" ∧ (join base rest).toList = base.toList ++ '/' :: rest.toList) := by
  by_cases hempty : base = ""
  · exact .inl ⟨hempty, by rw [join, hempty]; simp⟩
  · have hcond : ¬(rest.toList.head? = some '/' ∨ base.isEmpty = true) := by
      simp [hrest, hempty]
    rw [join, if_neg (by simpa using hcond)]
    split
    · rename_i hlast
      obtain ⟨cs, hcs⟩ := List.getLast?_eq_some_iff.1 hlast
      exact .inr (.inl ⟨cs, hcs, by simp [hcs]⟩)
    · exact .inr (.inr ⟨hempty, by simp⟩)

theorem parts_join_of_head?_ne (hrest : rest.toList.head? ≠ some '/') :
    (ofText (join base rest)).parts = (ofText base).parts ++ (ofText rest).parts := by
  rcases join_cases base hrest with ⟨rfl, h⟩ | ⟨cs, hbase, h⟩ | ⟨-, h⟩
  · rw [h]
    rfl
  · simp only [parts, ofText, h, hbase, splitSlashes_append_slash, List.map_append,
      List.filter_append]
    simp [splitSlashes]
  · simp only [parts, ofText, h, splitSlashes_append_slash, List.map_append, List.filter_append]

theorem isAbsolute_join_of_head?_ne (hrest : rest.toList.head? ≠ some '/') :
    (ofText (join base rest)).isAbsolute = (ofText base).isAbsolute := by
  rw [isAbsolute_ofText, isAbsolute_ofText]
  rcases join_cases base hrest with ⟨rfl, h⟩ | ⟨cs, hbase, h⟩ | ⟨hne, h⟩
  · simp [h, hrest]
  · rw [h, hbase]
    cases cs <;> rfl
  · rw [h]
    rcases hbase : base.toList with _ | ⟨c, cs⟩
    · exact absurd (String.toList_eq_nil_iff.1 hbase) hne
    · rfl

/-! ## Joining a name -/

/-- Whether a text is a name that can stand at the end of a path and is neither `.` nor `..`. -/
structure IsFileName (name : String) : Prop where
  notMem_slash : '/' ∉ name.toList
  ne_empty : name ≠ ""
  ne_dot : name ≠ "."
  ne_dotDot : name ≠ ".."
  isName : isName name = true

theorem IsFileName.splitSlashes {name : String} (h : IsFileName name) :
    splitSlashes name.toList = [name.toList] :=
  splitSlashes_of_notMem h.notMem_slash

theorem IsFileName.head?_ne {name : String} (h : IsFileName name) :
    name.toList.head? ≠ some '/' := fun hhead =>
  h.notMem_slash (List.mem_of_mem_head? hhead)

theorem isFileName_session : IsFileName "session.json" := by
  constructor <;> decide

theorem isFileName_config : IsFileName "config.toml" := by
  constructor <;> decide

theorem parts_join (hname : IsFileName name) :
    (ofText (join base name)).parts = (ofText base).parts ++ [name] := by
  have hone : (ofText name).parts = [name] := by
    rw [parts, ofText, hname.splitSlashes, List.map_singleton, String.ofList_toList,
      List.filter_cons_of_pos]
    · rfl
    · simpa using hname.ne_empty
  rw [parts_join_of_head?_ne hname.head?_ne, hone]

theorem isAbsolute_join (hname : IsFileName name) :
    (ofText (join base name)).isAbsolute = (ofText base).isAbsolute :=
  isAbsolute_join_of_head?_ne hname.head?_ne

theorem endsInSlash_join (hname : IsFileName name) :
    (ofText (join base name)).endsInSlash = false := by
  have hlast (cs : List Char) :
      ((splitSlashes (cs ++ '/' :: name.toList)).map String.ofList).tail.getLast? = some name := by
    rw [splitSlashes_append_slash, hname.splitSlashes]
    rcases h : splitSlashes cs with _ | ⟨piece, pieces⟩
    · exact absurd h (splitSlashes_ne_nil cs)
    · simp
  have hne : ¬some name = some "" := fun h => hname.ne_empty (Option.some.inj h)
  rcases join_cases base hname.head?_ne with ⟨rfl, h⟩ | ⟨cs, hbase, h⟩ | ⟨-, h⟩
  · rw [h, endsInSlash, ofText, hname.splitSlashes]
    rfl
  · rw [endsInSlash, ofText, h, hlast]
    exact decide_eq_false hne
  · rw [endsInSlash, ofText, h, hlast]
    exact decide_eq_false hne

theorem isEmpty_join (hname : IsFileName name) : (ofText (join base name)).isEmpty = false := by
  simp [isEmpty, parts_join hname]

theorem size_le_size_join (hname : IsFileName name) :
    (ofText base).size ≤ (ofText (join base name)).size := by
  have hcont : ∃ more, join base name = base ++ more := by
    rcases join_cases base hname.head?_ne with ⟨rfl, h⟩ | ⟨cs, hbase, h⟩ | ⟨-, h⟩
    · exact ⟨name, by rw [h, String.empty_append]⟩
    · exact ⟨name, String.toList_injective (by simp [h, hbase])⟩
    · exact ⟨"/" ++ name, String.toList_injective (by simp [h])⟩
  obtain ⟨more, h⟩ := hcont
  rw [size, size, text_ofText, text_ofText, h, String.utf8ByteSize_append]
  exact Nat.le_add_right _ _

theorem isUsable_of_isUsable_join (hname : IsFileName name)
    (h : (ofText (join base name)).isUsable = true) : (ofText base).isUsable = true := by
  rw [isUsable, parts_join hname, Bool.and_eq_true, decide_eq_true_eq] at h
  rw [isUsable, Bool.and_eq_true, decide_eq_true_eq]
  refine ⟨Nat.le_trans (size_le_size_join hname) h.1, ?_⟩
  have hparts := h.2
  rw [List.any_append, Bool.not_or, Bool.and_eq_true] at hparts
  exact hparts.1

end Temperament.Path
