/-!
# Trees of files

A tree is a file or a folder of named trees.  A location in it is the list of names that lead there.
Setting what is at a location changes the view of the tree there and nowhere else (`view_set`).
-/

namespace Temperament

abbrev Location := List String

inductive Tree
  | file (bytes : ByteArray)
  | folder (entries : List (String × Tree))
  deriving Inhabited

/-- What is at a location, without what is below it. -/
inductive Node
  | file (bytes : ByteArray)
  | folder

namespace Node

def isFolder : Node → Bool
  | folder => true
  | file _ => false

/-- The tree of a node with nothing below it. -/
def tree : Node → Tree
  | file bytes => .file bytes
  | folder => .folder []

end Node

namespace Tree

def node : Tree → Node
  | file bytes => .file bytes
  | folder _ => .folder

theorem node_tree (n : Node) : n.tree.node = n := by
  cases n <;> rfl

/-! ## Children -/

def child? (name : String) : Tree → Option Tree
  | file _ => none
  | folder entries => entries.lookup name

/-- A folder with another tree, or nothing, under a name. -/
def setChild (name : String) (new : Option Tree) : Tree → Tree
  | file bytes => file bytes
  | folder entries => folder (new.toList.map (name, ·) ++ entries.filter (·.1 != name))

theorem lookup_filter_ne {name name' : String} (entries : List (String × Tree)) :
    (entries.filter (·.1 != name)).lookup name' =
      if name' = name then none else entries.lookup name' := by
  induction entries with
  | nil => simp
  | cons e entries ih => by_cases he : e.1 = name <;> by_cases h : name' = e.1 <;> grind

theorem child?_setChild {name name' : String} {new : Option Tree} (entries : List (String × Tree)) :
    ((folder entries).setChild name new).child? name' =
      if name' = name then new else (folder entries).child? name' := by
  by_cases h : name' = name
  · cases new <;> simp [setChild, child?, lookup_filter_ne, h]
  · cases new <;> simp [setChild, child?, lookup_filter_ne, List.lookup_cons, h, beq_false_of_ne h]

theorem node_setChild (name : String) (new : Option Tree) (t : Tree) :
    (t.setChild name new).node = t.node := by
  cases t <;> rfl

/-! ## Locations -/

def get? : Tree → Location → Option Tree
  | t, [] => some t
  | t, name :: loc =>
    match t.child? name with
    | some t => t.get? loc
    | none => none

/-- Sets what is at a location below the tree; it has to be in a folder. -/
def set (new : Option Tree) : Location → Tree → Tree
  | [], t => t
  | name :: loc, t =>
    if loc.isEmpty then t.setChild name new
    else
      match t.child? name with
      | some child => t.setChild name (some (child.set new loc))
      | none => t

/-- What is at a location. -/
def view (t : Tree) (loc : Location) : Option Node :=
  (t.get? loc).map node

theorem view_nil (t : Tree) : t.view [] = some t.node := rfl

theorem view_cons (t : Tree) (name : String) (loc : Location) :
    t.view (name :: loc) = (t.child? name).bind (·.view loc) := by
  simp only [view, get?]
  cases t.child? name <;> rfl

theorem view_cons_of_ne_folder {t : Tree} (h : t.node ≠ .folder) (name : String) (loc : Location) :
    t.view (name :: loc) = none := by
  cases t with
  | file => rfl
  | folder => exact absurd rfl h

theorem view_tree (n : Node) (name : String) (loc : Location) :
    n.tree.view (name :: loc) = none := by
  cases n <;> rfl

theorem exists_folder_of_node {t : Tree} (h : t.node = .folder) :
    ∃ entries, t = folder entries := by
  cases t with
  | file => simp [node] at h
  | folder entries => exact ⟨entries, rfl⟩

theorem view_setChild (new : Option Node) {name : String} {t : Tree} (ht : t.node = .folder)
    (hold : t.view [name] ≠ some .folder) (loc : Location) :
    (t.setChild name (new.map Node.tree)).view loc = if loc = [name] then new else t.view loc := by
  cases loc with
  | nil => simp [view_nil, node_setChild]
  | cons name' loc =>
    obtain ⟨entries, rfl⟩ := exists_folder_of_node ht
    rw [view_cons, child?_setChild, view_cons]
    by_cases h : name' = name
    · subst h
      cases loc with
      | nil => cases new <;> simp [view_nil, node_tree]
      | cons name loc =>
        cases hc : (folder entries).child? name' with
        | none => cases new <;> simp [view_tree]
        | some child =>
          have : child.node ≠ .folder := by simpa [view_cons, hc, view_nil] using hold
          cases new <;> simp [view_tree, view_cons_of_ne_folder this]
    · simp [h]

theorem view_set (new : Option Node) {name : String} {folderLoc : Location} {t : Tree}
    (hfolder : t.view folderLoc = some .folder)
    (hold : t.view (folderLoc ++ [name]) ≠ some .folder) (loc : Location) :
    (t.set (new.map Node.tree) (folderLoc ++ [name])).view loc =
      if loc = folderLoc ++ [name] then new else t.view loc := by
  induction folderLoc generalizing t loc with
  | nil => simpa [set] using view_setChild new (by simpa [view_nil] using hfolder) hold loc
  | cons first folderLoc ih =>
    rw [view_cons] at hfolder
    cases hc : t.child? first with
    | none => simp [hc] at hfolder
    | some child =>
      rw [hc, Option.bind_some] at hfolder
      rw [List.cons_append, view_cons, hc, Option.bind_some] at hold
      have hne : (folderLoc ++ [name]).isEmpty = false := by simp
      simp only [List.cons_append, set, hne, Bool.false_eq_true, if_false, hc]
      cases loc with
      | nil => simp [view_nil, node_setChild]
      | cons name' loc =>
        obtain ⟨entries, rfl⟩ : ∃ entries, t = folder entries := by
          cases t with
          | file => simp [child?] at hc
          | folder entries => exact ⟨entries, rfl⟩
        rw [view_cons, child?_setChild, view_cons]
        by_cases h : name' = first
        · subst h
          simp [hc, ih hfolder hold loc]
        · simp [h]

/-! ## All of a tree -/

/-- All nodes of a tree that is at a location, a folder before what it holds. -/
def toList (loc : Location) : Tree → List (Location × Node)
  | file bytes => [(loc, .file bytes)]
  | folder entries =>
    (loc, .folder) :: entries.attach.flatMap fun ⟨(name, t), _⟩ => t.toList (loc ++ [name])
termination_by t => sizeOf t
decreasing_by
  have h := List.sizeOf_lt_of_mem ‹_›
  simp only [Prod.mk.sizeOf_spec] at h
  simp only [folder.sizeOf_spec]
  omega

end Tree

end Temperament
