import Temperament.Files.Path
import Temperament.Files.Tree

/-!
# Files

A tree of files seen from a working folder, where relative paths begin.  Every operation fails only
because of its path and of what the tree holds, and changes what is at its own location only
(`get?_put`, `get?_drop`).
-/

namespace Temperament

structure Files where
  root : Tree := .folder []
  workingFolder : Location := []

namespace Files

def get? (fs : Files) (loc : Location) : Option Node :=
  fs.root.view loc

def isFolderAt (fs : Files) (loc : Location) : Bool :=
  (fs.get? loc).any Node.isFolder

/-- Puts a file or an empty folder into a folder. -/
def put (fs : Files) (loc : Location) (node : Node) : Files :=
  { fs with root := fs.root.set (some node.tree) loc }

def drop (fs : Files) (loc : Location) : Files :=
  { fs with root := fs.root.set none loc }

theorem get?_put {fs : Files} {folderLoc : Location} {name : String}
    (hfolder : fs.get? folderLoc = some .folder)
    (hold : fs.get? (folderLoc ++ [name]) ≠ some .folder) (node : Node) (loc : Location) :
    (fs.put (folderLoc ++ [name]) node).get? loc =
      if loc = folderLoc ++ [name] then some node else fs.get? loc :=
  Tree.view_set (some node) hfolder hold loc

theorem get?_drop {fs : Files} {folderLoc : Location} {name : String}
    (hfolder : fs.get? folderLoc = some .folder)
    (hold : fs.get? (folderLoc ++ [name]) ≠ some .folder) (loc : Location) :
    (fs.drop (folderLoc ++ [name])).get? loc =
      if loc = folderLoc ++ [name] then none else fs.get? loc :=
  Tree.view_set none hfolder hold loc

/-- All files and folders, a folder before what it holds. -/
def toList (fs : Files) : List (Location × Node) :=
  fs.root.toList []

/-! ## Where a path leads -/

/-- Follows parts from a folder.  All but the last place on the way must be folders. -/
def walk? (fs : Files) : Location → List String → Option Location
  | loc, [] => some loc
  | loc, part :: parts =>
    if !fs.isFolderAt loc then none
    else if part = "." then fs.walk? loc parts
    else if part = ".." then fs.walk? loc.dropLast parts
    else if Path.isName part then fs.walk? (loc ++ [part]) parts
    else none

/-- The location where a path begins. -/
def start (fs : Files) (p : Path) : Location :=
  if p.isAbsolute then [] else fs.workingFolder

/-- The location of a path, whether or not something is there. -/
def place? (fs : Files) (p : Path) : Option Location :=
  if p.isEmpty || !p.isUsable then none else fs.walk? (fs.start p) p.parts

/-- The location of a path that may be a file; one with a slash at its end may not. -/
def locate? (fs : Files) (path : String) : Option Location :=
  (fs.place? (Path.ofText path)).filter fun loc =>
    !(Path.ofText path).endsInSlash || fs.isFolderAt loc

/-- The locations that parts pass by from a folder, if all on the way are folders. -/
def waypoints : Location → List String → List Location
  | loc, [] => [loc]
  | loc, part :: parts =>
    loc :: waypoints
      (if part = "." then loc else if part = ".." then loc.dropLast else loc ++ [part]) parts

/-- The locations that matter to a path. -/
def route (fs : Files) (path : String) : List Location :=
  waypoints (fs.start (Path.ofText path)) (Path.ofText path).parts

/-! ## Operations -/

def contains (fs : Files) (path : String) : Bool :=
  match fs.locate? path with
  | some loc => (fs.get? loc).isSome
  | none => false

def read? (fs : Files) (path : String) : Option ByteArray := do
  match fs.get? (← fs.locate? path) with
  | some (.file bytes) => some bytes
  | _ => none

/-- Reads a file that holds UTF-8 text. -/
def readText? (fs : Files) (path : String) : Option String :=
  (fs.read? path).bind String.fromUTF8?

def write? (fs : Files) (path : String) (bytes : ByteArray) : Option Files := do
  let loc ← fs.locate? path
  if fs.isFolderAt loc then none else some (fs.put loc (.file bytes))

def writeText? (fs : Files) (path : String) (s : String) : Option Files :=
  fs.write? path s.toUTF8

def remove? (fs : Files) (path : String) : Option Files := do
  let loc ← fs.locate? path
  match fs.get? loc with
  | some (.file _) => some (fs.drop loc)
  | _ => none

/-! ## Making folders -/

/-- Follows parts from a folder, and makes those that are missing on the way.  The result is whether
the way ends in a folder. -/
def makeAlong (fs : Files) : Location → List String → Bool × Files
  | loc, [] => (fs.isFolderAt loc, fs)
  | loc, part :: parts =>
    if !fs.isFolderAt loc then (false, fs)
    else if part = "." then fs.makeAlong loc parts
    else if part = ".." then fs.makeAlong loc.dropLast parts
    else if !Path.isName part then (false, fs)
    else
      let next := loc ++ [part]
      let fs := if (fs.get? next).isNone then fs.put next .folder else fs
      fs.makeAlong next parts

/-- Makes a folder and all that are missing above it.  Folders made before a failure stay.  A folder
that is missing cannot be made under a name with `.` after it; it has to be there once those above it
are. -/
def makeFolders (fs : Files) (p : Path) : Bool × Files :=
  if p.isEmpty then (true, fs)
  else if !p.isUsable then (false, fs)
  else if p.parts.getLast? = some "." && (fs.place? p).isNone then
    let fs := (fs.makeAlong (fs.start p) p.components.dropLast).2
    ((fs.place? p).isSome, fs)
  else fs.makeAlong (fs.start p) p.components

end Files

end Temperament
