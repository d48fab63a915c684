import Mathlib.Data.Finmap
import Mathlib.Data.Finset.Sort
import Mathlib.Data.List.Lex
import Mathlib.Data.String.Basic
import ElCapitan.Base.Errors

/-!
# Files below a directory

What stands at the paths below a resolved root directory, and how directories and new files are
made there. A file tree has a directory above everything in it.
-/

namespace ElCapitan

/-- A path below a directory, component by component. -/
abbrev FilePath := List String

/-- The bytes of a file. -/
abbrev Bytes := List UInt8

/-- What stands at a path. A symbolic link is given with the bytes of the regular file it leads
to, if it leads to one. -/
inductive Node where
  | file (payload : Bytes)
  | directory
  | link (leads : Option Bytes)
  | special
  deriving DecidableEq

/-- What stands at the paths below a directory. -/
abbrev Files := Finmap fun _ : FilePath => Node

namespace Files

/-- What stands at a path, the directory itself included. -/
def nodeAt (files : Files) (path : FilePath) : Option Node :=
  if path = [] then some .directory else files.lookup path

/-- `path.is_file()`, which follows a link. -/
def isFile (files : Files) (path : FilePath) : Bool :=
  match files.nodeAt path with
  | some (.file _) | some (.link (some _)) => true
  | _ => false

/-- `path.is_symlink()`. -/
def isSymlink (files : Files) (path : FilePath) : Bool :=
  match files.nodeAt path with
  | some (.link _) => true
  | _ => false

/-- `path.read_bytes()`, which follows a link. -/
def readBytes (files : Files) (path : FilePath) : Except PyError Bytes :=
  match files.nodeAt path with
  | some (.file payload) | some (.link (some payload)) => .ok payload
  | some .directory => .error ⟨.osError, "Is a directory"⟩
  | _ => .error ⟨.osError, "No such file or directory"⟩

/-- Add a directory where nothing stands. -/
def addDirectory (files : Files) (path : FilePath) : Files :=
  if files.nodeAt path = none then files.insert path .directory else files

/-- `path.mkdir(parents=True, exist_ok=True)`. -/
def mkdirs (files : Files) (path : FilePath) : Except PyError Files :=
  if ∀ above ∈ path.inits, files.nodeAt above = none ∨ files.nodeAt above = some .directory then
    .ok (path.inits.foldl addDirectory files)
  else .error ⟨.osError, "File exists"⟩

/-- `path.open("xb")`. -/
def openNew (files : Files) (path : FilePath) : Except PyError Files :=
  if files.nodeAt path ≠ none then .error ⟨.osError, "File exists"⟩
  else if files.nodeAt path.dropLast ≠ some .directory then
    .error ⟨.osError, "No such file or directory"⟩
  else .ok (files.insert path (.file []))

/-- The paths below the directory, sorted. -/
def paths (files : Files) : List FilePath := files.keys.sort (· ≤ ·)

/-- Everything that stands in one directory stands in another. -/
def Keeps (before after : Files) : Prop :=
  ∀ path node, before.lookup path = some node → after.lookup path = some node

variable {files files' : Files} {path other : FilePath} {node : Node}

/-- Files keep themselves. -/
theorem Keeps.refl (files : Files) : Keeps files files := fun _ _ h => h

/-- What is kept twice is kept. -/
theorem Keeps.trans {before middle after : Files} (h : Keeps before middle)
    (h' : Keeps middle after) : Keeps before after :=
  fun path node hnode => h' path node (h path node hnode)

/-- A node that is there stays there. -/
theorem Keeps.nodeAt (h : Keeps files files') (hnode : files.nodeAt path = some node) :
    files'.nodeAt path = some node := by
  unfold Files.nodeAt at hnode ⊢
  split at hnode
  · rename_i hroot
    rw [if_pos hroot]
    exact hnode
  · rename_i hroot
    rw [if_neg hroot]
    exact h path node hnode

/-- Below the root the nodes are those that are listed. -/
theorem nodeAt_of_ne (h : path ≠ []) : files.nodeAt path = files.lookup path := by
  unfold nodeAt
  rw [if_neg h]

/-- Nothing is lost where a path is used on which nothing stands. -/
theorem keeps_insert (h : files.nodeAt path = none) : Keeps files (files.insert path node) := by
  intro other held hheld
  have hne : other ≠ path := by
    rintro rfl
    unfold nodeAt at h
    split at h
    · cases h
    · rw [h] at hheld
      cases hheld
  rw [Finmap.lookup_insert_of_ne _ hne]
  exact hheld

/-- What stands at a path after a directory was added. -/
theorem lookup_addDirectory : (files.addDirectory path).lookup other =
    (files.lookup other).or (if other = path ∧ other ≠ [] then some .directory else none) := by
  by_cases hroot : other = []
  · have hinsert : files.nodeAt path = none → other ≠ path := by
      rintro hnone rfl
      rw [hroot] at hnone
      cases hnone
    have hnot : ¬(other = path ∧ other ≠ []) := fun h => h.2 hroot
    unfold addDirectory
    rw [if_neg hnot, Option.or_none]
    split
    · rename_i hnone
      rw [Finmap.lookup_insert_of_ne _ (hinsert hnone)]
    · rfl
  · by_cases heq : other = path
    · subst heq
      unfold addDirectory
      rw [nodeAt_of_ne hroot, if_pos (⟨rfl, hroot⟩ : other = other ∧ other ≠ [])]
      cases hlookup : files.lookup other with
      | none =>
        rw [if_pos rfl, Finmap.lookup_insert]
        rfl
      | some held =>
        rw [if_neg (by simp), hlookup]
        rfl
    · have hnot : ¬(other = path ∧ other ≠ []) := fun h => heq h.1
      unfold addDirectory
      rw [if_neg hnot, Option.or_none]
      split
      · rw [Finmap.lookup_insert_of_ne _ heq]
      · rfl

/-- What stands at a path after directories were added. -/
theorem lookup_addDirectories {added : List FilePath} :
    (added.foldl addDirectory files).lookup other =
      (files.lookup other).or (if other ∈ added ∧ other ≠ [] then some .directory else none) := by
  induction added generalizing files with
  | nil => simp
  | cons path added ih =>
    rw [List.foldl_cons, ih, lookup_addDirectory, Option.or_assoc]
    by_cases hroot : other = []
    · simp [hroot]
    · by_cases heq : other = path
      · subst heq
        by_cases hmem : other ∈ added <;> simp [hroot, hmem]
      · simp [heq, hroot]

/-- What stands at a path after its directories were made. -/
theorem lookup_mkdirs (h : files.mkdirs path = .ok files') : files'.lookup other =
    (files.lookup other).or (if other <+: path ∧ other ≠ [] then some .directory else none) := by
  unfold mkdirs at h
  split at h
  · cases h
    rw [lookup_addDirectories]
    simp only [List.mem_inits]
  · cases h

/-- Making directories keeps what is there. -/
theorem keeps_mkdirs (h : files.mkdirs path = .ok files') : Keeps files files' := by
  intro other held hheld
  rw [lookup_mkdirs h, hheld]
  rfl

/-- The directories of a path are there once they were made. -/
theorem nodeAt_mkdirs (h : files.mkdirs path = .ok files') (hbegun : other <+: path) :
    files'.nodeAt other = some .directory := by
  have hfree : files.nodeAt other = none ∨ files.nodeAt other = some .directory := by
    unfold mkdirs at h
    split at h
    · rename_i hall
      exact hall other ((List.mem_inits _ _).mpr hbegun)
    · cases h
  by_cases hroot : other = []
  · subst hroot
    rfl
  · rw [nodeAt_of_ne hroot] at hfree ⊢
    rw [lookup_mkdirs h, if_pos ⟨hbegun, hroot⟩]
    obtain hnone | hdirectory := hfree
    · rw [hnone]
      rfl
    · rw [hdirectory]
      rfl

end Files

/-- A name that a directory can hold. -/
def IsFileName (name : String) : Prop :=
  name ≠ "" ∧ name ≠ "." ∧ name ≠ ".." ∧ '/' ∉ name.toList

/-- The files below a directory, with a directory above each of them. -/
structure FileTree where
  files : Files
  named : ∀ path ∈ files, path ≠ [] ∧ ∀ name ∈ path, IsFileName name
  closed : ∀ path name, path ++ [name] ∈ files → files.nodeAt path = some .directory

namespace FileTree

variable {tree : FileTree} {path above : FilePath}

end FileTree

section paths

/-- `path.relative_to(root).as_posix()`. -/
def posixPath (path : FilePath) : String := "/".intercalate path

/-- `Path(relative).parts` of a relative path. -/
def pathParts (relative : String) : FilePath :=
  ((relative.toList.splitOn '/').filter fun part => part ≠ [] ∧ part ≠ ['.']).map String.ofList

/-- The parts of a path of names are its names. -/
theorem pathParts_posixPath {path : FilePath} (h : ∀ name ∈ path, IsFileName name)
    (hne : path ≠ []) : pathParts (posixPath path) = path := by
  have htext : (posixPath path).toList = ['/'].intercalate (path.map String.toList) :=
    String.toList_intercalate
  have hnames : ∀ part ∈ path.map String.toList, '/' ∉ part := by
    intro part hpart
    obtain ⟨name, hname, rfl⟩ := List.mem_map.mp hpart
    exact (h name hname).2.2.2
  have hkept : ∀ part ∈ path.map String.toList, part ≠ [] ∧ part ≠ ['.'] := by
    intro part hpart
    obtain ⟨name, hname, rfl⟩ := List.mem_map.mp hpart
    obtain ⟨hempty, hdot, -, -⟩ := h name hname
    refine ⟨fun hnil => hempty (String.toList_inj.mp hnil), fun hsame => hdot ?_⟩
    exact String.toList_inj.mp hsame
  unfold pathParts
  rw [htext, List.splitOn_intercalate '/' hnames (by simpa using hne), List.filter_eq_self.mpr]
  · rw [List.map_map]
    simp
  · intro part hpart
    simpa using hkept part hpart

end paths

end ElCapitan
