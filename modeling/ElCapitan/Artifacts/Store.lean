import ElCapitan.Artifacts.Files
import ElCapitan.Effects.Logic
import ElCapitan.Effects.Rows

/-!
# The artifact store

`PostgresArtifactStore.sync` and `hydrate` over the files below a root directory and the rows of
`artifact_blobs`. The database commits a transaction as a whole or not at all; any operation on
the files or on the database may fail.
-/

namespace ElCapitan

open Effects

/-- A row of `artifact_blobs`. -/
structure ArtifactRow where
  path : String
  sha256 : String
  payload : Bytes
  deriving DecidableEq

/-- The rows of `artifact_blobs`. -/
abbrev ArtifactTable := List ArtifactRow

/-- The operations of the artifact store. -/
inductive ArtifactOp where
  /-- `root.resolve()` and `root.mkdir(parents=True, exist_ok=True)`. -/
  | makeRoot
  /-- `Path(root).resolve(strict=True)`. -/
  | resolveRoot
  /-- `sorted(root.rglob("*"))`. -/
  | glob
  | isFile (path : FilePath)
  | isSymlink (path : FilePath)
  | exists (path : FilePath)
  | readBytes (path : FilePath)
  /-- `path.resolve()`: the path below the root, if it is there. -/
  | resolve (path : FilePath)
  /-- `path.mkdir(parents=True, exist_ok=True)`. -/
  | mkdirs (path : FilePath)
  /-- `path.open("xb")`. -/
  | openNew (path : FilePath)
  /-- `handle.write(payload)` to the file that was opened. -/
  | write (path : FilePath) (payload : Bytes)
  | connect
  | commit
  | rollback
  /-- All rows, in the order of their paths. -/
  | selectAll
  /-- `INSERT … ON CONFLICT (artifact_path) DO NOTHING`, with its row count. -/
  | insert (row : ArtifactRow)
  /-- The `sha256` of the row with this path. -/
  | selectHash (path : String)

/-- What the operations answer. -/
def ArtifactOp.Answer : ArtifactOp → Type
  | .makeRoot | .resolveRoot | .mkdirs _ | .openNew _ | .write _ _ | .connect | .commit
  | .rollback => Unit
  | .glob => List FilePath
  | .isFile _ | .isSymlink _ | .exists _ => Bool
  | .readBytes _ => Bytes
  | .resolve _ => Option FilePath
  | .selectAll => ArtifactTable
  | .insert _ => ℕ
  | .selectHash _ => Option String

/-- The signature of the artifact store. -/
abbrev artifactOps : Signature := ⟨ArtifactOp, ArtifactOp.Answer⟩

/-- A program over files and artifact rows. -/
abbrev Artifacts (α : Type) := Prog artifactOps PyError α

/-- Issue an operation; what it raises propagates. -/
abbrev performs (o : ArtifactOp) : Artifacts o.Answer := @Prog.perform artifactOps PyError o

section programs

/-- What the programs share: the text of the root, `repr` and `sha256_bytes`. -/
structure ArtifactHost where
  root : String
  repr : String → String
  sha256Bytes : Bytes → String

variable (H : ArtifactHost)

/-- `str(path)` of a path below the root. -/
def ArtifactHost.text (path : FilePath) : String := H.root ++ "/" ++ posixPath path

/-- `RuntimeError`. -/
def runtimeError (message : String) : PyError := ⟨.runtimeError, message⟩

/-- `PathEscape`. -/
def pathEscape (message : String) : PyError := ⟨.pathEscape, message⟩

/-- `with self._connect() as connection:` commits what its body did, or nothing if it raises. -/
def inTransaction {α : Type} (body : Artifacts α) : Artifacts α := do
  performs .connect
  let a ← Prog.handle body fun e => do
    let _ ← @Prog.ask artifactOps PyError .rollback
    Prog.raise e
  performs .commit
  return a

/-- The check of `safe_resolve` that no component of a path is a link. -/
def refuseLinks (candidate : FilePath) : List String → Artifacts Unit
  | [] => return ()
  | part :: parts => do
    let isSymlink : Bool ← performs (.isSymlink (candidate ++ [part]))
    .raiseIf (isSymlink = true)
      (pathEscape ("symlink in evidence path: " ++ H.text (candidate ++ [part])))
    refuseLinks (candidate ++ [part]) parts

/-- `safe_resolve`. -/
def safeResolve (relative : String) : Artifacts FilePath := do
  Prog.handle (performs .resolveRoot) fun e =>
    .raise (if e.kind = .osError then
      pathEscape ("root directory does not resolve: " ++ H.repr H.root ++ " (" ++ e.message ++ ")")
    else e)
  .raiseIf (relative.toList.head? = some '/' ∨ ".." ∈ pathParts relative)
    (pathEscape ("unsafe path: " ++ H.repr relative))
  let resolved : Option FilePath ← Prog.handle (do
      refuseLinks H [] (pathParts relative)
      performs (.resolve (pathParts relative))) fun e =>
    .raise (if e.kind = .osError then
      pathEscape ("path could not be resolved: " ++ H.repr relative ++ " (" ++ e.message ++ ")")
    else e)
  match resolved with
  | some path => return path
  | none => .raise (pathEscape ("path escapes run directory: " ++ H.repr relative))

/-- The end of `PostgresArtifactStore.hydrate` of one row: what is there is compared, and where
nothing is the row is written. -/
def placeArtifact (row : ArtifactRow) (target : FilePath) : Artifacts ℕ := do
  let present : Bool ← performs (.exists target)
  if present = true then
    let isSymlink : Bool ← performs (.isSymlink target)
    .raiseIf (isSymlink = true)
      (runtimeError ("local artifact " ++ row.path ++ " conflicts with durable evidence"))
    let held : Bytes ← performs (.readBytes target)
    .raiseIf (H.sha256Bytes held ≠ row.sha256)
      (runtimeError ("local artifact " ++ row.path ++ " conflicts with durable evidence"))
    return 0
  else
    performs (.openNew target)
    performs (.write target row.payload)
    return 1

/-- `PostgresArtifactStore.hydrate` of one row. -/
def hydrateArtifact (row : ArtifactRow) : Artifacts ℕ := do
  let target ← safeResolve H row.path
  .raiseIf (H.sha256Bytes row.payload ≠ row.sha256)
    (runtimeError ("durable artifact " ++ row.path ++ " failed its stored hash check"))
  performs (.mkdirs target.dropLast)
  placeArtifact H row target

/-- `PostgresArtifactStore.hydrate` of some rows. -/
def hydrateArtifacts : ArtifactTable → ℕ → Artifacts ℕ
  | [], hydrated => return hydrated
  | row :: rows, hydrated => do
    let more ← hydrateArtifact H row
    hydrateArtifacts rows (hydrated + more)

/-- `PostgresArtifactStore.hydrate`. -/
def hydrate : Artifacts ℕ := do
  performs .makeRoot
  let rows : ArtifactTable ← inTransaction (performs .selectAll)
  hydrateArtifacts H rows 0

end programs

section world

/-- The files below the root, the committed rows and those of the open transaction. -/
structure ArtifactWorld where
  files : Files
  rows : ArtifactTable
  pending : Option ArtifactTable

/-- The rows that the connection sees. -/
def ArtifactWorld.seen (w : ArtifactWorld) : ArtifactTable := w.pending.getD w.rows

/-- What `INSERT … ON CONFLICT DO NOTHING` makes of the rows. -/
def insertRow (rows : ArtifactTable) (row : ArtifactRow) : ArtifactTable :=
  if (Rows.find ArtifactRow.path rows row.path).isSome then rows else rows ++ [row]

/-- What an operation that does not fail answers and does. -/
def ArtifactWorld.Answers (w : ArtifactWorld) :
    (o : ArtifactOp) → Except PyError o.Answer → ArtifactWorld → Prop
  | .makeRoot, r, w' | .resolveRoot, r, w' => r = .ok () ∧ w' = w
  | .glob, r, w' => r = .ok w.files.paths ∧ w' = w
  | .isFile path, r, w' => r = .ok (w.files.isFile path) ∧ w' = w
  | .isSymlink path, r, w' => r = .ok (w.files.isSymlink path) ∧ w' = w
  | .exists path, r, w' => r = .ok (w.files.nodeAt path).isSome ∧ w' = w
  | .readBytes path, r, w' => r = w.files.readBytes path ∧ w' = w
  | .resolve path, r, w' =>
    -- a link may lead anywhere
    ((∀ above, above <+: path → w.files.isSymlink above = false) → r = .ok (some path)) ∧ w' = w
  | .mkdirs path, r, w' =>
    match w.files.mkdirs path with
    | .ok files => r = .ok () ∧ w' = { w with files }
    | .error e => r = .error e ∧ w' = w
  | .openNew path, r, w' =>
    match w.files.openNew path with
    | .ok files => r = .ok () ∧ w' = { w with files }
    | .error e => r = .error e ∧ w' = w
  | .write path payload, r, w' =>
    r = .ok () ∧ w' = { w with files := w.files.insert path (.file payload) }
  | .connect, r, w' => r = .ok () ∧ w' = { w with pending := some w.rows }
  | .commit, r, w' => r = .ok () ∧ w' = { w with rows := w.seen, pending := none }
  | .rollback, r, w' => r = .ok () ∧ w' = { w with pending := none }
  | .selectAll, r, w' => (∃ rows, rows.Perm w.seen ∧ r = .ok rows) ∧ w' = w
  | .insert row, r, w' =>
    r = .ok (if (Rows.find ArtifactRow.path w.seen row.path).isSome then 0 else 1 : ℕ) ∧
      w' = { w with pending := some (insertRow w.seen row) }
  | .selectHash path, r, w' =>
    r = .ok ((Rows.find ArtifactRow.path w.seen path).map ArtifactRow.sha256) ∧ w' = w

/-- What an operation that fails leaves: a part of the directories or of the file that it makes,
and no open transaction where it ends one. -/
def ArtifactWorld.Leaves (w : ArtifactWorld) : ArtifactOp → ArtifactWorld → Prop
  | .mkdirs path, w' => w' = w ∨
    ∃ above files, above <+: path ∧ w.files.mkdirs above = .ok files ∧ w' = { w with files }
  | .write path payload, w' => ∃ written, written <+: payload ∧
    w' = { w with files := w.files.insert path (.file written) }
  | .commit, w' | .rollback, w' => w' = { w with pending := none }
  | _, w' => w' = w

/-- One operation on the files and the rows, which may fail where failures are possible. -/
def artifactStep (failures : Prop) : Env artifactOps PyError ArtifactWorld :=
  fun w o r w' => w.Answers o r w' ∨ (failures ∧ (∃ e, r = .error e) ∧ w.Leaves o w')

end world

end ElCapitan
