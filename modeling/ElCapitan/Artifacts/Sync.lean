import ElCapitan.Artifacts.Store

/-!
# What a synchronization stores

A synchronization that returns has stored every regular file under its path, unless a row with
its hash was there, and one that raises has stored nothing. Rows are never replaced.
-/

namespace ElCapitan

open Effects

section rules

variable {failures : Prop} {α β : Type} {w : ArtifactWorld}

/-- What every run of a program on files and rows ends with. -/
abbrev Achieves (failures : Prop) {α : Type} (p : Artifacts α)
    (Q : Except PyError α → ArtifactWorld → Prop) (w : ArtifactWorld) : Prop :=
  Sat (artifactStep failures) (fun _ _ => True) p Q w

/-- One operation, and what follows its value. -/
theorem achieves_bind {o : ArtifactOp} {f : o.Answer → Artifacts β}
    {Q : Except PyError β → ArtifactWorld → Prop}
    (hok : ∀ a w', w.Answers o (.ok a) w' → Achieves failures (f a) Q w')
    (herror : ∀ e w', w.Answers o (.error e) w' ∨ (failures ∧ w.Leaves o w') →
      Q (.error e) w') :
    Achieves failures (@Prog.bind artifactOps PyError o.Answer β (performs o) f) Q w := by
  refine sat_bind_perform_iff.mpr ⟨trivial, fun a w' hstep => ?_, fun e w' hstep => ?_⟩
  · obtain hanswers | ⟨-, ⟨e, he⟩, -⟩ := hstep
    · exact hok a w' hanswers
    · cases he
  · obtain hanswers | ⟨hfail, -, hleaves⟩ := hstep
    · exact herror e w' (.inl hanswers)
    · exact herror e w' (.inr ⟨hfail, hleaves⟩)

/-- An operation that changes nothing and has this value, and what follows it. -/
theorem achieves_reads {o : ArtifactOp} {a : o.Answer} {f : o.Answer → Artifacts β}
    {Q : Except PyError β → ArtifactWorld → Prop}
    (hanswers : ∀ r w', w.Answers o r w' → r = .ok a ∧ w' = w)
    (hleaves : ∀ w', w.Leaves o w' → w' = w) (hok : Achieves failures (f a) Q w)
    (hfail : failures → ∀ e, Q (.error e) w) :
    Achieves failures (@Prog.bind artifactOps PyError o.Answer β (performs o) f) Q w := by
  refine achieves_bind (fun a' w' h => ?_) fun e w' h => ?_
  · obtain ⟨hvalue, rfl⟩ := hanswers _ _ h
    cases hvalue
    exact hok
  · obtain h | ⟨hfailure, h⟩ := h
    · cases (hanswers _ _ h).1
    · obtain rfl := hleaves w' h
      exact hfail hfailure e

/-- A transaction keeps what its body did when it returns, and nothing when it raises. -/
theorem achieves_inTransaction {body : Artifacts α} {R Q : Except PyError α → ArtifactWorld → Prop}
    (hbody : Achieves failures body R { w with pending := some w.rows })
    (hok : ∀ a w', R (.ok a) w' → Q (.ok a) { w' with rows := w'.seen, pending := none } ∧
      (failures → ∀ e, Q (.error e) { w' with pending := none }))
    (herror : ∀ e w', R (.error e) w' → Q (.error e) { w' with pending := none })
    (hconnect : failures → ∀ e, Q (.error e) w) : Achieves failures (inTransaction body) Q w := by
  unfold inTransaction
  simp only [Prog.bind_eq, Prog.pure_eq]
  refine achieves_bind (fun _ w' hanswers => ?_) fun e w' hstep => ?_
  · obtain rfl := hanswers.2
    apply sat_bind.mpr
    apply sat_handle.mpr
    refine Sat.mono hbody fun r w' hr => ?_
    cases r with
    | ok a =>
      obtain ⟨hcommitted, hfailed⟩ := hok a w' hr
      refine achieves_bind (fun _ w'' hanswers => ?_) fun e w'' hstep => ?_
      · obtain rfl := hanswers.2
        exact hcommitted
      · obtain hanswers | ⟨hfail, hleaves⟩ := hstep
        · cases hanswers.1
        · obtain rfl := hleaves
          exact hfailed hfail e
    | error e =>
      refine ⟨trivial, fun r w'' hstep => ?_⟩
      obtain hanswers | ⟨-, -, hleaves⟩ := hstep
      · obtain rfl := hanswers.2
        exact herror e w' hr
      · obtain rfl := hleaves
        exact herror e w' hr
  · obtain hanswers | ⟨hfail, hleaves⟩ := hstep
    · cases hanswers.1
    · obtain rfl := hleaves
      exact hconnect hfail e

end rules

section storing

variable {H : ArtifactHost} {failures : Prop} {w : ArtifactWorld} {files : Files}
  {rows : ArtifactTable} {path : FilePath}

/-- The row of a regular file. -/
def rowOf (H : ArtifactHost) (path : FilePath) (payload : Bytes) : ArtifactRow :=
  ⟨posixPath path, H.sha256Bytes payload, payload⟩

/-- The rows after a path was stored. -/
def storePath (H : ArtifactHost) (files : Files) (rows : ArtifactTable) (path : FilePath) :
    ArtifactTable :=
  match files.nodeAt path with
  | some (.file payload) => insertRow rows (rowOf H path payload)
  | _ => rows

/-- The row of a regular file has the hash of the file. -/
def PathStored (H : ArtifactHost) (files : Files) (rows : ArtifactTable) (path : FilePath) : Prop :=
  (∀ payload, files.nodeAt path ≠ some (.link (some payload))) ∧
    ∀ payload, files.nodeAt path = some (.file payload) →
      ∃ row, Rows.find ArtifactRow.path rows (posixPath path) = some row ∧
        row.sha256 = H.sha256Bytes payload

/-- A link to a regular file, or a file that the row of its path has another hash than. -/
def Unstorable (H : ArtifactHost) (files : Files) (rows : ArtifactTable) (path : FilePath) : Prop :=
  (∃ payload, files.nodeAt path = some (.link (some payload))) ∨
    ∃ payload row, files.nodeAt path = some (.file payload) ∧
      Rows.find ArtifactRow.path rows (posixPath path) = some row ∧
      row.sha256 ≠ H.sha256Bytes payload

/-- A row that is there is kept by an insertion. -/
theorem find_insertRow {row added : ArtifactRow} {key : String}
    (h : Rows.find ArtifactRow.path rows key = some row) :
    Rows.find ArtifactRow.path (insertRow rows added) key = some row := by
  unfold insertRow
  split
  · exact h
  · exact Rows.find_insert_of_some h

/-- Storing a file keeps what is stored. -/
theorem find_storePath {row : ArtifactRow} {key : String}
    (h : Rows.find ArtifactRow.path rows key = some row) :
    Rows.find ArtifactRow.path (storePath H files rows path) key = some row := by
  unfold storePath
  split
  · exact find_insertRow h
  · exact h

/-- Storing files keeps what is stored. -/
theorem find_storePaths {paths : List FilePath} {row : ArtifactRow} {key : String}
    (h : Rows.find ArtifactRow.path rows key = some row) :
    Rows.find ArtifactRow.path (paths.foldl (storePath H files) rows) key = some row := by
  induction paths generalizing rows with
  | nil => exact h
  | cons path paths ih => exact ih (find_storePath h)

/-- A stored file stays stored while others are. -/
theorem PathStored.kept {paths : List FilePath} (h : PathStored H files rows path) :
    PathStored H files (paths.foldl (storePath H files) rows) path := by
  refine ⟨h.1, fun payload hfile => ?_⟩
  obtain ⟨row, hrow, hhash⟩ := h.2 payload hfile
  exact ⟨row, find_storePaths hrow, hhash⟩

end storing

end ElCapitan
