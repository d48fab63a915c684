import ElCapitan.Artifacts.Sync

/-!
# What a hydration writes

A hydration that returns has a file with the hash of its row at the path of every row. Nothing
that stood below the root is replaced, also where the hydration raises.
-/

namespace ElCapitan

open Effects

section growing

variable {files middle files' : Files} {row : ArtifactRow} {rows rows' : ArtifactTable}
  {path : FilePath}

/-- What a hydration of some rows adds: directories above them, and files where they lead. -/
structure Grown (files : Files) (rows : ArtifactTable) (files' : Files) : Prop where
  keeps : Files.Keeps files files'
  added : ∀ path node, files'.lookup path = some node → files.lookup path = some node ∨
    ∃ row ∈ rows, path ≠ [] ∧ ((path <+: (pathParts row.path).dropLast ∧ node = .directory) ∨
      (path = pathParts row.path ∧ ∃ written, written <+: row.payload ∧ node = .file written))

/-- Files have grown by nothing. -/
theorem Grown.refl (files : Files) (rows : ArtifactTable) : Grown files rows files :=
  ⟨Files.Keeps.refl files, fun _ _ h => .inl h⟩

/-- Files that have grown by artifacts have grown by more artifacts. -/
theorem Grown.mono (h : Grown files rows files') (hrows : rows ⊆ rows') :
    Grown files rows' files' := by
  refine ⟨h.keeps, fun path node hnode => (h.added path node hnode).imp id ?_⟩
  rintro ⟨row, hrow, hnode⟩
  exact ⟨row, hrows hrow, hnode⟩

/-- Growth after growth is growth. -/
theorem Grown.trans (h : Grown files rows middle) (h' : Grown middle rows files') :
    Grown files rows files' := by
  refine ⟨h.keeps.trans h'.keeps, fun path node hnode => ?_⟩
  obtain hmiddle | hadded := h'.added path node hnode
  · exact h.added path node hmiddle
  · exact .inr hadded

/-- Making the directories above a row adds only them. -/
theorem grown_mkdirs {above : FilePath} (habove : above <+: (pathParts row.path).dropLast)
    (h : files.mkdirs above = .ok files') : Grown files [row] files' := by
  refine ⟨Files.keeps_mkdirs h, fun path node hnode => ?_⟩
  rw [Files.lookup_mkdirs h] at hnode
  cases hheld : files.lookup path with
  | some held =>
    rw [hheld] at hnode
    exact .inl hnode
  | none =>
    rw [hheld] at hnode
    split at hnode
    · rename_i hbegun
      cases hnode
      exact .inr ⟨row, List.mem_singleton_self row, hbegun.2, .inl ⟨hbegun.1.trans habove, rfl⟩⟩
    · cases hnode

/-- Writing the file of a row where nothing stood adds only it. -/
theorem grown_insert {written : Bytes} (hfree : files.nodeAt (pathParts row.path) = none)
    (hwritten : written <+: row.payload) :
    Grown files [row] (files.insert (pathParts row.path) (.file written)) := by
  refine ⟨Files.keeps_insert hfree, fun path node hnode => ?_⟩
  by_cases hpath : path = pathParts row.path
  · have hroot : path ≠ [] := by
      rintro rfl
      rw [← hpath] at hfree
      cases hfree
    subst hpath
    rw [Finmap.lookup_insert] at hnode
    cases hnode
    exact .inr ⟨row, List.mem_singleton_self row, hroot, .inr ⟨rfl, written, hwritten, rfl⟩⟩
  · rw [Finmap.lookup_insert_of_ne _ hpath] at hnode
    exact .inl hnode

/-- What is written where nothing stood stands there. -/
theorem nodeAt_insert_self {node : Node} (hfree : files.nodeAt path = none) :
    Files.nodeAt (files.insert path node) path = some node := by
  have hroot : path ≠ [] := by
    rintro rfl
    cases hfree
  rw [Files.nodeAt_of_ne hroot, Finmap.lookup_insert]

/-- The directories above a path do not change what stands at it. -/
theorem nodeAt_mkdirs_dropLast (h : files.mkdirs path.dropLast = .ok files') :
    files'.nodeAt path = files.nodeAt path := by
  by_cases hroot : path = []
  · rw [hroot]
    rfl
  · have hshorter : ¬(path <+: path.dropLast ∧ path ≠ []) := by
      rintro ⟨hbegun, -⟩
      have hlength := hbegun.length_le
      have hpositive := List.length_pos_iff.mpr hroot
      rw [List.length_dropLast] at hlength
      omega
    rw [Files.nodeAt_of_ne hroot, Files.nodeAt_of_ne hroot, Files.lookup_mkdirs h,
      if_neg hshorter, Option.or_none]

/-- Every file that a hydration of some rows added is the whole payload of a row. -/
def Whole (files : Files) (rows : ArtifactTable) (files' : Files) : Prop :=
  ∀ path held, files.lookup path = none → files'.lookup path = some (.file held) →
    ∃ row ∈ rows, path = pathParts row.path ∧ held = row.payload

/-- Unchanged files are whole. -/
theorem whole_refl (files : Files) (rows : ArtifactTable) : Whole files rows files := by
  intro path held hnone hheld
  cases hnone.symm.trans hheld

/-- Files that are whole for artifacts are whole for more artifacts. -/
theorem Whole.mono (h : Whole files rows files') (hrows : rows ⊆ rows') :
    Whole files rows' files' := by
  intro path held hnone hheld
  obtain ⟨row, hrow, hadded⟩ := h path held hnone hheld
  exact ⟨row, hrows hrow, hadded⟩

/-- Whole files were added first, and whole files after them. -/
theorem Whole.cons (h : Whole files [row] middle) (h' : Whole middle rows files')
    (hkeeps : Files.Keeps middle files') : Whole files (row :: rows) files' := by
  intro path held hnone hheld
  cases hmiddle : middle.lookup path with
  | none =>
    obtain ⟨other, hother, hadded⟩ := h' path held hmiddle hheld
    exact ⟨other, List.mem_cons_of_mem _ hother, hadded⟩
  | some node =>
    cases (hkeeps path node hmiddle).symm.trans hheld
    obtain ⟨other, hother, hadded⟩ := h path held hnone hmiddle
    rw [List.mem_singleton.mp hother] at hadded
    exact ⟨row, List.mem_cons_self, hadded⟩

/-- Making directories writes no file. -/
theorem whole_mkdirs {above : FilePath} (h : files.mkdirs above = .ok files') :
    Whole files rows files' := by
  intro path held hnone hheld
  rw [Files.lookup_mkdirs h, hnone] at hheld
  split at hheld
  · cases hheld
  · cases hheld

/-- Writing the whole payload of a row adds a whole file. -/
theorem whole_insert :
    Whole files [row] (files.insert (pathParts row.path) (.file row.payload)) := by
  intro path held hnone hheld
  by_cases hpath : path = pathParts row.path
  · subst hpath
    rw [Finmap.lookup_insert] at hheld
    cases hheld
    exact ⟨row, List.mem_singleton_self row, rfl, rfl⟩
  · rw [Finmap.lookup_insert_of_ne _ hpath, hnone] at hheld
    cases hheld

/-- Directories were made first, and whole files were written after them. -/
theorem whole_mkdirs_trans {above : FilePath} (h : files.mkdirs above = .ok middle)
    (h' : Whole middle rows files') (hkeeps : Files.Keeps middle files') :
    Whole files rows files' := by
  intro path held hnone hheld
  cases hmiddle : middle.lookup path with
  | none => exact h' path held hmiddle hheld
  | some node =>
    cases (hkeeps path node hmiddle).symm.trans hheld
    exact whole_mkdirs h path held hnone hmiddle

end growing

section resolving

variable {H : ArtifactHost} {failures : Prop} {w : ArtifactWorld} {files : Files}

/-- A path that `safe_resolve` refuses. -/
def Unsafe (files : Files) (relative : String) : Prop :=
  relative.toList.head? = some '/' ∨ ".." ∈ pathParts relative ∨
    ∃ above ∈ (pathParts relative).inits, files.isSymlink above = true

/-- The components of a path are not links, or one of them is refused. -/
theorem refuseLinks_achieves {parts : List String} {candidate : FilePath} :
    Achieves failures (refuseLinks H candidate parts) (fun out w' => w' = w ∧ match out with
      | .ok _ => ∀ more ∈ parts.inits, more ≠ [] → w.files.isSymlink (candidate ++ more) = false
      | .error _ => failures ∨
        ∃ more ∈ parts.inits, w.files.isSymlink (candidate ++ more) = true) w := by
  induction parts generalizing candidate with
  | nil => exact ⟨rfl, by simp⟩
  | cons part parts ih =>
    refine achieves_reads (o := .isSymlink (candidate ++ [part])) (fun _ _ h => h)
      (fun _ h => h) ?_ fun hfail e => ⟨rfl, .inl hfail⟩
    refine sat_bind_raiseIf.mpr ⟨fun hplain => ?_, fun hlink => ⟨rfl, .inr ⟨[part], ?_, hlink⟩⟩⟩
    · refine Sat.mono ih fun out w' hout => ⟨hout.1, ?_⟩
      obtain ⟨-, hout⟩ := hout
      cases out with
      | ok u =>
        intro more hmore hne
        rw [List.inits_cons, List.mem_cons] at hmore
        obtain rfl | hmore := hmore
        · exact absurd rfl hne
        · obtain ⟨rest, hrest, rfl⟩ := List.mem_map.mp hmore
          by_cases hnil : rest = []
          · rw [hnil]
            simpa using hplain
          · simpa using hout rest hrest hnil
      | error e =>
        refine hout.imp id ?_
        rintro ⟨rest, hrest, hlink⟩
        refine ⟨part :: rest, ?_, by simpa using hlink⟩
        rw [List.inits_cons]
        exact List.mem_cons_of_mem _ (List.mem_map_of_mem hrest)
    · simp

/-- A path is resolved to its parts, or it is refused. -/
theorem safeResolve_achieves {relative : String} :
    Achieves failures (safeResolve H relative) (fun out w' => w' = w ∧ match out with
      | .ok target => target = pathParts relative ∧ ¬Unsafe w.files relative
      | .error _ => failures ∨ Unsafe w.files relative) w := by
  unfold safeResolve
  simp only [Prog.bind_eq, Prog.pure_eq]
  refine sat_bind_handle_perform_iff.mpr ⟨trivial, fun _ w' hstep => ?_, fun e w' hstep => ?_⟩
  · have hsame : w' = w := by
      obtain hanswers | ⟨-, -, hleaves⟩ := hstep
      · exact hanswers.2
      · exact hleaves
    subst hsame
    refine sat_bind_raiseIf.mpr ⟨fun hsafe => ?_, fun hunsafe => ⟨rfl, .inr ?_⟩⟩
    · apply sat_bind.mpr
      apply sat_handle.mpr
      apply sat_bind.mpr
      refine Sat.mono refuseLinks_achieves fun out w'' hout => ?_
      obtain ⟨rfl, hout⟩ := hout
      cases out with
      | error e =>
        refine ⟨rfl, hout.imp id ?_⟩
        rintro ⟨more, hmore, hlink⟩
        exact .inr (.inr ⟨more, hmore, hlink⟩)
      | ok u =>
        have hplain : ∀ above, above <+: pathParts relative →
            w''.files.isSymlink above = false := by
          intro above habove
          by_cases hroot : above = []
          · rw [hroot]
            rfl
          · exact hout above ((List.mem_inits _ _).mpr habove) hroot
        refine sat_perform.mpr ⟨trivial, fun r w''' hstep => ?_⟩
        obtain hanswers | ⟨hfail, ⟨e, rfl⟩, rfl⟩ := hstep
        · obtain ⟨hvalue, rfl⟩ := hanswers
          cases hvalue hplain
          refine ⟨rfl, rfl, ?_⟩
          rintro (habsolute | hparent | ⟨above, habove, hlink⟩)
          · exact hsafe (.inl habsolute)
          · exact hsafe (.inr hparent)
          · rw [hplain above ((List.mem_inits _ _).mp habove)] at hlink
            cases hlink
        · exact ⟨rfl, .inl hfail⟩
    · exact hunsafe.imp id .inl
  · obtain hanswers | ⟨hfail, -, hleaves⟩ := hstep
    · cases hanswers.1
    · exact ⟨hleaves, .inl hfail⟩

end resolving

section hydrating

variable {H : ArtifactHost} {failures : Prop} {w : ArtifactWorld} {files files' : Files}
  {row : ArtifactRow} {rows : ArtifactTable} {n : ℕ}

/-- A row is intact, and a file with its hash stands where it leads. -/
structure Hydrated (H : ArtifactHost) (files : Files) (row : ArtifactRow) : Prop where
  intact : H.sha256Bytes row.payload = row.sha256
  below : ∀ above, above <+: (pathParts row.path).dropLast →
    files.nodeAt above = some .directory
  present : ∃ held, files.nodeAt (pathParts row.path) = some (.file held) ∧
    H.sha256Bytes held = row.sha256

/-- A row that can be hydrated. -/
structure Hydratable (H : ArtifactHost) (files : Files) (row : ArtifactRow) : Prop where
  safe : ¬Unsafe files row.path
  intact : H.sha256Bytes row.payload = row.sha256
  below : ∀ above, above <+: (pathParts row.path).dropLast →
    files.nodeAt above = none ∨ files.nodeAt above = some .directory
  free : files.nodeAt (pathParts row.path) = none ∨
    ∃ held, files.nodeAt (pathParts row.path) = some (.file held) ∧
      H.sha256Bytes held = row.sha256

/-- A hydrated artifact stays so where its files are kept. -/
theorem Hydrated.kept (h : Hydrated H files row) (hkeeps : Files.Keeps files files') :
    Hydrated H files' row := by
  refine ⟨h.intact, fun above habove => hkeeps.nodeAt (h.below above habove), ?_⟩
  obtain ⟨held, hheld, hhash⟩ := h.present
  exact ⟨held, hkeeps.nodeAt hheld, hhash⟩

/-- The directories of a row were made. -/
theorem mkdirs_answers {path : FilePath} {w' : ArtifactWorld}
    (h : w.Answers (.mkdirs path) (.ok ()) w') :
    ∃ made, w.files.mkdirs path = .ok made ∧ w' = { w with files := made } := by
  cases hmade : w.files.mkdirs path with
  | ok made =>
    simp only [ArtifactWorld.Answers, hmade] at h
    exact ⟨made, rfl, h.2⟩
  | error e =>
    simp only [ArtifactWorld.Answers, hmade] at h
    cases h.1

/-- The directories of a row cannot be made where something else stands above it. -/
theorem mkdirs_refuses {path : FilePath} {e : PyError} {w' : ArtifactWorld}
    (h : w.Answers (.mkdirs path) (.error e) w') :
    (¬∀ above, above <+: path →
      w.files.nodeAt above = none ∨ w.files.nodeAt above = some .directory) ∧ w' = w := by
  cases hmade : w.files.mkdirs path with
  | ok made =>
    simp only [ArtifactWorld.Answers, hmade] at h
    cases h.1
  | error e' =>
    simp only [ArtifactWorld.Answers, hmade] at h
    refine ⟨fun hall => ?_, h.2⟩
    unfold Files.mkdirs at hmade
    rw [if_pos fun above habove => hall above ((List.mem_inits _ _).mp habove)] at hmade
    cases hmade

/-- What was read stands there, unless it was read through a link. -/
theorem nodeAt_of_readBytes {path : FilePath} {held : Bytes}
    (hread : files.readBytes path = .ok held) (hplain : files.isSymlink path = false) :
    files.nodeAt path = some (.file held) := by
  unfold Files.readBytes at hread
  unfold Files.isSymlink at hplain
  split at hread
  · rename_i payload hnode
    cases hread
    exact hnode
  · rename_i payload hnode
    rw [hnode] at hplain
    cases hplain
  · cases hread
  · cases hread

/-- A file is created where nothing stands below a directory. -/
theorem openNew_answers {path : FilePath} {r : Except PyError Unit} {w' : ArtifactWorld}
    (hfree : w.files.nodeAt path = none) (hparent : w.files.nodeAt path.dropLast = some .directory)
    (h : w.Answers (.openNew path) r w') :
    r = .ok () ∧ w' = { w with files := w.files.insert path (.file []) } := by
  have hopened : w.files.openNew path = .ok (w.files.insert path (.file [])) := by
    unfold Files.openNew
    rw [if_neg (by rw [hfree]; simp), if_neg (by rw [hparent]; simp)]
  simp only [ArtifactWorld.Answers, hopened] at h
  exact h

/-- A row is placed where nothing stands, and where something stands it is compared. -/
theorem placeArtifact_achieves {made : Files} (hsafe : ¬Unsafe w.files row.path)
    (hintact : H.sha256Bytes row.payload = row.sha256)
    (hmade : w.files.mkdirs (pathParts row.path).dropLast = .ok made) :
    Achieves failures (placeArtifact H row (pathParts row.path)) (fun out w' => w'.rows = w.rows ∧
      w'.pending = w.pending ∧ Grown w.files [row] w'.files ∧ match out with
        | .ok _ => Hydrated H w'.files row ∧ Whole w.files [row] w'.files
        | .error _ => failures ∨ ¬Hydratable H w.files row) { w with files := made } := by
  have hgrown : Grown w.files [row] made := grown_mkdirs (List.prefix_refl _) hmade
  have hsame : made.nodeAt (pathParts row.path) = w.files.nodeAt (pathParts row.path) :=
    nodeAt_mkdirs_dropLast hmade
  have hplain : made.isSymlink (pathParts row.path) = false := by
    have hwhole : pathParts row.path ∈ (pathParts row.path).inits :=
      (List.mem_inits _ _).mpr (List.prefix_refl _)
    unfold Files.isSymlink
    rw [hsame]
    exact Bool.eq_false_iff.mpr fun hlink => hsafe (.inr (.inr ⟨_, hwhole, hlink⟩))
  have hfails : failures → ∀ e : PyError, ({ w with files := made } : ArtifactWorld).rows = w.rows ∧
      w.pending = w.pending ∧ Grown w.files [row] made ∧
        match (Except.error e : Except PyError ℕ) with
        | .ok _ => Hydrated H made row ∧ Whole w.files [row] made
        | .error _ => failures ∨ ¬Hydratable H w.files row :=
    fun hfail e => ⟨rfl, rfl, hgrown, .inl hfail⟩
  unfold placeArtifact
  refine achieves_reads (o := .exists (pathParts row.path)) (fun _ _ h => h) (fun _ h => h) ?_
    hfails
  cases hnode : made.nodeAt (pathParts row.path) with
  | some node =>
    rw [Option.isSome_some, if_pos rfl]
    refine achieves_reads (o := .isSymlink (pathParts row.path)) (a := false)
      (fun _ _ h => ⟨h.1.trans (congrArg _ hplain), h.2⟩) (fun _ h => h) ?_ hfails
    refine sat_bind_raiseIf.mpr ⟨fun _ => ?_, fun hlink => by cases hlink⟩
    refine achieves_bind (fun held w' hanswers => ?_) fun e w' hstep => ?_
    · obtain ⟨hread, rfl⟩ := hanswers
      have hheld : made.nodeAt (pathParts row.path) = some (.file held) :=
        nodeAt_of_readBytes hread.symm hplain
      refine sat_bind_raiseIf.mpr ⟨fun hhash => ⟨rfl, rfl, hgrown, ?_⟩, fun hhash =>
        ⟨rfl, rfl, hgrown, .inr fun hclear => ?_⟩⟩
      · exact ⟨⟨hintact, fun above => Files.nodeAt_mkdirs hmade, held, hheld, not_not.mp hhash⟩,
          whole_mkdirs hmade⟩
      · obtain hnone | ⟨held', hheld', hhash'⟩ := hclear.free
        · cases hnone.symm.trans (hsame.symm.trans hnode)
        · cases hheld'.symm.trans (hsame.symm.trans hheld)
          exact hhash hhash'
    · obtain ⟨hread, rfl⟩ | ⟨hfail, rfl⟩ := hstep
      · refine ⟨rfl, rfl, hgrown, .inr fun hclear => ?_⟩
        obtain hnone | ⟨held, hheld, -⟩ := hclear.free
        · cases hnone.symm.trans (hsame.symm.trans hnode)
        · have hok : made.readBytes (pathParts row.path) = .ok held := by
            unfold Files.readBytes
            rw [hsame, hheld]
          cases hread.trans hok
      · exact ⟨rfl, rfl, hgrown, .inl hfail⟩
  | none =>
    rw [Option.isSome_none, if_neg Bool.false_ne_true]
    have hparent : made.nodeAt (pathParts row.path).dropLast = some .directory :=
      Files.nodeAt_mkdirs hmade (List.prefix_refl _)
    have hplaced : ∀ {written : Bytes}, written <+: row.payload → Grown w.files [row]
        (made.insert (pathParts row.path) (.file written)) :=
      fun hwritten => hgrown.trans (grown_insert hnode hwritten)
    refine achieves_bind (fun _ w' hanswers => ?_) fun e w' hstep => ?_
    · obtain ⟨-, rfl⟩ := openNew_answers hnode hparent hanswers
      refine achieves_bind (fun _ w'' hanswers => ?_) fun e w'' hstep => ?_
      · obtain rfl := hanswers.2
        rw [Finmap.insert_insert]
        refine ⟨rfl, rfl, hplaced (List.prefix_refl _), ⟨hintact, fun above habove => ?_,
          row.payload, nodeAt_insert_self hnode, hintact⟩,
          whole_mkdirs_trans hmade whole_insert (Files.keeps_insert hnode)⟩
        exact (Files.keeps_insert hnode).nodeAt (Files.nodeAt_mkdirs hmade habove)
      · obtain hanswers | ⟨hfail, written, hwritten, rfl⟩ := hstep
        · cases hanswers.1
        · rw [Finmap.insert_insert]
          exact ⟨rfl, rfl, hplaced hwritten, .inl hfail⟩
    · obtain hanswers | ⟨hfail, rfl⟩ := hstep
      · cases (openNew_answers hnode hparent hanswers).1
      · exact ⟨rfl, rfl, hgrown, .inl hfail⟩

/-- A row is hydrated where it can be, and nothing that stood is replaced in any case. -/
theorem hydrateArtifact_achieves :
    Achieves failures (hydrateArtifact H row) (fun out w' => w'.rows = w.rows ∧
      w'.pending = w.pending ∧ Grown w.files [row] w'.files ∧ match out with
        | .ok _ => Hydrated H w'.files row ∧ Whole w.files [row] w'.files
        | .error _ => failures ∨ ¬Hydratable H w.files row) w := by
  have hrefl : Grown w.files [row] w.files := Grown.refl _ _
  unfold hydrateArtifact
  apply sat_bind.mpr
  refine Sat.mono safeResolve_achieves fun out w' hout => ?_
  obtain ⟨rfl, hout⟩ := hout
  cases out with
  | error e => exact ⟨rfl, rfl, hrefl, hout.imp id fun hunsafe hclear => hclear.safe hunsafe⟩
  | ok target =>
    obtain ⟨rfl, hsafe⟩ := hout
    refine sat_bind_raiseIf.mpr ⟨fun hintact => ?_, fun hbroken =>
      ⟨rfl, rfl, hrefl, .inr fun hclear => hbroken hclear.intact⟩⟩
    rw [not_not] at hintact
    refine achieves_bind (fun _ w'' hanswers => ?_) fun e w'' hstep => ?_
    · obtain ⟨made, hmade, rfl⟩ := mkdirs_answers hanswers
      exact placeArtifact_achieves hsafe hintact hmade
    · obtain hanswers | ⟨hfail, hleaves⟩ := hstep
      · obtain ⟨hblocked, rfl⟩ := mkdirs_refuses hanswers
        exact ⟨rfl, rfl, hrefl, .inr fun hclear => hblocked hclear.below⟩
      · obtain rfl | ⟨above, partly, habove, hmade, rfl⟩ := hleaves
        · exact ⟨rfl, rfl, hrefl, .inl hfail⟩
        · exact ⟨rfl, rfl, grown_mkdirs habove hmade, .inl hfail⟩

/-- Some rows are hydrated one after the other, or one of them cannot be. -/
theorem hydrateArtifacts_achieves :
    Achieves failures (hydrateArtifacts H rows n) (fun out w' => w'.rows = w.rows ∧
      w'.pending = w.pending ∧ Grown w.files rows w'.files ∧ match out with
        | .ok _ => (∀ row ∈ rows, Hydrated H w'.files row) ∧ Whole w.files rows w'.files
        | .error _ => failures ∨ ∃ row ∈ rows, ∃ middle, Grown w.files rows middle ∧
          Whole w.files rows middle ∧ ¬Hydratable H middle row) w := by
  induction rows generalizing w n with
  | nil => exact ⟨rfl, rfl, Grown.refl _ _, by simp, whole_refl _ _⟩
  | cons row rows ih =>
    apply sat_bind.mpr
    refine Sat.mono hydrateArtifact_achieves fun out w' hout => ?_
    obtain ⟨hrows, hpending, hgrown, hout⟩ := hout
    have hfirst : Grown w.files (row :: rows) w'.files := hgrown.mono (by simp)
    cases out with
    | error e =>
      refine ⟨hrows, hpending, hfirst, hout.imp id fun hrefused => ?_⟩
      exact ⟨row, List.mem_cons_self, w.files, Grown.refl _ _, whole_refl _ _, hrefused⟩
    | ok k =>
      refine Sat.mono ih fun out w'' hrest => ?_
      obtain ⟨hrows', hpending', hgrown', hrest⟩ := hrest
      have hwhole : ∀ {middle : Files}, Grown w'.files rows middle →
          Grown w.files (row :: rows) middle :=
        fun hmiddle => hfirst.trans (hmiddle.mono (List.subset_cons_self row rows))
      refine ⟨hrows'.trans hrows, hpending'.trans hpending, hwhole hgrown', ?_⟩
      cases out with
      | ok k' =>
        obtain ⟨hhydrated, hwritten⟩ := hrest
        exact ⟨List.forall_mem_cons.mpr ⟨hout.1.kept hgrown'.keeps, hhydrated⟩,
          hout.2.cons hwritten hgrown'.keeps⟩
      | error e =>
        refine hrest.imp id ?_
        rintro ⟨other, hother, middle, hmiddle, hwritten, hrefused⟩
        exact ⟨other, List.mem_cons_of_mem _ hother, middle, hwhole hmiddle,
          hout.2.cons hwritten hmiddle.keeps, hrefused⟩

/-- A hydration leaves the rows alone and replaces nothing; when it returns, every row is there. -/
theorem hydrate_achieves (hclosed : w.pending = none) :
    Achieves failures (hydrate H) (fun out w' => w'.rows = w.rows ∧ w'.pending = none ∧
      Grown w.files w.rows w'.files ∧ match out with
        | .ok _ => (∀ row ∈ w.rows, Hydrated H w'.files row) ∧ Whole w.files w.rows w'.files
        | .error _ => failures ∨ ∃ row ∈ w.rows, ∃ middle, Grown w.files w.rows middle ∧
          Whole w.files w.rows middle ∧ ¬Hydratable H middle row) w := by
  have hrefl : Grown w.files w.rows w.files := Grown.refl _ _
  unfold hydrate
  refine achieves_reads (o := .makeRoot) (a := ()) (fun _ _ h => h) (fun _ h => h) ?_
    fun hfail e => ⟨rfl, hclosed, hrefl, .inl hfail⟩
  apply sat_bind.mpr
  refine achieves_inTransaction (R := fun out w' => w' = { w with pending := some w.rows } ∧
    match out with
      | .ok rows => rows.Perm w.rows
      | .error _ => failures) ?_ ?_ ?_ ?_
  · refine sat_perform.mpr ⟨trivial, fun r w' hstep => ?_⟩
    obtain ⟨⟨rows, hperm, rfl⟩, rfl⟩ | ⟨hfail, ⟨e, rfl⟩, rfl⟩ := hstep
    · exact ⟨rfl, hperm⟩
    · exact ⟨rfl, hfail⟩
  · rintro rows w' ⟨rfl, hperm⟩
    refine ⟨?_, fun hfail e => ⟨rfl, rfl, hrefl, .inl hfail⟩⟩
    refine Sat.mono hydrateArtifacts_achieves fun out w' hout => ?_
    obtain ⟨hrows, hpending, hgrown, hout⟩ := hout
    refine ⟨hrows, hpending, hgrown.mono hperm.subset, ?_⟩
    cases out with
    | ok k =>
      exact ⟨fun row hrow => hout.1 row (hperm.mem_iff.mpr hrow), hout.2.mono hperm.subset⟩
    | error e =>
      refine hout.imp id ?_
      rintro ⟨row, hrow, middle, hmiddle, hwritten, hrefused⟩
      exact ⟨row, hperm.mem_iff.mp hrow, middle, hmiddle.mono hperm.subset,
        hwritten.mono hperm.subset, hrefused⟩
  · rintro e w' ⟨rfl, hfail⟩
    exact ⟨rfl, rfl, hrefl, .inl hfail⟩
  · exact fun hfail e => ⟨rfl, hclosed, hrefl, .inl hfail⟩

end hydrating

end ElCapitan
