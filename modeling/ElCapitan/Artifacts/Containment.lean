import ElCapitan.Artifacts.Resolution
import ElCapitan.Services.Operations

/-!
# Containment

`safe_resolve` and `verify_evidence` over an arbitrary tree, root and path. The guards admit a path
only if nothing below the root is a link. They refuse with one error, unless a NUL character
reaches a resolution, which no guard looks for.
-/

namespace ElCapitan.Posix

/-- What the guards take from the library: `repr` and `sha256_bytes`. -/
structure PathHost where
  repr : String → String
  sha256Bytes : Bytes → String

section guards

variable (H : PathHost) (fs : FileSystem)

/-- `str(path)` of an absolute path. -/
def pathText (path : FilePath) : String := "/" ++ posixPath path

/-- The exception of a failed call. -/
def Failure.raised : Failure → PyError
  | .nullByte => valueError "embedded null byte"
  | .loop path => ⟨.runtimeError, "Symlink loop from " ++ H.repr (pathText path)⟩
  | .os failure => ⟨.osError, failure.text⟩

/-- The first guard of `safe_resolve`: no component below the root is a link. -/
def refuseLinks : FilePath → List String → Except PyError Unit
  | _, [] => .ok ()
  | candidate, part :: parts =>
    match isSymlink fs (candidate ++ [part]) with
    | .error failure => .error (failure.raised H)
    | .ok true =>
      .error ⟨.pathEscape, "symlink in evidence path: " ++ pathText (candidate ++ [part])⟩
    | .ok false => refuseLinks (candidate ++ [part]) parts

/-- The body of the second `try` of `safe_resolve`. -/
def resolveBelow (base : FilePath) (parts : List String) : Except PyError FilePath :=
  match refuseLinks H fs base parts with
  | .error e => .error e
  | .ok () => (resolve fs false [] (base ++ parts)).mapError (Failure.raised H)

/-- `safe_resolve`. -/
def safeResolve (root relative : String) : Except PyError FilePath :=
  match resolveRoot fs root with
  | .error (.os failure) => .error ⟨.pathEscape,
      "root directory does not resolve: " ++ H.repr root ++ " (" ++ failure.text ++ ")"⟩
  | .error failure => .error (failure.raised H)
  | .ok base =>
    if relative.toList.head? = some '/' ∨ ".." ∈ pathParts relative then
      .error ⟨.pathEscape, "unsafe path: " ++ H.repr relative⟩
    else
      match resolveBelow H fs base (pathParts relative) with
      | .error e => .error (if e.kind = .osError then ⟨.pathEscape,
          "path could not be resolved: " ++ H.repr relative ++ " (" ++ e.message ++ ")"⟩ else e)
      | .ok resolved =>
        if base <+: resolved then .ok resolved
        else .error ⟨.pathEscape, "path escapes run directory: " ++ H.repr relative⟩

/-- `verify_evidence`. -/
def verifyEvidence (runDir : String) (ref : EvidenceRef) : Except PyError Bool :=
  match safeResolve H fs runDir ref.artifactPath with
  | .error e => if e.kind = .pathEscape ∨ e.kind = .osError then .ok false else .error e
  | .ok path =>
    match isFile fs path with
    | .error (.os _) => .ok false
    | .error failure => .error (failure.raised H)
    | .ok false => .ok false
    | .ok true =>
      match fs.read path with
      | .error _ => .ok false
      | .ok payload => .ok (decide (H.sha256Bytes payload = ref.sha256))

end guards

section refused

variable {H : PathHost} {fs : FileSystem} {base candidate path above : FilePath}
  {part : String} {parts : List String}

/-- A path that is a link, or that cannot be examined though something may stand there. -/
def FileSystem.Blocks (fs : FileSystem) (path : FilePath) : Prop :=
  match fs.lstat path with
  | .ok (.link _) => True
  | .ok _ => False
  | .error failure => failure.ignored = false

/-- A component blocks a path before any NUL character of it. -/
def Refused (fs : FileSystem) (base : FilePath) (parts : List String) : Prop :=
  ∃ above name below, parts = above ++ name :: below ∧
    (∀ part ∈ above ++ [name], NullFree part) ∧ fs.Blocks (base ++ (above ++ [name]))

/-- A path that blocks is refused by `is_symlink`. -/
theorem isSymlink_of_blocks (hfree : ∀ name ∈ path, NullFree name) (h : fs.Blocks path) :
    isSymlink fs path = .ok true ∨ ∃ failure, isSymlink fs path = .error (.os failure) := by
  unfold FileSystem.Blocks at h
  unfold isSymlink
  rw [lstat_of_nullFree hfree]
  cases hentry : fs.lstat path with
  | error failure =>
    rw [hentry] at h
    exact .inr ⟨failure, by simp [Except.mapError, show failure.ignored = false from h]⟩
  | ok entry =>
    rw [hentry] at h
    cases entry with
    | link target => exact .inl rfl
    | file | directory | special => cases h

/-- A path that does not block is no link. -/
theorem isSymlink_of_not_blocks (hfree : ∀ name ∈ path, NullFree name) (h : ¬fs.Blocks path) :
    isSymlink fs path = .ok false ∧ fs.isLink path = false := by
  unfold FileSystem.Blocks at h
  unfold isSymlink FileSystem.isLink
  rw [lstat_of_nullFree hfree]
  cases hentry : fs.lstat path with
  | error failure =>
    rw [hentry] at h
    exact ⟨by simp [Except.mapError, show failure.ignored = true by simpa using h], rfl⟩
  | ok entry =>
    rw [hentry] at h
    cases entry with
    | link target => exact absurd trivial h
    | file | directory | special => exact ⟨rfl, rfl⟩

/-- `is_symlink` says that a path with a NUL character is no link. -/
theorem isSymlink_of_null (hmem : part ∈ path) (hnull : ¬NullFree part) :
    isSymlink fs path = .ok false := by
  unfold isSymlink
  rw [lstat_of_null hmem hnull]

/-- No link is looked for behind a NUL character. -/
theorem refuseLinks_of_null (hmem : part ∈ candidate) (hnull : ¬NullFree part) :
    refuseLinks H fs candidate parts = .ok () := by
  induction parts generalizing candidate with
  | nil => rfl
  | cons next parts ih =>
    have hmem' : part ∈ candidate ++ [next] := List.mem_append_left _ hmem
    rw [refuseLinks, isSymlink_of_null hmem' hnull]
    exact ih hmem'

/-- A first component that does not block leaves the question to the others. -/
theorem refused_cons (hnull : NullFree part) (hblocks : ¬fs.Blocks (base ++ [part])) :
    Refused fs base (part :: parts) ↔ Refused fs (base ++ [part]) parts := by
  constructor
  · rintro ⟨above, name, below, hparts, hfree, hblock⟩
    cases above with
    | nil =>
      obtain ⟨rfl, -⟩ := List.cons.inj hparts
      exact absurd hblock hblocks
    | cons first above =>
      obtain ⟨rfl, hrest⟩ := List.cons.inj hparts
      exact ⟨above, name, below, hrest, fun other hother => hfree other (by simp_all),
        by simpa using hblock⟩
  · rintro ⟨above, name, below, rfl, hfree, hblock⟩
    refine ⟨part :: above, name, below, rfl, ?_, by simpa using hblock⟩
    intro other hother
    rcases List.mem_cons.mp hother with rfl | hother
    · exact hnull
    · exact hfree other hother

/-- A path whose first component holds a NUL character is not refused. -/
theorem not_refused_of_null (hnull : ¬NullFree part) : ¬Refused fs base (part :: parts) := by
  rintro ⟨above, name, below, hparts, hfree, -⟩
  cases above with
  | nil =>
    obtain ⟨rfl, -⟩ := List.cons.inj hparts
    exact hnull (hfree part (by simp))
  | cons first above =>
    obtain ⟨rfl, -⟩ := List.cons.inj hparts
    exact hnull (hfree part (by simp))

/-- The first guard refuses exactly the paths that a component blocks. -/
theorem refuseLinks_cases (hfree : ∀ name ∈ candidate, NullFree name) :
    (Refused fs candidate parts ∧ ∃ e, refuseLinks H fs candidate parts = .error e ∧
      (e.kind = .pathEscape ∨ e.kind = .osError)) ∨
    (¬Refused fs candidate parts ∧ refuseLinks H fs candidate parts = .ok ()) := by
  induction parts generalizing candidate with
  | nil =>
    refine .inr ⟨?_, rfl⟩
    rintro ⟨above, name, below, hparts, -⟩
    simp at hparts
  | cons part parts ih =>
    by_cases hnull : NullFree part
    · have hfree' : ∀ name ∈ candidate ++ [part], NullFree name := by
        intro name hname
        rcases List.mem_append.mp hname with hname | hname
        · exact hfree name hname
        · rwa [List.mem_singleton.mp hname]
      by_cases hblocks : fs.Blocks (candidate ++ [part])
      · refine .inl ⟨⟨[], part, parts, rfl, by simpa using hnull, by simpa using hblocks⟩, ?_⟩
        rcases isSymlink_of_blocks hfree' hblocks with hlink | ⟨failure, hfailed⟩
        · exact ⟨_, by rw [refuseLinks, hlink], .inl rfl⟩
        · exact ⟨_, by rw [refuseLinks, hfailed], .inr rfl⟩
      · rw [refused_cons hnull hblocks, refuseLinks, (isSymlink_of_not_blocks hfree' hblocks).1]
        exact ih hfree'
    · refine .inr ⟨not_refused_of_null hnull, ?_⟩
      have hmem : part ∈ candidate ++ [part] := by simp
      rw [refuseLinks, isSymlink_of_null hmem hnull]
      exact refuseLinks_of_null hmem hnull

/-- A link is one to `is_symlink`. -/
theorem isSymlink_of_isLink (hfree : ∀ name ∈ path, NullFree name) (h : fs.isLink path = true) :
    isSymlink fs path = .ok true := by
  unfold FileSystem.isLink at h
  unfold isSymlink
  rw [lstat_of_nullFree hfree]
  split at h
  · rename_i target hentry
    rw [hentry]
    rfl
  · cases h

/-- Names that lead down from a plain path and past no link make a plain path. -/
theorem plain_below (hbase : fs.Plain base)
    (hnames : ∀ name ∈ path, IsStepDown name ∧ NullFree name)
    (hlinks : ∀ above name, above ++ [name] <+: path →
      fs.isLink (base ++ (above ++ [name])) = false) : fs.Plain (base ++ path) := by
  induction path using List.reverseRecOn with
  | nil => simpa using hbase
  | append_singleton above name ih =>
    have hpath := ih (fun part hpart => hnames part (List.mem_append_left _ hpart))
      fun other name hother => hlinks other name (hother.trans (List.prefix_append _ _))
    obtain ⟨hstep, hnull⟩ := hnames name (by simp)
    have hlink := hlinks above name List.prefix_rfl
    rw [← List.append_assoc] at hlink ⊢
    exact hpath.append hstep hnull hlink

/-- Below a plain root the components that are not refused make a plain path, up to the first NUL
character. -/
theorem plain_of_not_refused (hbase : fs.Plain base) (hparts : ∀ part ∈ parts, IsStepDown part)
    (h : ¬Refused fs base parts) (habove : above <+: parts)
    (hfree : ∀ part ∈ above, NullFree part) : fs.Plain (base ++ above) := by
  refine plain_below hbase
    (fun part hpart => ⟨hparts part (habove.subset hpart), hfree part hpart⟩)
    fun first name hfirst => ?_
  obtain ⟨below, hbelow⟩ := hfirst.trans habove
  have hnull : ∀ part ∈ first ++ [name], NullFree part := fun part hpart =>
    hfree part (hfirst.subset hpart)
  have hblocks : ¬fs.Blocks (base ++ (first ++ [name])) := fun hblock =>
    h ⟨first, name, below, by simpa using hbelow.symm, hnull, hblock⟩
  exact (isSymlink_of_not_blocks (List.forall_mem_append.mpr ⟨hbase.nullFree, hnull⟩) hblocks).2

end refused

section containment

variable {H : PathHost} {fs : FileSystem} {base : FilePath} {root relative : String}

/-- The components of a relative path lead down, except the two dots. -/
theorem isStepDown_of_mem (hup : ".." ∉ pathParts relative) {part : String}
    (hpart : part ∈ pathParts relative) : IsStepDown part := by
  obtain ⟨chars, hchars, rfl⟩ := List.mem_map.mp hpart
  obtain ⟨-, hkept⟩ := List.mem_filter.mp hchars
  obtain ⟨hempty, hdot⟩ := of_decide_eq_true hkept
  refine ⟨fun h => hempty ?_, fun h => hdot ?_, fun h => hup (h ▸ hpart)⟩
  · simpa using congrArg String.toList h
  · simpa using congrArg String.toList h

/-- What is in joined texts, apart from the separator, is in one of them. -/
theorem mem_intercalate {c sep : Char} (hne : c ≠ sep) {parts : List (List Char)} :
    c ∈ [sep].intercalate parts ↔ ∃ part ∈ parts, c ∈ part := by
  induction parts with
  | nil => simp [List.intercalate_nil]
  | cons part parts ih =>
    cases parts with
    | nil => simp
    | cons next parts =>
      rw [List.intercalate_cons_cons, List.mem_append, List.mem_append, ih]
      simp [hne]

/-- A path is free of NUL characters if its components are. -/
theorem nullFree_iff : NullFree relative ↔ ∀ part ∈ pathParts relative, NullFree part := by
  have hjoined : '\x00' ∈ relative.toList ↔
      ∃ part ∈ relative.toList.splitOn '/', '\x00' ∈ part := by
    rw [← mem_intercalate (show '\x00' ≠ '/' by decide), List.intercalate_splitOn]
  unfold NullFree
  rw [hjoined]
  constructor
  · intro h part hpart hnull
    obtain ⟨chars, hchars, rfl⟩ := List.mem_map.mp hpart
    exact h ⟨chars, (List.mem_filter.mp hchars).1, by simpa using hnull⟩
  · rintro h ⟨chars, hchars, hnull⟩
    have hkept : chars ≠ [] ∧ chars ≠ ['.'] := by
      refine ⟨?_, ?_⟩ <;> rintro rfl
      · cases hnull
      · exact absurd hnull (by decide)
    refine h (String.ofList chars) ?_ (by simpa using hnull)
    exact List.mem_map_of_mem (List.mem_filter.mpr ⟨hchars, decide_eq_true hkept⟩)

/-- The first component of a path that holds a NUL character. -/
theorem exists_first_null {parts : List String} (h : ¬∀ part ∈ parts, NullFree part) :
    ∃ above name below, parts = above ++ name :: below ∧
      (∀ part ∈ above, NullFree part) ∧ ¬NullFree name := by
  induction parts with
  | nil => exact absurd (by simp) h
  | cons part parts ih =>
    by_cases hpart : NullFree part
    · obtain ⟨above, name, below, rfl, habove, hname⟩ := ih fun hall =>
        h (List.forall_mem_cons.mpr ⟨hpart, hall⟩)
      exact ⟨part :: above, name, below, rfl, List.forall_mem_cons.mpr ⟨hpart, habove⟩, hname⟩
    · exact ⟨[], part, parts, rfl, by simp, hpart⟩

/-- A path inside a root, with no link below the root. -/
def Contained (fs : FileSystem) (base path : FilePath) : Prop :=
  base <+: path ∧ ∀ above name, base <+: above → above ++ [name] <+: path →
    fs.isLink (above ++ [name]) = false

/-- What containment asks of `safe_resolve`: a path inside the resolved root without links, or
`PathEscape`. -/
def Contains (fs : FileSystem) (root : String) : Except PyError FilePath → Prop
  | .ok path => ∃ base, resolveRoot fs root = .ok base ∧ Contained fs base path
  | .error e => e.kind = .pathEscape

/-- The root meets neither a NUL character nor a loop of links, and the path has no NUL character
or is refused before one: it has no root, or by its text, or by a component. -/
def Guarded (fs : FileSystem) (root relative : String) : Prop :=
  match resolveRoot fs root with
  | .error (.os _) => True
  | .error _ => False
  | .ok base => NullFree relative ∨ relative.toList.head? = some '/' ∨
      ".." ∈ pathParts relative ∨ Refused fs base (pathParts relative)

/-- The resolved root is a plain path. -/
theorem plain_of_resolveRoot (h : resolveRoot fs root = .ok base) :
    fs.Plain base := by
  unfold resolveRoot resolve at h
  cases hreal : realPath fs true (startOf fs.cwd root) (splitNames root) with
  | error failure => simp [hreal] at h
  | ok path =>
    simp only [hreal, if_true] at h
    cases h
    exact plain_of_realPath (plain_startOf fs.plain_cwd root) hreal

/-- What `safe_resolve` does with a path that passes the checks of its text. -/
theorem safeResolve_cases (hroot : resolveRoot fs root = .ok base)
    (habsolute : relative.toList.head? ≠ some '/') (hup : ".." ∉ pathParts relative) :
    (Refused fs base (pathParts relative) ∧ ∃ e, safeResolve H fs root relative = .error e ∧
      e.kind = .pathEscape) ∨
    (¬Refused fs base (pathParts relative) ∧ NullFree relative ∧
      fs.Plain (base ++ pathParts relative) ∧
      safeResolve H fs root relative = .ok (base ++ pathParts relative)) ∨
    (¬Refused fs base (pathParts relative) ∧ ¬NullFree relative ∧
      safeResolve H fs root relative = .error (valueError "embedded null byte")) := by
  have hbase := plain_of_resolveRoot hroot
  have hdown : ∀ part ∈ pathParts relative, IsStepDown part := fun part => isStepDown_of_mem hup
  have htext : ¬(relative.toList.head? = some '/' ∨ ".." ∈ pathParts relative) := by
    rintro (h | h)
    · exact habsolute h
    · exact hup h
  unfold safeResolve resolveBelow
  simp only [hroot, if_neg htext]
  rcases @refuseLinks_cases H fs base (pathParts relative) hbase.nullFree with
    ⟨hrefused, e, herror, hkind⟩ | ⟨hrefused, hpassed⟩
  · refine .inl ⟨hrefused, _, by rw [herror], ?_⟩
    rcases hkind with hkind | hkind <;> simp [hkind]
  · rw [hpassed]
    by_cases hnull : NullFree relative
    · have hplain := plain_of_not_refused hbase hdown hrefused List.prefix_rfl
        (nullFree_iff.mp hnull)
      refine .inr (.inl ⟨hrefused, hnull, hplain, ?_⟩)
      simp [resolve_of_plain hplain, Except.mapError]
    · obtain ⟨above, name, below, hparts, hbefore, hname⟩ :=
        exists_first_null (mt nullFree_iff.mpr hnull)
      have hplain := plain_of_not_refused hbase hdown hrefused ⟨name :: below, hparts.symm⟩ hbefore
      refine .inr (.inr ⟨hrefused, hnull, ?_⟩)
      rw [hparts, ← List.append_assoc, resolve_of_null hplain hname]
      rfl

/-- A path without links below a root is contained in it. -/
theorem contained_of_plain {path : FilePath} (hbase : base <+: path) (h : fs.Plain path) :
    Contained fs base path :=
  ⟨hbase, fun above name _ hname => (h above name hname).2.2⟩

/-- `is_file` answers, or fails with an `OSError`. -/
theorem isFile_cases (path : FilePath) : (∃ found, isFile fs path = .ok found) ∨
    ∃ failure, isFile fs path = .error (.os failure) := by
  unfold isFile
  split
  · exact .inl ⟨_, rfl⟩
  · split_ifs
    · exact .inl ⟨false, rfl⟩
    · exact .inr ⟨_, rfl⟩
  · exact .inl ⟨false, rfl⟩

/-- `verify_evidence` catches `PathEscape` and `OSError`, and raises what else `safe_resolve`
raises. -/
theorem verifyEvidence_returns_iff (ref : EvidenceRef) :
    (∃ verified, verifyEvidence H fs root ref = .ok verified) ↔
      ∀ e, safeResolve H fs root ref.artifactPath = .error e →
        e.kind = .pathEscape ∨ e.kind = .osError := by
  unfold verifyEvidence
  cases hresolved : safeResolve H fs root ref.artifactPath with
  | error e =>
    by_cases hkind : e.kind = .pathEscape ∨ e.kind = .osError
    · simp [hkind]
    · simp [hkind]
  | ok path =>
    refine iff_of_true ?_ fun e h => by cases h
    rcases @isFile_cases fs path with ⟨found, hfile⟩ | ⟨failure, hfile⟩
    · cases found with
      | false => exact ⟨false, by simp [hfile]⟩
      | true =>
        cases hread : fs.read path with
        | error failure => exact ⟨false, by simp [hfile, hread]⟩
        | ok payload =>
          exact ⟨decide (H.sha256Bytes payload = ref.sha256), by simp [hfile, hread]⟩
    · exact ⟨false, by simp [hfile]⟩

/-- `safe_resolve` returns a contained path or raises `PathEscape`, exactly where the root and the
path are guarded. -/
theorem safeResolve_contains_iff :
    Contains fs root (safeResolve H fs root relative) ↔ Guarded fs root relative := by
  unfold Guarded
  cases hroot : resolveRoot fs root with
  | error failure =>
    unfold safeResolve
    rw [hroot]
    cases failure with
    | os failure => exact iff_of_true rfl trivial
    | nullByte | loop path => exact iff_of_false (by simp [Contains, Failure.raised, valueError]) id
  | ok base =>
    by_cases htext : relative.toList.head? = some '/' ∨ ".." ∈ pathParts relative
    · refine iff_of_true ?_ (.inr (by tauto))
      unfold safeResolve
      simp only [hroot, if_pos htext]
      rfl
    · have habsolute : relative.toList.head? ≠ some '/' := fun h => htext (.inl h)
      have hup : ".." ∉ pathParts relative := fun h => htext (.inr h)
      rcases @safeResolve_cases H fs base root relative hroot habsolute hup with
        ⟨hrefused, e, hresult, hkind⟩ | ⟨-, hnull, hplain, hresult⟩ | ⟨hrefused, hnull, hresult⟩
      · rw [hresult]
        exact iff_of_true hkind (.inr (.inr (.inr hrefused)))
      · rw [hresult]
        exact iff_of_true ⟨base, hroot, contained_of_plain (List.prefix_append _ _) hplain⟩
          (.inl hnull)
      · rw [hresult]
        refine iff_of_false (by simp [Contains, valueError]) ?_
        rintro (h | h | h | h)
        · exact hnull h
        · exact habsolute h
        · exact hup h
        · exact hrefused h

/-- `safe_resolve` returns a contained path or raises `PathEscape`, and `verify_evidence` returns,
exactly where the root and the path are guarded. -/
theorem evidence_guarded_iff (H : PathHost) (fs : FileSystem) (root : String)
    (ref : EvidenceRef) :
    (Contains fs root (safeResolve H fs root ref.artifactPath) ∧
      ∃ verified, verifyEvidence H fs root ref = .ok verified) ↔
        Guarded fs root ref.artifactPath := by
  rw [verifyEvidence_returns_iff, safeResolve_contains_iff]
  constructor
  · exact fun h => h.1
  · intro hguarded
    refine ⟨hguarded, fun e herror => .inl ?_⟩
    have hcontains := (@safeResolve_contains_iff H fs root ref.artifactPath).mpr hguarded
    rw [herror] at hcontains
    exact hcontains

end containment

section samples

/-- A run directory, and a link that leads to itself. -/
def sampleTree : FileSystem where
  lstat path :=
    if path = ["run"] then .ok .directory
    else if path = ["loop"] then .ok (.link "loop")
    else .error ⟨.noEntry, "[Errno 2] No such file or directory: '" ++ pathText path ++ "'"⟩
  read path := .error ⟨.noEntry, "[Errno 2] No such file or directory: '" ++ pathText path ++ "'"⟩
  links := {["loop"]}
  mem_links path target h := by
    split_ifs at h with hrun hloop
    · cases h
    · simpa using hloop
  cwd := []
  cwd_plain above name h := by simp at h

/-- The texts and hashes of the sample runs. -/
def sampleHost : PathHost := ⟨fun text => "'" ++ text ++ "'", fun _ => ""⟩

/-- A reference to an artifact at a path. -/
def artifactAt (path : String) : EvidenceRef :=
  ⟨"EVD-001", "scan", path, "", "", "internal", "", ⟨"elcapitan", "1", ""⟩⟩

/-- A NUL character in the path and a root that is a loop of links escape as another error. -/
theorem null_and_loop_escape :
    safeResolve sampleHost sampleTree "/run" "a\x00b" = .error (valueError "embedded null byte") ∧
    verifyEvidence sampleHost sampleTree "/run" (artifactAt "a\x00b") =
      .error (valueError "embedded null byte") ∧
    safeResolve sampleHost sampleTree "/loop" "a" =
      .error ⟨.runtimeError, "Symlink loop from '/loop'"⟩ ∧
    verifyEvidence sampleHost sampleTree "/loop" (artifactAt "a") =
      .error ⟨.runtimeError, "Symlink loop from '/loop'"⟩ := by
  refine ⟨?_, ?_, ?_, ?_⟩ <;> rfl

end samples

end ElCapitan.Posix
