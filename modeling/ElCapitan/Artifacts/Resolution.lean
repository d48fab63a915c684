import ElCapitan.Artifacts.Files

/-!
# Path resolution

`os.path.realpath` and the methods of `pathlib.Path` over an arbitrary tree with symbolic links.
A path with a NUL character raises `ValueError`, a strict resolution that comes back to a link it
is resolving raises `RuntimeError`, and every other failure is the `OSError` of a system call.
-/

namespace ElCapitan.Posix

/-- The `errno` of a failed `lstat` or `read`. -/
inductive Errno where
  | noEntry
  | notDirectory
  | badFile
  | other (code : ℕ)
  deriving DecidableEq

/-- The `OSError` of a failed system call. -/
structure OSFailure where
  errno : Errno
  text : String
  deriving DecidableEq

/-- `_ignore_error`: the failures that say that nothing stands at a path. -/
def OSFailure.ignored (failure : OSFailure) : Bool :=
  match failure.errno with
  | .noEntry | .notDirectory | .badFile => true
  | .other _ => false

/-- What `lstat` finds at a path. -/
inductive Entry where
  | file
  | directory
  | link (target : String)
  | special
  deriving DecidableEq

/-- The text of a name or path without a NUL character. -/
def NullFree (text : String) : Prop := '\x00' ∉ text.toList

instance (text : String) : Decidable (NullFree text) := inferInstanceAs (Decidable (_ ∉ _))

/-- A name that a directory can hold below it. -/
def IsStepDown (name : String) : Prop := name ≠ "" ∧ name ≠ "." ∧ name ≠ ".."

instance (name : String) : Decidable (IsStepDown name) := inferInstanceAs (Decidable (_ ∧ _))

/-- A file system, with finitely many links. `lstat` is that of the paths whose directories are
no links. -/
structure FileSystem where
  lstat : FilePath → Except OSFailure Entry
  read : FilePath → Except OSFailure Bytes
  links : Finset FilePath
  mem_links : ∀ path target, lstat path = .ok (.link target) → path ∈ links
  /-- `os.getcwd()`, to which no link leads. -/
  cwd : FilePath
  cwd_plain : ∀ above name, above ++ [name] <+: cwd → IsStepDown name ∧ NullFree name ∧
    ∀ target, lstat (above ++ [name]) ≠ .ok (.link target)

variable (fs : FileSystem)

/-- There is a link at a path. -/
def FileSystem.isLink (path : FilePath) : Bool :=
  match fs.lstat path with
  | .ok (.link _) => true
  | _ => false

/-- A path of names none of which is a link or holds a NUL character. -/
def FileSystem.Plain (path : FilePath) : Prop :=
  ∀ above name, above ++ [name] <+: path →
    IsStepDown name ∧ NullFree name ∧ fs.isLink (above ++ [name]) = false

section walking

/-- How a call on a path fails. -/
inductive Failure where
  /-- `ValueError`: the path holds a NUL character. -/
  | nullByte
  /-- `ELOOP`, which a resolution turns into `RuntimeError`. -/
  | loop (path : FilePath)
  /-- Any other `OSError`. -/
  | os (failure : OSFailure)
  deriving DecidableEq

/-- `os.lstat`. -/
def lstat (path : FilePath) : Except Failure Entry :=
  if ∀ name ∈ path, NullFree name then (fs.lstat path).mapError .os else .error .nullByte

/-- The links that a resolution has met, with the path of each that is resolved. -/
abbrev Seen := List (FilePath × Option FilePath)

/-- What a walk ends with. -/
inductive Walked where
  /-- The resolved path. -/
  | whole (path : FilePath)
  /-- A path with the names behind a link that is not resolved. -/
  | stuck (names : List String)
  deriving DecidableEq

/-- `path.split("/")`. -/
def splitNames (text : String) : List String := (text.toList.splitOn '/').map String.ofList

/-- Where the names of a text begin. -/
def startOf (path : FilePath) (text : String) : FilePath :=
  if text.toList.head? = some '/' then [] else path

/-- `join(path, rest)`, where a rest that begins with a slash stands for itself. -/
def joinRest (path rest : List String) : List String :=
  match rest with
  | "" :: _ :: _ => rest
  | _ => path ++ rest

/-- A walk along some names. `follow` is the walk along the names of a link's target. -/
def walkNames (strict : Bool)
    (follow : FilePath → List String → Seen → Except Failure (Walked × Seen)) :
    FilePath → List String → Seen → Except Failure (Walked × Seen)
  | path, [], seen => .ok (.whole path, seen)
  | path, name :: rest, seen =>
    if name = "" ∨ name = "." then walkNames strict follow path rest seen
    else if name = ".." then walkNames strict follow path.dropLast rest seen
    else
      match lstat fs (path ++ [name]) with
      | .error (.os failure) =>
        if strict then .error (.os failure)
        else walkNames strict follow (path ++ [name]) rest seen
      | .error failure => .error failure
      | .ok (.link target) =>
        match seen.lookup (path ++ [name]) with
        | some (some resolved) => walkNames strict follow resolved rest seen
        | some none =>
          -- the link is being resolved: `os.stat` fails, or the names stay as they are
          if strict then .error (.loop (path ++ [name]))
          else .ok (.stuck (joinRest (path ++ [name]) rest), seen)
        | none =>
          match follow (startOf path target) (splitNames target)
            ((path ++ [name], none) :: seen) with
          | .error failure => .error failure
          | .ok (.stuck names, seen') => .ok (.stuck (joinRest names rest), seen')
          | .ok (.whole resolved, seen') =>
            walkNames strict follow resolved rest ((path ++ [name], some resolved) :: seen')
      | .ok _ => walkNames strict follow (path ++ [name]) rest seen

/-- `_joinrealpath`, with links in links to a depth. -/
def joinRealPath (strict : Bool) :
    ℕ → FilePath → List String → Seen → Except Failure (Walked × Seen)
  | 0 => fun path _ _ => .error (.loop path)
  | depth + 1 => walkNames fs strict (joinRealPath strict depth)

/-- `normpath` of an absolute path. -/
def normPath : FilePath → List String → FilePath
  | path, [] => path
  | path, name :: rest =>
    if name = "" ∨ name = "." then normPath path rest
    else if name = ".." then normPath path.dropLast rest
    else normPath (path ++ [name]) rest

/-- `os.path.realpath`: one more depth than there are links is enough, by `joinRealPath_settled`. -/
def realPath (strict : Bool) (start : FilePath) (names : List String) : Except Failure FilePath :=
  match joinRealPath fs strict (fs.links.card + 1) start names [] with
  | .error failure => .error failure
  | .ok (.whole path, _) => .ok path
  | .ok (.stuck names, _) => .ok (normPath [] names)

/-- `os.stat`. -/
def stat (path : FilePath) : Except Failure Entry :=
  match realPath fs true [] path with
  | .error failure => .error failure
  | .ok resolved => lstat fs resolved

/-- `Path.resolve`. -/
def resolve (strict : Bool) (start : FilePath) (names : List String) : Except Failure FilePath :=
  match realPath fs strict start names with
  | .error failure => .error failure
  | .ok path =>
    if strict then .ok path
    else
      match stat fs path with
      | .error (.loop looping) => .error (.loop looping)
      | _ => .ok path

/-- `Path(root).resolve(strict=True)`. -/
def resolveRoot (root : String) : Except Failure FilePath :=
  resolve fs true (startOf fs.cwd root) (splitNames root)

/-- `Path.is_symlink`. -/
def isSymlink (path : FilePath) : Except Failure Bool :=
  match lstat fs path with
  | .ok (.link _) => .ok true
  | .ok _ => .ok false
  | .error (.os failure) => if failure.ignored then .ok false else .error (.os failure)
  | .error _ => .ok false

/-- `Path.is_file`. -/
def isFile (path : FilePath) : Except Failure Bool :=
  match stat fs path with
  | .ok entry => .ok (decide (entry = .file))
  | .error (.os failure) => if failure.ignored then .ok false else .error (.os failure)
  | .error _ => .ok false

end walking

section plain

variable {fs} {path above names rest : FilePath} {name : String} {seen : Seen}

/-- No name leads to the root of the file system. -/
theorem plain_nil : fs.Plain [] := by
  intro above name h
  simp at h

/-- The working directory is a plain path. -/
theorem FileSystem.plain_cwd (fs : FileSystem) : fs.Plain fs.cwd := by
  intro above name h
  obtain ⟨hstep, hnull, hlink⟩ := fs.cwd_plain above name h
  refine ⟨hstep, hnull, ?_⟩
  unfold FileSystem.isLink
  split
  · rename_i target hentry
    exact absurd hentry (hlink target)
  · rfl

/-- The paths above a plain path are plain. -/
theorem FileSystem.Plain.of_prefix (h : fs.Plain path) (habove : above <+: path) :
    fs.Plain above :=
  fun _ _ hbelow => h _ _ (hbelow.trans habove)

/-- A plain path stays plain with one more name that is no link. -/
theorem FileSystem.Plain.append (h : fs.Plain path) (hstep : IsStepDown name)
    (hnull : NullFree name) (hlink : fs.isLink (path ++ [name]) = false) :
    fs.Plain (path ++ [name]) := by
  intro above other hbelow
  obtain hequal | hbelow := List.prefix_concat_iff.mp hbelow
  · obtain ⟨rfl, hname⟩ := List.append_inj' hequal rfl
    obtain rfl := List.singleton_inj.mp hname
    exact ⟨hstep, hnull, hlink⟩
  · exact h _ _ hbelow

/-- The names of a plain path hold no NUL character. -/
theorem FileSystem.Plain.nullFree (h : fs.Plain path) : ∀ name ∈ path, NullFree name := by
  intro name hname
  obtain ⟨above, below, rfl⟩ := List.append_of_mem hname
  exact (h above name ⟨below, by simp⟩).2.1

/-- `lstat` of a path without NUL characters is that of the system. -/
theorem lstat_of_nullFree (h : ∀ name ∈ path, NullFree name) :
    lstat fs path = (fs.lstat path).mapError .os :=
  if_pos h

/-- `lstat` of a path with a NUL character fails. -/
theorem lstat_of_null (hmem : name ∈ path) (hnull : ¬NullFree name) :
    lstat fs path = .error .nullByte :=
  if_neg fun hall => hnull (hall name hmem)

/-- What `lstat` answers for a path whose names hold no NUL character and which is no link. -/
theorem lstat_cases (h : ∀ name ∈ path, NullFree name) (hlink : fs.isLink path = false) :
    (∃ failure, lstat fs path = .error (.os failure)) ∨
      ∃ entry, lstat fs path = .ok entry ∧ ∀ target, entry ≠ .link target := by
  rw [lstat_of_nullFree h]
  unfold FileSystem.isLink at hlink
  cases hentry : fs.lstat path with
  | error failure => exact .inl ⟨failure, rfl⟩
  | ok entry =>
    refine .inr ⟨entry, rfl, ?_⟩
    rintro target rfl
    simp [hentry] at hlink

/-- A path that `lstat` can ask for and that is no link. -/
theorem not_link_of_lstat (hnull : lstat fs path ≠ .error .nullByte)
    (hlink : ∀ target, lstat fs path ≠ .ok (.link target)) :
    (∀ name ∈ path, NullFree name) ∧ fs.isLink path = false := by
  have hfree : ∀ name ∈ path, NullFree name := by
    by_contra hbad
    exact hnull (if_neg hbad)
  refine ⟨hfree, ?_⟩
  rw [lstat_of_nullFree hfree] at hlink
  unfold FileSystem.isLink
  split
  · rename_i target hentry
    exact absurd (by rw [hentry]; rfl) (hlink target)
  · rfl

/-- A link that `lstat` finds is one of the file system's. -/
theorem mem_links_of_lstat {target : String} (h : lstat fs path = .ok (.link target)) :
    path ∈ fs.links := by
  unfold lstat at h
  split_ifs at h
  cases hentry : fs.lstat path with
  | error failure =>
    rw [hentry] at h
    cases h
  | ok entry =>
    rw [hentry] at h
    cases h
    exact fs.mem_links path target hentry

end plain

section resolved

variable {fs} {path names rest : FilePath} {name : String} {seen seen' : Seen} {strict : Bool}
  {follow : FilePath → List String → Seen → Except Failure (Walked × Seen)} {out : Walked}

/-- Every path that was resolved for a link is plain. -/
def PlainSeen (fs : FileSystem) (seen : Seen) : Prop :=
  ∀ link resolved, seen.lookup link = some (some resolved) → fs.Plain resolved

/-- What a walk ends with is a plain path, or, unless it is strict, stuck. -/
def PlainEnd (fs : FileSystem) (strict : Bool) : Walked → Prop
  | .whole resolved => fs.Plain resolved
  | .stuck _ => strict = false

/-- A walk from a plain path ends at plain paths. -/
def KeepsPlain (fs : FileSystem) (strict : Bool)
    (walk : FilePath → List String → Seen → Except Failure (Walked × Seen)) : Prop :=
  ∀ path names seen out seen', fs.Plain path → PlainSeen fs seen →
    walk path names seen = .ok (out, seen') → PlainEnd fs strict out ∧ PlainSeen fs seen'

/-- A link that is being resolved has no resolved path. -/
theorem PlainSeen.cons_none (h : PlainSeen fs seen) (link : FilePath) :
    PlainSeen fs ((link, none) :: seen) := by
  intro other resolved hlookup
  rw [List.lookup_cons] at hlookup
  split at hlookup
  · cases hlookup
  · exact h other resolved hlookup

/-- A resolved link adds its path. -/
theorem PlainSeen.cons_some (h : PlainSeen fs seen) (hpath : fs.Plain path) (link : FilePath) :
    PlainSeen fs ((link, some path) :: seen) := by
  intro other resolved hlookup
  rw [List.lookup_cons] at hlookup
  split at hlookup
  · cases hlookup
    exact hpath
  · exact h other resolved hlookup

/-- The beginning of a link's target is plain where the link's directory is. -/
theorem plain_startOf (h : fs.Plain path) (text : String) : fs.Plain (startOf path text) := by
  unfold startOf
  split_ifs
  · exact plain_nil
  · exact h

/-- A walk along names ends at plain paths, if the walks along the targets of links do. -/
theorem walkNames_keepsPlain (hfollow : KeepsPlain fs strict follow) :
    KeepsPlain fs strict (walkNames fs strict follow) := by
  intro path names
  induction names generalizing path with
  | nil =>
    intro seen out seen' hpath hseen h
    cases h
    exact ⟨hpath, hseen⟩
  | cons name rest ih =>
    intro seen out seen' hpath hseen h
    rw [walkNames] at h
    by_cases hskip : name = "" ∨ name = "."
    · rw [if_pos hskip] at h
      exact ih path seen out seen' hpath hseen h
    rw [if_neg hskip] at h
    by_cases hup : name = ".."
    · rw [if_pos hup] at h
      exact ih _ seen out seen' (hpath.of_prefix (List.dropLast_prefix path)) hseen h
    · rw [if_neg hup] at h
      have hstep : IsStepDown name := ⟨fun he => hskip (.inl he), fun he => hskip (.inr he), hup⟩
      have hdown (hnull : lstat fs (path ++ [name]) ≠ .error .nullByte)
          (hlink : ∀ target, lstat fs (path ++ [name]) ≠ .ok (.link target)) :
          fs.Plain (path ++ [name]) := by
        obtain ⟨hfree, hplain⟩ := not_link_of_lstat hnull hlink
        exact hpath.append hstep (hfree name (by simp)) hplain
      cases hentry : lstat fs (path ++ [name]) with
      | error failure =>
        cases failure with
        | os failure =>
          simp only [hentry] at h
          split_ifs at h
          refine ih _ seen out seen' (hdown ?_ fun target => ?_) hseen h <;> simp [hentry]
        | nullByte => simp [hentry] at h
        | loop looping => simp [hentry] at h
      | ok entry =>
        cases entry with
        | link target =>
          simp only [hentry] at h
          cases hlookup : seen.lookup (path ++ [name]) with
          | some found =>
            simp only [hlookup] at h
            cases found with
            | some resolved =>
              exact ih resolved seen out seen' (hseen _ _ hlookup) hseen h
            | none =>
              simp only at h
              split_ifs at h with hstrict
              cases h
              exact ⟨Bool.eq_false_iff.mpr hstrict, hseen⟩
          | none =>
            simp only [hlookup] at h
            cases hbelow : follow (startOf path target) (splitNames target)
                ((path ++ [name], none) :: seen) with
            | error failure => simp [hbelow] at h
            | ok below =>
              obtain ⟨walked, seen''⟩ := below
              have hkept := hfollow _ _ _ _ _ (plain_startOf hpath target)
                (hseen.cons_none (path ++ [name])) hbelow
              cases walked with
              | whole resolved =>
                simp only [hbelow] at h
                exact ih resolved _ out seen' hkept.1 (hkept.2.cons_some hkept.1 _) h
              | stuck names =>
                simp only [hbelow] at h
                cases h
                exact hkept
        | file | directory | special =>
          simp only [hentry] at h
          refine ih _ seen out seen' (hdown ?_ fun target => ?_) hseen h <;> simp [hentry]

/-- A walk along names with links in links ends at plain paths. -/
theorem joinRealPath_keepsPlain (depth : ℕ) :
    KeepsPlain fs strict (joinRealPath fs strict depth) := by
  induction depth with
  | zero =>
    intro path names seen out seen' hpath hseen h
    cases h
  | succ depth ih => exact walkNames_keepsPlain ih

/-- A strict resolution from a plain path leads to a plain path. -/
theorem plain_of_realPath (hpath : fs.Plain path) {resolved : FilePath}
    (h : realPath fs true path names = .ok resolved) : fs.Plain resolved := by
  unfold realPath at h
  cases hwalk : joinRealPath fs true (fs.links.card + 1) path names [] with
  | error failure => simp [hwalk] at h
  | ok ended =>
    obtain ⟨out, seen⟩ := ended
    have hend := (joinRealPath_keepsPlain _ _ _ _ _ _ hpath (fun _ _ hnone => by cases hnone)
      hwalk).1
    cases out with
    | whole found =>
      simp only [hwalk] at h
      cases h
      exact hend
    | stuck names => cases hend

end resolved

section settled

variable {fs} {path names : FilePath} {seen : Seen} {strict : Bool} {depth : ℕ}
  {follow follow' : FilePath → List String → Seen → Except Failure (Walked × Seen)}

/-- The links of the file system that a resolution has not met. -/
def unmet (fs : FileSystem) (seen : Seen) : Finset FilePath :=
  fs.links.filter fun link => seen.lookup link = none

/-- A walk only meets further links. -/
def MeetsLinks (fs : FileSystem)
    (walk : FilePath → List String → Seen → Except Failure (Walked × Seen)) : Prop :=
  ∀ path names seen out seen', walk path names seen = .ok (out, seen') →
    unmet fs seen' ⊆ unmet fs seen

/-- To meet one more link leaves no link unmet that was met. -/
theorem unmet_cons_subset (link : FilePath) (resolved : Option FilePath) (seen : Seen) :
    unmet fs ((link, resolved) :: seen) ⊆ unmet fs seen := by
  intro other hother
  obtain ⟨hmem, hlookup⟩ := Finset.mem_filter.mp hother
  rw [List.lookup_cons] at hlookup
  split at hlookup
  · cases hlookup
  · exact Finset.mem_filter.mpr ⟨hmem, hlookup⟩

/-- Fewer links are unmet after a link that was not met before. -/
theorem card_unmet_cons_lt {link : FilePath} (hmem : link ∈ fs.links)
    (hlookup : seen.lookup link = none) (resolved : Option FilePath) :
    (unmet fs ((link, resolved) :: seen)).card < (unmet fs seen).card := by
  refine Finset.card_lt_card (Finset.ssubset_iff_subset_ne.mpr
    ⟨unmet_cons_subset link resolved seen, fun hequal => ?_⟩)
  have hold : link ∈ unmet fs seen := Finset.mem_filter.mpr ⟨hmem, hlookup⟩
  rw [← hequal] at hold
  have hmet := (Finset.mem_filter.mp hold).2
  rw [List.lookup_cons_self] at hmet
  cases hmet

/-- A walk along names only meets further links, if the walks along the targets of links do. -/
theorem walkNames_meetsLinks (hfollow : MeetsLinks fs follow) :
    MeetsLinks fs (walkNames fs strict follow) := by
  intro path names
  induction names generalizing path with
  | nil =>
    intro seen out seen' h
    cases h
    exact subset_rfl
  | cons name rest ih =>
    intro seen out seen' h
    rw [walkNames] at h
    by_cases hskip : name = "" ∨ name = "."
    · rw [if_pos hskip] at h
      exact ih path seen out seen' h
    rw [if_neg hskip] at h
    by_cases hup : name = ".."
    · rw [if_pos hup] at h
      exact ih _ seen out seen' h
    · rw [if_neg hup] at h
      cases hentry : lstat fs (path ++ [name]) with
      | error failure =>
        cases failure with
        | os failure =>
          simp only [hentry] at h
          split_ifs at h
          exact ih _ seen out seen' h
        | nullByte | loop looping => simp [hentry] at h
      | ok entry =>
        cases entry with
        | link target =>
          simp only [hentry] at h
          cases hlookup : seen.lookup (path ++ [name]) with
          | some found =>
            simp only [hlookup] at h
            cases found with
            | some resolved => exact ih resolved seen out seen' h
            | none =>
              simp only at h
              split_ifs at h
              cases h
              exact subset_rfl
          | none =>
            simp only [hlookup] at h
            cases hbelow : follow (startOf path target) (splitNames target)
                ((path ++ [name], none) :: seen) with
            | error failure => simp [hbelow] at h
            | ok below =>
              obtain ⟨walked, seen''⟩ := below
              have hmet := (hfollow _ _ _ _ _ hbelow).trans (unmet_cons_subset _ _ seen)
              cases walked with
              | whole resolved =>
                simp only [hbelow] at h
                exact (ih resolved _ out seen' h).trans ((unmet_cons_subset _ _ seen'').trans hmet)
              | stuck names =>
                simp only [hbelow] at h
                cases h
                exact hmet
        | file | directory | special =>
          simp only [hentry] at h
          exact ih _ seen out seen' h

/-- A walk along names asks for the target of a link only with one link less unmet. -/
theorem walkNames_congr (hfollow : MeetsLinks fs follow)
    (hagree : ∀ path names seen, (unmet fs seen).card < depth →
      follow path names seen = follow' path names seen)
    (hunmet : (unmet fs seen).card ≤ depth) :
    walkNames fs strict follow path names seen = walkNames fs strict follow' path names seen := by
  induction names generalizing path seen with
  | nil => rfl
  | cons name rest ih =>
    rw [walkNames, walkNames]
    by_cases hskip : name = "" ∨ name = "."
    · rw [if_pos hskip, if_pos hskip]
      exact ih hunmet
    rw [if_neg hskip, if_neg hskip]
    by_cases hup : name = ".."
    · rw [if_pos hup, if_pos hup]
      exact ih hunmet
    rw [if_neg hup, if_neg hup]
    cases hentry : lstat fs (path ++ [name]) with
    | error failure =>
      cases failure with
      | os failure => simp only [ih hunmet]
      | nullByte | loop looping => rfl
    | ok entry =>
      cases entry with
      | link target =>
        cases hlookup : seen.lookup (path ++ [name]) with
        | some found =>
          cases found with
          | some resolved => simpa only using ih hunmet
          | none => rfl
        | none =>
          have hfewer := (card_unmet_cons_lt (mem_links_of_lstat hentry) hlookup none).trans_le
            hunmet
          simp only [← hagree _ _ _ hfewer]
          cases hbelow : follow (startOf path target) (splitNames target)
              ((path ++ [name], none) :: seen) with
          | error failure => rfl
          | ok below =>
            obtain ⟨walked, seen'⟩ := below
            cases walked with
            | whole resolved =>
              have hmet := (unmet_cons_subset (path ++ [name]) (some resolved) seen').trans
                (hfollow _ _ _ _ _ hbelow)
              exact ih ((Finset.card_le_card hmet).trans hfewer.le)
            | stuck names => rfl
      | file | directory | special => simpa only using ih hunmet

/-- A walk along names with links in links only meets further links. -/
theorem joinRealPath_meetsLinks (depth : ℕ) : MeetsLinks fs (joinRealPath fs strict depth) := by
  induction depth with
  | zero =>
    intro path names seen out seen' h
    cases h
  | succ depth ih => exact walkNames_meetsLinks ih

/-- With a greater depth than there are links unmet, the walk is the source's own recursion, which
has no depth. -/
theorem joinRealPath_recursion (hunmet : (unmet fs seen).card < depth) :
    joinRealPath fs strict depth path names seen =
      walkNames fs strict (joinRealPath fs strict depth) path names seen := by
  induction depth generalizing path names seen with
  | zero => exact absurd hunmet (Nat.not_lt_zero _)
  | succ depth ih =>
    exact walkNames_congr (joinRealPath_meetsLinks depth) (fun _ _ _ => ih)
      (Nat.lt_succ_iff.mp hunmet)

/-- The depth of a resolution never runs out: any greater depth resolves a path alike. -/
theorem joinRealPath_settled (strict : Bool) (start : FilePath) (names : List String)
    (hdepth : fs.links.card < depth) :
    joinRealPath fs strict depth start names [] =
      joinRealPath fs strict (fs.links.card + 1) start names [] := by
  have hunmet : (unmet fs []).card ≤ fs.links.card := Finset.card_filter_le _ _
  induction depth, hdepth using Nat.le_induction with
  | base => rfl
  | succ depth hdepth ih =>
    rw [← ih, joinRealPath_recursion (hunmet.trans_lt hdepth)]
    rfl

end settled

section passing

variable {fs} {path names rest : FilePath} {name : String} {seen : Seen}
  {follow : FilePath → List String → Seen → Except Failure (Walked × Seen)}

/-- A walk that is not strict passes the names of a plain path. -/
theorem walkNames_passes (h : fs.Plain (path ++ names)) :
    walkNames fs false follow path (names ++ rest) seen =
      walkNames fs false follow (path ++ names) rest seen := by
  induction names generalizing path with
  | nil => simp
  | cons name names ih =>
    have hbelow : path ++ [name] <+: path ++ name :: names := ⟨names, by simp⟩
    obtain ⟨⟨hempty, hdot, hup⟩, -, hlink⟩ := h path name hbelow
    have hpass := @ih (path ++ [name]) (by simpa using h)
    rw [List.append_assoc, List.singleton_append] at hpass
    rw [List.cons_append, walkNames, if_neg (by simp [hempty, hdot]), if_neg hup, ← hpass]
    rcases lstat_cases (h.of_prefix hbelow).nullFree hlink with
      ⟨failure, hentry⟩ | ⟨entry, hentry, hne⟩
    · simp [hentry]
    · cases entry with
      | link target => exact absurd rfl (hne target)
      | file | directory | special => simp [hentry]

/-- A strict walk along the names of a plain path meets no link. -/
theorem walkNames_strict (h : fs.Plain (path ++ names)) :
    (∃ failure, walkNames fs true follow path names seen = .error (.os failure)) ∨
      walkNames fs true follow path names seen = .ok (.whole (path ++ names), seen) := by
  induction names generalizing path with
  | nil => exact .inr (by simp [walkNames])
  | cons name names ih =>
    have hbelow : path ++ [name] <+: path ++ name :: names := ⟨names, by simp⟩
    obtain ⟨⟨hempty, hdot, hup⟩, -, hlink⟩ := h path name hbelow
    have hpass := @ih (path ++ [name]) (by simpa using h)
    rw [List.append_assoc, List.singleton_append] at hpass
    rw [walkNames, if_neg (by simp [hempty, hdot]), if_neg hup]
    rcases lstat_cases (h.of_prefix hbelow).nullFree hlink with
      ⟨failure, hentry⟩ | ⟨entry, hentry, hne⟩
    · exact .inl ⟨failure, by simp [hentry]⟩
    · cases entry with
      | link target => exact absurd rfl (hne target)
      | file | directory | special => simpa [hentry] using hpass

/-- `lstat` never comes back to a link that is being resolved. -/
theorem lstat_ne_loop (path looping : FilePath) : lstat fs path ≠ .error (.loop looping) := by
  unfold lstat
  split_ifs
  · cases fs.lstat path <;> simp [Except.mapError]
  · simp

/-- A plain path is its own resolution. -/
theorem resolve_of_plain (h : fs.Plain path) : resolve fs false [] path = .ok path := by
  have hwalk := @walkNames_passes fs [] path [] [] (joinRealPath fs false fs.links.card) h
  have hreal : realPath fs false [] path = .ok path := by
    unfold realPath joinRealPath
    rw [List.append_nil, List.nil_append] at hwalk
    rw [hwalk]
    rfl
  have hstat (looping : FilePath) : stat fs path ≠ .error (.loop looping) := by
    unfold stat realPath joinRealPath
    rcases @walkNames_strict fs [] path [] (joinRealPath fs true fs.links.card) h with
      ⟨failure, hstrict⟩ | hstrict
    · simp [hstrict]
    · rw [List.nil_append] at hstrict
      simpa [hstrict] using lstat_ne_loop path looping
  unfold resolve
  rw [hreal]
  cases hresult : stat fs path with
  | ok entry => simp
  | error failure =>
    cases failure with
    | loop looping => exact absurd hresult (hstat looping)
    | nullByte | os failure => simp

/-- A NUL character behind a plain path makes its resolution fail. -/
theorem resolve_of_null (h : fs.Plain path) (hnull : ¬NullFree name) :
    resolve fs false [] (path ++ name :: rest) = .error .nullByte := by
  have hwalk := @walkNames_passes fs [] path (name :: rest) []
    (joinRealPath fs false fs.links.card) h
  have hproper : ¬(name = "" ∨ name = ".") ∧ name ≠ ".." := by
    refine ⟨?_, ?_⟩
    · rintro (rfl | rfl) <;> exact hnull (by decide)
    · rintro rfl
      exact hnull (by decide)
  unfold resolve realPath joinRealPath
  rw [hwalk, List.nil_append, walkNames, if_neg hproper.1, if_neg hproper.2,
    lstat_of_null (by simp) hnull]

end passing

end ElCapitan.Posix
