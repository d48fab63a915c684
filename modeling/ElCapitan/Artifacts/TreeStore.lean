import ElCapitan.Artifacts.Containment
import ElCapitan.Artifacts.Store

/-!
# The artifact store on a tree with links

`safe_resolve` stands in two places: as a program over the operations of the artifact store, and
as a function of a whole tree with links. The program ends as the function does wherever a tree
answers its calls, and what a tree answers is what the files of the store answer or a failure.
-/

namespace ElCapitan

open Effects

section answers

variable (H : ArtifactHost) (base : FilePath)

/-- The texts and the hash of the store, for the guards over a tree. -/
def ArtifactHost.guards : Posix.PathHost := ⟨H.repr, H.sha256Bytes⟩

/-- A path of the tree as a path below the root, if it is there. -/
def pathBelow (path : FilePath) : Option FilePath :=
  if base <+: path then some (path.drop base.length) else none

/-- What a tree answers to the calls of `safe_resolve` below its root. -/
def TreeAnswers (fs : Posix.FileSystem) : (o : ArtifactOp) → Except PyError o.Answer → Prop
  | .resolveRoot, r =>
    r = ((Posix.resolveRoot fs H.root).mapError (Posix.Failure.raised H.guards)).map fun _ => ()
  | .isSymlink path, r =>
    r = (Posix.isSymlink fs (base ++ path)).mapError (Posix.Failure.raised H.guards)
  | .resolve path, r =>
    r = ((Posix.resolve fs false [] (base ++ path)).mapError (Posix.Failure.raised H.guards)).map
      (pathBelow base)
  | _, _ => True

/-- A call on a tree that nothing changes. -/
def treeStep : Env artifactOps PyError Posix.FileSystem :=
  fun fs o r fs' => TreeAnswers H base fs o r ∧ fs' = fs

/-- The root of the store, if it resolves, is the directory of the tree under its text. -/
def RootedAt (fs : Posix.FileSystem) : Prop :=
  ∀ directory, Posix.resolveRoot fs H.root = .ok directory →
    directory = base ∧ base ≠ [] ∧ H.root = Posix.pathText base

end answers

section refinement

variable {H : ArtifactHost} {base : FilePath} {fs : Posix.FileSystem}

/-- The text of a path below the root is that of the path of the tree. -/
theorem text_below {path : FilePath} (hroot : H.root = Posix.pathText base) (hbase : base ≠ [])
    (hpath : path ≠ []) : H.text path = Posix.pathText (base ++ path) := by
  unfold ArtifactHost.text
  rw [hroot]
  unfold Posix.pathText posixPath
  rw [String.intercalate_append_of_ne_nil hbase hpath]
  simp only [String.append_assoc]

/-- The check for links ends as that over the tree. -/
theorem refuseLinks_follows (hroot : H.root = Posix.pathText base) (hbase : base ≠ [])
    (candidate : FilePath) (parts : List String) :
    Sat (treeStep H base) (fun _ _ => True) (refuseLinks H candidate parts)
      (fun out fs' => fs' = fs ∧ out = Posix.refuseLinks H.guards fs (base ++ candidate) parts)
      fs := by
  induction parts generalizing candidate with
  | nil => exact ⟨rfl, rfl⟩
  | cons part parts ih =>
    have htext : H.text (candidate ++ [part]) = Posix.pathText (base ++ candidate ++ [part]) := by
      rw [List.append_assoc]
      exact text_below hroot hbase (by simp)
    refine sat_bind_perform_iff.mpr ⟨trivial, ?_, ?_⟩
    · rintro (found : Bool) fs' ⟨hanswer, rfl⟩
      change Except.ok found = _ at hanswer
      rw [← List.append_assoc] at hanswer
      cases hlink : Posix.isSymlink fs' (base ++ candidate ++ [part]) with
      | error failure =>
        rw [hlink] at hanswer
        cases hanswer
      | ok linked =>
        rw [hlink] at hanswer
        cases hanswer
        refine sat_bind_raiseIf.mpr ⟨fun hplain => ?_, fun hlinked => ?_⟩
        · rw [Bool.eq_false_iff.mpr hplain] at hlink
          have hrest := ih (candidate ++ [part])
          rw [← List.append_assoc] at hrest
          rw [Posix.refuseLinks, hlink]
          exact hrest
        · rw [hlinked] at hlink
          rw [htext, Posix.refuseLinks, hlink]
          exact ⟨rfl, rfl⟩
    · rintro e fs' ⟨hanswer, rfl⟩
      change Except.error e = _ at hanswer
      rw [← List.append_assoc] at hanswer
      cases hlink : Posix.isSymlink fs' (base ++ candidate ++ [part]) with
      | error failure =>
        rw [hlink] at hanswer
        cases hanswer
        exact ⟨rfl, by rw [Posix.refuseLinks, hlink]⟩
      | ok linked =>
        rw [hlink] at hanswer
        cases hanswer

/-- The program over the calls of the store ends as `safe_resolve` over the tree, with the path
given from the root. -/
theorem safeResolve_follows (hrooted : RootedAt H base fs) (relative : String) :
    Sat (treeStep H base) (fun _ _ => True) (safeResolve H relative)
      (fun out fs' => fs' = fs ∧
        out = (Posix.safeResolve H.guards fs H.root relative).map (List.drop base.length)) fs := by
  unfold safeResolve
  simp only [Prog.bind_eq, Prog.pure_eq]
  refine sat_bind_handle_perform_iff.mpr ⟨trivial, ?_, ?_⟩
  · rintro _ fs' ⟨hanswer, rfl⟩
    cases hroot : Posix.resolveRoot fs' H.root with
    | error failure =>
      change Except.ok _ = _ at hanswer
      rw [hroot] at hanswer
      cases hanswer
    | ok directory =>
      obtain ⟨rfl, hbase, htext⟩ := hrooted directory hroot
      refine sat_bind_raiseIf.mpr ⟨fun hsafe => ?_, fun hunsafe => ⟨rfl, ?_⟩⟩
      · apply sat_bind.mpr
        apply sat_handle.mpr
        apply sat_bind.mpr
        have hlinks : Sat (treeStep H directory) (fun _ _ => True)
            (refuseLinks H [] (pathParts relative))
            (fun out tree => tree = fs' ∧
              out = Posix.refuseLinks H.guards fs' (directory ++ []) (pathParts relative)) fs' :=
          refuseLinks_follows htext hbase [] (pathParts relative)
        rw [List.append_nil] at hlinks
        refine Sat.mono hlinks fun out tree hout => ?_
        obtain ⟨rfl, rfl⟩ := hout
        cases hrefused : Posix.refuseLinks H.guards tree directory (pathParts relative) with
        | error e =>
          refine ⟨rfl, ?_⟩
          simp only [Posix.safeResolve, hroot, if_neg hsafe, Posix.resolveBelow, hrefused]
          rfl
        | ok u =>
          refine sat_perform.mpr ⟨trivial, fun r tree' hstep => ?_⟩
          obtain ⟨hanswer, rfl⟩ := hstep
          change r = _ at hanswer
          subst hanswer
          simp only [Posix.safeResolve, hroot, if_neg hsafe, Posix.resolveBelow, hrefused]
          cases Posix.resolve tree' false [] (directory ++ pathParts relative) with
          | error failure => exact ⟨rfl, rfl⟩
          | ok resolved =>
            by_cases hbelow : directory <+: resolved
            · simp only [Except.mapError, Except.map, pathBelow, if_pos hbelow]
              exact ⟨rfl, rfl⟩
            · simp only [Except.mapError, Except.map, pathBelow, if_neg hbelow]
              exact ⟨rfl, rfl⟩
      · simp only [Posix.safeResolve, hroot, if_pos hunsafe]
        rfl
  · rintro e fs' ⟨hanswer, rfl⟩
    change Except.error e = _ at hanswer
    cases hroot : Posix.resolveRoot fs' H.root with
    | error failure =>
      rw [hroot] at hanswer
      cases hanswer
      refine ⟨rfl, ?_⟩
      simp only [Posix.safeResolve, hroot]
      cases failure with
      | os failure | nullByte | loop path => rfl
    | ok directory =>
      rw [hroot] at hanswer
      cases hanswer

/-- Every call on a tree gets an answer, so the program has a run. -/
theorem treeStep_total (o : ArtifactOp) : ∃ r fs', treeStep H base fs o r fs' := by
  cases o with
  | resolveRoot | isSymlink path | resolve path => exact ⟨_, fs, rfl, rfl⟩
  | _ => exact ⟨.error (runtimeError ""), fs, trivial, rfl⟩

/-- Every run of the program of the store on a tree ends as `safe_resolve` over the tree. -/
theorem safeResolve_refines (hrooted : RootedAt H base fs) {relative : String}
    {out : Except PyError FilePath} {fs' : Posix.FileSystem}
    (hrun : Runs (treeStep H base) (safeResolve H relative) fs out fs') :
    out = (Posix.safeResolve H.guards fs H.root relative).map (List.drop base.length) :=
  ((safeResolve_follows hrooted relative).runs hrun).2

/-- A call that `safe_resolve` makes. -/
def IsGuardCall : ArtifactOp → Prop
  | .resolveRoot | .isSymlink _ => True
  | .resolve path => ∀ name ∈ path, Posix.IsStepDown name
  | _ => False

/-- The files of a store show the links of a tree below a directory. -/
def ShowsLinks (base : FilePath) (fs : Posix.FileSystem) (files : Files) : Prop :=
  ∀ path, files.isSymlink path = true ↔ Posix.isSymlink fs (base ++ path) = .ok true

/-- A path of names on which the files of the store show no link resolves to itself, if it
resolves. -/
theorem resolve_below {files : Files} {path resolved : FilePath} (hbase : fs.Plain base)
    (hshows : ShowsLinks base fs files) (hnames : ∀ name ∈ path, Posix.IsStepDown name)
    (hlinks : ∀ above, above <+: path → files.isSymlink above = false)
    (hresolved : Posix.resolve fs false [] (base ++ path) = .ok resolved) :
    resolved = base ++ path := by
  have hplain (above : FilePath) (habove : above <+: path)
      (hfree : ∀ name ∈ above, Posix.NullFree name) : fs.Plain (base ++ above) := by
    refine Posix.plain_below hbase (fun name hname => ⟨hnames name (habove.subset hname),
      hfree name hname⟩) fun first name hfirst => ?_
    have hnull : ∀ part ∈ base ++ (first ++ [name]), Posix.NullFree part :=
      List.forall_mem_append.mpr
        ⟨hbase.nullFree, fun part hpart => hfree part (hfirst.subset hpart)⟩
    by_contra hlink
    have hshown := (hshows (first ++ [name])).mpr
      (Posix.isSymlink_of_isLink hnull (Bool.eq_true_of_not_eq_false hlink))
    rw [hlinks _ (hfirst.trans habove)] at hshown
    cases hshown
  by_cases hfree : ∀ name ∈ path, Posix.NullFree name
  · rw [Posix.resolve_of_plain (hplain path List.prefix_rfl hfree)] at hresolved
    exact (Except.ok.inj hresolved).symm
  · obtain ⟨above, name, below, rfl, habove, hname⟩ := Posix.exists_first_null hfree
    have hfailed : Posix.resolve fs false [] (base ++ above ++ name :: below) = .error .nullByte :=
      Posix.resolve_of_null (hplain above (List.prefix_append _ _) habove) hname
    rw [List.append_assoc, hresolved] at hfailed
    cases hfailed

/-- What a tree answers to a call of `safe_resolve` is what the files of the store answer, or a
failure that leaves them as they are. -/
theorem artifactStep_of_tree {w : ArtifactWorld} (hroot : Posix.resolveRoot fs H.root = .ok base)
    (hshows : ShowsLinks base fs w.files) {o : ArtifactOp} (hcall : IsGuardCall o)
    {r : Except PyError o.Answer} (hanswer : TreeAnswers H base fs o r) :
    artifactStep True w o r w := by
  cases o with
  | resolveRoot =>
    change r = _ at hanswer
    rw [hroot] at hanswer
    exact .inl ⟨hanswer, rfl⟩
  | isSymlink path =>
    change r = _ at hanswer
    cases hlink : Posix.isSymlink fs (base ++ path) with
    | error failure =>
      rw [hlink] at hanswer
      exact .inr ⟨trivial, ⟨_, hanswer⟩, rfl⟩
    | ok linked =>
      rw [hlink] at hanswer
      have hsame : w.files.isSymlink path = linked := by
        rw [Bool.eq_iff_iff, hshows, hlink]
        simp
      exact .inl ⟨by rw [hanswer, hsame]; rfl, rfl⟩
  | resolve path =>
    change r = _ at hanswer
    cases hresolved : Posix.resolve fs false [] (base ++ path) with
    | error failure =>
      rw [hresolved] at hanswer
      exact .inr ⟨trivial, ⟨_, hanswer⟩, rfl⟩
    | ok resolved =>
      refine .inl ⟨fun hlinks => ?_, rfl⟩
      obtain rfl := resolve_below (Posix.plain_of_resolveRoot hroot) hshows hcall hlinks hresolved
      rw [hanswer, hresolved]
      simp only [Except.mapError, Except.map, pathBelow, if_pos (List.prefix_append base path),
        List.drop_left]
      rfl
  | _ => cases hcall

end refinement

section samples

/-- A store in the directory of the sample tree. -/
def runStore : ArtifactHost := ⟨"/run", fun text => "'" ++ text ++ "'", fun _ => ""⟩

/-- The directory of the sample tree is the root of its store. -/
theorem runStore_rooted : RootedAt runStore ["run"] Posix.sampleTree := by
  intro directory hroot
  have hrun : Posix.resolveRoot Posix.sampleTree "/run" = .ok ["run"] := by rfl
  obtain rfl : ["run"] = directory := Except.ok.inj (hrun.symm.trans hroot)
  exact ⟨rfl, by simp, rfl⟩

/-- In the sample tree a path with dots and empty names leads to its names. -/
theorem runStore_refines : ∃ out fs',
    Runs (treeStep runStore ["run"]) (safeResolve runStore "./a//b") Posix.sampleTree out fs' ∧
      out = .ok ["a", "b"] := by
  obtain ⟨out, fs', hrun⟩ := Runs.exists_of_total (fun _ => treeStep_total)
    (safeResolve runStore "./a//b") Posix.sampleTree
  exact ⟨out, fs', hrun, safeResolve_refines runStore_rooted hrun⟩

end samples

end ElCapitan
