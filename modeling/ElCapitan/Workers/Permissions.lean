import ElCapitan.Services.Execution

/-!
# What a worker may do

Workers run service methods beside each other on the shared stores. What a
worker may do next depends on the few events of its history that later steps rely
on: its notes. A permission says when a worker may change a case, assign a
finding or deploy; the services only act with permission.
-/

namespace ElCapitan

open Effects

/-- The events a worker relies on later: what it read and wrote, and its deployments. -/
def noted : Event operations PyError → Bool
  | ⟨.getCase _, .ok _⟩ | ⟨.advanceRead _ _ _, .ok _⟩ | ⟨.findActiveByAsset _ _, .ok _⟩ => true
  | ⟨.insertCase _, .ok _⟩ | ⟨.appendCase _ _ _, .ok _⟩ => true
  | ⟨.listForCase _, .ok _⟩ | ⟨.putRecord _, .ok _⟩ | ⟨.getRecord _, .ok _⟩ => true
  | ⟨.deploy _ _, _⟩ => true
  | _ => false

/-- Take a note of an event. -/
def note (k : Trace) (e : Event operations PyError) : Trace := if noted e then k ++ [e] else k

/-- Notes are only added. -/
theorem prefix_note (k : Trace) (e : Event operations PyError) : k <+: note k e := by
  unfold note
  split
  · exact List.prefix_append _ _
  · exact List.prefix_rfl

/-- The notes on a history. -/
def notes (h : Trace) : Trace := h.foldl note []

/-- The notes of a longer trace note its last step. -/
theorem notes_snoc (h : Trace) (e : Event operations PyError) :
    notes (h ++ [e]) = note (notes h) e := by
  rw [notes, List.foldl_append]
  rfl

/-- The notes are the noted steps of a trace. -/
theorem notes_eq_filter (h : Trace) : notes h = h.filter noted := by
  induction h using List.reverseRecOn with
  | nil => rfl
  | append_singleton h e ih =>
    rw [notes_snoc, ih, List.filter_append, note]
    by_cases he : noted e = true
    · simp [he]
    · simp [he]

/-- A note is an event of the history. -/
theorem mem_of_mem_notes {h : Trace} {e : Event operations PyError} (he : e ∈ notes h) : e ∈ h := by
  rw [notes_eq_filter] at he
  exact List.mem_of_mem_filter he

/-- Operations that no later step relies on and that need no permission. -/
def Free : Operation → Prop
  | .now | .newId _ | .makeDirectory _ _ | .removeTree _ | .writeNew _ _ | .writeText _ _
  | .readText _ | .hashFile _ | .resolvePath _ | .copyRepository _ _ _ => True
  | .runAgent _ | .readLive _ _ | .candidateWindows _ _ _ | .linkResource _ _ _ _ _ => True
  | .materializePatch _ _ _ _ | .runChecks _ _ _ _ | .preflight _ | .checkpoint _ => True
  | .rollback _ _ | .observe _ _ | .runProbe _ _ => True
  | .getBySource _ | .getFinding _ | .selectEvents _ | .putJob _ => True
  | .putFinding finding => finding.caseId = none
  | _ => False

/-- A free operation is not noted. -/
theorem note_of_free (k : Trace) (o : Operation) (r : Except PyError o.Answer) (ho : Free o) :
    note k ⟨o, r⟩ = k := by
  cases o <;> first | (cases r <;> rfl) | cases ho

/-- The grounds on which a service applies a transition, given the worker's notes. -/
abbrev Grounds := Trace → String → CaseTransition → TransitionArgs → Prop

/-- A case the worker read or wrote. -/
inductive Seen (k : Trace) (case : RemediationCase) : Prop
  | read {caseId : String} (h : ⟨.getCase caseId, .ok case⟩ ∈ k)
  | found {tenantId assetId : String}
      (h : ⟨.findActiveByAsset tenantId assetId, .ok (some case)⟩ ∈ k)
  | inserted (h : ⟨.insertCase case, .ok ()⟩ ∈ k)
  | appended {event : CaseEvent} {v : ℕ} (h : ⟨.appendCase case event v, .ok ()⟩ ∈ k)

/-- A case that the worker knows to hold a finding: it saw it there, or it is the case it
then read under that id to apply a transition. -/
inductive Holds (k : Trace) (findingId : String) : String → Prop
  | seen {case : RemediationCase} (h : Seen k case) (hmem : findingId ∈ case.findingIds) :
      Holds k findingId case.caseId
  | reread {caseId : String} {transition : CaseTransition} {args : TransitionArgs}
      {base : RemediationCase} (h : Holds k findingId caseId)
      (hread : ⟨.advanceRead caseId transition args, .ok base⟩ ∈ k) :
      Holds k findingId base.caseId

/-- The worker applied a transition to a case. -/
def Applied (k : Trace) (caseId : String) (transition : CaseTransition) : Prop :=
  ∃ args base case event, ⟨.advanceRead caseId transition args, .ok base⟩ ∈ k ∧
    transitionCase base transition args = .ok (case, event) ∧
    ⟨.appendCase case event base.version, .ok ()⟩ ∈ k

/-- The worker recorded the start of this execution and has not deployed before. -/
structure Releasable (k : Trace) (context : ExecutionContext) : Prop where
  started : ∃ caseId, ⟨.getCase caseId, .ok context.case⟩ ∈ k ∧ Applied k caseId .startExecution
  first : ∀ e ∈ k, isDeploy e = false

/-- What a worker with these notes may do. -/
def Permitted (G : Grounds) (k : Trace) : Operation → Prop
  | .advanceRead caseId transition args => G k caseId transition args
  | .appendCase case event v => ∃ caseId transition args base,
      ⟨.advanceRead caseId transition args, .ok base⟩ ∈ k ∧
        transitionCase base transition args = .ok (case, event) ∧ v = base.version
  | .insertCase case => Opened case
  | .putFinding finding => finding.caseId = none
  | .assignFinding findingId caseId => Holds k findingId caseId
  | .deploy context _ => Releasable k context
  | _ => True

/-- A free operation is permitted on any grounds. -/
theorem permitted_of_free {G : Grounds} {k : Trace} {o : Operation} (ho : Free o) :
    Permitted G k o := by
  cases o
  case putFinding => exact ho
  all_goals trivial

/-- A service acts only with permission and meets its promise, from these notes on. -/
abbrev Acts {α : Type} (G : Grounds) (p : Service α) (Q : Except PyError α → Trace → Prop)
    (k : Trace) : Prop :=
  Sat (Env.watching note) (Permitted G) p Q k

/-- A service only adds to the notes. -/
theorem Acts.grows {α : Type} {G : Grounds} {p : Service α} {Q : Except PyError α → Trace → Prop}
    {k : Trace} (h : Acts G p Q k) : Acts G p (fun r k' => Q r k' ∧ k <+: k') k := by
  induction p generalizing k with
  | ret a => exact ⟨h, List.prefix_rfl⟩
  | raise e => exact ⟨h, List.prefix_rfl⟩
  | call o next ih =>
    refine ⟨h.1, fun r k' hr => (ih r (h.2 r k' hr)).mono ?_⟩
    rintro out k'' ⟨hq, hk⟩
    rw [hr] at hk
    exact ⟨hq, (prefix_note _ _).trans hk⟩

/-- A promise about what a service returns. -/
def onOk {α : Type} (Q : α → Trace → Prop) : Except PyError α → Trace → Prop
  | .ok a, k => Q a k
  | .error _, _ => True

/-- What holds on success holds of a value. -/
@[simp] theorem onOk_ok {α : Type} {Q : α → Trace → Prop} {a : α} {k : Trace} :
    onOk Q (.ok a) k = Q a k := rfl

/-- Nothing is asked of an error. -/
@[simp] theorem onOk_error {α : Type} {Q : α → Trace → Prop} {e : PyError} {k : Trace} :
    onOk Q (.error e) k = True := rfl

section rules

variable {α β : Type} {G : Grounds} {k : Trace}

/-- After a service that returns, the next one starts from what the first promises. -/
theorem Acts.bind {p : Service α} {f : α → Service β} {Q : α → Trace → Prop}
    {R : β → Trace → Prop} (hp : Acts G p (onOk Q) k)
    (hf : ∀ a k', Q a k' → Acts G (f a) (onOk R) k') : Acts G (p.bind f) (onOk R) k := by
  refine sat_bind.mpr (hp.mono ?_)
  rintro (e | a) k' hq
  · trivial
  · exact hf a k' hq

/-- A service that does nothing of note. -/
theorem Acts.free {p : Service α} {f : α → Service β} {R : β → Trace → Prop} (hp : p.Uses Free)
    (hf : ∀ a, Acts G (f a) (onOk R) k) : Acts G (p.bind f) (onOk R) k :=
  hp.sat_bind note_of_free (fun _ => permitted_of_free) hf fun _ => trivial

/-- One operation. -/
theorem Acts.perform {o : Operation} {f : o.Answer → Service β} {R : β → Trace → Prop}
    (ho : Permitted G k o) (hf : ∀ a, Acts G (f a) (onOk R) (note k ⟨o, .ok a⟩)) :
    Acts G ((ElCapitan.perform o).bind f) (onOk R) k :=
  Effects.sat_bind_perform.mpr ⟨ho, hf, fun _ => trivial⟩

/-- One operation whose exception is answered for it. -/
theorem Acts.orElse {o : Operation} {g : PyError → o.Answer} {f : o.Answer → Service β}
    {R : β → Trace → Prop} (ho : Permitted G k o)
    (hf : ∀ a k', k <+: k' → Acts G (f a) (onOk R) k') :
    Acts G ((Prog.handle (ElCapitan.perform o) fun e => Prog.ret (g e)).bind f) (onOk R) k :=
  Effects.sat_bind_handle_perform.mpr
    ⟨ho, fun a => hf a _ (prefix_note _ _), fun e => hf (g e) _ (prefix_note _ _)⟩

/-- A computation that may raise. -/
theorem Acts.ofExcept {x : Except PyError α} {f : α → Service β} {R : β → Trace → Prop}
    (hf : ∀ a, x = .ok a → Acts G (f a) (onOk R) k) :
    Acts G ((Prog.ofExcept x).bind f) (onOk R) k :=
  sat_bind_ofExcept.mpr ⟨hf, fun _ _ => trivial⟩

/-- A check. -/
theorem Acts.raiseIf {c : Prop} [Decidable c] {e : PyError} {f : Unit → Service β}
    {R : β → Trace → Prop} (hf : ¬c → Acts G (f ()) (onOk R) k) :
    Acts G ((Prog.raiseIf c e).bind f) (onOk R) k :=
  sat_bind_raiseIf.mpr ⟨hf, fun _ => trivial⟩

/-- A transition applied on grounds: it is noted, with the case it was applied to. -/
theorem Acts.advance {caseId : String} {transition : CaseTransition} {args : TransitionArgs}
    {f : RemediationCase → Service β} {R : β → Trace → Prop}
    (hgrounds : G k caseId transition args)
    (hf : ∀ base case event, transitionCase base transition args = .ok (case, event) →
      Acts G (f case) (onOk R) (k ++ [⟨.advanceRead caseId transition args, .ok base⟩,
        ⟨.appendCase case event base.version, .ok ()⟩])) :
    Acts G ((ElCapitan.advance caseId transition args).bind f) (onOk R) k := by
  unfold ElCapitan.advance
  simp only [Prog.bind_eq, Prog.pure_eq, Prog.bind_assoc, Prog.ret_bind]
  refine Acts.perform hgrounds fun base => Acts.ofExcept fun next hnext => ?_
  obtain ⟨case, event⟩ := next
  have hread : note k ⟨.advanceRead caseId transition args, .ok base⟩ =
      k ++ [⟨.advanceRead caseId transition args, .ok base⟩] := rfl
  refine Acts.perform ⟨caseId, transition, args, base, ?_, hnext, rfl⟩ fun _ => ?_
  · rw [hread]
    simp
  · rw [hread]
    simpa [note, noted] using hf base case event hnext

end rules

section free

variable {α β : Type}

/-- Writing evidence needs no permission. -/
theorem uses_writeEvidence {P : Platform} {runDir evidenceId kind payload : String}
    {collector : Collector} {sensitivity commandId now : String} :
    (writeEvidence P runDir evidenceId kind payload collector sensitivity commandId now).Uses
      Free := by
  refine Prog.uses_raiseIf.bind fun _ => ?_
  refine (Prog.uses_perform (by trivial)).bind fun _ => ?_
  exact (Prog.uses_perform (by trivial)).bind fun _ => trivial

end free

end ElCapitan
