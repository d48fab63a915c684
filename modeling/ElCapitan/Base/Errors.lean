import Mathlib.Data.List.Forall2

/-!
# Exceptions

The exception classes the control plane raises or catches, and their texts.
Which handler catches an exception depends only on its class.
-/

namespace ElCapitan

/-- The exception classes that occur in the modelled code. -/
inductive ErrorKind where
  | valueError
  | usageAnalysisError
  | keyError
  | indexError
  | attributeError
  | typeError
  | caseNotFound
  | findingNotFound
  | productRecordNotFound
  | osError
  | integrityError
  | runtimeError
  | pathEscape
  | overflowError
  | dataError
  | concurrentCaseUpdate
  | duplicateFinding
  | duplicateProductRecord
  | actionPlaneError
  | preApprovalError
  | remediationPlanningError
  | agentRunStopped
  | reviewControlError
  | shadowControlError
  | awsCdkPlanningError
  | awsActionError
  | azureActionError
  | terraformLinkNotFound
  | ambiguousTerraformLink
  | terraformLinkError
  | unicodeDecodeError
  deriving DecidableEq, Repr

/-- A raised exception: its class and its text. -/
structure PyError where
  /-- The class of the exception. -/
  kind : ErrorKind
  /-- `str(exc)`. -/
  message : String
  deriving DecidableEq, Repr

/-- The classes below `ValueError`. -/
def ErrorKind.isValueError : ErrorKind → Bool
  | .valueError | .usageAnalysisError | .awsCdkPlanningError | .terraformLinkNotFound
  | .ambiguousTerraformLink | .terraformLinkError | .unicodeDecodeError => true
  | _ => false

/-- The classes below `KeyError`. -/
def ErrorKind.isKeyError : ErrorKind → Bool
  | .keyError | .caseNotFound | .findingNotFound | .productRecordNotFound => true
  | _ => false

/-- `if c: raise e`. -/
def raiseIf (c : Prop) [Decidable c] (e : PyError) : Except PyError Unit :=
  if c then .error e else .ok ()

/-- A check passes where its condition fails. -/
theorem raiseIf_eq_ok {c : Prop} [Decidable c] {e : PyError} {u : Unit} :
    raiseIf c e = .ok u ↔ ¬c := by
  by_cases h : c <;> simp [raiseIf, h]

/-- A `ValueError`. -/
def valueError (message : String) : PyError := ⟨.valueError, message⟩

/-- A `KeyError`. -/
def keyError (message : String) : PyError := ⟨.keyError, message⟩

/-- A computation in `Except` that succeeds went through its first part. -/
theorem except_bind_eq_ok {α β : Type} {x : Except PyError α} {f : α → Except PyError β} {b : β} :
    (x >>= f) = .ok b ↔ ∃ a, x = .ok a ∧ f a = .ok b := by
  cases x with
  | error e => simp [bind, Except.bind]
  | ok a => simp [bind, Except.bind]

/-- A result is what its option holds. -/
theorem except_of_toOption {α : Type} {x : Except PyError α} {a : α}
    (h : x.toOption = some a) : x = .ok a := by
  cases x with
  | error e => cases h
  | ok b => rw [Option.some.inj h]

/-- A fallible function gave these results for these items, one for one. -/
theorem except_mapM_eq_ok {α β : Type} {f : α → Except PyError β} {items : List α}
    {made : List β} :
    items.mapM f = .ok made ↔ List.Forall₂ (fun a b => f a = .ok b) items made := by
  induction items generalizing made with
  | nil =>
    rw [List.mapM_nil]
    constructor
    · intro h
      cases h
      exact .nil
    · rintro ⟨⟩
      rfl
  | cons a rest ih =>
    rw [List.mapM_cons]
    constructor
    · intro h
      obtain ⟨first, hfirst, h⟩ := except_bind_eq_ok.mp h
      obtain ⟨others, hothers, h⟩ := except_bind_eq_ok.mp h
      cases h
      exact .cons hfirst (ih.mp hothers)
    · rintro (_ | ⟨hfirst, hrest⟩)
      rw [hfirst, ih.mpr hrest]
      rfl

/-- What a fallible function gave came from one of the items. -/
theorem exists_of_mem_mapM {α β : Type} {f : α → Except PyError β} {items : List α}
    {made : List β} (h : items.mapM f = .ok made) {b : β} (hb : b ∈ made) :
    ∃ a ∈ items, f a = .ok b := by
  have hpairs := except_mapM_eq_ok.mp h
  clear h
  induction hpairs with
  | nil => cases hb
  | @cons a first rest others hfirst _ ih =>
    rcases List.mem_cons.mp hb with rfl | hb
    · exact ⟨a, List.mem_cons_self, hfirst⟩
    · obtain ⟨a', hmem, ha'⟩ := ih hb
      exact ⟨a', List.mem_cons_of_mem _ hmem, ha'⟩

/-- A fallible function that gave results gave one for every item. -/
theorem exists_of_mapM_mem {α β : Type} {f : α → Except PyError β} {items : List α}
    {made : List β} (h : items.mapM f = .ok made) {a : α} (ha : a ∈ items) :
    ∃ b ∈ made, f a = .ok b := by
  have hpairs := except_mapM_eq_ok.mp h
  clear h
  induction hpairs with
  | nil => cases ha
  | @cons first b rest others hfirst _ ih =>
    rcases List.mem_cons.mp ha with rfl | ha
    · exact ⟨b, List.mem_cons_self, hfirst⟩
    · obtain ⟨b', hmem, hb'⟩ := ih ha
      exact ⟨b', List.mem_cons_of_mem _ hmem, hb'⟩

/-- A computation whose result passes a check succeeds. -/
theorem exists_of_any {α : Type} {x : Except PyError α} {check : α → Bool}
    (h : x.toOption.any check = true) : ∃ a, x = .ok a ∧ check a = true := by
  cases x with
  | error e => cases h
  | ok a => exact ⟨a, rfl, h⟩

end ElCapitan
