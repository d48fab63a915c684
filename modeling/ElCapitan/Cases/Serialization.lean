import ElCapitan.Base.JsonText
import ElCapitan.Cases.Documents
import ElCapitan.Cases.Step
import ElCapitan.Findings.Ocsf

/-!
# Cases and events from documents

`case_from_dict` and `event_from_dict`, and that they undo `case_to_dict` and `event_to_dict`
after the documents went through canonical JSON. A field whose value has another type than its
record is refused, where the source would keep it.
-/

namespace ElCapitan

open Effects

/-- `event_to_dict`. -/
def CaseEvent.toDict (event : CaseEvent) : Json :=
  .obj [("event_id", .str event.eventId), ("case_id", .str event.caseId),
    ("sequence", .int event.sequence), ("transition", .str event.transition.value),
    ("from_state", .str event.fromState.value), ("to_state", .str event.toState.value),
    ("occurred_at", .str event.occurredAt), ("actor", .str event.actor),
    ("record_ids", .obj event.recordIds.toDict), ("evidence_ids", .ofStrings event.evidenceIds),
    ("detail", .str event.detail)]

section decoding

/-- `document[name]`. -/
def fieldOf (document : Document) (name : String) : Except PyError Json :=
  match document.lookup name with
  | some value => .ok value
  | none => .error (keyError name)

/-- The error for a value of another type than the field has. -/
def wrongType (value : Json) : PyError := ⟨.typeError, "unexpected " ++ value.className⟩

/-- A text. -/
def textOf : Json → Except PyError String
  | .str text => .ok text
  | value => .error (wrongType value)

/-- An integer. -/
def wholeOf : Json → Except PyError ℤ
  | .int n => .ok n
  | value => .error (wrongType value)

/-- A number. -/
def rationalOf : Json → Except PyError ℚ
  | .int n => .ok n
  | .float q => .ok q
  | value => .error (wrongType value)

/-- `_tuple(value)` with texts as its items; a text is the tuple of its characters. -/
def tupleOf : Json → Except PyError (List String)
  | .arr items => items.mapM textOf
  | .str text => .ok (text.toList.map fun c => String.ofList [c])
  | .obj entries => .ok (entries.map Prod.fst)
  | value => .error ⟨.typeError, "'" ++ value.className ++ "' object is not iterable"⟩

/-- `dict(value)` with texts as its values. -/
def recordsOf : Json → Except PyError RecordIds
  | .obj entries => do
    let pairs ← entries.mapM fun entry => do
      let text ← textOf entry.2
      return (entry.1, text)
    return recordIdsOf pairs
  | value => .error (wrongType value)

/-- The states of a case. -/
def caseStates : List CaseState :=
  [.opened, .prioritized, .validated, .planReady, .sreApproved, .windowSelected, .rollbackReady,
    .awaitingApproval, .approved, .executing, .verifying, .remediated, .rollingBack, .rolledBack,
    .closedNoAction, .rejected, .blocked]

/-- The transitions of a case. -/
def caseTransitions : List CaseTransition :=
  [.addFinding, .prioritize, .reprioritize, .validate, .preparePlan, .approveSre, .retrySre,
    .selectWindow, .reviewRollback, .reselectWindow, .requestRework, .requestApproval,
    .approveChange, .scheduleExecution, .startExecution, .startVerification, .completeRemediation,
    .startRollback, .completeRollback, .closeNoAction, .reject, .block, .resume]

/-- `CaseState(value)`. -/
def caseStateOf (text : String) : Except PyError CaseState :=
  match caseStates.find? fun state => state.value = text with
  | some state => .ok state
  | none => .error (valueError ("'" ++ text ++ "' is not a valid CaseState"))

/-- `CaseTransition(value)`. -/
def caseTransitionOf (text : String) : Except PyError CaseTransition :=
  match caseTransitions.find? fun transition => transition.value = text with
  | some transition => .ok transition
  | none => .error (valueError ("'" ++ text ++ "' is not a valid CaseTransition"))

/-- How the names of missing arguments are listed. -/
def missingArguments : List String → String
  | [name] => "1 required positional argument: '" ++ name ++ "'"
  | [name, other] => "2 required positional arguments: '" ++ name ++ "' and '" ++ other ++ "'"
  | names =>
    let quotedNames := names.map fun name => "'" ++ name ++ "'"
    toString names.length ++ " required positional arguments: " ++
      ", ".intercalate quotedNames.dropLast ++ ", and " ++ quotedNames.getLastD ""

/-- The keyword arguments `**value` of a constructor that takes these names. -/
def keywordArguments (constructor : String) (names : List String) (value : Document) :
    Except PyError Unit :=
  match value.find? fun entry => entry.1 ∉ names with
  | some entry => .error ⟨.typeError,
      constructor ++ ".__init__() got an unexpected keyword argument '" ++ entry.1 ++ "'"⟩
  | none =>
    let missing := names.filter fun name => (value.lookup name).isNone
    raiseIf (missing ≠ [])
      ⟨.typeError, constructor ++ ".__init__() missing " ++ missingArguments missing⟩

/-- `_risk_from_dict` of a mapping. -/
def RiskAssessment.fromDict (value : Document) : Except PyError RiskAssessment := do
  keywordArguments "RiskAssessment" ["assessment_id", "score", "urgency", "factors", "confidence",
    "evidence_ids"] value
  let assessmentId ← fieldOf value "assessment_id" >>= textOf
  let score ← fieldOf value "score" >>= rationalOf
  let urgency ← fieldOf value "urgency" >>= textOf
  let factors ← fieldOf value "factors" >>= tupleOf
  let confidence ← fieldOf value "confidence" >>= rationalOf
  let evidenceIds ← fieldOf value "evidence_ids" >>= tupleOf
  RiskAssessment.create assessmentId score urgency factors confidence evidenceIds

/-- `_plan_from_dict` of a mapping. -/
def ChangePlan.fromDict (value : Document) : Except PyError ChangePlan := do
  keywordArguments "ChangePlan" ["plan_id", "objective", "change_ref", "prerequisites", "steps",
    "rollout_steps", "verification_steps", "rollback_steps", "rollback_triggers", "blast_radius",
    "evidence_ids"] value
  let planId ← fieldOf value "plan_id" >>= textOf
  let objective ← fieldOf value "objective" >>= textOf
  let changeRef ← fieldOf value "change_ref" >>= textOf
  let prerequisites ← fieldOf value "prerequisites" >>= tupleOf
  let steps ← fieldOf value "steps" >>= tupleOf
  let rolloutSteps ← fieldOf value "rollout_steps" >>= tupleOf
  let verificationSteps ← fieldOf value "verification_steps" >>= tupleOf
  let rollbackSteps ← fieldOf value "rollback_steps" >>= tupleOf
  let rollbackTriggers ← fieldOf value "rollback_triggers" >>= tupleOf
  let blastRadius ← fieldOf value "blast_radius" >>= tupleOf
  let evidenceIds ← fieldOf value "evidence_ids" >>= tupleOf
  ChangePlan.create planId objective changeRef prerequisites steps rolloutSteps verificationSteps
    rollbackSteps rollbackTriggers blastRadius evidenceIds

/-- `_window_from_dict` of a mapping. -/
def ChangeWindow.fromDict (value : Document) : Except PyError ChangeWindow := do
  keywordArguments "ChangeWindow" ["window_id", "starts_at", "ends_at", "timezone", "rationale",
    "evidence_ids", "confidence"] value
  let windowId ← fieldOf value "window_id" >>= textOf
  let startsAt ← fieldOf value "starts_at" >>= textOf
  let endsAt ← fieldOf value "ends_at" >>= textOf
  let timezone ← fieldOf value "timezone" >>= textOf
  let rationale ← fieldOf value "rationale" >>= tupleOf
  let evidenceIds ← fieldOf value "evidence_ids" >>= tupleOf
  let confidence ← fieldOf value "confidence" >>= rationalOf
  ChangeWindow.create windowId startsAt endsAt timezone rationale evidenceIds confidence

/-- An optional part from its document. -/
def partFromDict {α : Type} (fromDict : Document → Except PyError α) :
    Json → Except PyError (Option α)
  | .null => .ok none
  | .obj entries => do
    let part ← fromDict entries
    return some part
  | value => .error ⟨.typeError, "argument after ** must be a mapping, not " ++ value.className⟩

/-- Where a stored case was blocked. -/
def blockedFromOf (document : Document) : Except PyError (Option CaseState) :=
  if (document.get "blocked_from").truthy then do
    let state ← fieldOf document "blocked_from" >>= textOf >>= caseStateOf
    return some state
  else return none

/-- `case_from_dict`. -/
def caseFromDict (document : Document) : Except PyError RemediationCase := do
  let caseId ← fieldOf document "case_id" >>= textOf
  let tenantId ← fieldOf document "tenant_id" >>= textOf
  let findingIds ← fieldOf document "finding_ids" >>= tupleOf
  let assetIds ← fieldOf document "asset_ids" >>= tupleOf
  let serviceIds ← fieldOf document "service_ids" >>= tupleOf
  let state ← fieldOf document "state" >>= textOf >>= caseStateOf
  let version ← fieldOf document "version" >>= wholeOf
  let createdAt ← fieldOf document "created_at" >>= textOf
  let updatedAt ← fieldOf document "updated_at" >>= textOf
  let priority ← partFromDict RiskAssessment.fromDict (document.get "priority")
  let changePlan ← partFromDict ChangePlan.fromDict (document.get "change_plan")
  let changeWindow ← partFromDict ChangeWindow.fromDict (document.get "change_window")
  let recordIds ← recordsOf ((document.lookup "record_ids").getD (.obj []))
  let blockedFrom ← blockedFromOf document
  if hrequired : caseId ≠ "" ∧ tenantId ≠ "" ∧ findingIds ≠ [] then
    raiseIf (version < 0) (valueError "case version cannot be negative")
    return { caseId, tenantId, findingIds, assetIds, serviceIds, state,
             version := version.toNat, createdAt, updatedAt, priority, changePlan, changeWindow,
             recordIds, blockedFrom, required := hrequired }
  else throw (valueError "remediation case requires case, tenant, and finding ids")

/-- `event_from_dict`. -/
def eventFromDict (document : Document) : Except PyError CaseEvent := do
  let eventId ← fieldOf document "event_id" >>= textOf
  let caseId ← fieldOf document "case_id" >>= textOf
  let sequence ← fieldOf document "sequence" >>= wholeOf
  let transition ← fieldOf document "transition" >>= textOf >>= caseTransitionOf
  let fromState ← fieldOf document "from_state" >>= textOf >>= caseStateOf
  let toState ← fieldOf document "to_state" >>= textOf >>= caseStateOf
  let occurredAt ← fieldOf document "occurred_at" >>= textOf
  let actor ← fieldOf document "actor" >>= textOf
  let recordIds ← recordsOf ((document.lookup "record_ids").getD (.obj []))
  let evidenceIds ← tupleOf ((document.lookup "evidence_ids").getD (.arr []))
  let detail ← textOf ((document.lookup "detail").getD (.str ""))
  CaseEvent.create eventId caseId sequence.toNat transition fromState toState occurredAt actor
    recordIds evidenceIds detail

end decoding

section fields

variable {entries : Document} {name text : String} {value : Json}

/-- The entries of a document after they were sorted on their way through a text. -/
def storedEntries (entries : Document) : Document := sortedEntries (sortedValues entries)

/-- An entry of a stored object is the entry that was written, with its keys sorted. -/
theorem lookup_stored : (storedEntries entries).lookup name =
    (entries.lookup name).map Json.sorted := by
  unfold storedEntries
  rw [lookup_sortedEntries, sortedValues_eq]
  induction entries with
  | nil => rfl
  | cons entry entries ih =>
    rw [List.map_cons, List.lookup_cons, List.lookup_cons, ih]
    cases name == entry.1 <;> rfl

/-- A field that was written is found in the stored object. -/
theorem fieldOf_stored (h : entries.lookup name = some value) :
    fieldOf (storedEntries entries) name = .ok value.sorted := by
  unfold fieldOf
  rw [lookup_stored, h]
  rfl

/-- A text is read back. -/
theorem textField (h : entries.lookup name = some (.str text)) :
    (fieldOf (storedEntries entries) name >>= textOf) = .ok text := by
  rw [fieldOf_stored h]
  rfl

/-- A whole number is read back. -/
theorem wholeField {n : ℤ} (h : entries.lookup name = some (.int n)) :
    (fieldOf (storedEntries entries) name >>= wholeOf) = .ok n := by
  rw [fieldOf_stored h]
  rfl

/-- A float is read back. -/
theorem rationalField {q : ℚ} (h : entries.lookup name = some (.float q)) :
    (fieldOf (storedEntries entries) name >>= rationalOf) = .ok q := by
  rw [fieldOf_stored h]
  rfl

/-- Sorting keys leaves a list of texts alone. -/
theorem sorted_ofStrings (texts : List String) :
    (Json.ofStrings texts).sorted = .ofStrings texts := by
  unfold Json.ofStrings
  rw [Json.sorted, sortedItems_eq, List.map_map]
  rfl

/-- A list of texts is read as a tuple of these texts. -/
theorem tupleOf_ofStrings (texts : List String) : tupleOf (.ofStrings texts) = .ok texts := by
  unfold tupleOf Json.ofStrings
  rw [except_mapM_eq_ok, List.forall₂_map_left_iff, List.forall₂_same]
  exact fun _ _ => rfl

/-- A tuple of texts is read back. -/
theorem tupleField {texts : List String} (h : entries.lookup name = some (.ofStrings texts)) :
    (fieldOf (storedEntries entries) name >>= tupleOf) = .ok texts := by
  rw [fieldOf_stored h, sorted_ofStrings]
  exact tupleOf_ofStrings texts

/-- A state is the one with its value. -/
theorem caseStateOf_value (state : CaseState) : caseStateOf state.value = .ok state := by
  cases state <;> rfl

/-- A transition is the one with its value. -/
theorem caseTransitionOf_value (transition : CaseTransition) :
    caseTransitionOf transition.value = .ok transition := by
  cases transition <;> rfl

/-- A state is read back from its value. -/
theorem stateField {state : CaseState} (h : entries.lookup name = some (.str state.value)) :
    (fieldOf (storedEntries entries) name >>= textOf >>= caseStateOf) = .ok state := by
  rw [textField h]
  exact caseStateOf_value state

/-- A document with the names of a constructor, in any order, has its keyword arguments. -/
theorem keywordArguments_stored {constructor : String} {names : List String}
    (h : entries.map Prod.fst = names) :
    keywordArguments constructor names (storedEntries entries) = .ok () := by
  have hknown : (storedEntries entries).find? (fun entry => entry.1 ∉ names) = none := by
    rw [List.find?_eq_none]
    intro entry hentry
    unfold storedEntries at hentry
    rw [mem_sortedEntries, sortedValues_eq] at hentry
    obtain ⟨held, hheld, rfl⟩ := List.mem_map.mp hentry
    have hname : held.1 ∈ names := h ▸ List.mem_map_of_mem hheld
    simpa using hname
  have hfound : (names.filter fun name => ((storedEntries entries).lookup name).isNone) = [] := by
    rw [List.filter_eq_nil_iff]
    intro name hname
    rw [← h] at hname
    obtain ⟨held, hheld, rfl⟩ := List.mem_map.mp hname
    rw [lookup_stored]
    cases hlookup : entries.lookup held.1 with
    | none =>
      rw [List.lookup_eq_none_iff] at hlookup
      simpa using hlookup held hheld
    | some value => simp
  unfold keywordArguments
  rw [hknown]
  dsimp only
  rw [hfound]
  rfl

end fields

section records

/-- A mapping of records is read back from its entries, in any order. -/
theorem lookup_recordIdsOf {pairs : List (String × String)} (hkeys : (pairs.map Prod.fst).Nodup)
    (name : String) : (recordIdsOf pairs).lookup name = pairs.lookup name := by
  have hfold : ∀ (pairs : List (String × String)) (held : RecordIds),
      (pairs.map Prod.fst).Nodup →
      (pairs.foldl (fun m entry => m.insert entry.1 entry.2) held).lookup name =
        (pairs.lookup name).or (held.lookup name) := by
    intro pairs
    induction pairs with
    | nil =>
      intro held _
      rfl
    | cons pair pairs ih =>
      intro held hkeys
      obtain ⟨key, value⟩ := pair
      rw [List.map_cons, List.nodup_cons] at hkeys
      rw [List.foldl_cons, ih _ hkeys.2, List.lookup_cons]
      by_cases heq : name = key
      · subst heq
        have hfree : pairs.lookup name = none := by
          rw [List.lookup_eq_none_iff]
          intro entry hentry
          have hkey : entry.1 ∈ pairs.map Prod.fst := List.mem_map_of_mem hentry
          have hne : name ≠ entry.1 := fun h => hkeys.1 (h ▸ hkey)
          simpa using hne
        rw [hfree, beq_self_eq_true]
        simp
      · have hbeq : (name == key) = false := beq_eq_false_iff_ne.mpr heq
        rw [hbeq, Finmap.lookup_insert_of_ne _ heq]
  have hempty : (∅ : RecordIds).lookup name = none := Finmap.lookup_empty name
  unfold recordIdsOf
  rw [hfold pairs ∅ hkeys, hempty, Option.or_none]

/-- The record ids of a case are looked up in their object. -/
theorem lookup_toDict (records : RecordIds) (name : String) :
    records.toDict.lookup name = (records.lookup name).map Json.str := by
  have hmap : ∀ names : List String,
      (names.map fun name => (name, Json.str ((records.lookup name).getD ""))).lookup name =
        if name ∈ names then some (.str ((records.lookup name).getD "")) else none := by
    intro names
    induction names with
    | nil => rfl
    | cons key names ih =>
      rw [List.map_cons, List.lookup_cons, ih]
      by_cases heq : name = key
      · subst heq
        simp
      · have hbeq : (name == key) = false := beq_eq_false_iff_ne.mpr heq
        simp [hbeq, heq]
  unfold RecordIds.toDict
  have hsort : name ∈ records.keys.sort (· ≤ ·) ↔ name ∈ records := by
    rw [Finset.mem_sort, Finmap.mem_keys]
  rw [hmap]
  cases hlookup : records.lookup name with
  | none =>
    have habsent : name ∉ records := Finmap.lookup_eq_none.mp hlookup
    rw [if_neg fun h => habsent (hsort.mp h)]
    rfl
  | some value =>
    have hpresent : name ∈ records := Finmap.mem_of_lookup_eq_some hlookup
    rw [if_pos (hsort.mpr hpresent)]
    rfl

/-- No name of a record id occurs twice in the object. -/
theorem keys_toDict (records : RecordIds) : (records.toDict.map Prod.fst).Nodup := by
  unfold RecordIds.toDict
  rw [List.map_map]
  have hid : (Prod.fst ∘ fun name => (name, Json.str ((records.lookup name).getD ""))) = id := rfl
  rw [hid, List.map_id]
  exact Finset.sort_nodup _ _

/-- The record ids of a case are read back. -/
theorem recordsOf_stored (records : RecordIds) :
    recordsOf (Json.sorted (.obj records.toDict)) = .ok records := by
  have hpairs : (storedEntries records.toDict).mapM (fun entry => do
      let text ← textOf entry.2
      return (entry.1, text)) = Except.ok ((storedEntries records.toDict).map fun entry =>
        (entry.1, entry.2.str?.getD "")) := by
    rw [except_mapM_eq_ok, List.forall₂_map_right_iff, List.forall₂_same]
    intro entry hentry
    unfold storedEntries RecordIds.toDict at hentry
    rw [mem_sortedEntries, sortedValues_eq, List.map_map] at hentry
    obtain ⟨name, -, rfl⟩ := List.mem_map.mp hentry
    rfl
  rw [Json.sorted]
  unfold recordsOf
  change ((storedEntries records.toDict).mapM _ >>= _) = _
  rw [hpairs]
  apply congrArg Except.ok
  apply Finmap.ext_lookup
  intro name
  have hkeys : (((storedEntries records.toDict).map fun entry =>
      (entry.1, entry.2.str?.getD "")).map Prod.fst).Nodup := by
    unfold storedEntries
    rw [List.map_map]
    change (((sortedEntries (sortedValues records.toDict))).map Prod.fst).Nodup
    rw [((perm_sortedEntries _).map Prod.fst).nodup_iff, sortedValues_eq, List.map_map]
    exact keys_toDict records
  have hlookup : ∀ entries : Document,
      (entries.map fun entry => (entry.1, entry.2.str?.getD "")).lookup name =
        (entries.lookup name).map fun value => value.str?.getD "" := by
    intro entries
    induction entries with
    | nil => rfl
    | cons entry entries ih =>
      rw [List.map_cons, List.lookup_cons, List.lookup_cons, ih]
      cases name == entry.1 <;> rfl
  rw [lookup_recordIdsOf hkeys, hlookup, lookup_stored, lookup_toDict]
  cases records.lookup name <;> rfl

end records

section parts

/-- Read the first field, then go on with its value. -/
theorem bind_of_eq {α β : Type} {first : Except PyError α} {next : α → Except PyError β} {a : α}
    {b : β} (hfirst : first = .ok a) (hnext : next a = .ok b) : (first >>= next) = .ok b :=
  except_bind_eq_ok.mpr ⟨a, hfirst, hnext⟩

/-- The fields of an assessment pass its own checks. -/
theorem RiskAssessment.create_self (risk : RiskAssessment) :
    RiskAssessment.create risk.assessmentId risk.score risk.urgency risk.factors risk.confidence
      risk.evidenceIds = .ok risk := by
  unfold RiskAssessment.create
  rw [dif_pos risk.score_bounds, dif_pos risk.confidence_bounds, dif_pos risk.required]

/-- The fields of a plan pass its own checks. -/
theorem ChangePlan.create_self (plan : ChangePlan) :
    ChangePlan.create plan.planId plan.objective plan.changeRef plan.prerequisites plan.steps
      plan.rolloutSteps plan.verificationSteps plan.rollbackSteps plan.rollbackTriggers
      plan.blastRadius plan.evidenceIds = .ok plan := by
  unfold ChangePlan.create
  rw [dif_pos plan.required, dif_pos plan.actionable]

/-- The fields of a window pass its own checks. -/
theorem ChangeWindow.create_self (window : ChangeWindow) :
    ChangeWindow.create window.windowId window.startsAt window.endsAt window.timezone
      window.rationale window.evidenceIds window.confidence = .ok window := by
  unfold ChangeWindow.create
  rw [dif_pos window.required, dif_pos window.confidence_bounds]

/-- The fields of an event pass its own checks. -/
theorem CaseEvent.create_self (event : CaseEvent) :
    CaseEvent.create event.eventId event.caseId event.sequence event.transition event.fromState
      event.toState event.occurredAt event.actor event.recordIds event.evidenceIds event.detail =
        .ok event := by
  unfold CaseEvent.create
  rw [dif_pos event.required, dif_pos event.sequence_pos]

/-- A stored assessment is read back. -/
theorem RiskAssessment.fromDict_stored (risk : RiskAssessment) :
    ∃ entries, risk.toDict = .obj entries ∧
      RiskAssessment.fromDict (storedEntries entries) = .ok risk := by
  refine ⟨_, rfl, ?_⟩
  unfold RiskAssessment.fromDict
  refine bind_of_eq (keywordArguments_stored rfl) ?_
  refine bind_of_eq (textField rfl) ?_
  refine bind_of_eq (rationalField rfl) ?_
  refine bind_of_eq (textField rfl) ?_
  refine bind_of_eq (tupleField rfl) ?_
  refine bind_of_eq (rationalField rfl) ?_
  refine bind_of_eq (tupleField rfl) ?_
  exact risk.create_self

/-- A stored plan is read back. -/
theorem ChangePlan.fromDict_stored (plan : ChangePlan) :
    ∃ entries, plan.toDict = .obj entries ∧
      ChangePlan.fromDict (storedEntries entries) = .ok plan := by
  refine ⟨_, rfl, ?_⟩
  unfold ChangePlan.fromDict
  refine bind_of_eq (keywordArguments_stored rfl) ?_
  refine bind_of_eq (textField rfl) ?_
  refine bind_of_eq (textField rfl) ?_
  refine bind_of_eq (textField rfl) ?_
  refine bind_of_eq (tupleField rfl) ?_
  refine bind_of_eq (tupleField rfl) ?_
  refine bind_of_eq (tupleField rfl) ?_
  refine bind_of_eq (tupleField rfl) ?_
  refine bind_of_eq (tupleField rfl) ?_
  refine bind_of_eq (tupleField rfl) ?_
  refine bind_of_eq (tupleField rfl) ?_
  refine bind_of_eq (tupleField rfl) ?_
  exact plan.create_self

/-- A stored window is read back. -/
theorem ChangeWindow.fromDict_stored (window : ChangeWindow) :
    ∃ entries, window.toDict = .obj entries ∧
      ChangeWindow.fromDict (storedEntries entries) = .ok window := by
  refine ⟨_, rfl, ?_⟩
  unfold ChangeWindow.fromDict
  refine bind_of_eq (keywordArguments_stored rfl) ?_
  refine bind_of_eq (textField rfl) ?_
  refine bind_of_eq (textField rfl) ?_
  refine bind_of_eq (textField rfl) ?_
  refine bind_of_eq (textField rfl) ?_
  refine bind_of_eq (tupleField rfl) ?_
  refine bind_of_eq (tupleField rfl) ?_
  refine bind_of_eq (rationalField rfl) ?_
  exact window.create_self

/-- An optional part survives, present or absent. -/
theorem partFromDict_stored {α : Type} {toDict : α → Json}
    {fromDict : Document → Except PyError α}
    (h : ∀ part, ∃ entries, toDict part = .obj entries ∧
      fromDict (storedEntries entries) = .ok part) (part : Option α) :
    partFromDict fromDict (partToDict toDict part).sorted = .ok part := by
  cases part with
  | none => rfl
  | some part =>
    obtain ⟨entries, hdict, hfrom⟩ := h part
    unfold partToDict
    dsimp only
    rw [hdict, Json.sorted]
    exact bind_of_eq hfrom rfl

end parts

section roundTrip

variable {entries : Document} {name : String} {value : Json}

/-- A present entry of a stored object is the one that was written, with its keys sorted. -/
theorem get_stored (h : entries.lookup name = some value) :
    (storedEntries entries).get name = value.sorted := by
  unfold Document.get
  rw [lookup_stored, h]
  rfl

/-- A stored field replaces the default of a missing one. -/
theorem getD_stored (h : entries.lookup name = some value) (default : Json) :
    ((storedEntries entries).lookup name).getD default = value.sorted := by
  rw [lookup_stored, h]
  rfl

/-- The mark of where a case was blocked survives, present or absent. -/
theorem blockedFrom_stored {state : Option CaseState}
    (h : entries.lookup "blocked_from" =
      some (partToDict (fun state => .str state.value) state)) :
    blockedFromOf (storedEntries entries) = .ok state := by
  unfold blockedFromOf
  rw [get_stored h]
  cases state with
  | none => rfl
  | some state =>
    have hvalue : state.value ≠ "" := by cases state <;> decide
    have htruthy : (partToDict (fun state => Json.str (CaseState.value state))
        (some state)).sorted.truthy = true := by
      unfold partToDict
      simp [Json.sorted, Json.truthy, hvalue]
    rw [if_pos htruthy]
    exact bind_of_eq (stateField h) rfl

/-- A stored case is read back as it was. -/
theorem caseFromDict_stored (case : RemediationCase) :
    ∃ entries, case.toDict = .obj entries ∧ caseFromDict (storedEntries entries) = .ok case := by
  refine ⟨_, rfl, ?_⟩
  unfold caseFromDict
  refine bind_of_eq (textField rfl) ?_
  refine bind_of_eq (textField rfl) ?_
  refine bind_of_eq (tupleField rfl) ?_
  refine bind_of_eq (tupleField rfl) ?_
  refine bind_of_eq (tupleField rfl) ?_
  refine bind_of_eq (stateField rfl) ?_
  refine bind_of_eq (wholeField rfl) ?_
  refine bind_of_eq (textField rfl) ?_
  refine bind_of_eq (textField rfl) ?_
  rw [get_stored rfl, get_stored rfl, get_stored rfl, getD_stored rfl]
  refine bind_of_eq (partFromDict_stored RiskAssessment.fromDict_stored _) ?_
  refine bind_of_eq (partFromDict_stored ChangePlan.fromDict_stored _) ?_
  refine bind_of_eq (partFromDict_stored ChangeWindow.fromDict_stored _) ?_
  refine bind_of_eq (recordsOf_stored _) ?_
  refine bind_of_eq (blockedFrom_stored rfl) ?_
  have hversion : ¬ (case.version : ℤ) < 0 := by omega
  rw [dif_pos case.required, raiseIf, if_neg hversion]
  rfl

/-- A stored event is read back as it was. -/
theorem eventFromDict_stored (event : CaseEvent) :
    ∃ entries, event.toDict = .obj entries ∧
      eventFromDict (storedEntries entries) = .ok event := by
  refine ⟨_, rfl, ?_⟩
  unfold eventFromDict
  refine bind_of_eq (textField rfl) ?_
  refine bind_of_eq (textField rfl) ?_
  refine bind_of_eq (wholeField rfl) ?_
  refine bind_of_eq (bind_of_eq (textField rfl) (caseTransitionOf_value _)) ?_
  refine bind_of_eq (stateField rfl) ?_
  refine bind_of_eq (stateField rfl) ?_
  refine bind_of_eq (textField rfl) ?_
  refine bind_of_eq (textField rfl) ?_
  rw [getD_stored rfl, getD_stored rfl, getD_stored rfl, sorted_ofStrings]
  refine bind_of_eq (recordsOf_stored _) ?_
  refine bind_of_eq (tupleOf_ofStrings _) ?_
  exact event.create_self

end roundTrip

section restoring

variable {floatRepr : ℚ → String} {floatOf : String → ℚ}

/-- `case_from_dict(json.loads(canonical_json(case_to_dict(case))))`, as a store keeps a case. -/
def restoreCase (floatRepr : ℚ → String) (floatOf : String → ℚ) (case : RemediationCase) :
    Except PyError RemediationCase :=
  match readJson floatOf (canonicalJson floatRepr case.toDict) with
  | some (.obj document) => caseFromDict document
  | some value => .error (wrongType value)
  | none => .error (valueError "Expecting value")

/-- `event_from_dict(json.loads(canonical_json(event_to_dict(event))))`. -/
def restoreEvent (floatRepr : ℚ → String) (floatOf : String → ℚ) (event : CaseEvent) :
    Except PyError CaseEvent :=
  match readJson floatOf (canonicalJson floatRepr event.toDict) with
  | some (.obj document) => eventFromDict document
  | some value => .error (wrongType value)
  | none => .error (valueError "Expecting value")

/-- The numbers of an assessment. -/
def RiskAssessment.numbers (risk : RiskAssessment) : List ℚ := [risk.score, risk.confidence]

/-- The numbers of a case: those of its assessment and of its window. -/
def RemediationCase.numbers (case : RemediationCase) : List ℚ :=
  case.priority.toList.flatMap RiskAssessment.numbers ++
    case.changeWindow.toList.map ChangeWindow.confidence

/-- The numbers the arguments of a transition bring to a case. -/
def TransitionArgs.numbers (args : TransitionArgs) : List ℚ :=
  args.priority.toList.flatMap RiskAssessment.numbers ++
    args.changeWindow.toList.map ChangeWindow.confidence

variable {reads : ℚ → Prop}

/-- A list of texts holds no float. -/
theorem readable_ofStrings (texts : List String) : (Json.ofStrings texts).Readable reads := by
  apply Json.Readable.arr
  intro item hitem
  obtain ⟨text, -, rfl⟩ := List.mem_map.mp hitem
  exact .str text

/-- The object of record ids holds no float. -/
theorem readable_records (records : RecordIds) : (Json.obj records.toDict).Readable reads := by
  apply Json.Readable.obj _ (keys_toDict records)
  intro entry hentry
  obtain ⟨name, -, rfl⟩ := List.mem_map.mp hentry
  exact .str _

/-- An optional part can be read where the part can. -/
theorem readable_part {α : Type} {toDict : α → Json} {part : Option α}
    (h : ∀ held, part = some held → (toDict held).Readable reads) :
    (partToDict toDict part).Readable reads := by
  cases part with
  | none => exact .null
  | some held => exact h held rfl

/-- An object with these distinct keys and readable values is readable. -/
theorem readable_obj {entries : Document} (hkeys : (entries.map Prod.fst).Nodup)
    (hvalues : List.Forall (Json.Readable reads) (entries.map Prod.snd)) :
    (Json.obj entries).Readable reads := by
  apply Json.Readable.obj _ hkeys
  intro entry hentry
  exact List.forall_iff_forall_mem.mp hvalues _ (List.mem_map_of_mem hentry)

/-- An assessment can be read where its floats can. -/
theorem RiskAssessment.readable {risk : RiskAssessment} (h : ∀ q ∈ risk.numbers, reads q) :
    risk.toDict.Readable reads := by
  have hscore : reads risk.score := h _ (by simp [RiskAssessment.numbers])
  have hconfidence : reads risk.confidence := h _ (by simp [RiskAssessment.numbers])
  apply readable_obj (by simp)
  exact ⟨.str _, .float _ hscore, .str _, readable_ofStrings _, .float _ hconfidence,
    readable_ofStrings _⟩

/-- A plan holds no float. -/
theorem ChangePlan.readable (plan : ChangePlan) : plan.toDict.Readable reads := by
  apply readable_obj (by simp)
  exact ⟨.str _, .str _, .str _, readable_ofStrings _, readable_ofStrings _, readable_ofStrings _,
    readable_ofStrings _, readable_ofStrings _, readable_ofStrings _, readable_ofStrings _,
    readable_ofStrings _⟩

/-- A window can be read where its confidence can. -/
theorem ChangeWindow.readable {window : ChangeWindow} (h : reads window.confidence) :
    window.toDict.Readable reads := by
  apply readable_obj (by simp)
  exact ⟨.str _, .str _, .str _, .str _, readable_ofStrings _, readable_ofStrings _, .float _ h⟩

/-- A case can be read where its floats can. -/
theorem RemediationCase.readable {case : RemediationCase} (h : ∀ q ∈ case.numbers, reads q) :
    case.toDict.Readable reads := by
  have hpriority : (partToDict RiskAssessment.toDict case.priority).Readable reads := by
    apply readable_part
    intro risk hrisk
    apply RiskAssessment.readable
    intro q hq
    apply h
    simp [RemediationCase.numbers, hrisk, hq]
  have hwindow : (partToDict ChangeWindow.toDict case.changeWindow).Readable reads := by
    apply readable_part
    intro window hwindow
    apply ChangeWindow.readable
    apply h
    simp [RemediationCase.numbers, hwindow]
  have hplan : (partToDict ChangePlan.toDict case.changePlan).Readable reads :=
    readable_part fun plan _ => plan.readable
  have hblocked : (partToDict (fun state => Json.str (CaseState.value state))
      case.blockedFrom).Readable reads := readable_part fun state _ => .str _
  apply readable_obj (by simp)
  exact ⟨.str _, .str _, readable_ofStrings _, readable_ofStrings _, readable_ofStrings _, .str _,
    .int _, .str _, .str _, hpriority, hplan, hwindow, readable_records _, hblocked⟩

/-- An event holds no float. -/
theorem CaseEvent.readable (event : CaseEvent) : event.toDict.Readable reads := by
  apply readable_obj (by simp)
  exact ⟨.str _, .str _, .int _, .str _, .str _, .str _, .str _, .str _, readable_records _,
    readable_ofStrings _, .str _⟩

/-- A case whose numbers can be read back is restored as it was. -/
theorem restoreCase_self {case : RemediationCase}
    (h : ∀ q ∈ case.numbers, FloatReads floatRepr floatOf q) :
    restoreCase floatRepr floatOf case = .ok case := by
  obtain ⟨entries, hdict, hfrom⟩ := caseFromDict_stored case
  unfold restoreCase
  rw [readJson_canonical (RemediationCase.readable h), hdict, Json.sorted]
  exact hfrom

/-- Every event is restored as it was. -/
theorem restoreEvent_self (event : CaseEvent) :
    restoreEvent floatRepr floatOf event = .ok event := by
  obtain ⟨entries, hdict, hfrom⟩ := eventFromDict_stored event
  unfold restoreEvent
  rw [readJson_canonical event.readable, hdict, Json.sorted]
  exact hfrom

/-- A transition brings no numbers to a case but those of its arguments. -/
theorem CaseStep.numbers {case case' : RemediationCase} {label : CaseLabel}
    (h : CaseStep case label case') {q : ℚ} (hq : q ∈ case'.numbers) :
    q ∈ case.numbers ∨ q ∈ label.args.numbers := by
  obtain ⟨target, haccepted⟩ := transitionCase_accepted h
  unfold RemediationCase.numbers TransitionArgs.numbers at *
  rw [List.mem_append] at hq
  obtain hpriority | hwindow := hq
  · rw [haccepted.priority] at hpriority
    cases hgiven : label.args.priority <;> rw [hgiven] at hpriority <;> simp_all
  · rw [haccepted.changeWindow] at hwindow
    split at hwindow
    · simp at hwindow
    · cases hgiven : label.args.changeWindow <;> rw [hgiven] at hwindow <;> simp_all

/-- The numbers of a case came with the transitions of its run. -/
theorem Opened.numbers {case case' : RemediationCase} {labels : List CaseLabel}
    (hopened : Opened case) (hsteps : Steps CaseStep case labels case') {q : ℚ}
    (hq : q ∈ case'.numbers) : ∃ label ∈ labels, q ∈ label.args.numbers := by
  induction hsteps with
  | nil =>
    obtain ⟨-, -, -, -, hwindow, -, hpriority⟩ := hopened.fields
    simp [RemediationCase.numbers, hwindow, hpriority] at hq
  | snoc run last ih =>
    obtain hheld | hgiven := last.numbers hq
    · obtain ⟨label, hlabel, hnumber⟩ := ih hheld
      exact ⟨label, List.mem_append_left _ hlabel, hnumber⟩
    · exact ⟨_, List.mem_append_right _ List.mem_cons_self, hgiven⟩

/-- Cases and events survive storage: after every run of an opened case whose transitions bring
numbers that can be read back, the case and every event of its log are restored from the
canonical JSON of their documents as they were, and the restored case takes every transition
as the one in memory does. -/
theorem stored_case_restored {case case' : RemediationCase} {labels : List CaseLabel}
    (hopened : Opened case) (hsteps : Steps CaseStep case labels case')
    (hnumbers : ∀ label ∈ labels, ∀ q ∈ label.args.numbers, FloatReads floatRepr floatOf q) :
    restoreCase floatRepr floatOf case' = .ok case' ∧
      (∀ event ∈ logOf labels, restoreEvent floatRepr floatOf event = .ok event) ∧
      ∀ transition args, (do
        let restored ← restoreCase floatRepr floatOf case'
        transitionCase restored transition args) = transitionCase case' transition args := by
  have hcase : restoreCase floatRepr floatOf case' = .ok case' := by
    apply restoreCase_self
    intro q hq
    obtain ⟨label, hlabel, hnumber⟩ := hopened.numbers hsteps hq
    exact hnumbers label hlabel q hnumber
  refine ⟨hcase, fun event _ => restoreEvent_self event, ?_⟩
  intro transition args
  rw [hcase]
  rfl

/-- `float` of a decimal text. -/
def sampleFloatOf (text : String) : ℚ :=
  let whole := text.toList.takeWhile Char.isDigit
  let fraction := (text.toList.dropWhile Char.isDigit).drop 1
  Nat.ofDigitChars 10 whole 0 + Nat.ofDigitChars 10 fraction 0 / 10 ^ fraction.length

/-- A prioritized case of score 50 and confidence 1 survives. -/
theorem prioritized_case_restored : ∃ labels case', case'.state = .validated ∧
    case'.priority.isSome ∧ restoreCase sampleRepr sampleFloatOf case' = .ok case' ∧
    ∀ event ∈ logOf labels, restoreEvent sampleRepr sampleFloatOf event = .ok event := by
  have hexists : ∃ run ∈ runCase (fun _ _ => true) sampleCase validatedRequests,
      run.2.state = .validated ∧ run.2.priority.isSome ∧
        ∀ label ∈ run.1, ∀ q ∈ label.args.numbers, q ∈ [(50 : ℚ), 1] := by
    decide +kernel
  obtain ⟨⟨labels, case'⟩, hrun, hstate, hpriority, hnumbers⟩ := hexists
  have hreads : ∀ q ∈ [(50 : ℚ), 1], FloatReads sampleRepr sampleFloatOf q := by
    intro q hq
    obtain rfl | rfl : q = 50 ∨ q = 1 := by simpa using hq
    · exact ⟨by decide +kernel, by decide +kernel⟩
    · exact ⟨by decide +kernel, by decide +kernel⟩
  have hsteps : Steps CaseStep sampleCase labels case' :=
    (runCase_steps hrun).mono fun _ _ _ h => h.1
  obtain ⟨hcase, hevents, -⟩ := stored_case_restored sampleCase_opened hsteps
    fun label hlabel q hq => hreads q (hnumbers label hlabel q hq)
  exact ⟨labels, case', hstate, hpriority, hcase, hevents⟩

end restoring

end ElCapitan
