import ElCapitan.Base.Errors
import ElCapitan.Base.Json
import ElCapitan.Effects.Rows
import Mathlib.Data.List.Sort

/-!
# Product records and execution jobs

Product records are immutable: a record id is written once. A case has at most
one execution job.
-/

namespace ElCapitan

open Effects

/-- `ProductRecord`. -/
structure ProductRecord where
  recordId : String
  caseId : String
  recordType : String
  schemaVersion : ℕ
  createdAt : String
  body : Document
  evidenceIds : List String
  required : recordId ≠ "" ∧ caseId ≠ "" ∧ recordType ≠ ""
  schemaVersion_pos : 1 ≤ schemaVersion

/-- The constructor of `ProductRecord`. -/
def ProductRecord.create (recordId caseId recordType : String) (schemaVersion : ℕ)
    (createdAt : String) (body : Document) (evidenceIds : List String) :
    Except PyError ProductRecord :=
  if hrequired : recordId ≠ "" ∧ caseId ≠ "" ∧ recordType ≠ "" then
    if hversion : 1 ≤ schemaVersion then
      .ok ⟨recordId, caseId, recordType, schemaVersion, createdAt, body, evidenceIds, hrequired,
        hversion⟩
    else .error (valueError "product record schema version must be positive")
  else .error (valueError "product record requires record, case, and type ids")

/-- Everything a constructed record holds. -/
theorem ProductRecord.create_eq_ok {recordId caseId recordType createdAt : String}
    {schemaVersion : ℕ} {body : Document} {evidenceIds : List String} {record : ProductRecord}
    (h : ProductRecord.create recordId caseId recordType schemaVersion createdAt body evidenceIds =
      .ok record) :
    record.recordId = recordId ∧ record.caseId = caseId ∧ record.recordType = recordType ∧
      record.createdAt = createdAt ∧ record.body = body ∧ record.evidenceIds = evidenceIds := by
  unfold ProductRecord.create at h
  split at h
  · split at h
    · cases h
      exact ⟨rfl, rfl, rfl, rfl, rfl, rfl⟩
    · cases h
  · cases h

/-- `product_record_to_dict`. -/
def ProductRecord.toDict (record : ProductRecord) : Json :=
  .obj [("record_id", .str record.recordId), ("case_id", .str record.caseId),
    ("record_type", .str record.recordType), ("schema_version", .int record.schemaVersion),
    ("created_at", .str record.createdAt), ("body", .obj record.body),
    ("evidence_ids", .ofStrings record.evidenceIds)]

/-- The rows of `product_records`. -/
abbrev RecordTable := List ProductRecord

namespace RecordTable

variable (records : RecordTable)

/-- `SqliteProductRecordStore.put`. -/
def put (record : ProductRecord) : Except PyError RecordTable :=
  if Rows.find ProductRecord.recordId records record.recordId ≠ none then
    .error ⟨.duplicateProductRecord, record.recordId⟩
  else .ok (records ++ [record])

/-- `SqliteProductRecordStore.get`. -/
def get (recordId : String) : Except PyError ProductRecord :=
  match Rows.find ProductRecord.recordId records recordId with
  | some record => .ok record
  | none => .error ⟨.productRecordNotFound, recordId⟩

/-- `ORDER BY created_at, record_id`. -/
def listedBefore (a b : ProductRecord) : Prop :=
  a.createdAt < b.createdAt ∨ (a.createdAt = b.createdAt ∧ a.recordId ≤ b.recordId)

instance : DecidableRel listedBefore := fun _ _ => inferInstanceAs (Decidable (_ ∨ _))

/-- `SqliteProductRecordStore.list_for_case`. -/
def listForCase (caseId : String) : List ProductRecord :=
  (records.filter fun record => record.caseId = caseId).insertionSort listedBefore

/-- The listed records of a case are those of the table, sorted. -/
theorem listForCase_perm {caseId : String} :
    (listForCase records caseId).Perm (records.filter fun record => record.caseId = caseId) :=
  List.perm_insertionSort _ _

variable {records} {records' : RecordTable} {record : ProductRecord} {recordId : String}

/-- A record is read where it is found. -/
theorem get_eq_ok :
    get records recordId = .ok record ↔
      Rows.find ProductRecord.recordId records recordId = some record := by
  unfold get
  cases Rows.find ProductRecord.recordId records recordId <;> simp

/-- A record that is read has the id. -/
theorem recordId_of_get (h : get records recordId = .ok record) : record.recordId = recordId :=
  Rows.key_of_find (get_eq_ok.mp h)

/-- A put record has a new id and is the last row. -/
theorem put_eq_ok (h : put records record = .ok records') :
    Rows.find ProductRecord.recordId records record.recordId = none ∧
      records' = records ++ [record] := by
  unfold put at h
  split at h
  · cases h
  · rename_i hfree
    cases h
    exact ⟨not_not.mp hfree, rfl⟩

/-- A record that was put is found. -/
theorem get_put_self (h : put records record = .ok records') :
    get records' record.recordId = .ok record := by
  obtain ⟨hnone, rfl⟩ := put_eq_ok h
  exact get_eq_ok.mpr (Rows.find_insert_self hnone)

end RecordTable

/-- `JobState`. -/
inductive JobState where
  | scheduled
  | running
  | succeeded
  | rolledBack
  | contained
  | failed
  | missed
  deriving DecidableEq, Repr

/-- `ExecutionJob`. -/
structure ExecutionJob where
  jobId : String
  caseId : String
  executeAt : String
  deadline : String
  state : JobState
  attempts : ℕ
  leaseOwner : String := ""
  leaseUntil : String := ""
  detail : String := ""
  deriving DecidableEq

/-- The rows of `execution_jobs`. -/
abbrev JobTable := List ExecutionJob

/-- `SqliteExecutionJobStore.put`; job and case ids are unique. -/
def JobTable.put (jobs : JobTable) (job : ExecutionJob) : Except PyError JobTable :=
  if ∃ other ∈ jobs, other.jobId = job.jobId ∨ other.caseId = job.caseId then
    .error (valueError ("case " ++ job.caseId ++ " already has a scheduled job"))
  else .ok (jobs ++ [job])

end ElCapitan
