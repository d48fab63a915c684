import ElCapitan.Base.JsonText
import ElCapitan.Cases.Serialization
import ElCapitan.Stores.RecordStore

/-!
# Rows of product records

A product record holds its body frozen and its row holds it as canonical JSON. What is read
back from a row is the record that was put, with the entries of its body in the order of their
keys.
-/

namespace ElCapitan

open Effects

/-- A value in a body: what `json.loads` returns, and its immutable forms. -/
inductive PyValue where
  | null
  | bool (b : Bool)
  | int (n : ℤ)
  | float (q : ℚ)
  | str (s : String)
  | list (items : List PyValue)
  | tuple (items : List PyValue)
  | dict (entries : List (String × PyValue))
  /-- A `MappingProxyType`. -/
  | proxy (entries : List (String × PyValue))

section views

mutual

/-- `_freeze`. -/
def PyValue.freeze : PyValue → PyValue
  | .dict entries | .proxy entries => .proxy (freezeEntries entries)
  | .list items | .tuple items => .tuple (freezeItems items)
  | value => value

/-- `_freeze` of the items of a sequence. -/
def freezeItems : List PyValue → List PyValue
  | [] => []
  | item :: items => item.freeze :: freezeItems items

/-- `_freeze` of the values of a mapping. -/
def freezeEntries : List (String × PyValue) → List (String × PyValue)
  | [] => []
  | (name, value) :: entries => (name, value.freeze) :: freezeEntries entries

end

mutual

/-- `_thaw`; a list is kept as it is. -/
def PyValue.thaw : PyValue → PyValue
  | .dict entries | .proxy entries => .dict (thawEntries entries)
  | .tuple items => .list (thawItems items)
  | value => value

/-- `_thaw` of the items of a tuple. -/
def thawItems : List PyValue → List PyValue
  | [] => []
  | item :: items => item.thaw :: thawItems items

/-- `_thaw` of the values of a mapping. -/
def thawEntries : List (String × PyValue) → List (String × PyValue)
  | [] => []
  | (name, value) :: entries => (name, value.thaw) :: thawEntries entries

end

mutual

/-- `_jsonable`. -/
def PyValue.jsonable : PyValue → PyValue
  | .dict entries | .proxy entries => .dict (jsonableEntries entries)
  | .list items | .tuple items => .list (jsonableItems items)
  | value => value

/-- `_jsonable` of the items of a sequence. -/
def jsonableItems : List PyValue → List PyValue
  | [] => []
  | item :: items => item.jsonable :: jsonableItems items

/-- `_jsonable` of the values of a mapping. -/
def jsonableEntries : List (String × PyValue) → List (String × PyValue)
  | [] => []
  | (name, value) :: entries => (name, value.jsonable) :: jsonableEntries entries

end

mutual

/-- The JSON value `json.dumps` writes: a tuple as a list, and no view of a mapping. -/
def PyValue.toJson : PyValue → Except PyError Json
  | .null => .ok .null
  | .bool b => .ok (.bool b)
  | .int n => .ok (.int n)
  | .float q => .ok (.float q)
  | .str s => .ok (.str s)
  | .list items | .tuple items => do
    let values ← jsonOfItems items
    return .arr values
  | .dict entries => do
    let values ← jsonOfEntries entries
    return .obj values
  | .proxy _ => .error ⟨.typeError, "Object of type mappingproxy is not JSON serializable"⟩

/-- The JSON values of the items of a sequence. -/
def jsonOfItems : List PyValue → Except PyError (List Json)
  | [] => .ok []
  | item :: items => do
    let first ← item.toJson
    let others ← jsonOfItems items
    return first :: others

/-- The JSON values of the entries of a dictionary. -/
def jsonOfEntries : List (String × PyValue) → Except PyError Document
  | [] => .ok []
  | (name, value) :: entries => do
    let first ← value.toJson
    let others ← jsonOfEntries entries
    return (name, first) :: others

end

mutual

/-- What `json.loads` returns for a JSON value. -/
def PyValue.ofJson : Json → PyValue
  | .null => .null
  | .bool b => .bool b
  | .int n => .int n
  | .float q => .float q
  | .str s => .str s
  | .arr items => .list (itemsOfJson items)
  | .obj entries => .dict (entriesOfJson entries)

/-- The items of a list that `json.loads` returns. -/
def itemsOfJson : List Json → List PyValue
  | [] => []
  | item :: items => .ofJson item :: itemsOfJson items

/-- The entries of a dictionary that `json.loads` returns. -/
def entriesOfJson : Document → List (String × PyValue)
  | [] => []
  | (name, value) :: entries => (name, .ofJson value) :: entriesOfJson entries

end

mutual

/-- A frozen value stays as it is. -/
theorem PyValue.freeze_freeze : ∀ value : PyValue, value.freeze.freeze = value.freeze
  | .null | .bool _ | .int _ | .float _ | .str _ => by simp only [PyValue.freeze]
  | .list items | .tuple items => by
    simp only [PyValue.freeze]
    rw [freezeItems_freezeItems items]
  | .dict entries | .proxy entries => by
    simp only [PyValue.freeze]
    rw [freezeEntries_freezeEntries entries]

/-- Freezing items twice is freezing them once. -/
theorem freezeItems_freezeItems : ∀ items, freezeItems (freezeItems items) = freezeItems items
  | [] => rfl
  | item :: items => by
    rw [freezeItems, freezeItems, item.freeze_freeze, freezeItems_freezeItems items]

/-- Freezing entries twice is freezing them once. -/
theorem freezeEntries_freezeEntries :
    ∀ entries, freezeEntries (freezeEntries entries) = freezeEntries entries
  | [] => rfl
  | (name, value) :: entries => by
    rw [freezeEntries, freezeEntries, value.freeze_freeze, freezeEntries_freezeEntries entries]

end

mutual

/-- A frozen value has no lists, and `_thaw` and `_jsonable` do the same with it. -/
theorem PyValue.jsonable_freeze : ∀ value : PyValue, value.freeze.jsonable = value.freeze.thaw
  | .null | .bool _ | .int _ | .float _ | .str _ => by
    simp only [PyValue.freeze, PyValue.jsonable, PyValue.thaw]
  | .list items | .tuple items => by
    simp only [PyValue.freeze, PyValue.jsonable, PyValue.thaw]
    rw [jsonableItems_freezeItems items]
  | .dict entries | .proxy entries => by
    simp only [PyValue.freeze, PyValue.jsonable, PyValue.thaw]
    rw [jsonableEntries_freezeEntries entries]

/-- Frozen items are made jsonable by thawing them. -/
theorem jsonableItems_freezeItems :
    ∀ items, jsonableItems (freezeItems items) = thawItems (freezeItems items)
  | [] => rfl
  | item :: items => by
    rw [freezeItems, jsonableItems, thawItems, item.jsonable_freeze,
      jsonableItems_freezeItems items]

/-- Frozen entries are made jsonable by thawing them. -/
theorem jsonableEntries_freezeEntries :
    ∀ entries, jsonableEntries (freezeEntries entries) = thawEntries (freezeEntries entries)
  | [] => rfl
  | (name, value) :: entries => by
    rw [freezeEntries, jsonableEntries, thawEntries, value.jsonable_freeze,
      jsonableEntries_freezeEntries entries]

end

mutual

/-- A value that can be written comes back from its frozen form, with lists for its tuples. -/
theorem PyValue.thaw_freeze : ∀ (value : PyValue) {json : Json}, value.toJson = .ok json →
    value.freeze.thaw = .ofJson json
  | .null, _, h | .bool _, _, h | .int _, _, h | .float _, _, h | .str _, _, h => by
    cases h
    simp only [PyValue.freeze, PyValue.thaw, PyValue.ofJson]
  | .list items, _, h | .tuple items, _, h => by
    rw [PyValue.toJson] at h
    obtain ⟨values, hvalues, h⟩ := except_bind_eq_ok.mp h
    cases h
    simp only [PyValue.freeze, PyValue.thaw, PyValue.ofJson]
    rw [thawItems_freezeItems items hvalues]
  | .dict entries, _, h => by
    rw [PyValue.toJson] at h
    obtain ⟨values, hvalues, h⟩ := except_bind_eq_ok.mp h
    cases h
    simp only [PyValue.freeze, PyValue.thaw, PyValue.ofJson]
    rw [thawEntries_freezeEntries entries hvalues]
  | .proxy _, _, h => by cases h

/-- Frozen items that stand for JSON are thawed to it. -/
theorem thawItems_freezeItems : ∀ (items : List PyValue) {values : List Json},
    jsonOfItems items = .ok values → thawItems (freezeItems items) = itemsOfJson values
  | [], _, h => by
    cases h
    rfl
  | item :: items, _, h => by
    rw [jsonOfItems] at h
    obtain ⟨first, hfirst, h⟩ := except_bind_eq_ok.mp h
    obtain ⟨others, hothers, h⟩ := except_bind_eq_ok.mp h
    cases h
    rw [freezeItems, thawItems, itemsOfJson, item.thaw_freeze hfirst,
      thawItems_freezeItems items hothers]

/-- Frozen entries that stand for JSON are thawed to it. -/
theorem thawEntries_freezeEntries : ∀ (entries : List (String × PyValue)) {values : Document},
    jsonOfEntries entries = .ok values →
      thawEntries (freezeEntries entries) = entriesOfJson values
  | [], _, h => by
    cases h
    rfl
  | (name, value) :: entries, _, h => by
    rw [jsonOfEntries] at h
    obtain ⟨first, hfirst, h⟩ := except_bind_eq_ok.mp h
    obtain ⟨others, hothers, h⟩ := except_bind_eq_ok.mp h
    cases h
    rw [freezeEntries, thawEntries, entriesOfJson, value.thaw_freeze hfirst,
      thawEntries_freezeEntries entries hothers]

end

/-- A value that was loaded can be written. -/
theorem PyValue.toJson_ofJson (json : Json) : (PyValue.ofJson json).toJson = .ok json := by
  induction json using Json.induction with
  | arr items ih =>
    have hitems : ∀ items : List Json, (∀ item ∈ items, (PyValue.ofJson item).toJson = .ok item) →
        jsonOfItems (itemsOfJson items) = .ok items := by
      intro items
      induction items with
      | nil => exact fun _ => rfl
      | cons item items ihitems =>
        intro h
        rw [List.forall_mem_cons] at h
        rw [itemsOfJson, jsonOfItems, h.1, ihitems h.2]
        rfl
    rw [PyValue.ofJson, PyValue.toJson, hitems items ih]
    rfl
  | obj entries ih =>
    have hentries : ∀ entries : Document,
        (∀ entry ∈ entries, (PyValue.ofJson entry.2).toJson = .ok entry.2) →
          jsonOfEntries (entriesOfJson entries) = .ok entries := by
      intro entries
      induction entries with
      | nil => exact fun _ => rfl
      | cons entry entries ihentries =>
        intro h
        obtain ⟨name, value⟩ := entry
        rw [List.forall_mem_cons] at h
        rw [entriesOfJson, jsonOfEntries, h.1, ihentries h.2]
        rfl
    rw [PyValue.ofJson, PyValue.toJson, hentries entries ih]
    rfl
  | _ => rfl

end views

section rows

/-- A product record with its body as it is held. -/
structure FrozenRecord where
  recordId : String
  caseId : String
  recordType : String
  schemaVersion : ℕ
  createdAt : String
  body : PyValue
  evidenceIds : List String
  required : recordId ≠ "" ∧ caseId ≠ "" ∧ recordType ≠ ""
  schemaVersion_pos : 1 ≤ schemaVersion
  frozen : body.freeze = body

/-- The arguments of the constructor of a product record. -/
structure NewRecord where
  recordId : String
  caseId : String
  recordType : String
  schemaVersion : ℕ
  createdAt : String
  body : PyValue
  evidenceIds : List String

/-- The constructor of `ProductRecord`, which freezes the body. -/
def NewRecord.create (new : NewRecord) : Except PyError FrozenRecord :=
  if hrequired : new.recordId ≠ "" ∧ new.caseId ≠ "" ∧ new.recordType ≠ "" then
    if hversion : 1 ≤ new.schemaVersion then
      .ok ⟨new.recordId, new.caseId, new.recordType, new.schemaVersion, new.createdAt,
        new.body.freeze, new.evidenceIds, hrequired, hversion, new.body.freeze_freeze⟩
    else .error (valueError "product record schema version must be positive")
  else .error (valueError "product record requires record, case, and type ids")

/-- A row of `product_records`. -/
structure RecordRow where
  recordId : String
  caseId : String
  recordType : String
  schemaVersion : ℕ
  createdAt : String
  body : String
  evidenceIds : String

/-- `canonical_json(value).decode("utf-8")`. -/
def dumps (floatRepr : ℚ → String) (value : PyValue) : Except PyError String := do
  let json ← value.toJson
  return canonicalJson floatRepr json

/-- `json.loads`. -/
def loads (floatOf : String → ℚ) (text : String) : Except PyError Json :=
  match readJson floatOf text with
  | some json => .ok json
  | none => .error (valueError "Expecting value")

/-- The row that `put` inserts. -/
def FrozenRecord.toRow (floatRepr : ℚ → String) (record : FrozenRecord) :
    Except PyError RecordRow := do
  let body ← dumps floatRepr record.body.thaw
  return ⟨record.recordId, record.caseId, record.recordType, record.schemaVersion,
    record.createdAt, body, canonicalJson floatRepr (.ofStrings record.evidenceIds)⟩

/-- `_from_row`. -/
def RecordRow.toRecord (floatOf : String → ℚ) (row : RecordRow) : Except PyError FrozenRecord := do
  let body ← loads floatOf row.body
  let evidenceIds ← loads floatOf row.evidenceIds >>= tupleOf
  NewRecord.create ⟨row.recordId, row.caseId, row.recordType, row.schemaVersion, row.createdAt,
    .ofJson body, evidenceIds⟩

/-- The rows of `product_records`. -/
abbrev RowTable := List RecordRow

namespace RowTable

variable (floatRepr : ℚ → String) (floatOf : String → ℚ)

/-- `SqliteProductRecordStore.put`, as that of the other store. -/
def put (rows : RowTable) (record : FrozenRecord) : Except PyError RowTable := do
  let row ← record.toRow floatRepr
  if Rows.find RecordRow.recordId rows record.recordId ≠ none then
    throw ⟨.duplicateProductRecord, record.recordId⟩
  else return rows ++ [row]

/-- `SqliteProductRecordStore.get`. -/
def get (rows : RowTable) (recordId : String) : Except PyError FrozenRecord :=
  match Rows.find RecordRow.recordId rows recordId with
  | some row => row.toRecord floatOf
  | none => .error ⟨.productRecordNotFound, recordId⟩

end RowTable

/-- A record is put whose body is a JSON value with floats that can be read back. -/
def PutStep (floatRepr : ℚ → String) (floatOf : String → ℚ) (rows : RowTable) (new : NewRecord)
    (rows' : RowTable) : Prop :=
  ∃ record json, new.create = .ok record ∧ RowTable.put floatRepr rows record = .ok rows' ∧
    new.body.toJson = .ok json ∧ json.Readable (FloatReads floatRepr floatOf)

variable {floatRepr : ℚ → String} {floatOf : String → ℚ} {rows rows' : RowTable}
  {new : NewRecord}

/-- What is read back of a record: everything, with the entries of its body in the order of
their keys. -/
structure ReadBack (new : NewRecord) (json : Json) (stored : FrozenRecord) : Prop where
  recordId : stored.recordId = new.recordId
  caseId : stored.caseId = new.caseId
  recordType : stored.recordType = new.recordType
  schemaVersion : stored.schemaVersion = new.schemaVersion
  createdAt : stored.createdAt = new.createdAt
  body : stored.body = (PyValue.ofJson json.sorted).freeze
  evidenceIds : stored.evidenceIds = new.evidenceIds

/-- A created record has the fields it was created with, and a frozen body. -/
theorem NewRecord.create_eq_ok {record : FrozenRecord} (h : new.create = .ok record) :
    record.recordId = new.recordId ∧ record.caseId = new.caseId ∧
      record.recordType = new.recordType ∧ record.schemaVersion = new.schemaVersion ∧
      record.createdAt = new.createdAt ∧ record.body = new.body.freeze ∧
      record.evidenceIds = new.evidenceIds := by
  unfold NewRecord.create at h
  split at h
  · split at h
    · cases h
      exact ⟨rfl, rfl, rfl, rfl, rfl, rfl, rfl⟩
    · cases h
  · cases h

/-- Canonical JSON is read back with its keys sorted. -/
theorem loads_canonical {json : Json} (h : json.Readable (FloatReads floatRepr floatOf)) :
    loads floatOf (canonicalJson floatRepr json) = .ok json.sorted := by
  unfold loads
  rw [readJson_canonical h]

/-- The row of a record whose body can be written is read back. -/
theorem toRecord_toRow {record : FrozenRecord} {json : Json} (hcreate : new.create = .ok record)
    (hjson : new.body.toJson = .ok json) (hread : json.Readable (FloatReads floatRepr floatOf)) :
    ∃ row stored, record.toRow floatRepr = .ok row ∧ row.recordId = new.recordId ∧
      row.toRecord floatOf = .ok stored ∧ ReadBack new json stored := by
  obtain ⟨hid, hcase, htype, hversion, hcreated, hbody, hevidence⟩ := NewRecord.create_eq_ok hcreate
  have hdumps : dumps floatRepr record.body.thaw = .ok (canonicalJson floatRepr json) := by
    unfold dumps
    rw [hbody, new.body.thaw_freeze hjson, PyValue.toJson_ofJson]
    rfl
  have hids : loads floatOf (canonicalJson floatRepr (.ofStrings record.evidenceIds)) >>= tupleOf =
      .ok record.evidenceIds := by
    rw [loads_canonical (readable_ofStrings _), sorted_ofStrings]
    exact tupleOf_ofStrings _
  let stored : FrozenRecord := ⟨record.recordId, record.caseId, record.recordType,
    record.schemaVersion, record.createdAt, (PyValue.ofJson json.sorted).freeze,
    record.evidenceIds, record.required, record.schemaVersion_pos, PyValue.freeze_freeze _⟩
  refine ⟨_, stored, bind_of_eq hdumps rfl, hid, ?_,
    ⟨hid, hcase, htype, hversion, hcreated, rfl, hevidence⟩⟩
  unfold RecordRow.toRecord
  refine bind_of_eq (loads_canonical hread) (bind_of_eq hids ?_)
  unfold NewRecord.create
  rw [dif_pos record.required, dif_pos record.schemaVersion_pos]

/-- A put record is a new last row. -/
theorem RowTable.put_eq_ok {record : FrozenRecord}
    (h : RowTable.put floatRepr rows record = .ok rows') :
    ∃ row, record.toRow floatRepr = .ok row ∧
      Rows.find RecordRow.recordId rows record.recordId = none ∧ rows' = rows ++ [row] := by
  unfold RowTable.put at h
  obtain ⟨row, hrow, h⟩ := except_bind_eq_ok.mp h
  split at h
  · cases h
  · rename_i hfree
    cases h
    exact ⟨row, hrow, not_not.mp hfree, rfl⟩

/-- A row that was found is found after every later put. -/
theorem PutStep.find {recordId : String} {row : RecordRow}
    (h : PutStep floatRepr floatOf rows new rows')
    (hfind : Rows.find RecordRow.recordId rows recordId = some row) :
    Rows.find RecordRow.recordId rows' recordId = some row := by
  obtain ⟨record, json, -, hput, -, -⟩ := h
  obtain ⟨added, -, -, rfl⟩ := RowTable.put_eq_ok hput
  exact Rows.find_insert_of_some hfind

/-- A record that was read is read again after every later put. -/
theorem get_kept {more : List NewRecord} {recordId : String} {stored : FrozenRecord}
    (h : Steps (PutStep floatRepr floatOf) rows more rows')
    (hget : RowTable.get floatOf rows recordId = .ok stored) :
    RowTable.get floatOf rows' recordId = .ok stored := by
  refine h.stateInvariant (fun rows => RowTable.get floatOf rows recordId = .ok stored) hget ?_
  intro rows new rows' hheld hstep
  unfold RowTable.get at hheld ⊢
  split at hheld
  · rename_i row hfind
    rw [hstep.find hfind]
    exact hheld
  · cases hheld

/-- Every record that was put is read back. -/
theorem get_of_puts {news : List NewRecord} (h : Steps (PutStep floatRepr floatOf) [] news rows)
    (hnew : new ∈ news) : ∃ json stored, new.body.toJson = .ok json ∧
      json.Readable (FloatReads floatRepr floatOf) ∧
      RowTable.get floatOf rows new.recordId = .ok stored ∧ ReadBack new json stored := by
  have hinv : ∀ new ∈ news, ∃ row stored json, new.body.toJson = .ok json ∧
      json.Readable (FloatReads floatRepr floatOf) ∧
      Rows.find RecordRow.recordId rows new.recordId = some row ∧
      row.toRecord floatOf = .ok stored ∧ ReadBack new json stored := by
    refine h.invariant (fun news rows => ∀ new ∈ news, ∃ row stored json,
      new.body.toJson = .ok json ∧ json.Readable (FloatReads floatRepr floatOf) ∧
      Rows.find RecordRow.recordId rows new.recordId = some row ∧
      row.toRecord floatOf = .ok stored ∧ ReadBack new json stored) (by simp) ?_
    intro news rows added rows' hrun hheld hstep new hmem
    obtain hold | rfl : new ∈ news ∨ new = added := by simpa using hmem
    · obtain ⟨row, stored, json, hjson, hread, hfind, hrow⟩ := hheld new hold
      exact ⟨row, stored, json, hjson, hread, hstep.find hfind, hrow⟩
    · obtain ⟨record, json, hcreate, hput, hjson, hread⟩ := hstep
      obtain ⟨row, stored, hto, hid, hback, hsame⟩ := toRecord_toRow hcreate hjson hread
      obtain ⟨row', hto', hfree, rfl⟩ := RowTable.put_eq_ok hput
      cases hto.symm.trans hto'
      rw [(NewRecord.create_eq_ok hcreate).1, ← hid] at hfree
      have hfound := Rows.find_insert_self hfree
      rw [hid] at hfound
      exact ⟨row, stored, json, hjson, hread, hfound, hback, hsame⟩
  obtain ⟨row, stored, json, hjson, hread, hfind, hback, hsame⟩ := hinv new hnew
  refine ⟨json, stored, hjson, hread, ?_, hsame⟩
  unfold RowTable.get
  rw [hfind]
  exact hback

/-- Whatever is read from a store of such records was put there. -/
theorem put_of_get {news : List NewRecord} (h : Steps (PutStep floatRepr floatOf) [] news rows)
    {recordId : String} {stored : FrozenRecord}
    (hget : RowTable.get floatOf rows recordId = .ok stored) :
    ∃ new ∈ news, ∃ json, new.recordId = recordId ∧ new.body.toJson = .ok json ∧
      json.Readable (FloatReads floatRepr floatOf) ∧ ReadBack new json stored := by
  have hids : ∀ row ∈ rows, ∃ new ∈ news, new.recordId = row.recordId := by
    refine h.invariant (fun news rows => ∀ row ∈ rows, ∃ new ∈ news,
      new.recordId = row.recordId) (by simp) ?_
    intro news rows added rows' hrun hheld hstep row hmem
    obtain ⟨record, json, hcreate, hput, hjson, hread⟩ := hstep
    obtain ⟨row', hto', -, rfl⟩ := RowTable.put_eq_ok hput
    obtain hold | rfl : row ∈ rows ∨ row = row' := by simpa using hmem
    · obtain ⟨new, hnew, hid⟩ := hheld row hold
      exact ⟨new, List.mem_append_left _ hnew, hid⟩
    · obtain ⟨row', stored, hto, hid, -, -⟩ := toRecord_toRow hcreate hjson hread
      cases hto.symm.trans hto'
      exact ⟨added, List.mem_append_right _ List.mem_cons_self, hid.symm⟩
  have hfound : ∃ row ∈ rows, row.recordId = recordId := by
    unfold RowTable.get at hget
    split at hget
    · rename_i row hfind
      exact ⟨row, Rows.mem_of_find hfind, Rows.key_of_find hfind⟩
    · cases hget
  obtain ⟨row, hrow, rfl⟩ := hfound
  obtain ⟨new, hnew, hid⟩ := hids row hrow
  obtain ⟨json, stored', hjson, hread, hget', hback⟩ := get_of_puts h hnew
  rw [hid] at hget'
  cases hget.symm.trans hget'
  exact ⟨new, hnew, json, hid, hjson, hread, hback⟩

end rows

end ElCapitan
