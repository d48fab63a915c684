import ElCapitan.Base.CanonicalValues
import ElCapitan.Infrastructure.AzureDriver
import ElCapitan.Infrastructure.StackDrift

/-!
# What an Azure rollback restores

A rollback passes when the controlled property has its old value again. The configuration is the
checkpoint's exactly where the other fields of the fingerprint are as they were.
-/

namespace ElCapitan

open Effects

/-- The account that an event showed, where the client accepts the answer. -/
def AzureStorageAccountClient.accountShown (client : AzureStorageAccountClient) :
    Event driverOperations PyError → Option Document
  | ⟨.runCommand _ none, .ok result⟩ => (client.documentOf "" result).toOption
  | _ => none

/-- The accounts shown in a trace, oldest first. -/
def AzureStorageAccountClient.accountsShown (client : AzureStorageAccountClient)
    (trace : DriverTrace) : List Document := trace.filterMap client.accountShown

section shown

variable {client : AzureStorageAccountClient} {driver : AzureStorageDriver}
  {context : ExecutionContext} {checkpoint : DeploymentCheckpoint}

/-- The operation named in the text of an error does not change what is accepted. -/
theorem documentOf_ok {operation : String} {result : CommandResult} {document : Document} :
    client.documentOf operation result = .ok document →
      client.documentOf "" result = .ok document := by
  unfold AzureStorageAccountClient.documentOf
  intro h
  split at h
  · cases h
  · rename_i hexit
    rw [if_neg hexit]
    dsimp only at h ⊢
    split at h
    · exact h
    · cases h
    · cases h

/-- A command about the account shows it, or raises. -/
theorem account_sat {verb operation : String} {options : List String} {α : Type}
    {f : Document → Driver α} {Q : Except PyError α → DriverTrace → Prop} {trace : DriverTrace}
    (hnext : ∀ document event, client.accountShown event = some document →
      Sat (Env.recording driverOperations PyError) (fun _ _ => True) (f document) Q
        (trace ++ [event]))
    (hraise : ∀ e trace', Q (.error e) trace') :
    Sat (Env.recording driverOperations PyError) (fun _ _ => True)
      ((client.account verb options operation).bind f) Q trace := by
  unfold AzureStorageAccountClient.account request
  rw [Prog.bind_eq, Prog.bind_assoc, sat_bind_perform]
  refine ⟨trivial, fun result => ?_, fun e => hraise e _⟩
  refine sat_bind_ofExcept.mpr ⟨fun document hdocument => ?_, fun e _ => hraise e _⟩
  refine hnext document _ ?_
  simp [AzureStorageAccountClient.accountShown, documentOf_ok hdocument, Except.toOption]

/-- The two controls. -/
def IsStorageControl (control : StorageControl) : Prop :=
  control = publicNetworkControl ∨ control = blobPublicAccessControl

/-- Setting the controlled property shows the account, or raises. -/
theorem update_sat {control : StorageControl} (hcontrol : IsStorageControl control) {value : Json}
    {α : Type} {f : Document → Driver α} {Q : Except PyError α → DriverTrace → Prop}
    {trace : DriverTrace}
    (hnext : ∀ document event, client.accountShown event = some document →
      Sat (Env.recording driverOperations PyError) (fun _ _ => True) (f document) Q
        (trace ++ [event]))
    (hraise : ∀ e trace', Q (.error e) trace') :
    Sat (Env.recording driverOperations PyError) (fun _ _ => True)
      ((control.update client value).bind f) Q trace := by
  obtain rfl | rfl := hcontrol
  · change Sat _ _ ((client.setPublicNetworkAccess _).bind f) Q trace
    unfold AzureStorageAccountClient.setPublicNetworkAccess
    rw [Prog.bind_eq, Prog.bind_assoc]
    exact sat_bind_raiseIf.mpr ⟨fun _ => account_sat hnext hraise, fun _ => hraise _ _⟩
  · exact account_sat hnext hraise

/-- A checkpoint reports the account that it was shown. -/
theorem azureCheckpoint_sat {trace : DriverTrace} :
    Sat (Env.recording driverOperations PyError) (fun _ _ => True)
      (driver.checkpoint context) (fun r trace' => ∀ checkpoint, r = .ok checkpoint →
        ∃ account, driver.client.accountsShown trace' =
            driver.client.accountsShown trace ++ [account] ∧
          checkpoint.payload = driver.report account ∧
          driver.control.restorable (account.get driver.control.property) = .ok true) trace := by
  unfold AzureStorageDriver.checkpoint
  refine account_sat (fun account event hshown => ?_) (by simp)
  refine sat_bind_ofExcept.mpr ⟨fun restorable hrestorable => ?_, by simp⟩
  refine sat_bind_raiseIf.mpr ⟨fun hkept => ?_, by simp⟩
  refine sat_bind_perform.mpr ⟨trivial, fun checkpointId => ?_, by simp⟩
  intro checkpoint hcheckpoint
  cases hcheckpoint
  refine ⟨account, ?_, rfl, ?_⟩
  · have hquiet : driver.client.accountShown ⟨.freshId "AZCHK", .ok checkpointId⟩ = none := rfl
    simp [AzureStorageAccountClient.accountsShown, hshown, hquiet]
  · rw [hrestorable]
    simpa using hkept

/-- A rollback that passes was shown the account with the old value. -/
theorem azureRollback_sat (hcontrol : IsStorageControl driver.control) {trace : DriverTrace} :
    Sat (Env.recording driverOperations PyError) (fun _ _ => True)
      (driver.rollback context checkpoint) (fun r trace' => ∀ step : ActionStep, r = .ok step →
        step.passed = true → ∃ account, driver.client.accountsShown trace' =
            driver.client.accountsShown trace ++ [account] ∧
          step.payload = driver.report account ∧
          driver.control.isValue (account.get driver.control.property)
            (checkpoint.payload.get driver.control.payloadName) = true) trace := by
  unfold AzureStorageDriver.rollback
  dsimp only
  split
  · intro step hstep hpassed
    cases hstep
    cases hpassed
  refine sat_bind_ofExcept.mpr ⟨fun restorable hrestorable => ?_, by simp⟩
  split
  · intro step hstep hpassed
    cases hstep
    cases hpassed
  refine update_sat hcontrol (fun account event hshown => ?_) (by simp)
  intro step hstep hpassed
  cases hstep
  refine ⟨account, ?_, rfl, hpassed⟩
  simp [AzureStorageAccountClient.accountsShown, hshown]

end shown

section fingerprint

variable {P : Platform}

/-- Only the text itself is equal to a text. -/
theorem equal_str {actual : Json} {s : String} (h : actual.equal (.str s) = true) :
    actual = .str s := by
  cases actual <;> simp_all [Json.equal, looselyEqual, comparedNumber?]

/-- A value that can be restored is the value again. -/
theorem isValue_restorable {control : StorageControl} (hcontrol : IsStorageControl control)
    {actual wanted : Json} (hrestorable : control.restorable wanted = .ok true)
    (hactual : control.isValue actual wanted = true) : actual = wanted := by
  obtain rfl | rfl := hcontrol
  · change searchSet publicAccessValues wanted = .ok true at hrestorable
    cases wanted with
    | str s => exact equal_str hactual
    | _ => cases hrestorable
  · cases wanted with
    | bool b =>
      cases actual with
      | bool c => exact congrArg Json.bool (of_decide_eq_true hactual)
      | _ => cases hactual
    | _ => cases hrestorable

/-- Two accounts have one fingerprint exactly where the fields of the fingerprint have the same
canonical texts. -/
theorem configurationSha256_eq_iff (hfloat : FloatTexts P.floatRepr)
    (hsha : Function.Injective P.sha256Hex) {a b : Document} :
    configurationSha256 P a = configurationSha256 P b ↔
      ∀ name ∈ checkpointFields, P.canonical (a.get name) = P.canonical (b.get name) := by
  constructor
  · intro h name hname
    have hvalues := canonicalJson_obj_inj hfloat (hsha h) name
    have hlookup : ∀ document : Document,
        (checkpointFields.map fun name => (name, document.get name)).lookup name =
          some (document.get name) := by
      intro document
      generalize checkpointFields = names at hname
      induction names with
      | nil => cases hname
      | cons first names ih =>
        rw [List.map_cons, List.lookup_cons]
        by_cases hfirst : name = first
        · simp [hfirst]
        · have hne : (name == first) = false := by simpa using hfirst
          rw [hne]
          exact ih ((List.mem_cons.mp hname).resolve_left hfirst)
    rw [hlookup, hlookup] at hvalues
    exact Option.some.inj hvalues
  · intro h
    exact congrArg P.sha256Hex (canonicalJson_obj_congr h)

end fingerprint

section restored

variable {driver : AzureStorageDriver} {context : ExecutionContext}

/-- A rollback that passes counts as a restored checkpoint, and has restored the configuration
of the checkpoint exactly where every field of the fingerprint but the controlled property is as
the checkpoint read it. -/
theorem rollback_restores_iff (hcontrol : IsStorageControl driver.control)
    (hfloat : FloatTexts driver.client.library.platform.floatRepr)
    (hsha : Function.Injective driver.client.library.platform.sha256Hex)
    {checkpoint : DeploymentCheckpoint} {step : ActionStep} {before after : DriverTrace}
    (hcheckpoint : Runs (Env.recording driverOperations PyError) (driver.checkpoint context) []
      (.ok checkpoint) before)
    (hrollback : Runs (Env.recording driverOperations PyError)
      (driver.rollback context checkpoint) [] (.ok step) after)
    (hpassed : step.passed = true) :
    ∃ account restored, driver.client.accountsShown before = [account] ∧
      driver.client.accountsShown after = [restored] ∧
      step.reports "checkpoint_restored" true = true ∧
      ((checkpoint.payload.get "configuration_sha256").str? =
          some (configurationSha256 driver.client.library.platform restored) ↔
        ∀ name ∈ checkpointFields, name ≠ driver.control.property →
          driver.client.library.platform.canonical (restored.get name) =
            driver.client.library.platform.canonical (account.get name)) := by
  obtain ⟨account, hbefore, hpayload, hrestorable⟩ :=
    (azureCheckpoint_sat.runs hcheckpoint) checkpoint rfl
  obtain ⟨restored, hafter, hreport, hvalue⟩ :=
    ((azureRollback_sat hcontrol).runs hrollback) step rfl hpassed
  have hprior : checkpoint.payload.get driver.control.payloadName =
      account.get driver.control.property := by
    rw [hpayload]
    obtain heq | heq := hcontrol <;> rw [AzureStorageDriver.report, heq] <;> rfl
  have hsame := isValue_restorable hcontrol hrestorable (hprior ▸ hvalue)
  refine ⟨account, restored, hbefore, hafter, ?_, ?_⟩
  · rw [ActionStep.reports, hreport]
    obtain heq | heq := hcontrol <;> rw [AzureStorageDriver.report, heq] <;> rfl
  · have hrecorded : (checkpoint.payload.get "configuration_sha256").str? =
        some (configurationSha256 driver.client.library.platform account) := by
      rw [hpayload]
      obtain heq | heq := hcontrol <;> rw [AzureStorageDriver.report, heq] <;> rfl
    rw [hrecorded, Option.some.injEq, eq_comm, configurationSha256_eq_iff hfloat hsha]
    constructor
    · exact fun h name hname _ => h name hname
    · intro h name hname
      by_cases hproperty : name = driver.control.property
      · rw [hproperty, hsame]
      · exact h name hname hproperty

end restored

section samples

/-- A storage account with a TLS version. -/
def sampleAccount (tls : String) : Document :=
  [("id", .str "/accounts/lab"), ("publicNetworkAccess", .str "Enabled"),
    ("minimumTlsVersion", .str tls), ("tags", .obj [("elcapitan_scope", .str "lab")])]

/-- A platform that reads the TLS version of an account. -/
def accountPlatform : Platform :=
  { markedPlatform with jsonLoads := fun text => some (.obj (sampleAccount text)) }

/-- The client of the sample account. -/
def accountClient : AzureStorageAccountClient where
  library := { platform := accountPlatform, repr := fun _ => "", decodeError := fun _ => "" }
  identity :=
    { resourceId := "/accounts/lab", subscriptionId := "sub", resourceGroup := "rg",
      accountName := "lab" }
  requiredTags := [("elcapitan_scope", "lab")]

/-- The driver of the sample account. -/
def accountDriver : AzureStorageDriver := azureStoragePublicNetworkDriver accountClient

/-- An environment where the account has a TLS version. -/
def accountReply (tls : String) : (o : DriverOp) → Except PyError o.Answer
  | .runCommand _ _ => .ok { exitCode := 0, stdout := tls, stderr := "" }
  | .resolveFile _ path => .ok path
  | .isRegular _ => .ok true
  | .fileSize _ => .ok 100
  | .digestFile path => .ok path
  | .freshId kind => .ok kind
  | .sleep _ => .ok ()

/-- A program, run while the account has a TLS version. -/
def playedAccount {α : Type} (tls : String) (program : Driver α) :
    Option (Except PyError α × DriverTrace) :=
  program.follow (fun _ trace o => (accountReply tls o, trace ++ [⟨o, accountReply tls o⟩]))
    (fun _ => true) 0 []

/-- A played driver is a run of it. -/
theorem playedAccount_runs {α : Type} {tls : String} {program : Driver α} {out : Except PyError α}
    {trace : DriverTrace} (h : playedAccount tls program = some (out, trace)) :
    Runs (Env.recording driverOperations PyError) program [] out trace :=
  Prog.follow_runs (fun _ _ _ _ => rfl) h

/-- The checkpoint of the sample account. -/
def accountCheckpoint : DeploymentCheckpoint where
  checkpointId := "AZCHK"
  detail := "captured exact Azure Storage public network access state"
  payload := accountDriver.report (sampleAccount "TLS1_2")

/-- The checkpoint of the sample account is taken. -/
theorem accountCheckpoint_runs : ∃ trace, Runs (Env.recording driverOperations PyError)
    (accountDriver.checkpoint stackContext) [] (.ok accountCheckpoint) trace ∧
    accountClient.accountsShown trace = [sampleAccount "TLS1_2"] :=
  ⟨_, @playedAccount_runs _ "TLS1_2" _ _ _ rfl, rfl⟩

/-- The rollback of the sample account while it has a TLS version. -/
def accountRollback (tls : String) : ActionStep where
  name := "rollback"
  passed := true
  detail := "Azure Storage checkpoint restored"
  payload := accountDriver.report (sampleAccount tls)

/-- The rollback of the sample account passes, whatever its TLS version. -/
theorem accountRollback_runs (tls : String) : ∃ trace,
    Runs (Env.recording driverOperations PyError)
      (accountDriver.rollback stackContext accountCheckpoint) [] (.ok (accountRollback tls))
      trace ∧ accountClient.accountsShown trace = [sampleAccount tls] :=
  ⟨_, @playedAccount_runs _ tls _ _ _ rfl, rfl⟩

/-- Where nothing else changed, the checkpoint's configuration is restored. -/
theorem unchanged_account_restored : ∃ trace restored,
    Runs (Env.recording driverOperations PyError)
      (accountDriver.rollback stackContext accountCheckpoint) [] (.ok (accountRollback "TLS1_2"))
      trace ∧ accountClient.accountsShown trace = [restored] ∧
    (accountCheckpoint.payload.get "configuration_sha256").str? =
      some (configurationSha256 accountPlatform restored) := by
  obtain ⟨before, hcheckpoint, hbefore⟩ := accountCheckpoint_runs
  obtain ⟨after, hrollback, hafter⟩ := accountRollback_runs "TLS1_2"
  obtain ⟨account, restored, haccount, hrestored, -, hiff⟩ := rollback_restores_iff (.inl rfl)
    markedText_floatTexts sampleHash_injective hcheckpoint hrollback rfl
  obtain rfl : sampleAccount "TLS1_2" = account :=
    List.singleton_inj.mp (hbefore.symm.trans haccount)
  obtain rfl : sampleAccount "TLS1_2" = restored :=
    List.singleton_inj.mp (hafter.symm.trans hrestored)
  exact ⟨after, _, hrollback, hafter, hiff.mpr fun _ _ _ => rfl⟩

/-- A rollback passes, and counts as restored, where the TLS version was lowered in between. -/
theorem changed_account_passes : ∃ before after,
    Runs (Env.recording driverOperations PyError) (accountDriver.checkpoint stackContext) []
      (.ok accountCheckpoint) before ∧
    Runs (Env.recording driverOperations PyError)
      (accountDriver.rollback stackContext accountCheckpoint) [] (.ok (accountRollback "TLS1_0"))
      after ∧
    (accountRollback "TLS1_0").passed = true ∧
    (accountRollback "TLS1_0").reports "checkpoint_restored" true = true ∧
    accountClient.accountsShown after = [sampleAccount "TLS1_0"] ∧
    (accountCheckpoint.payload.get "configuration_sha256").str? ≠
      some (configurationSha256 accountPlatform (sampleAccount "TLS1_0")) := by
  obtain ⟨before, hcheckpoint, -⟩ := accountCheckpoint_runs
  obtain ⟨after, hrollback, hshown⟩ := accountRollback_runs "TLS1_0"
  exact ⟨before, after, hcheckpoint, hrollback, rfl, rfl, hshown, by decide +kernel⟩

end samples

end ElCapitan
