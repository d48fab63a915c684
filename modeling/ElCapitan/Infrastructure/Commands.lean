import ElCapitan.Services.Operations

/-!
# Commands

What the cloud drivers do outside their own computation: they run a command of a cloud's CLI,
resolve and hash the files of an approved plan, take fresh ids and wait. The environment decides
every answer, so the state that successive commands read may be any sequence.
-/

namespace ElCapitan

open Effects

/-- `AwsCommandResult` and `AzureCommandResult`. -/
structure CommandResult where
  exitCode : ℤ
  stdout : String
  stderr : String

/-- The operations of a driver. -/
inductive DriverOp where
  /-- `runner.run`. -/
  | runCommand (argv : List String) (timeoutSeconds : Option ℕ)
  | resolveFile (root relativePath : String)
  | isRegular (path : String)
  | fileSize (path : String)
  | digestFile (path : String)
  | freshId (kind : String)
  | sleep (seconds : ℕ)

/-- What each operation returns. -/
@[reducible] def DriverOp.Answer : DriverOp → Type
  | .runCommand _ _ => CommandResult
  | .resolveFile _ _ | .digestFile _ | .freshId _ => String
  | .isRegular _ => Bool
  | .fileSize _ => ℕ
  | .sleep _ => Unit

/-- The signature of the drivers. -/
abbrev driverOperations : Signature := ⟨DriverOp, DriverOp.Answer⟩

/-- A driver method, as a program. -/
abbrev Driver (α : Type) := Prog driverOperations PyError α

/-- Issue an operation; what it raises propagates. -/
abbrev issue (o : DriverOp) : Driver o.Answer := @Prog.perform driverOperations PyError o

/-- What a driver did, oldest event first. -/
abbrev DriverTrace := History driverOperations PyError

/-- Library functions the drivers rely on. -/
structure CommandLibrary where
  platform : Platform
  /-- `repr`. -/
  repr : Json → String
  /-- The text of the exception that `json.loads` raises. -/
  decodeError : String → String

/-- Run a command and read what it gave. -/
def request {α : Type} (timeoutSeconds : Option ℕ) (argv : List String)
    (read : CommandResult → Except PyError α) : Driver α := do
  let result ← issue (.runCommand argv timeoutSeconds)
  .ofExcept (read result)

/-- What a failed command says of itself. -/
def CommandResult.diagnosis (P : Platform) (result : CommandResult) : String :=
  P.strip (if result.stderr ≠ "" then result.stderr else result.stdout)

/-- `value or default` of two texts. -/
def textOrElse (value default : String) : String := if value ≠ "" then value else default

/-- `except (…) as exc: return ActionStep(name, False, str(exc))`. -/
def refusing (name : String) (caught : ErrorKind → Bool) (body : Driver ActionStep) :
    Driver ActionStep :=
  body.handle fun e =>
    if caught e.kind then return { name, passed := false, detail := e.message, payload := [] }
    else .raise e

end ElCapitan
