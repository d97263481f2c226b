import ProfilePlatform.Device.JobRuns
import ProfilePlatform.Foundation.Fields

/-! The stored row of a device job: what it is bound from, what the table checks of it, and how a
job is restored from it.

A column that is absent is bound as an empty text or as minus one.
-/

set_option autoImplicit false

namespace ProfilePlatform.Device

open Foundation

inductive DeviceJobPortError where
  | authenticationFailed | integrityFailure | dependencyUnavailable
  deriving DecidableEq, Repr

/-- A row of `device_jobs`. Integers are signed. -/
structure DeviceJobRow where
  tenantId : String
  jobId : String
  deviceId : String
  profileId : String
  generationId : String
  aggregateVersion : Int
  status : String
  attempt : Int
  maxAttempts : Int
  lastFence : Int
  currentClaimId : Option String
  claimFence : Option Int
  claimedAtMs : Option Int
  claimHeartbeatAtMs : Option Int
  claimLeaseExpiresAtMs : Option Int
  retryAtMs : Option Int
  updatedAtMs : Int
  deriving DecidableEq

section Checks

/-- ASCII letters, digits, '_' and '-'. -/
def isIdChar (char : Char) : Bool :=
  ('A' ≤ char && char ≤ 'Z') || ('a' ≤ char && char ≤ 'z') || ('0' ≤ char && char ≤ '9') ||
    char == '_' || char == '-'

def isIdText (text : String) : Bool :=
  8 ≤ sqlLength text && sqlLength text ≤ 96 && (sqlChars text).all isIdChar

def storedStatuses : List String :=
  ["PENDING_DEVICE", "PROFILE_BUSY", "RUNNING", "RETRY_SCHEDULED", "AUTH_REQUIRED",
    "RECOVERY_REQUIRED", "SUCCEEDED", "FAILED", "CANCELLED"]

/-- The statuses of a job that has been claimed before. -/
def startedStatuses : List String :=
  ["PROFILE_BUSY", "RUNNING", "RETRY_SCHEDULED", "AUTH_REQUIRED", "RECOVERY_REQUIRED", "SUCCEEDED",
    "FAILED"]

def retryStatuses : List String := ["PROFILE_BUSY", "RETRY_SCHEDULED"]

namespace DeviceJobRow

def waitsForRetry (self : DeviceJobRow) : Bool := retryStatuses.contains self.status

/-- The columns of a claim are all there or all absent. -/
def claimIsWhole (self : DeviceJobRow) : Bool :=
  (self.currentClaimId.isNone && self.claimFence.isNone && self.claimedAtMs.isNone &&
      self.claimHeartbeatAtMs.isNone && self.claimLeaseExpiresAtMs.isNone) ||
    (self.currentClaimId.isSome && self.claimFence.isSome && self.claimedAtMs.isSome &&
      self.claimHeartbeatAtMs.isSome && self.claimLeaseExpiresAtMs.isSome)

/-- A comparison with an absent column is unknown, and a check passes unless it is false. -/
def claimAgrees (self : DeviceJobRow) : Bool :=
  self.currentClaimId.isNone ||
    (self.claimFence.all (· = self.lastFence) &&
      self.claimedAtMs.all (fun claimed => self.claimHeartbeatAtMs.all (claimed ≤ ·)) &&
      self.claimHeartbeatAtMs.all (· = self.updatedAtMs) &&
      self.claimHeartbeatAtMs.all (fun beat => self.claimLeaseExpiresAtMs.all (beat < ·)))

/-- The CHECK constraints of the table. -/
def checked (self : DeviceJobRow) : Bool :=
  isIdText self.jobId && isIdText self.deviceId && 1 ≤ self.aggregateVersion &&
  storedStatuses.contains self.status && 0 ≤ self.attempt && self.attempt ≤ 100 &&
  1 ≤ self.maxAttempts && self.maxAttempts ≤ 100 && 0 ≤ self.lastFence &&
  self.currentClaimId.all isIdText && self.claimFence.all (0 < ·) && self.claimedAtMs.all (0 ≤ ·) &&
  self.claimHeartbeatAtMs.all (0 ≤ ·) && self.claimLeaseExpiresAtMs.all (0 ≤ ·) &&
  self.retryAtMs.all (0 ≤ ·) && 0 ≤ self.updatedAtMs &&
  self.attempt ≤ self.maxAttempts && self.lastFence = self.attempt &&
  self.attempt < self.aggregateVersion &&
  (!startedStatuses.contains self.status || 0 < self.attempt) &&
  self.claimIsWhole &&
  ((self.status = "RUNNING" && self.currentClaimId.isSome) ||
    (self.status ≠ "RUNNING" && self.currentClaimId.isNone)) &&
  self.claimAgrees &&
  ((self.waitsForRetry && self.retryAtMs.isSome && self.retryAtMs.all (self.updatedAtMs < ·)) ||
    (!self.waitsForRetry && self.retryAtMs.isNone))

end DeviceJobRow

end Checks

section Binding

def u64ToI64 (value : Nat) : Except DeviceJobPortError Int :=
  if value < sqliteLimit then .ok value else .error .integrityFailure

def unixToI64 (value : UnixMillis) : Except DeviceJobPortError Int := u64ToI64 value

def optionalUnixToI64 (value : Option UnixMillis) : Except DeviceJobPortError Int :=
  match value with
  | none => .ok (-1)
  | some value => unixToI64 value

def statusToStorage : DeviceJobStatus → String
  | .pendingDevice => "PENDING_DEVICE"
  | .profileBusy => "PROFILE_BUSY"
  | .running => "RUNNING"
  | .retryScheduled => "RETRY_SCHEDULED"
  | .authRequired => "AUTH_REQUIRED"
  | .recoveryRequired => "RECOVERY_REQUIRED"
  | .succeeded => "SUCCEEDED"
  | .failed => "FAILED"
  | .cancelled => "CANCELLED"

structure StoredClaimFields where
  claimId : String
  fence : Int
  claimedAtMs : Int
  heartbeatAtMs : Int
  leaseExpiresAtMs : Int

def storedValues (snapshot : DeviceJobSnapshot) : Except DeviceJobPortError StoredClaimFields :=
  match snapshot.activeClaim with
  | none => .ok ⟨"", -1, -1, -1, -1⟩
  | some claim => do
    let fence ← u64ToI64 claim.fence
    let claimedAtMs ← unixToI64 claim.claimedAt
    let heartbeatAtMs ← unixToI64 claim.lastHeartbeatAt
    let leaseExpiresAtMs ← unixToI64 claim.leaseExpiresAt
    return ⟨claim.claimId.asStr, fence, claimedAtMs, heartbeatAtMs, leaseExpiresAtMs⟩

/-- SQL's `NULLIF`. -/
def nullIf {A : Type} [DecidableEq A] (value absent : A) : Option A :=
  if value = absent then none else some value

/-- The row whose columns the two writing statements bind. -/
def boundRow (tenantId : TenantId) (snapshot : DeviceJobSnapshot) :
    Except DeviceJobPortError DeviceJobRow := do
  let stored ← storedValues snapshot
  let aggregateVersion ← u64ToI64 snapshot.aggregateVersion
  let lastFence ← u64ToI64 snapshot.lastFence
  let retryAtMs ← optionalUnixToI64 snapshot.retryAt
  let updatedAtMs ← unixToI64 snapshot.updatedAt
  return {
    tenantId := tenantId.asStr
    jobId := snapshot.jobId.asStr
    deviceId := snapshot.target.deviceId.asStr
    profileId := snapshot.target.profileId.asStr
    generationId := snapshot.target.generationId.asStr
    aggregateVersion
    status := statusToStorage snapshot.status
    attempt := snapshot.attempt
    maxAttempts := snapshot.maxAttempts
    lastFence
    currentClaimId := nullIf stored.claimId ""
    claimFence := nullIf stored.fence (-1)
    claimedAtMs := nullIf stored.claimedAtMs (-1)
    claimHeartbeatAtMs := nullIf stored.heartbeatAtMs (-1)
    claimLeaseExpiresAtMs := nullIf stored.leaseExpiresAtMs (-1)
    retryAtMs := nullIf retryAtMs (-1)
    updatedAtMs }

end Binding

section Restoring

def nonNegativeU64 (value : Int) : Except DeviceJobPortError Nat :=
  if 0 ≤ value then .ok value.toNat else .error .integrityFailure

def nonNegativeU32 (value : Int) : Except DeviceJobPortError Nat :=
  if 0 ≤ value ∧ value.toNat < u32Limit then .ok value.toNat else .error .integrityFailure

def unixFromI64 (value : Int) : Except DeviceJobPortError UnixMillis := nonNegativeU64 value

def statusFromStorage (value : String) : Except DeviceJobPortError DeviceJobStatus :=
  match value with
  | "PENDING_DEVICE" => .ok .pendingDevice
  | "PROFILE_BUSY" => .ok .profileBusy
  | "RUNNING" => .ok .running
  | "RETRY_SCHEDULED" => .ok .retryScheduled
  | "AUTH_REQUIRED" => .ok .authRequired
  | "RECOVERY_REQUIRED" => .ok .recoveryRequired
  | "SUCCEEDED" => .ok .succeeded
  | "FAILED" => .ok .failed
  | "CANCELLED" => .ok .cancelled
  | _ => .error .integrityFailure

/-- A stored identifier. -/
def parsed {kind : IdKind} (value : String) : Except DeviceJobPortError (TypedId kind) :=
  (TypedId.parse value).mapError fun _ => .integrityFailure

def restoreClaim (jobId : DeviceJobId) (target : DeviceJobTarget) (row : DeviceJobRow) :
    Except DeviceJobPortError (Option DeviceClaimSnapshot) :=
  match row.currentClaimId, row.claimFence, row.claimedAtMs, row.claimHeartbeatAtMs,
    row.claimLeaseExpiresAtMs with
  | none, none, none, none, none => .ok none
  | some claimId, some fence, some claimedAt, some heartbeat, some expiresAt => do
    let claimId ← parsed claimId
    let fence ← nonNegativeU64 fence
    let claimedAt ← unixFromI64 claimedAt
    let lastHeartbeatAt ← unixFromI64 heartbeat
    let leaseExpiresAt ← unixFromI64 expiresAt
    return some { claimId, jobId, target, fence, claimedAt, lastHeartbeatAt, leaseExpiresAt }
  | _, _, _, _, _ => .error .integrityFailure

def optionalUnixFromI64 (value : Option Int) : Except DeviceJobPortError (Option UnixMillis) :=
  match value with
  | none => .ok none
  | some value => (unixFromI64 value).map some

def restoreRow (requestedTenant : TenantId) (requestedJob : DeviceJobId) (row : DeviceJobRow) :
    Except DeviceJobPortError DeviceJob := do
  let tenantId ← parsed row.tenantId
  let jobId ← parsed row.jobId
  refuseIf (tenantId ≠ requestedTenant ∨ jobId ≠ requestedJob) .integrityFailure
  let deviceId ← parsed row.deviceId
  let profileId ← parsed row.profileId
  let generationId ← parsed row.generationId
  let target : DeviceJobTarget := ⟨tenantId, deviceId, profileId, generationId⟩
  let activeClaim ← restoreClaim jobId target row
  let aggregateVersion ← nonNegativeU64 row.aggregateVersion
  let status ← statusFromStorage row.status
  let attempt ← nonNegativeU32 row.attempt
  let maxAttempts ← nonNegativeU32 row.maxAttempts
  let lastFence ← nonNegativeU64 row.lastFence
  let retryAt ← optionalUnixFromI64 row.retryAtMs
  let updatedAt ← unixFromI64 row.updatedAtMs
  (DeviceJob.restore {
    jobId, target, aggregateVersion, status, attempt, maxAttempts, lastFence, activeClaim, retryAt,
    updatedAt }).mapError fun _ => .integrityFailure

end Restoring

end ProfilePlatform.Device
