import Mathlib.Algebra.Ring.Nat
import Mathlib.Data.List.Sort
import MlflowOidcAuth.Library.KeyedCache
import MlflowOidcAuth.Library.Sweep
import MlflowOidcAuth.Store.Quotas
import MlflowOidcAuth.Tracking

/-! Quota reconciliation: the sizes of what a user owns are summed workspace by
workspace, experiments that no workspace shows are taken for orphans, and the
thresholds are applied to the sum. -/
namespace MlflowOidcAuth
open Effects KeyedCache

structure ModelVersion where
  source : Option String

structure FileInfo where
  path : String
  isDir : Bool
  fileSize : Option Nat

/-- The order in which the database lists the rows of a query that asks for none: by a rank of
its own, be it the row's id or, along an index, the user's. -/
structure RowOrder where
  rank : SqlPermission → Nat
  apart : ∀ row other, rank row = rank other → row.id = other.id ∨ row.ownerId = other.ownerId

namespace RowOrder

def byId : RowOrder := ⟨SqlPermission.id,fun _ _ same => .inl same⟩

/-- The order of an index over experiment and user. -/
def byOwner : RowOrder := ⟨SqlPermission.ownerId,fun _ _ same => .inr same⟩

def list (order : RowOrder) (rows : List SqlPermission) : List SqlPermission :=
  rows.insertionSort (fun row other => order.rank row ≤ order.rank other)

end RowOrder

/-- What the calls of one reconciliation that leave the plugin come to. -/
structure Surroundings where
  enableWorkspaces : Bool
  quotaDefaultBytes : Option Int
  quotaSoftCapFraction : PyFloat
  /-- The workspaces listed, and whether the listing then failed. -/
  listWorkspaces : List String × Bool
  getExperiment : Option String → String → Except Failure Experiment
  searchModelVersions : Option String → String → Except Failure (List ModelVersion)
  listArtifacts : String → Option String → Except Failure (List FileInfo)
  recursionLimit : Nat
  smtpAccepts : String → Bool
  /-- The rounding of a float operation. -/
  rounded : ℚ → ℚ
  reconciledAt : DateTime
  now : DateTime
  rowOrder : RowOrder := .byId

/-- The sizes computed so far, by experiment. -/
abbrev Sizes := Cache String Nat

structure QuotaState where
  db : Database
  sizeCache : Sizes

/-- The state of the plugin and the local variables of `_calculate_used_bytes`. -/
structure SweepState extends QuotaState where
  remainingExperiments : List String
  remainingModels : List String
  experimentSizes : Sizes
  total : Nat

def onStore {α : Type} (method : EStateM Failure Database α) : EStateM Failure QuotaState α :=
  fun state =>
    match method state.db with
    | .ok value db => .ok value { state with db := db }
    | .error failure db => .error failure { state with db := db }

section Measuring
variable (around : Surroundings)

def iterWorkspaceNames : List (Option String) :=
  if around.enableWorkspaces then
    around.listWorkspaces.1.map some ++ if around.listWorkspaces.2 then [none] else []
  else [none]

def sumArtifacts (artifactUri : String) : Nat → String → Except Failure Nat
  | 0, _ => .error (.other "maximum recursion depth exceeded")
  | depth + 1, path => do
    let artifacts ← around.listArtifacts artifactUri (if path = "" then none else some path)
    artifacts.foldlM (fun total artifact => do
      if artifact.isDir then
        return total + (← sumArtifacts artifactUri depth artifact.path)
      else
        return total + artifact.fileSize.getD 0) 0

/-- The bytes under a location; a missing location or a failed listing counts nothing. -/
def locationBytes (location : Option String) : Nat :=
  if given location then
    match sumArtifacts around (location.getD "") around.recursionLimit "" with
    | .ok bytes => bytes
    | .error _ => 0
  else 0

def visitExperiment (workspaceName : Option String) (experimentId : String) :
    EStateM Failure SweepState PUnit := fun state =>
  match around.getExperiment workspaceName experimentId with
  | .error failure => if failure.isMlflow then .ok () state else .error failure state
  | .ok experiment =>
    let located := { state with
      remainingExperiments :=
        state.remainingExperiments.filter (fun other => decide (other ≠ experimentId)) }
    match experiment.lifecycleStage with
    | .deleted =>
      .ok () { located with experimentSizes := located.experimentSizes.set experimentId 0 }
    | .active =>
      let bytes := locationBytes around experiment.artifactLocation
      .ok () { located with
        sizeCache := located.sizeCache.set experimentId bytes
        experimentSizes := located.experimentSizes.set experimentId bytes
        total := located.total + bytes }

def modelFilter (modelName : String) : String :=
  "name = '" ++ modelName.replace "'" "\\'" ++ "'"

def visitModel (workspaceName : Option String) (modelName : String) :
    EStateM Failure SweepState PUnit := fun state =>
  match around.searchModelVersions workspaceName (modelFilter modelName) with
  | .error failure => if failure.isMlflow then .ok () state else .error failure state
  | .ok versions =>
    .ok () { state with
      remainingModels := state.remainingModels.filter (fun other => decide (other ≠ modelName))
      total := state.total + (versions.map (fun mv => locationBytes around mv.source)).sum }

def visitWorkspace (workspaceName : Option String) : EStateM Failure SweepState PUnit := do
  let entered ← get
  entered.remainingExperiments.forM (visitExperiment around workspaceName)
  let reached ← get
  reached.remainingModels.forM (visitModel around workspaceName)

/-- The experiments and models not yet located. -/
def SweepState.remaining (state : SweepState) : List (String ⊕ String) :=
  state.remainingExperiments.map .inl ++ state.remainingModels.map .inr

def ownedNames (rows : List SqlPermission) : List String :=
  (rows.filter (fun row => decide (row.permission = Permission.manage.name))).map
    (fun row => row.key.resourceId)

/-- The locals before the first workspace: cached sizes are counted, the other owned
experiments remain. -/
def QuotaState.startSweep (state : QuotaState) (ownedExperimentIds ownedModelNames : List String) :
    SweepState where
  toQuotaState := state
  remainingExperiments :=
    (ownedExperimentIds.filter (fun id => (state.sizeCache.get id).isNone)).dedup
  remainingModels := ownedModelNames.dedup
  experimentSizes := ownedExperimentIds.foldl (fun sizes id =>
    match state.sizeCache.get id with
    | some cached => sizes.set id cached
    | none => sizes) Cache.empty
  total := (ownedExperimentIds.filterMap state.sizeCache.get).sum

/-- An experiment that was not located is taken for hard-deleted. -/
def wipeOrphan (experimentId : String) : EStateM Failure QuotaState PUnit := fun state =>
  match wipeExperimentPermissions experimentId state.db with
  | .ok _ db => .ok () ⟨db,state.sizeCache.delete experimentId⟩
  | .error _ db => .ok () { state with db := db }

def calculateUsedBytes (username : String) : EStateM Failure QuotaState (Nat × Sizes) :=
  fun state =>
    match state.db.tables.listPermissionsForUser .experiment username with
    | .error failure => .error failure state
    | .ok expPerms =>
      match state.db.tables.listPermissionsForUser .registeredModel username with
      | .error failure => .error failure state
      | .ok modelPerms =>
        if ownedNames expPerms = [] ∧ ownedNames modelPerms = [] then
          .ok (0,Cache.empty) state
        else
          match Sweep.sweep (visitWorkspace around) SweepState.remaining (iterWorkspaceNames around)
              (state.startSweep (ownedNames expPerms) (ownedNames modelPerms)) with
          | .error failure swept => .error failure swept.toQuotaState
          | .ok _ swept =>
            match swept.remainingExperiments.forM wipeOrphan swept.toQuotaState with
            | .error failure reached => .error failure reached
            | .ok _ reached => .ok (swept.total,swept.experimentSizes) reached

end Measuring

section Thresholds
variable (around : Surroundings)

def effectiveQuotaBytes (quota : SqlUserQuota) : Option Int :=
  quota.quotaBytes.orElse (fun _ => around.quotaDefaultBytes)

def effectiveSoftCapFraction (quota : SqlUserQuota) : PyFloat :=
  quota.softCapFraction.getD around.quotaSoftCapFraction

/-- The usage as a fraction of the limit. -/
def pct (effectiveQuota : Int) (used : Nat) : ℚ := around.rounded ((used : ℚ) / effectiveQuota)

/-- Microseconds between two instants; a naive one cannot be subtracted from an aware one. -/
def elapsed (later earlier : DateTime) : Except Failure Int :=
  match later.utcOffset, earlier.utcOffset with
  | some offset, some offset' =>
    .ok ((later.wallClock - offset) - (earlier.wallClock - offset'))
  | none, none => .ok (later.wallClock - earlier.wallClock)
  | _, _ => .error (.other "can't subtract offset-naive and offset-aware datetimes")

/-- `send_hard_cap_notification` and `send_soft_cap_warning`: whether the mail went out. -/
def sendNotification (emailAddress : Option String) : Bool :=
  match emailAddress with
  | none => false
  | some address => decide (address ≠ "") && around.smtpAccepts address

def hours24 : Int := 24 * 3600 * 1000000

def storeIf (condition : Bool) (method : EStateM Failure Database PUnit) :
    EStateM Failure QuotaState PUnit :=
  if condition then onStore method else pure ()

/-- The daily reminder is due when none was sent in the last day. -/
def hardCapDue (quota : SqlUserQuota) : Except Failure Bool :=
  match quota.softNotifiedAt with
  | none => .ok true
  | some notified => do
    let passed ← elapsed around.now notified
    return decide (hours24 < passed)

def notifyHardCap (username : String) (quota : SqlUserQuota) : EStateM Failure QuotaState PUnit :=
  match hardCapDue around quota with
  | .error failure => throw failure
  | .ok due =>
    storeIf (due && sendNotification around quota.email)
      (setQuotaSoftNotifiedAt username (some around.now))

def applyThresholds (username : String) (quota : SqlUserQuota) (effectiveQuota : Int) (used : Nat) :
    EStateM Failure QuotaState PUnit :=
  if effectiveQuota = 0 then
    throw (.other "division by zero")
  else if effectiveQuota ≤ used then do
    storeIf (!quota.hardBlocked) (setQuotaHardBlocked username true)
    notifyHardCap around username quota
  else do
    storeIf quota.hardBlocked (setQuotaHardBlocked username false)
    if (effectiveSoftCapFraction around quota).atMost (pct around effectiveQuota used) then
      storeIf (quota.softNotifiedAt.isNone && sendNotification around quota.email)
        (setQuotaSoftNotifiedAt username (some around.now))
    else
      storeIf quota.softNotifiedAt.isSome (setQuotaSoftNotifiedAt username none)

def clearEnforcement (username : String) (quota : SqlUserQuota) :
    EStateM Failure QuotaState PUnit := do
  storeIf quota.hardBlocked (setQuotaHardBlocked username false)
  storeIf quota.softNotifiedAt.isSome (setQuotaSoftNotifiedAt username none)

def reconcileUserQuota (username : String) : EStateM Failure QuotaState Sizes := do
  match ← onStore (getUserQuota username) with
  | none =>
    let (used,experimentSizes) ← calculateUsedBytes around username
    onStore (setUserQuota username none none)
    onStore (updateUserQuotaUsedBytes around.reconciledAt username used)
    return experimentSizes
  | some quota =>
    match effectiveQuotaBytes around quota with
    | none =>
      clearEnforcement username quota
      return Cache.empty
    | some effectiveQuota =>
      let (used,experimentSizes) ← calculateUsedBytes around username
      onStore (updateUserQuotaUsedBytes around.reconciledAt username used)
      applyThresholds around username quota effectiveQuota used
      return experimentSizes

end Thresholds
end MlflowOidcAuth
