import MlflowOidcAuth.Resolution.Workspace

/-! Errors under the workspace lookup. A source that fails counts as one that holds
nothing, so a later source may grant what an earlier one would have denied. -/
namespace MlflowOidcAuth
open OrderedSources KeyedCache

section Answers
variable (env : Env) (t : Tables) (username workspace : String)

/-- What the body of a source's `try` answers or raises, when the store answers. -/
def storeAnswer : Source → Except Failure (Option Permission)
  | .user => do
    let row ← t.getWorkspacePermission workspace username
    let permission ← getPermission row.permission
    return some permission
  | .group => do
    let row ← t.getUserGroupsWorkspacePermission workspace username
    let permission ← getPermission row.permission
    return some permission
  | .regex => do
    let regexes ← t.listWorkspaceRegexPermissions username
    matchWorkspaceRegexPermission env.regex workspace none regexes
  | .groupRegex => do
    let ids ← t.getGroupsIdsForUser username
    matchWorkspaceRegexPermission env.regex workspace none
      (t.listWorkspaceGroupRegexPermissionsForGroupsIds ids)

/-- The exceptions the database raises while a source is asked, if it does. -/
abbrev Faults := Source → Option Failure

def workspaceAnswer (faults : Faults) (source : Source) : Except Failure (Option Permission) :=
  match faults source with
  | some failure => .error failure
  | none => storeAnswer env t username workspace source

def lookupWorkspaceUnder (faults : Faults) : Option Permission :=
  env.config.permissionSourceOrder.findSome? (fun name => (Source.ofName? name).bind (fun source =>
    swallow (workspaceAnswer env t username workspace faults source)))

def getWorkspacePermissionUnder (faults : Faults) (cache : Cache String Permission) :
    Option Permission × Cache String Permission :=
  if env.config.mlflowEnableWorkspaces then
    match cache.get (workspaceCacheKey username workspace) with
    | some cached => (some cached,cache)
    | none =>
      match lookupWorkspaceUnder env t username workspace faults with
      | some permission =>
        (some permission,cache.set (workspaceCacheKey username workspace) permission)
      | none => (none,cache)
  else (none,cache)

/-- What a listed name reports; names of no source are skipped. -/
def workspaceOutcome (faults : Faults) (name : String) : Outcome Failure Permission :=
  match Source.ofName? name with
  | none => .absent
  | some source =>
    match workspaceAnswer env t username workspace faults source with
    | .ok (some permission) => .granted permission
    | .ok none => .absent
    | .error failure => if failure.isMissing then .absent else .failed failure

end Answers

section Lookup
variable {env : Env} {t : Tables} {username workspace : String} {faults : Faults}

theorem workspaceSource_eq (source : Source) :
    workspaceSource env t username workspace source =
      swallow (storeAnswer env t username workspace source) := by
  cases source <;> rfl

/-- Without a fault the lookup is the one of the store. -/
theorem lookupWorkspaceUnder_none :
    lookupWorkspaceUnder env t username workspace (fun _ => none) =
      lookupWorkspacePermission env t username workspace := by
  simp only [lookupWorkspaceUnder,lookupWorkspacePermission,workspaceAnswer,
    ← workspaceSource_eq]

theorem getWorkspacePermissionUnder_none (cache : Cache String Permission) :
    getWorkspacePermissionUnder env t username workspace (fun _ => none) cache =
      getWorkspacePermissionCached env t username workspace cache := by
  unfold getWorkspacePermissionUnder getWorkspacePermissionCached
  cases cache.get (workspaceCacheKey username workspace) with
  | some cached => rfl
  | none =>
    have same : lookupWorkspaceUnder env t username workspace (fun _ => none) =
        lookupWorkspacePermission env t username workspace := lookupWorkspaceUnder_none
    cases found : lookupWorkspacePermission env t username workspace with
    | some permission => simp only [same,found]
    | none => simp only [same,found]

theorem lookupWorkspaceUnder_eq :
    lookupWorkspaceUnder env t username workspace faults =
      firstLenient (workspaceOutcome env t username workspace faults)
        env.config.permissionSourceOrder := by
  unfold lookupWorkspaceUnder firstLenient
  congr 1
  funext name
  unfold workspaceOutcome
  cases Source.ofName? name with
  | none => rfl
  | some source =>
    simp only [Option.bind_some]
    cases workspaceAnswer env t username workspace faults source with
    | ok answer => cases answer <;> rfl
    | error failure =>
      simp only [swallow]
      split <;> rfl

/-- A listed source grants the permission, and every source before it reports that it
holds nothing. -/
def GrantedInOrder (env : Env) (t : Tables) (username workspace : String) (faults : Faults)
    (permission : Permission) : Prop :=
  ∃ name, Reaches (workspaceOutcome env t username workspace faults)
      env.config.permissionSourceOrder name ∧
    workspaceOutcome env t username workspace faults name = .granted permission

/-- What is looked up, served on a miss and then cached is granted in order. -/
structure ServesInOrder (env : Env) (t : Tables) (username workspace : String) (faults : Faults) :
    Prop where
  lookup : ∀ permission, lookupWorkspaceUnder env t username workspace faults = some permission →
    GrantedInOrder env t username workspace faults permission
  cached : ∀ cache permission, cache.get (workspaceCacheKey username workspace) = none →
    (getWorkspacePermissionUnder env t username workspace faults cache).1 = some permission ∨
      (getWorkspacePermissionUnder env t username workspace faults cache).2.get
        (workspaceCacheKey username workspace) = some permission →
    GrantedInOrder env t username workspace faults permission

theorem served_is_lookup {cache : Cache String Permission} {permission : Permission}
    (miss : cache.get (workspaceCacheKey username workspace) = none)
    (served : (getWorkspacePermissionUnder env t username workspace faults cache).1 =
        some permission ∨
      (getWorkspacePermissionUnder env t username workspace faults cache).2.get
        (workspaceCacheKey username workspace) = some permission) :
    lookupWorkspaceUnder env t username workspace faults = some permission := by
  unfold getWorkspacePermissionUnder at served
  split at served
  · simp only [miss] at served
    cases looked : lookupWorkspaceUnder env t username workspace faults with
    | none => simp [looked,miss] at served
    | some found => simpa [looked] using served
  · simp [miss] at served

/-- The lookup keeps to the order exactly where no source grants behind one that fails. -/
theorem servesInOrder_iff (env : Env) (t : Tables) (username workspace : String)
    (faults : Faults) :
    ServesInOrder env t username workspace faults ↔
      FailsClosed (workspaceOutcome env t username workspace faults)
        env.config.permissionSourceOrder := by
  rw [← grantsReached_iff]
  constructor
  · intro serves permission walked
    rw [← lookupWorkspaceUnder_eq] at walked
    exact serves.lookup permission walked
  · intro sound
    have inOrder : ∀ permission,
        lookupWorkspaceUnder env t username workspace faults = some permission →
          GrantedInOrder env t username workspace faults permission :=
      fun permission looked => sound permission (lookupWorkspaceUnder_eq.symm.trans looked)
    exact ⟨inOrder,fun cache permission miss served =>
      inOrder permission (served_is_lookup miss served)⟩

end Lookup

section Denied

/-- Alice is denied the workspace herself, and her group manages it. -/
def deniedAlice : Database where
  tables := { Tables.empty with
    users := [⟨1,"alice","Alice","",none,false,false⟩]
    groups := [⟨1,"team"⟩]
    userGroups := [⟨1,1,1⟩]
    workspacePermissions := [⟨"prod",1,"NO_PERMISSIONS"⟩]
    workspaceGroupPermissions := [⟨"prod",1,"MANAGE"⟩] }
  integrity := by decide

def outageEnv : Env :=
  ⟨{ AppConfig.default with mlflowEnableWorkspaces := true },.literal,fun _ => .ok ""⟩

/-- The query for the user's own row is lost. -/
def userQueryFails : Faults
  | .user => some (.other "database is locked")
  | _ => none

theorem manages_through_outage : ¬ ∀ (env : Env) (db : Database) (username workspace : String)
    (faults : Faults), ServesInOrder env db.tables username workspace faults := by
  intro law
  have serves := law outageEnv deniedAlice "alice" "prod" userQueryFails
  have looked : lookupWorkspaceUnder outageEnv deniedAlice.tables "alice" "prod"
      userQueryFails = some .manage := by decide
  obtain ⟨name,reached,granted⟩ := serves.lookup .manage looked
  have failed : workspaceOutcome outageEnv deniedAlice.tables "alice" "prod" userQueryFails
      "user" = .failed (.other "database is locked") := by decide
  have first : Reaches (workspaceOutcome outageEnv deniedAlice.tables "alice" "prod"
      userQueryFails) outageEnv.config.permissionSourceOrder "user" :=
    ⟨[],["group","regex","group-regex"],rfl,by simp⟩
  have walk := firstGrant_of_failed first failed
  rw [firstGrant_granted_iff.mpr ⟨reached,granted⟩] at walk
  cases walk

end Denied

end MlflowOidcAuth
