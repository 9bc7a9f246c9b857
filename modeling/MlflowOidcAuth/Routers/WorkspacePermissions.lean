import MlflowOidcAuth.Resolution.ContextRuns
import MlflowOidcAuth.Store.Workspaces

/-! The endpoints that write workspace permissions, and what the two caches serve after
them. A user's endpoint drops the user's entry of the workspace cache, a group's leaves
the entries of its members to expire. -/
namespace MlflowOidcAuth
open KeyedCache Effects

/-- A call of one of the six endpoints, on the workspace of its path. -/
inductive WorkspaceCall
  | create (holder : Holder) (owner permission : String)
  | update (holder : Holder) (owner permission : String)
  | delete (holder : Holder) (owner : String)
deriving DecidableEq, Repr

namespace WorkspaceCall

def holder : WorkspaceCall → Holder
  | create holder _ _ => holder
  | update holder _ _ => holder
  | delete holder _ => holder

def owner : WorkspaceCall → String
  | create _ owner _ => owner
  | update _ owner _ => owner
  | delete _ owner => owner

/-- The endpoint up to the invalidation: the permission's name is checked first. -/
def write (workspace : String) : WorkspaceCall → EStateM Failure Database PUnit
  | create holder owner permission => fun db =>
    match validatePermission permission with
    | .error failure => .error failure db
    | .ok _ => createWorkspacePermission holder workspace owner permission db
  | update holder owner permission => fun db =>
    match validatePermission permission with
    | .error failure => .error failure db
    | .ok _ => updateWorkspacePermission holder workspace owner permission db
  | delete holder owner => deleteWorkspacePermission holder workspace owner

/-- `invalidate_workspace_permission`, which only the endpoints of users call. -/
def invalidate (workspace : String) (call : WorkspaceCall) (caches : Caches) : Caches :=
  match call.holder with
  | .user =>
    { caches with workspace := caches.workspace.delete (workspaceCacheKey call.owner workspace) }
  | .group => caches

def endpoint (workspace : String) (call : WorkspaceCall) (db : Database) (caches : Caches) :
    Except Failure (Database × Caches) :=
  match call.write workspace db with
  | .ok _ written => .ok (written,call.invalidate workspace caches)
  | .error failure _ => .error failure

end WorkspaceCall

/-- `get_workspace_permission_cached` on an empty cache. -/
def freshWorkspacePermission (env : Env) (t : Tables) (username workspace : String) :
    Option Permission :=
  if env.config.mlflowEnableWorkspaces then lookupWorkspacePermission env t username workspace
  else none

section Served
variable {env : Env} {t : Tables} {username workspace : String}

theorem cached_of_missing {cache : Cache String Permission}
    (missing : cache.get (workspaceCacheKey username workspace) = none) :
    (getWorkspacePermissionCached env t username workspace cache).1 =
      freshWorkspacePermission env t username workspace := by
  unfold getWorkspacePermissionCached freshWorkspacePermission
  cases env.config.mlflowEnableWorkspaces with
  | false => rfl
  | true =>
    simp only [if_true,missing]
    cases lookupWorkspacePermission env t username workspace <;> rfl

theorem resolve_of_missing {context : RequestContext} {request : ResourceRequest} {caches : Caches}
    (inWorkspace : truthy (getRequestWorkspace context) = some workspace)
    (unresolved : caches.permission.get request.cacheKey = none)
    (missing : caches.workspace.get (workspaceCacheKey request.username workspace) = none) :
    (resolvePermission env t context request caches).1 = freshPermission env t context request := by
  apply resolvePermission_answer
  · intro result cached
    rw [unresolved] at cached
    cases cached
  · intro other enabled named
    rw [inWorkspace] at named
    cases named
    rw [cached_of_missing missing,freshWorkspacePermission,if_pos enabled]

end Served

/-- The users whose workspace permission a call may change. -/
def WorkspaceCall.Affects (call : WorkspaceCall) (t : Tables) (username : String) : Prop :=
  match call.holder with
  | .user => username = call.owner
  | .group => ∃ user group, t.getUser username = .ok user ∧ t.getGroup call.owner = .ok group ∧
      group.id ∈ t.groupIdsOf user

/-- Both caches serve a user what the store now holds for the workspace. -/
def ServedFresh (env : Env) (t : Tables) (workspace username : String) (caches : Caches) : Prop :=
  (getWorkspacePermissionCached env t username workspace caches.workspace).1 =
      freshWorkspacePermission env t username workspace ∧
    ∀ context request, request.username = username →
      truthy (getRequestWorkspace context) = some workspace →
      hasResourceGrant env t request = false →
      (resolvePermission env t context request caches).1 = freshPermission env t context request

/-- The workspace cache serves a user what the store now holds, and so do the resolutions that
the permission cache has no entry for. -/
def LookedUpFresh (env : Env) (t : Tables) (workspace username : String) (caches : Caches) : Prop :=
  (getWorkspacePermissionCached env t username workspace caches.workspace).1 =
      freshWorkspacePermission env t username workspace ∧
    ∀ context request, request.username = username →
      truthy (getRequestWorkspace context) = some workspace →
      caches.permission.get request.cacheKey = none →
      (resolvePermission env t context request caches).1 = freshPermission env t context request

theorem lookedUpFresh_of_missing {env : Env} {t : Tables} {workspace username : String}
    {caches : Caches} (missing : caches.workspace.get (workspaceCacheKey username workspace) = none) :
    LookedUpFresh env t workspace username caches := by
  refine ⟨cached_of_missing missing,?_⟩
  rintro context request rfl inWorkspace unresolved
  exact resolve_of_missing inWorkspace unresolved missing

/-- What an endpoint that returns leaves to be served: afresh for the user of a user's endpoint;
for a group's endpoint, what is cached, and afresh for whom nothing is cached. -/
def WorkspaceCall.Serves (call : WorkspaceCall) (env : Env) (t : Tables) (workspace : String)
    (before caches : Caches) : Prop :=
  match call.holder with
  | .user => LookedUpFresh env t workspace call.owner caches
  | .group => ∀ username, match before.workspace.get (workspaceCacheKey username workspace) with
    | none => LookedUpFresh env t workspace username caches
    | some permission =>
      (getWorkspacePermissionCached env t username workspace caches.workspace).1 =
        if env.config.mlflowEnableWorkspaces then some permission else none

theorem workspaceCall_serves (env : Env) (db written : Database) (workspace : String)
    (call : WorkspaceCall) (before caches : Caches)
    (returned : call.endpoint workspace db before = .ok (written,caches)) :
    call.Serves env written.tables workspace before caches := by
  have invalidated : caches = call.invalidate workspace before := by
    unfold WorkspaceCall.endpoint at returned
    split at returned <;> cases returned
    rfl
  subst invalidated
  unfold WorkspaceCall.Serves
  cases held : call.holder with
  | user =>
    apply lookedUpFresh_of_missing
    simp only [WorkspaceCall.invalidate,held,Cache.get_delete_self]
  | group =>
    have kept : call.invalidate workspace before = before := by
      simp only [WorkspaceCall.invalidate,held]
    intro username
    rw [kept]
    cases entry : before.workspace.get (workspaceCacheKey username workspace) with
    | none => exact lookedUpFresh_of_missing entry
    | some permission =>
      unfold getWorkspacePermissionCached
      cases env.config.mlflowEnableWorkspaces with
      | false => rfl
      | true => simp only [if_true,entry]

section Expiry

/-- Alice manages workspace team-a as a member of its group. -/
def groupTeamTables : Tables :=
  { Tables.empty with
    users := [⟨1,"alice","Alice","",none,false,false⟩]
    groups := [⟨1,"team"⟩]
    userGroups := [⟨1,1,1⟩] }

def groupTeamDatabase : Database where
  tables := { groupTeamTables with workspaceGroupPermissions := [⟨"team-a",1,"MANAGE"⟩] }
  integrity := by decide

def groupTeamRevoked : Database := ⟨groupTeamTables,by decide⟩

/-- What a lookup before the revocation leaves in the caches. -/
def groupTeamCaches : Caches := ⟨.empty,Cache.empty.set "alice:team-a" .manage⟩

theorem revokes_group_permission :
    (WorkspaceCall.delete .group "team").endpoint "team-a" groupTeamDatabase groupTeamCaches =
      .ok (groupTeamRevoked,groupTeamCaches) := by
  have committed : deleteWorkspacePermission .group "team-a" "team" groupTeamDatabase =
      .ok () groupTeamRevoked := by
    apply session_commits
    rfl
  simp only [WorkspaceCall.endpoint,WorkspaceCall.write,committed]
  rfl

/-- The permission of a group is revoked, and its member keeps what is cached. -/
theorem serves_revoked_group : ¬ ∀ env db written workspace call before caches,
    WorkspaceCall.endpoint workspace call db before = .ok (written,caches) →
    ∀ username, call.Affects db.tables username →
      ServedFresh env written.tables workspace username caches := by
  intro fresh
  have member : (WorkspaceCall.delete .group "team").Affects groupTeamDatabase.tables "alice" :=
    ⟨_,_,rfl,rfl,by decide⟩
  have served := (fresh workspacesEnv groupTeamDatabase groupTeamRevoked "team-a"
    (.delete .group "team") groupTeamCaches groupTeamCaches revokes_group_permission "alice"
    member).1
  revert served
  decide

theorem workspaceCall_serves_member : (WorkspaceCall.delete .group "team").Serves workspacesEnv
    groupTeamTables "team-a" groupTeamCaches groupTeamCaches :=
  workspaceCall_serves workspacesEnv groupTeamDatabase groupTeamRevoked "team-a"
    (.delete .group "team") groupTeamCaches groupTeamCaches revokes_group_permission

end Expiry
end MlflowOidcAuth
