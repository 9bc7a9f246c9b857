import MlflowOidcAuth.Resolution.ContextRuns

/-! What a user without a grant for a resource gets while workspaces are enabled.
The fallback reads the workspace from the Flask environ only, so a request without
the header, or one resolved inside a FastAPI dependency, falls through to the
configured default. -/
namespace MlflowOidcAuth
open KeyedCache OrderedSources

/-- Every configured source reports that the user has no grant for the resource. -/
def NoResourceGrant (env : Env) (t : Tables) (request : ResourceRequest) : Prop :=
  ∃ sources, permissionRegistry env t request = .ok sources ∧
    ∀ name ∈ env.config.permissionSourceOrder, askSource sources name = .absent

/-- The answer is the user's permission on the request's workspace, or the denial
for having none; the default permission is neither. -/
def WorkspaceDecides (env : Env) (t : Tables) (username : String)
    (workspaceHeader : Option String) (answer : Except Failure PermissionResult) : Prop :=
  (∃ workspace permission, truthy workspaceHeader = some workspace ∧
      lookupWorkspacePermission env t username workspace = some permission ∧
      answer = .ok ⟨permission,.workspace⟩) ∨
    answer = .ok ⟨.noPermissions,.workspaceDeny⟩

/-- The workspace cache holds what the database gives this user. -/
def WorkspaceCacheFresh (env : Env) (t : Tables) (username : String) (caches : Caches) : Prop :=
  ∀ workspace permission, caches.workspace.get (workspaceCacheKey username workspace) = some permission →
    lookupWorkspacePermission env t username workspace = some permission

section
variable {env : Env} {t : Tables} {request : ResourceRequest}

theorem resourcePermission_of_noGrant (noGrant : NoResourceGrant env t request) :
    resourcePermission env t request = defaultResult env.config := by
  obtain ⟨sources,registered,silent⟩ := noGrant
  have walked := firstGrant_absent_iff.mpr silent
  simp only [resourcePermission,registered,bind,Except.bind,getPermissionFromStoreOrDefault,walked]

theorem defaultResult_cases (config : AppConfig) :
    (∃ permission, getPermission config.defaultMlflowPermission = .ok permission ∧
      defaultResult config = .ok ⟨permission,.fallback⟩) ∨
    ∃ failure, getPermission config.defaultMlflowPermission = .error failure ∧
      defaultResult config = .error failure := by
  cases found : getPermission config.defaultMlflowPermission with
  | ok permission => exact .inl ⟨permission,rfl,by simp only [defaultResult,found,bind,Except.bind]; rfl⟩
  | error failure => exact .inr ⟨failure,rfl,by simp only [defaultResult,found,bind,Except.bind]⟩

theorem getWorkspacePermissionCached_of_fresh {username workspace : String} {caches : Caches}
    (enabled : env.config.mlflowEnableWorkspaces = true)
    (cached : WorkspaceCacheFresh env t username caches) :
    (getWorkspacePermissionCached env t username workspace caches.workspace).1 =
      lookupWorkspacePermission env t username workspace := by
  simp only [getWorkspacePermissionCached,enabled,if_true]
  cases hit : caches.workspace.get (workspaceCacheKey username workspace) with
  | some permission => exact (cached workspace permission hit).symm
  | none => cases lookupWorkspacePermission env t username workspace <;> rfl

theorem dispatch_workspace (enabled : env.config.mlflowEnableWorkspaces = true) (entry : Entry)
    (username : String) (isAdmin : Bool) (header mlflowWorkspace : Option String) :
    truthy (getRequestWorkspace
        (dispatchContext env.config entry username isAdmin header mlflowWorkspace)) =
      if entry = .flaskHook then truthy header else none := by
  cases entry <;> simp [dispatchContext,getRequestWorkspace,getAuthContext,enabled,truthy]

end

/-- With workspaces enabled, the workspace decides for a user without a grant exactly
when the resolution runs in a Flask hook, the request names a workspace and the
configured default is a known permission, since it is looked up first. -/
theorem workspaceDecides_iff (env : Env) (db : Database) (request : ResourceRequest)
    (entry : Entry) (isAdmin : Bool) (header mlflowWorkspace : Option String) (caches : Caches)
    (enabled : env.config.mlflowEnableWorkspaces = true)
    (noGrant : NoResourceGrant env db.tables request)
    (miss : caches.permission.get request.cacheKey = none)
    (cached : WorkspaceCacheFresh env db.tables request.username caches) :
    WorkspaceDecides env db.tables request.username header
        (resolvePermission env db.tables
          (dispatchContext env.config entry request.username isAdmin header mlflowWorkspace)
          request caches).1 ↔
      entry = .flaskHook ∧ (∃ workspace, header = some workspace ∧ workspace ≠ "") ∧
        env.config.defaultMlflowPermission ∈ allPermissions.map Permission.name := by
  have resolved := resourcePermission_of_noGrant noGrant
  have workspace := dispatch_workspace enabled entry request.username isAdmin header mlflowWorkspace
  simp only [resolvePermission,miss,resolveMiss,resolved]
  rcases defaultResult_cases env.config with ⟨permission,known,result⟩ | ⟨failure,unknown,result⟩
  · have knownName := getPermission_ok_iff.mp ⟨permission,known⟩
    rw [result]
    simp only [fallbackWorkspace,enabled,and_self,if_true,workspace,knownName,and_true]
    by_cases hook : entry = .flaskHook
    · simp only [hook,if_true,true_and]
      cases named : truthy header with
      | none =>
        -- no workspace: the default itself is the answer
        have absent : ¬ ∃ workspace, header = some workspace ∧ workspace ≠ "" := by
          rintro ⟨workspace,present⟩
          rw [truthy_eq_some.mpr present] at named
          cases named
        simp [WorkspaceDecides,named,absent]
      | some name =>
        have lookup : (getWorkspacePermissionCached env db.tables request.username name
            caches.workspace).1 = lookupWorkspacePermission env db.tables request.username name :=
          getWorkspacePermissionCached_of_fresh enabled cached
        have present := truthy_eq_some.mp named
        refine ⟨fun _ => ⟨name,present⟩,fun _ => ?_⟩
        simp only [lookup]
        cases decided : lookupWorkspacePermission env db.tables request.username name with
        | some granted => exact .inl ⟨name,granted,named,decided,rfl⟩
        | none => exact .inr rfl
    · simp [hook,WorkspaceDecides]
  · have unknownName : env.config.defaultMlflowPermission ∉ allPermissions.map Permission.name := by
      intro member
      obtain ⟨permission,known⟩ := getPermission_ok_iff.mpr member
      rw [unknown] at known
      cases known
    rw [result]
    simp [WorkspaceDecides,unknownName]

/-- Inside a FastAPI dependency the default permission is served although the request
names a workspace on which the user has none. -/
theorem workspaceDecides_not_fastapi :
    NoResourceGrant workspacesEnv teamDatabase.tables ⟨.experiment,"7","alice",none⟩ ∧
      ¬ WorkspaceDecides workspacesEnv teamDatabase.tables "alice" (some "team-b")
        (resolvePermission workspacesEnv teamDatabase.tables
          (dispatchContext workspacesEnv.config .fastapiDependency "alice" false (some "team-b")
            (some "team-b")) ⟨.experiment,"7","alice",none⟩ .empty).1 := by
  have served : (resolvePermission workspacesEnv teamDatabase.tables
      (dispatchContext workspacesEnv.config .fastapiDependency "alice" false (some "team-b")
        (some "team-b")) ⟨.experiment,"7","alice",none⟩ .empty).1 =
      .ok ⟨.manage,.fallback⟩ := by decide
  refine ⟨⟨_,rfl,by decide⟩,?_⟩
  rw [served]
  simp [WorkspaceDecides]

theorem workspaceDecides_iff_flask : WorkspaceDecides workspacesEnv teamDatabase.tables "alice"
    (some "team-b") (resolvePermission workspacesEnv teamDatabase.tables
      (dispatchContext workspacesEnv.config .flaskHook "alice" false (some "team-b") none)
        ⟨.experiment,"7","alice",none⟩ .empty).1 :=
  (workspaceDecides_iff workspacesEnv teamDatabase ⟨.experiment,"7","alice",none⟩ .flaskHook false
    (some "team-b") none .empty rfl
    ⟨_,rfl,by decide⟩ rfl (by intro workspace permission found; simp [Caches.empty] at found)).mpr
    ⟨rfl,⟨"team-b",rfl,by decide⟩,by decide⟩

end MlflowOidcAuth
