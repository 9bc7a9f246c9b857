import MlflowOidcAuth.Library.KeyedCache
import MlflowOidcAuth.Resolution.Sources

/-! Workspace permissions: the lookup over the configured sources, in which every
exception counts as absence, the cache in front of it, and the request context the
current workspace is read from. -/
namespace MlflowOidcAuth
open OrderedSources KeyedCache

structure AuthContext where
  username : String
  isAdmin : Bool
  workspace : Option String
deriving DecidableEq, Repr

/-- The ambient state of a request: the `AuthContext` in the Flask environ, when
there is a Flask request that carries one, and MLflow's own workspace variable. -/
structure RequestContext where
  flaskEnviron : Option AuthContext
  mlflowWorkspace : Option String
deriving DecidableEq, Repr

/-- How a request reaches the resolver. -/
inductive Entry
  | flaskHook
  | fastapiDependency
deriving DecidableEq, Repr

/-- The context `AuthMiddleware.dispatch` sets up: the header is read only when
workspaces are enabled, and only the WSGI bridge copies the `AuthContext` into a
Flask environ. -/
def dispatchContext (config : AppConfig) (entry : Entry) (username : String) (isAdmin : Bool)
    (workspaceHeader mlflowWorkspace : Option String) : RequestContext :=
  let workspace := if config.mlflowEnableWorkspaces then workspaceHeader else none
  match entry with
  | .flaskHook => ⟨some ⟨username,isAdmin,workspace⟩,mlflowWorkspace⟩
  | .fastapiDependency => ⟨none,mlflowWorkspace⟩

def getAuthContext (context : RequestContext) : Except Failure AuthContext :=
  match context.flaskEnviron with
  | some auth => .ok auth
  | none => .error (.other "Could not retrieve AuthContext")

def getRequestWorkspace (context : RequestContext) : Option String :=
  match getAuthContext context with
  | .ok auth => auth.workspace
  | .error _ => none

/-- `if workspace:`, which an empty name fails. -/
def truthy (workspace : Option String) : Option String :=
  workspace.filter (fun name => decide (name ≠ ""))

theorem truthy_eq_some {header : Option String} {workspace : String} :
    truthy header = some workspace ↔ header = some workspace ∧ workspace ≠ "" := by
  simp [truthy,Option.filter_eq_some_iff]

/-- The most permissive match of the first priority that matches. -/
def matchWorkspaceRegexPermission (engine : RegexEngine) (workspace : String)
    (best : Option (Permission × Int)) :
    List SqlRegexPermission → Except Failure (Option Permission)
  | [] => .ok (best.map Prod.fst)
  | row :: rest =>
    match best with
    | some (permission,priority) =>
      if priority < row.priority then .ok (some permission)
      else do
        if ← reMatch engine row.regex workspace then
          let other ← getPermission row.permission
          if permission.priority < other.priority then
            matchWorkspaceRegexPermission engine workspace (some (other,priority)) rest
          else
            matchWorkspaceRegexPermission engine workspace best rest
        else
          matchWorkspaceRegexPermission engine workspace best rest
    | none => do
      if ← reMatch engine row.regex workspace then
        let permission ← getPermission row.permission
        matchWorkspaceRegexPermission engine workspace (some (permission,row.priority)) rest
      else
        matchWorkspaceRegexPermission engine workspace none rest

/-- `except Exception: return None`. -/
def swallow {A : Type*} (result : Except Failure (Option A)) : Option A :=
  match result with
  | .ok found => found
  | .error _ => none

section Lookup
variable (env : Env) (t : Tables) (username workspace : String)

def resolveUserDirect : Option Permission :=
  swallow (do
    let row ← t.getWorkspacePermission workspace username
    let permission ← getPermission row.permission
    return some permission)

def resolveGroupDirect : Option Permission :=
  swallow (do
    let row ← t.getUserGroupsWorkspacePermission workspace username
    let permission ← getPermission row.permission
    return some permission)

def resolveUserRegex : Option Permission :=
  swallow (do
    let regexes ← t.listWorkspaceRegexPermissions username
    matchWorkspaceRegexPermission env.regex workspace none regexes)

def resolveGroupRegex : Option Permission :=
  swallow (do
    let ids ← t.getGroupsIdsForUser username
    matchWorkspaceRegexPermission env.regex workspace none
      (t.listWorkspaceGroupRegexPermissionsForGroupsIds ids))

def workspaceSource : Source → Option Permission
  | .user => resolveUserDirect t username workspace
  | .group => resolveGroupDirect t username workspace
  | .regex => resolveUserRegex env t username workspace
  | .groupRegex => resolveGroupRegex env t username workspace

def lookupWorkspacePermission : Option Permission :=
  env.config.permissionSourceOrder.findSome? (fun name =>
    (Source.ofName? name).bind (workspaceSource env t username workspace))

end Lookup

def workspaceCacheKey (username workspace : String) : String := username ++ ":" ++ workspace

/-- The cached lookup; a denial is not cached. -/
def getWorkspacePermissionCached (env : Env) (t : Tables) (username workspace : String)
    (cache : Cache String Permission) : Option Permission × Cache String Permission :=
  if env.config.mlflowEnableWorkspaces then
    match cache.get (workspaceCacheKey username workspace) with
    | some cached => (some cached,cache)
    | none =>
      match lookupWorkspacePermission env t username workspace with
      | some permission =>
        (some permission,cache.set (workspaceCacheKey username workspace) permission)
      | none => (none,cache)
  else (none,cache)

end MlflowOidcAuth
