import MlflowOidcAuth.Library.SeparatedText
import MlflowOidcAuth.Resolution.CachedRuns

/-! One user's resolutions under changing workspace contexts. The cache key does
not hold the workspace, so an answer of the workspace fallback, or of the default,
is served in whatever context asks next. -/
namespace MlflowOidcAuth
open KeyedCache OrderedSources

/-- What one user asks for, and in which request. -/
structure ContextLookup where
  context : RequestContext
  resourceType : ResourceType
  resourceId : String
  scorerName : Option String := none
deriving DecidableEq, Repr

def ContextLookup.resolution (user : String) (lookup : ContextLookup) : Resolution :=
  ⟨lookup.context,⟨lookup.resourceType,lookup.resourceId,user,lookup.scorerName⟩⟩

/-- Some configured source holds a grant for the resource itself. -/
def hasResourceGrant (env : Env) (t : Tables) (request : ResourceRequest) : Bool :=
  match permissionRegistry env t request with
  | .ok sources => env.config.permissionSourceOrder.any (fun name =>
      match askSource sources name with
      | .granted _ => true
      | _ => false)
  | .error _ => false

/-- Every permission of the run is the one resolved in the request's own context. -/
def ContextRunFresh (env : Env) (db : Database) (user : String)
    (events : List (LookupEvent ContextLookup)) : Prop :=
  RunFresh env db.tables (ContextLookup.resolution user) events

/-- Whatever holds the key of a lookup was filled for the same scorer name and in the
same workspace, unless the resource itself is granted to the user. -/
def HeldInContext (env : Env) (t : Tables) (user : String) (state : TracedCaches)
    (event : LookupEvent ContextLookup) : Prop :=
  HeldBy (ContextLookup.resolution user) (fun holder lookup =>
    holder.request.scorerName = lookup.scorerName ∧
      (holder.workspace = (lookup.resolution user).workspace ∨
        hasResourceGrant env t (lookup.resolution user).request = true)) state event

instance (env : Env) (t : Tables) (user : String) (state : TracedCaches)
    (event : LookupEvent ContextLookup) : Decidable (HeldInContext env t user state event) :=
  inferInstanceAs (Decidable (HeldBy _ _ _ _))

section Keys

theorem resourceType_separator (resourceType : ResourceType) :
    ':' ∉ resourceType.value.toList := by
  cases resourceType <;> decide

theorem resourceType_value {first second : ResourceType}
    (same : first.value = second.value) : first = second := by
  cases first <;> cases second <;> first | rfl | exact absurd same (by decide)

theorem makeCacheKey_resource {resourceType resourceType' : ResourceType}
    {resourceId resourceId' user : String}
    (same : makeCacheKey resourceType resourceId user = makeCacheKey resourceType' resourceId' user) :
    resourceType = resourceType' ∧ resourceId = resourceId' := by
  have fields : resourceType.value.toList ++ ':' :: (resourceId.toList ++ ':' :: user.toList) =
      resourceType'.value.toList ++ ':' :: (resourceId'.toList ++ ':' :: user.toList) := by
    simpa [makeCacheKey] using congrArg String.toList same
  obtain ⟨types,rest⟩ := SeparatedText.joined_of_plain (resourceType_separator _)
    (resourceType_separator _) fields
  have ids : resourceId.toList = resourceId'.toList := List.append_cancel_right rest
  exact ⟨resourceType_value (String.toList_inj.mp types),String.toList_inj.mp ids⟩

end Keys

section Context
variable {env : Env} {t : Tables}

theorem resourcePermission_of_grant {request : ResourceRequest}
    (granted : hasResourceGrant env t request = true) {result : PermissionResult}
    (ok : resourcePermission env t request = .ok result) : result.kind ≠ .fallback := by
  unfold hasResourceGrant at granted
  unfold resourcePermission at ok
  cases registered : permissionRegistry env t request with
  | error failure => simp [registered] at granted
  | ok sources =>
    simp only [registered,List.any_eq_true] at granted
    obtain ⟨name,listed,grants⟩ := granted
    simp only [registered,bind,Except.bind,getPermissionFromStoreOrDefault] at ok
    cases walked : firstGrant (askSource sources) env.config.permissionSourceOrder with
    | granted found =>
      obtain ⟨source,given⟩ := found
      rw [walked] at ok
      cases ok
      obtain ⟨decided,_,kind⟩ := kind_of_granted (reaches_of_granted walked).2
      rw [kind]
      simp
    | absent =>
      rw [firstGrant_absent_iff] at walked
      simp [walked name listed] at grants
    | failed failure => rw [walked] at ok; cases ok

/-- The answer depends on the context only through the workspace, and not at all
when the resource itself is granted. -/
theorem fresh_of_same_workspace {p q : Resolution} (sameRequest : p.request = q.request)
    (same : p.workspace = q.workspace ∨ hasResourceGrant env t q.request = true) :
    p.fresh env t = q.fresh env t := by
  simp only [Resolution.fresh,freshPermission,sameRequest]
  cases found : resourcePermission env t q.request with
  | error failure => rfl
  | ok result =>
    have falls : fallbackWorkspace env p.context result = fallbackWorkspace env q.context result := by
      rcases same with same | granted
      · simp only [Resolution.workspace] at same
        simp only [fallbackWorkspace,same]
      · have kind := resourcePermission_of_grant granted found
        simp only [fallbackWorkspace,kind,false_and,if_false]
    simp only [bind,Except.bind,falls]

end Context

section Leak

def workspacesEnv : Env :=
  ⟨{ AppConfig.default with mlflowEnableWorkspaces := true },.literal,
    fun experimentId => .ok ("experiment " ++ experimentId)⟩

/-- Alice manages workspace team-a and has no permission on any other. -/
def teamDatabase : Database where
  tables := { Tables.empty with
    users := [⟨1,"alice","Alice","",none,false,false⟩]
    workspacePermissions := [⟨"team-a",1,"MANAGE"⟩] }
  integrity := by decide

def flaskContext (workspace : Option String) : RequestContext :=
  dispatchContext workspacesEnv.config .flaskHook "alice" false workspace none

end Leak
end MlflowOidcAuth
