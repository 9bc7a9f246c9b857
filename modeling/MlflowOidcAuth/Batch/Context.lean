import MlflowOidcAuth.Resolution.Cached

/-! The bulk resolver: all of a user's permission rows are fetched once and every
item is resolved from them, with the workspace fallback of MLflow's own request
variable. -/
namespace MlflowOidcAuth
open OrderedSources KeyedCache

/-- Lookup in a dictionary built by a comprehension, where later pairs overwrite. -/
def dictGet {Key Value : Type*} [DecidableEq Key] (pairs : List (Key × Value)) (key : Key) :
    Option Value :=
  (pairs.filter (fun pair => decide (pair.1 = key))).getLast?.map Prod.snd

structure UserPermissionContext where
  username : String
  groupIds : List Nat
  userExperimentPermissions : List (String × String)
  groupExperimentPermissions : List (String × String)
  experimentRegexPermissions : List SqlRegexPermission
  groupExperimentRegexPermissions : List SqlRegexPermission
  userModelPermissions : List (String × String)
  groupModelPermissions : List (String × String)
  modelRegexPermissions : List SqlRegexPermission
  groupModelRegexPermissions : List SqlRegexPermission
  promptRegexPermissions : List SqlRegexPermission
  groupPromptRegexPermissions : List SqlRegexPermission

/-- `{p.resource_id: p.permission for p in perms}`. -/
def permissionDict (rows : List SqlPermission) : List (String × String) :=
  rows.map (fun row => (row.key.resourceId,row.permission))

def buildUserPermissionContext (t : Tables) (username : String) :
    Except Failure UserPermissionContext := do
  let groupIds ← t.getGroupsIdsForUser username
  let userExpPerms ← t.listPermissionsForUser .experiment username
  let groupExpPerms ← t.listUserGroupsPermissions .experiment username
  let experimentRegexPermissions ← t.listRegexPermissions .experiment false username
  let groupRegexes := fun family prompt =>
    if groupIds.isEmpty then [] else t.listGroupRegexPermissionsForGroupsIds family prompt groupIds
  let userModelPerms ← t.listPermissionsForUser .registeredModel username
  let groupModelPerms ← t.listUserGroupsPermissions .registeredModel username
  let modelRegexPermissions ← t.listRegexPermissions .registeredModel false username
  let promptRegexPermissions ← t.listRegexPermissions .registeredModel true username
  return {
    username := username
    groupIds := groupIds
    userExperimentPermissions := permissionDict userExpPerms
    groupExperimentPermissions := permissionDict groupExpPerms
    experimentRegexPermissions := experimentRegexPermissions
    groupExperimentRegexPermissions := groupRegexes .experiment false
    userModelPermissions := permissionDict userModelPerms
    groupModelPermissions := permissionDict groupModelPerms
    modelRegexPermissions := modelRegexPermissions
    groupModelRegexPermissions := groupRegexes .registeredModel false
    promptRegexPermissions := promptRegexPermissions
    groupPromptRegexPermissions := groupRegexes .registeredModel true }

def findRegexPermission (engine : RegexEngine) (name : String) :
    List SqlRegexPermission → Except Failure (Option String)
  | [] => .ok none
  | regex :: rest => do
    if ← reMatch engine regex.regex name then
      return some regex.permission
    else
      findRegexPermission engine name rest

/-- One name of the source order, looked up in the map of pre-fetched permissions. -/
def askContext (sourceMap : Source → Option String) (name : String) :
    Outcome Failure PermissionResult :=
  match Source.ofName? name with
  | none => .absent
  | some source =>
    match sourceMap source with
    | none => .absent
    | some perm =>
      match getPermission perm with
      | .ok permission => .granted ⟨permission,.source source⟩
      | .error failure => .failed failure

def resolvePermissionFromContext (config : AppConfig) (sourceMap : Source → Option String) :
    Except Failure PermissionResult :=
  match firstGrant (askContext sourceMap) config.permissionSourceOrder with
  | .granted (_,result) => .ok result
  | .failed failure => .error failure
  | .absent => defaultResult config

section Resolve
variable (env : Env) (t : Tables) (context : RequestContext)

/-- The workspace `_apply_workspace_fallback` consults for a result, if it does. -/
def batchWorkspace (result : PermissionResult) : Option String :=
  if result.kind = .fallback ∧ env.config.mlflowEnableWorkspaces = true then
    truthy context.mlflowWorkspace
  else none

def applyWorkspaceFallback (result : PermissionResult) (username : String)
    (cache : Cache String Permission) : PermissionResult × Cache String Permission :=
  match batchWorkspace env context result with
  | none => (result,cache)
  | some workspace =>
    let (found,after) := getWorkspacePermissionCached env t username workspace cache
    (workspaceResult found,after)

/-- The permissions fetched for one kind of resource. -/
structure FetchedPermissions where
  userPermissions : List (String × String)
  groupPermissions : List (String × String)
  regexPermissions : List SqlRegexPermission
  groupRegexPermissions : List SqlRegexPermission

/-- Both regex lists are searched whether or not the source order gets to them. -/
def FetchedPermissions.sourceMap (fetched : FetchedPermissions) (resourceId name : String) :
    Except Failure (Source → Option String) := do
  let userRegex ← findRegexPermission env.regex name fetched.regexPermissions
  let groupRegex ← findRegexPermission env.regex name fetched.groupRegexPermissions
  return fun
    | .user => dictGet fetched.userPermissions resourceId
    | .group => dictGet fetched.groupPermissions resourceId
    | .regex => userRegex
    | .groupRegex => groupRegex

def resolveFetched (fetched : FetchedPermissions) (username resourceId name : String)
    (cache : Cache String Permission) :
    Except Failure PermissionResult × Cache String Permission :=
  match (do
    let sourceMap ← fetched.sourceMap env resourceId name
    resolvePermissionFromContext env.config sourceMap) with
  | .error failure => (.error failure,cache)
  | .ok result =>
    let (final,after) := applyWorkspaceFallback env t context result username cache
    (.ok final,after)

namespace UserPermissionContext

def experiments (ctx : UserPermissionContext) : FetchedPermissions :=
  ⟨ctx.userExperimentPermissions,ctx.groupExperimentPermissions,ctx.experimentRegexPermissions,
    ctx.groupExperimentRegexPermissions⟩

def models (ctx : UserPermissionContext) : FetchedPermissions :=
  ⟨ctx.userModelPermissions,ctx.groupModelPermissions,ctx.modelRegexPermissions,
    ctx.groupModelRegexPermissions⟩

/-- Prompts share the direct permissions of models. -/
def prompts (ctx : UserPermissionContext) : FetchedPermissions :=
  ⟨ctx.userModelPermissions,ctx.groupModelPermissions,ctx.promptRegexPermissions,
    ctx.groupPromptRegexPermissions⟩

end UserPermissionContext

def resolveExperimentPermissionFromContext (ctx : UserPermissionContext) (experimentId : String)
    (experimentName : Option String) (cache : Cache String Permission) :
    Except Failure PermissionResult × Cache String Permission :=
  match experimentName with
  | some name => resolveFetched env t context ctx.experiments ctx.username experimentId name cache
  | none =>
    match env.experimentName experimentId with
    | .error failure => (.error failure,cache)
    | .ok name => resolveFetched env t context ctx.experiments ctx.username experimentId name cache

def resolveModelPermissionFromContext (ctx : UserPermissionContext) (modelName : String)
    (cache : Cache String Permission) :
    Except Failure PermissionResult × Cache String Permission :=
  resolveFetched env t context ctx.models ctx.username modelName modelName cache

def resolvePromptPermissionFromContext (ctx : UserPermissionContext) (promptName : String)
    (cache : Cache String Permission) :
    Except Failure PermissionResult × Cache String Permission :=
  resolveFetched env t context ctx.prompts ctx.username promptName promptName cache

end Resolve

/-- The comprehension of a batch: items in order, the workspace cache threaded through. -/
def batchResolve {Item : Type*} (key : Item → String)
    (resolveItem : Item → Cache String Permission →
      Except Failure PermissionResult × Cache String Permission) :
    List Item → Cache String Permission →
      Except Failure (List (String × PermissionResult)) × Cache String Permission
  | [],cache => (.ok [],cache)
  | item :: rest,cache =>
    match resolveItem item cache with
    | (.error failure,after) => (.error failure,after)
    | (.ok result,after) =>
      match batchResolve key resolveItem rest after with
      | (.error failure,last) => (.error failure,last)
      | (.ok entries,last) => (.ok ((key item,result) :: entries),last)

/-- An experiment of the listing, or a registered model or prompt, which its name
identifies. -/
structure BatchItem where
  resourceId : String
  name : String
deriving DecidableEq, Repr

section Batch
variable (env : Env) (t : Tables) (context : RequestContext) (username : String)

def withContext {Result : Type*}
    (run : UserPermissionContext → Cache String Permission →
      Except Failure Result × Cache String Permission) (cache : Cache String Permission) :
    Except Failure Result × Cache String Permission :=
  match buildUserPermissionContext t username with
  | .error failure => (.error failure,cache)
  | .ok ctx => run ctx cache

def batchResolveExperimentPermissions (experiments : List BatchItem) :
    Cache String Permission →
      Except Failure (List (String × PermissionResult)) × Cache String Permission :=
  withContext t username (fun ctx => batchResolve BatchItem.resourceId (fun item =>
    resolveExperimentPermissionFromContext env t context ctx item.resourceId (some item.name))
    experiments)

def batchResolveModelPermissions (models : List BatchItem) :
    Cache String Permission →
      Except Failure (List (String × PermissionResult)) × Cache String Permission :=
  withContext t username (fun ctx => batchResolve BatchItem.name (fun item =>
    resolveModelPermissionFromContext env t context ctx item.name) models)

def batchResolvePromptPermissions (prompts : List BatchItem) :
    Cache String Permission →
      Except Failure (List (String × PermissionResult)) × Cache String Permission :=
  withContext t username (fun ctx => batchResolve BatchItem.name (fun item =>
    resolvePromptPermissionFromContext env t context ctx item.name) prompts)

end Batch
end MlflowOidcAuth
