import MlflowOidcAuth.Resolution.Cached
import MlflowOidcAuth.Store.Grants

/-! What a resolution reads of the database: the rows of its user, the tables of the
groups and, by key, the rows of its resource. Where these agree, so do the answers. -/
namespace MlflowOidcAuth
open OrderedSources

/-- A builder of the registry, up to the user it is applied to. -/
structure SourceShape where
  family : Family
  prompt : Bool
  key : ResourceKey
  label : String
  byGroupName : Bool
  subject : Except Failure String

def ResourceRequest.shape (env : Env) (request : ResourceRequest) : Except Failure SourceShape :=
  let plain := ResourceKey.mk request.resourceId none
  let gateway := fun family =>
    SourceShape.mk family false plain "gateway name" true (.ok request.resourceId)
  match request.resourceType with
  | .experiment =>
    .ok ⟨.experiment,false,plain,"experiment",false,env.experimentName request.resourceId⟩
  | .registeredModel =>
    .ok ⟨.registeredModel,false,plain,"model name",false,.ok request.resourceId⟩
  | .prompt => .ok ⟨.registeredModel,true,plain,"model name",false,.ok request.resourceId⟩
  | .scorer =>
    match request.scorerName with
    | some scorerName => .ok ⟨.scorer,false,⟨request.resourceId,some scorerName⟩,"scorer name",
        false,.ok scorerName⟩
    | none => .error (.keyError "scorer_name")
  | .gatewayEndpoint => .ok (gateway .gatewayEndpoint)
  | .gatewaySecret => .ok (gateway .gatewaySecret)
  | .gatewayModelDefinition => .ok (gateway .gatewayModelDefinition)

/-- The types whose group source reads the group of the user's name. -/
def ResourceType.byGroupName : ResourceType → Bool
  | .gatewayEndpoint | .gatewaySecret | .gatewayModelDefinition => true
  | _ => false

namespace SourceShape

def groupRow (shape : SourceShape) (t : Tables) (username : String) : Except Failure SqlPermission :=
  if shape.byGroupName then t.getGroupPermission shape.family shape.key username
  else t.getUserGroupsPermission shape.family shape.key username

def sources (shape : SourceShape) (env : Env) (t : Tables) (username : String) : SourcesConfig :=
  buildSources env t shape.family shape.prompt shape.key username shape.label
    (shape.groupRow t username) shape.subject

end SourceShape

theorem permissionRegistry_eq (env : Env) (t : Tables) (request : ResourceRequest) :
    permissionRegistry env t request =
      (request.shape env).map (fun shape => shape.sources env t request.username) := by
  obtain ⟨resourceType,resourceId,username,scorerName⟩ := request
  cases resourceType
  case scorer => cases scorerName <;> rfl
  all_goals rfl

section Locality
variable {env : Env} {t t' : Tables} {username : String}

section Shape
variable {request : ResourceRequest} {shape : SourceShape}
  (shaped : request.shape env = .ok shape)
include shaped

theorem shape_of_request : shape.byGroupName = request.resourceType.byGroupName ∧
    shape.family = request.resourceType.family ∧ shape.key.resourceId = request.resourceId ∧
    (shape.subject = env.experimentName request.resourceId ∧
      request.resourceType = .experiment ∨ ∃ name, shape.subject = .ok name) := by
  obtain ⟨resourceType,resourceId,username,scorerName⟩ := request
  cases resourceType
  case experiment =>
    cases shaped
    exact ⟨rfl,rfl,rfl,.inl ⟨rfl,rfl⟩⟩
  case scorer =>
    cases scorerName <;> cases shaped
    exact ⟨rfl,rfl,rfl,.inr ⟨_,rfl⟩⟩
  all_goals
    cases shaped
    exact ⟨rfl,rfl,rfl,.inr ⟨_,rfl⟩⟩

theorem shape_byGroupName : shape.byGroupName = request.resourceType.byGroupName :=
  (shape_of_request shaped).1

theorem shape_family : shape.family = request.resourceType.family := (shape_of_request shaped).2.1

theorem shape_resourceId : shape.key.resourceId = request.resourceId :=
  (shape_of_request shaped).2.2.1

end Shape

theorem fresh_congr {resolution : Resolution}
    (sources : ∀ shape, resolution.request.shape env = .ok shape → ∀ name,
      askSource (shape.sources env t' resolution.request.username) name =
        askSource (shape.sources env t resolution.request.username) name)
    (workspaces : ∀ workspace,
      lookupWorkspacePermission env t' resolution.request.username workspace =
        lookupWorkspacePermission env t resolution.request.username workspace) :
    resolution.fresh env t' = resolution.fresh env t := by
  have resource : resourcePermission env t' resolution.request =
      resourcePermission env t resolution.request := by
    simp only [resourcePermission,permissionRegistry_eq]
    cases shaped : resolution.request.shape env with
    | error failure => rfl
    | ok shape =>
      have walked : firstGrant (askSource (shape.sources env t' resolution.request.username))
          env.config.permissionSourceOrder =
            firstGrant (askSource (shape.sources env t resolution.request.username))
              env.config.permissionSourceOrder :=
        firstGrant_congr (fun name _ => sources shape shaped name)
      simp only [Except.map,bind,Except.bind,getPermissionFromStoreOrDefault,walked]
  simp only [Resolution.fresh,freshPermission,resource,workspaces]

/-- Both tables hold the same rows of one user. -/
structure SameRows (t t' : Tables) (id : Nat) : Prop where
  memberships : t'.userGroups.filter (fun row => decide (row.userId = id)) =
    t.userGroups.filter (fun row => decide (row.userId = id))
  direct : ∀ family, (t'.userPermissions family).filter (fun row => decide (row.ownerId = id)) =
    (t.userPermissions family).filter (fun row => decide (row.ownerId = id))
  regex : ∀ family,
    (t'.userRegexPermissions family).filter (fun row => decide (row.ownerId = id)) =
      (t.userRegexPermissions family).filter (fun row => decide (row.ownerId = id))
  workspace : t'.workspacePermissions.filter (fun row => decide (row.ownerId = id)) =
    t.workspacePermissions.filter (fun row => decide (row.ownerId = id))
  workspaceRegex : t'.workspaceRegexPermissions.filter (fun row => decide (row.ownerId = id)) =
    t.workspaceRegexPermissions.filter (fun row => decide (row.ownerId = id))

structure SameGroupTables (t t' : Tables) : Prop where
  groups : t'.groups = t.groups
  direct : t'.groupPermissions = t.groupPermissions
  regex : t'.groupRegexPermissions = t.groupRegexPermissions
  workspace : t'.workspaceGroupPermissions = t.workspaceGroupPermissions
  workspaceRegex : t'.workspaceGroupRegexPermissions = t.workspaceGroupRegexPermissions

/-- A name is unknown to both tables, or belongs to the same user with the same rows. -/
inductive SameAccount (t t' : Tables) (username : String) : Prop
  | absent (before : t.usersNamed username = []) (after : t'.usersNamed username = [])
  | known (user user' : SqlUser) (before : t.usersNamed username = [user])
      (after : t'.usersNamed username = [user']) (sameId : user'.id = user.id)
      (rows : SameRows t t' user.id)

section Unknown
variable (unknown : t.usersNamed username = [])
include unknown

theorem getUser_unknown : t.getUser username =
    .error (.mlflow .resourceDoesNotExist ("User with username=" ++ username ++ " not found")) := by
  simp only [Tables.getUser,unknown,one]

theorem getUserPermission_unknown (family : Family) (key : ResourceKey) :
    t.getUserPermission family key username =
      .error (.mlflow .resourceDoesNotExist (family.missingPermission key username)) := by
  have unjoined : ∀ rows : List SqlPermission, ∀ on : SqlPermission → SqlUser → Bool,
      joined rows [] on = [] := by
    intro rows on
    simp [joined]
  simp only [Tables.getUserPermission,unknown,unjoined,one]

end Unknown

section Queries
variable {user user' : SqlUser} (sameId : user'.id = user.id) (rows : SameRows t t' user.id)
include sameId rows

theorem groupIdsOf_same : t'.groupIdsOf user' = t.groupIdsOf user := by
  simp only [Tables.groupIdsOf,Tables.listUserGroups,sameId,rows.memberships]

theorem userRows_same (family : Family) (key : ResourceKey) :
    t'.userRows family key user' = t.userRows family key user := by
  have split : ∀ direct : List SqlPermission,
      direct.filter (fun row => decide (row.key = key ∧ row.ownerId = user.id)) =
        (direct.filter (fun row => decide (row.ownerId = user.id))).filter
          (fun row => decide (row.key = key)) := by
    intro direct
    simp only [List.filter_filter,Bool.decide_and]
  simp only [Tables.userRows,sameId,split,rows.direct]

theorem userRegexes_same (family : Family) (prompt : Bool) :
    (t'.userRegexPermissions family).filter (fun row =>
        decide (row.ownerId = user'.id) && Tables.promptMatches family prompt row) =
      (t.userRegexPermissions family).filter (fun row =>
        decide (row.ownerId = user.id) && Tables.promptMatches family prompt row) := by
  have split : ∀ regexes : List SqlRegexPermission,
      regexes.filter (fun row =>
          decide (row.ownerId = user.id) && Tables.promptMatches family prompt row) =
        (regexes.filter (fun row => decide (row.ownerId = user.id))).filter
          (fun row => Tables.promptMatches family prompt row) := by
    intro regexes
    simp only [List.filter_filter,Bool.and_comm]
  simp only [sameId,split,rows.regex]

omit sameId in
theorem workspaceRows_same (workspace : String) :
    t'.workspacePermissions.filter (fun row =>
        decide (row.workspace = workspace ∧ row.ownerId = user.id)) =
      t.workspacePermissions.filter (fun row =>
        decide (row.workspace = workspace ∧ row.ownerId = user.id)) := by
  have split : ∀ grants : List SqlWorkspacePermission,
      grants.filter (fun row => decide (row.workspace = workspace ∧ row.ownerId = user.id)) =
        (grants.filter (fun row => decide (row.ownerId = user.id))).filter
          (fun row => decide (row.workspace = workspace)) := by
    intro grants
    simp only [List.filter_filter,Bool.decide_and]
  simp only [split,rows.workspace]

end Queries

section Account
variable (groups : SameGroupTables t t') (account : SameAccount t t' username)
include groups account

theorem lookupWorkspacePermission_same (workspace : String) :
    lookupWorkspacePermission env t' username workspace =
      lookupWorkspacePermission env t username workspace := by
  have same : workspaceSource env t' username workspace =
      workspaceSource env t username workspace := by
    funext source
    cases account with
    | absent before after =>
      cases source <;> simp only [workspaceSource,resolveUserDirect,resolveGroupDirect,
        resolveUserRegex,resolveGroupRegex,Tables.getWorkspacePermission,
        Tables.getUserGroupsWorkspacePermission,Tables.listWorkspaceRegexPermissions,
        Tables.getGroupsIdsForUser,getUser_unknown before,getUser_unknown after,bind,Except.bind]
    | known user user' before after sameId rows =>
      have known : t.getUser username = .ok user := Tables.getUser_eq_ok.mpr before
      have known' : t'.getUser username = .ok user' := Tables.getUser_eq_ok.mpr after
      cases source with
      | user =>
        simp only [workspaceSource,resolveUserDirect,Tables.getWorkspacePermission,known,known',
          bind,Except.bind,workspaceRows_same rows,sameId]
      | group =>
        simp only [workspaceSource,resolveGroupDirect,Tables.getUserGroupsWorkspacePermission,known,
          known',bind,Except.bind,Tables.listUserGroups,sameId,rows.memberships,groups.workspace]
      | regex =>
        simp only [workspaceSource,resolveUserRegex,Tables.listWorkspaceRegexPermissions,known,
          known',bind,Except.bind,sameId,rows.workspaceRegex]
      | groupRegex =>
        simp only [workspaceSource,resolveGroupRegex,Tables.getGroupsIdsForUser,known,known',bind,
          Except.bind,pure,Except.pure,groupIdsOf_same sameId rows,
          Tables.listWorkspaceGroupRegexPermissionsForGroupsIds,groups.workspaceRegex]
  simp only [lookupWorkspacePermission,same]

omit groups in
theorem getUserPermission_same (family : Family) (key : ResourceKey) :
    t'.getUserPermission family key username = t.getUserPermission family key username := by
  cases account with
  | absent before after =>
    rw [getUserPermission_unknown before,getUserPermission_unknown after]
  | known user user' before after sameId rows =>
    rw [Tables.getUserPermission_of_user (Tables.getUser_eq_ok.mpr before),
      Tables.getUserPermission_of_user (Tables.getUser_eq_ok.mpr after),
      userRows_same sameId rows]

omit groups in
theorem getGroupsIdsForUser_same :
    t'.getGroupsIdsForUser username = t.getGroupsIdsForUser username := by
  cases account with
  | absent before after =>
    simp only [Tables.getGroupsIdsForUser,getUser_unknown before,getUser_unknown after,bind,
      Except.bind]
  | known user user' before after sameId rows =>
    simp only [Tables.getGroupsIdsForUser,Tables.getUser_eq_ok.mpr before,
      Tables.getUser_eq_ok.mpr after,bind,Except.bind,groupIdsOf_same sameId rows]

theorem getUserGroupsPermission_same (family : Family) (key : ResourceKey) :
    t'.getUserGroupsPermission family key username =
      t.getUserGroupsPermission family key username := by
  have names : t'.getGroupsForUser username = t.getGroupsForUser username := by
    cases account with
    | absent before after =>
      simp only [Tables.getGroupsForUser,getUser_unknown before,getUser_unknown after,bind,
        Except.bind]
    | known user user' before after sameId rows =>
      simp only [Tables.getGroupsForUser,Tables.getUser_eq_ok.mpr before,
        Tables.getUser_eq_ok.mpr after,bind,Except.bind,groupIdsOf_same sameId rows,groups.groups]
  simp only [Tables.getUserGroupsPermission,names,Tables.getGroupPermissionOrNone,
    Tables.groupsNamed,Tables.groupRows,groups.groups,groups.direct]

omit groups in
theorem listRegexPermissions_same (family : Family) (prompt : Bool) :
    t'.listRegexPermissions family prompt username =
      t.listRegexPermissions family prompt username := by
  cases account with
  | absent before after =>
    simp only [Tables.listRegexPermissions,getUser_unknown before,getUser_unknown after,bind,
      Except.bind]
  | known user user' before after sameId rows =>
    simp only [Tables.listRegexPermissions,Tables.getUser_eq_ok.mpr before,
      Tables.getUser_eq_ok.mpr after,bind,Except.bind,userRegexes_same sameId rows]

theorem sources_same (shape : SourceShape) :
    shape.sources env t' username = shape.sources env t username := by
  funext source
  cases source with
  | user => simp only [SourceShape.sources,buildSources,getUserPermission_same account]
  | group =>
    simp only [SourceShape.sources,buildSources,SourceShape.groupRow,
      getUserGroupsPermission_same groups account,Tables.getGroupPermission,Tables.groupsNamed,
      groups.groups,groups.direct]
  | regex => simp only [SourceShape.sources,buildSources,listRegexPermissions_same account]
  | groupRegex =>
    simp only [SourceShape.sources,buildSources,getGroupsIdsForUser_same account,
      Tables.listGroupRegexPermissionsForGroupsIds,groups.regex]

theorem fresh_same {resolution : Resolution} (own : resolution.request.username = username) :
    resolution.fresh env t' = resolution.fresh env t := by
  subst own
  apply fresh_congr
  · intro shape _ name
    rw [sources_same groups account shape]
  · exact lookupWorkspacePermission_same groups account

end Account

/-- The tables that a workspace lookup reads. -/
def Tables.forWorkspaces (t : Tables) : Tables :=
  { Tables.empty with
    users := t.users
    userGroups := t.userGroups
    workspacePermissions := t.workspacePermissions
    workspaceGroupPermissions := t.workspaceGroupPermissions
    workspaceRegexPermissions := t.workspaceRegexPermissions
    workspaceGroupRegexPermissions := t.workspaceGroupRegexPermissions }

theorem lookupWorkspacePermission_congr (same : t'.forWorkspaces = t.forWorkspaces)
    (username workspace : String) : lookupWorkspacePermission env t' username workspace =
      lookupWorkspacePermission env t username workspace := by
  change lookupWorkspacePermission env t'.forWorkspaces username workspace =
    lookupWorkspacePermission env t.forWorkspaces username workspace
  rw [same]

section Silenced
variable {resolution : Resolution} {result : PermissionResult}

theorem resourcePermission_of_silenced {request : ResourceRequest}
    (found : resourcePermission env t request = .ok result)
    (silenced : ∀ shape, request.shape env = .ok shape → ∀ name,
      askSource (shape.sources env t' request.username) name =
          askSource (shape.sources env t request.username) name ∨
        askSource (shape.sources env t' request.username) name = .absent ∧
          ∀ source, Source.ofName? name = some source → result.kind ≠ .source source) :
    resourcePermission env t' request = .ok result := by
  simp only [resourcePermission,permissionRegistry_eq] at found ⊢
  cases shaped : request.shape env with
  | error failure => simp [shaped,Except.map,bind,Except.bind] at found
  | ok shape =>
    have silenced := silenced shape shaped
    simp only [shaped,Except.map,bind,Except.bind,getPermissionFromStoreOrDefault] at found ⊢
    cases walked : firstGrant (askSource (shape.sources env t request.username))
        env.config.permissionSourceOrder with
    | failed failure => simp [walked] at found
    | granted decided =>
      obtain ⟨name,granted⟩ := decided
      simp only [walked,Except.ok.injEq] at found
      subst found
      obtain ⟨source,listed,kind⟩ := kind_of_granted (reaches_of_granted walked).2
      have kept : askSource (shape.sources env t' request.username) name =
          askSource (shape.sources env t request.username) name := by
        rcases silenced name with same | ⟨_,other⟩
        · exact same
        · exact absurd kind (other source listed)
      have same := firstGrant_of_silenced walked
        (fun other _ => (silenced other).imp id And.left) kept
      simp only [same]
    | absent =>
      simp only [walked] at found
      have silent := firstGrant_absent_iff.mp walked
      have same : firstGrant (askSource (shape.sources env t' request.username))
          env.config.permissionSourceOrder = .absent := by
        rw [firstGrant_absent_iff]
        intro name listed
        rcases silenced name with same | ⟨absent,_⟩
        · exact same.trans (silent name listed)
        · exact absent
      simp only [same,found]

theorem fresh_of_silenced (found : resolution.fresh env t = .ok result)
    (silenced : ∀ shape, resolution.request.shape env = .ok shape → ∀ name,
      askSource (shape.sources env t' resolution.request.username) name =
          askSource (shape.sources env t resolution.request.username) name ∨
        askSource (shape.sources env t' resolution.request.username) name = .absent ∧
          ∀ source, Source.ofName? name = some source → result.kind ≠ .source source)
    (workspaces : ∀ workspace,
      workspaceResult (lookupWorkspacePermission env t resolution.request.username workspace) =
        result →
      lookupWorkspacePermission env t' resolution.request.username workspace =
        lookupWorkspacePermission env t resolution.request.username workspace) :
    resolution.fresh env t' = .ok result := by
  simp only [Resolution.fresh,freshPermission] at found ⊢
  cases resource : resourcePermission env t resolution.request with
  | error failure => simp [resource,bind,Except.bind] at found
  | ok answer =>
    simp only [resource,bind,Except.bind] at found
    cases falls : fallbackWorkspace env resolution.context answer with
    | none =>
      simp only [falls,pure,Except.pure,Except.ok.injEq] at found
      subst found
      rw [resourcePermission_of_silenced resource silenced]
      simp only [bind,Except.bind,falls,pure,Except.pure]
    | some workspace =>
      simp only [falls,pure,Except.pure,Except.ok.injEq] at found
      have isFallback : answer.kind = .fallback := by
        unfold fallbackWorkspace at falls
        split at falls
        · next applies => exact applies.1
        · cases falls
      have same : resourcePermission env t' resolution.request = .ok answer := by
        apply resourcePermission_of_silenced resource
        intro shape shaped name
        rcases silenced shape shaped name with same | ⟨absent,_⟩
        · exact .inl same
        · refine .inr ⟨absent,fun source _ => ?_⟩
          rw [isFallback]
          simp
      simp only [same,bind,Except.bind,falls,pure,Except.pure,workspaces workspace found,found]

end Silenced

section Unknown
variable (unknown : t.usersNamed username = [])
include unknown

theorem sources_unknown (shape : SourceShape) (source : Source)
    (owned : source = .group → shape.byGroupName = false) :
    ∃ failure, shape.sources env t username source = .error failure ∧
      failure.isMissing = true := by
  cases source with
  | user =>
    simp only [SourceShape.sources,buildSources,getUserPermission_unknown unknown,bind,Except.bind]
    exact ⟨_,rfl,rfl⟩
  | group =>
    simp only [SourceShape.sources,buildSources,SourceShape.groupRow,owned rfl,
      Tables.getUserGroupsPermission,Tables.getGroupsForUser,getUser_unknown unknown,bind,Except.bind]
    exact ⟨_,rfl,rfl⟩
  | regex =>
    simp only [SourceShape.sources,buildSources,Tables.listRegexPermissions,
      getUser_unknown unknown,bind,Except.bind]
    exact ⟨_,rfl,rfl⟩
  | groupRegex =>
    simp only [SourceShape.sources,buildSources,Tables.getGroupsIdsForUser,
      getUser_unknown unknown,bind,Except.bind]
    exact ⟨_,rfl,rfl⟩

theorem lookupWorkspacePermission_unknown (workspace : String) :
    lookupWorkspacePermission env t username workspace = none := by
  have silent : ∀ source, workspaceSource env t username workspace source = none := by
    intro source
    cases source <;> simp only [workspaceSource,resolveUserDirect,resolveGroupDirect,
      resolveUserRegex,resolveGroupRegex,Tables.getWorkspacePermission,
      Tables.getUserGroupsWorkspacePermission,Tables.listWorkspaceRegexPermissions,
      Tables.getGroupsIdsForUser,getUser_unknown unknown,bind,Except.bind,swallow]
  simp [lookupWorkspacePermission,List.findSome?_eq_none_iff,silent]

end Unknown

/-- No table holds a row of the user. -/
structure NoRows (t : Tables) (id : Nat) : Prop where
  memberships : t.userGroups.filter (fun row => decide (row.userId = id)) = []
  direct : ∀ family, (t.userPermissions family).filter (fun row => decide (row.ownerId = id)) = []
  regex : ∀ family,
    (t.userRegexPermissions family).filter (fun row => decide (row.ownerId = id)) = []
  workspace : t.workspacePermissions.filter (fun row => decide (row.ownerId = id)) = []
  workspaceRegex : t.workspaceRegexPermissions.filter (fun row => decide (row.ownerId = id)) = []

theorem sources_noRows {user : SqlUser} (known : t.usersNamed username = [user])
    (rows : NoRows t user.id) (shape : SourceShape) (source : Source)
    (owned : source = .group → shape.byGroupName = false)
    (subject : ∀ failure, shape.subject = .error failure → failure.isMissing = true) :
    ∃ failure, shape.sources env t username source = .error failure ∧
      failure.isMissing = true := by
  have found := Tables.getUser_eq_ok.mpr known
  have ids : t.groupIdsOf user = [] := by
    simp only [Tables.groupIdsOf,Tables.listUserGroups,rows.memberships,List.map_nil]
  have unmatched : ∃ failure, (do
      let name ← shape.subject
      matchRegexPermission env.regex name shape.label []) = Except.error failure ∧
        failure.isMissing = true := by
    cases named : shape.subject with
    | error failure => exact ⟨failure,rfl,subject failure named⟩
    | ok name => exact ⟨_,rfl,rfl⟩
  cases source with
  | user =>
    have none_own : t.userRows shape.family shape.key user = [] := by
      simp only [Tables.userRows,Bool.decide_and,← List.filter_filter,rows.direct,List.filter_nil]
    simp only [SourceShape.sources,buildSources,Tables.getUserPermission_of_user found,none_own,one,
      bind,Except.bind]
    exact ⟨_,rfl,rfl⟩
  | group =>
    have none_joined : t.getGroupsForUser username = .ok [] := by
      simp [Tables.getGroupsForUser,found,ids,bind,Except.bind,pure,Except.pure]
    simp only [SourceShape.sources,buildSources,SourceShape.groupRow,owned rfl,
      Tables.getUserGroupsPermission,none_joined,List.foldlM_nil,bind,Except.bind,pure,Except.pure]
    exact ⟨_,rfl,rfl⟩
  | regex =>
    have none_own : t.listRegexPermissions shape.family shape.prompt username = .ok [] := by
      have filtered : (t.userRegexPermissions shape.family).filter (fun row =>
          decide (row.ownerId = user.id) && Tables.promptMatches shape.family shape.prompt row) =
          [] := by
        simp only [← List.filter_filter]
        rw [List.filter_comm,rows.regex,List.filter_nil]
      simp only [Tables.listRegexPermissions,found,filtered,bind,Except.bind,pure,Except.pure]
      rfl
    simp only [SourceShape.sources,buildSources,none_own]
    exact unmatched
  | groupRegex =>
    have none_held : t.listGroupRegexPermissionsForGroupsIds shape.family shape.prompt [] = [] := by
      simp [Tables.listGroupRegexPermissionsForGroupsIds,Tables.orderByPriority]
    simp only [SourceShape.sources,buildSources,Tables.getGroupsIdsForUser,found,ids,bind,
      Except.bind,pure,Except.pure,none_held]
    exact unmatched

theorem lookupWorkspacePermission_noRows {user : SqlUser} (known : t.usersNamed username = [user])
    (rows : NoRows t user.id) (workspace : String) :
    lookupWorkspacePermission env t username workspace = none := by
  have found := Tables.getUser_eq_ok.mpr known
  have ids : t.groupIdsOf user = [] := by
    simp only [Tables.groupIdsOf,Tables.listUserGroups,rows.memberships,List.map_nil]
  have silent : ∀ source, workspaceSource env t username workspace source = none := by
    intro source
    cases source with
    | user =>
      have none_own : t.workspacePermissions.filter (fun row =>
          decide (row.workspace = workspace ∧ row.ownerId = user.id)) = [] := by
        simp only [Bool.decide_and,← List.filter_filter,rows.workspace,List.filter_nil]
      simp only [workspaceSource,resolveUserDirect,Tables.getWorkspacePermission,found,none_own,one,
        bind,Except.bind,swallow]
    | group =>
      have none_joined : joined (t.workspaceGroupPermissions.filter (fun row =>
          decide (row.workspace = workspace))) ([] : List SqlUserGroup)
            (fun row member => decide (row.ownerId = member.groupId)) = [] := by
        simp [joined]
      simp only [workspaceSource,resolveGroupDirect,Tables.getUserGroupsWorkspacePermission,found,
        Tables.listUserGroups,rows.memberships,none_joined,bind,Except.bind,swallow]
    | regex =>
      simp only [workspaceSource,resolveUserRegex,Tables.listWorkspaceRegexPermissions,found,
        rows.workspaceRegex,bind,Except.bind,pure,Except.pure]
      rfl
    | groupRegex =>
      have none_held : t.listWorkspaceGroupRegexPermissionsForGroupsIds [] = [] := by
        simp [Tables.listWorkspaceGroupRegexPermissionsForGroupsIds,Tables.orderByPriority]
      simp only [workspaceSource,resolveGroupRegex,Tables.getGroupsIdsForUser,found,ids,bind,
        Except.bind,pure,Except.pure,none_held]
      rfl
  simp [lookupWorkspacePermission,List.findSome?_eq_none_iff,silent]

/-- An answer that was read from rows of the user or of the user's groups; the gateway types
take the group of the user's name for one of these. -/
def ResultKind.restsOnUser (resourceType : ResourceType) : ResultKind → Bool
  | .source .group => !resourceType.byGroupName
  | .source _ => true
  | .workspace => true
  | .fallback | .workspaceDeny => false

theorem groupSource_same (groups : t'.groups = t.groups)
    (direct : t'.groupPermissions = t.groupPermissions) {shape : SourceShape}
    (named : shape.byGroupName = true) :
    shape.sources env t' username .group = shape.sources env t username .group := by
  simp only [SourceShape.sources,buildSources,SourceShape.groupRow,named,if_true,
    Tables.getGroupPermission,Tables.groupsNamed,groups,direct]

/-- When a name loses its user, the answers that rest on no row of the user stay. -/
theorem fresh_of_unknown {resolution : Resolution} {result : PermissionResult}
    (groups : t'.groups = t.groups) (direct : t'.groupPermissions = t.groupPermissions)
    (unknown : t'.usersNamed resolution.request.username = [])
    (found : resolution.fresh env t = .ok result)
    (free : result.kind.restsOnUser resolution.request.resourceType = false) :
    resolution.fresh env t' = .ok result := by
  apply fresh_of_silenced found
  · intro shape shaped name
    cases listed : Source.ofName? name with
    | none => exact .inl (by rw [askSource_unlisted listed,askSource_unlisted listed])
    | some source =>
      by_cases byName : source = .group ∧ shape.byGroupName = true
      · obtain ⟨rfl,named⟩ := byName
        exact .inl (askSource_congr listed (groupSource_same groups direct named))
      · have owned : source = .group → shape.byGroupName = false := by
          intro isGroup
          simpa [isGroup] using byName
        obtain ⟨failure,raised,missing⟩ : ∃ failure, shape.sources env t'
            resolution.request.username source = .error failure ∧ failure.isMissing = true :=
          sources_unknown unknown shape source owned
        refine .inr ⟨askSource_of_missing listed raised missing,?_⟩
        rintro _ ⟨⟩ kind
        rw [kind] at free
        have named := shape_byGroupName shaped
        cases source <;> simp_all [ResultKind.restsOnUser]
  · intro workspace answered
    rw [lookupWorkspacePermission_unknown unknown]
    cases looked : lookupWorkspacePermission env t resolution.request.username workspace with
    | none => rfl
    | some permission =>
      rw [looked] at answered
      subst answered
      simp [workspaceResult,ResultKind.restsOnUser] at free

end Locality
end MlflowOidcAuth
