import MlflowOidcAuth.Batch.Context
import MlflowOidcAuth.Store.Grants

/-! The bulk resolver against the single one. They walk the same sources over the
same rows and differ in one: where a user has several groups, the single resolver
takes the highest row and the bulk one the last. -/
namespace MlflowOidcAuth
open OrderedSources KeyedCache

/-- The three bulk resolvers. -/
inductive BatchKind
  | experiment
  | model
  | prompt
deriving DecidableEq, Repr

namespace BatchKind

def resourceType : BatchKind → ResourceType
  | .experiment => .experiment
  | .model => .registeredModel
  | .prompt => .prompt

def batchResolvePermissions (kind : BatchKind) (env : Env) (t : Tables) (context : RequestContext)
    (username : String) (items : List BatchItem) :
    Cache String Permission →
      Except Failure (List (String × PermissionResult)) × Cache String Permission :=
  match kind with
  | .experiment => batchResolveExperimentPermissions env t context username items
  | .model => batchResolveModelPermissions env t context username items
  | .prompt => batchResolvePromptPermissions env t context username items

/-- The name of a listed item is the stored one; a model or prompt is its name. -/
def StoredName (kind : BatchKind) (env : Env) (item : BatchItem) : Prop :=
  match kind with
  | .experiment => env.experimentName item.resourceId = .ok item.name
  | _ => item.resourceId = item.name

def fetched (kind : BatchKind) (ctx : UserPermissionContext) : FetchedPermissions :=
  match kind with
  | .experiment => ctx.experiments
  | .model => ctx.models
  | .prompt => ctx.prompts

def request (kind : BatchKind) (username : String) (item : BatchItem) : ResourceRequest :=
  ⟨kind.resourceType,item.resourceId,username,none⟩

def family (kind : BatchKind) : Family := kind.resourceType.family

def resourceKey (item : BatchItem) : ResourceKey := ⟨item.resourceId,none⟩

end BatchKind

section Fetched
variable {t : Tables} {username : String} {user : SqlUser}

theorem dictGet_permissionDict (rows : List SqlPermission) (resourceId : String) :
    dictGet (permissionDict rows) resourceId =
      (rows.filter (fun row => decide (row.key.resourceId = resourceId))).getLast?.map
        SqlPermission.permission := by
  simp only [dictGet,permissionDict,List.filter_map,List.getLast?_map,Option.map_map]
  rfl

theorem resourceId_iff_key {family : Family} {owners : List Nat} {rows : List SqlPermission}
    (integrity : DirectIntegrity family owners rows) (plain : family ≠ .scorer)
    (resourceId : String) {row : SqlPermission} (member : row ∈ rows) :
    row.key.resourceId = resourceId ↔ row.key = ⟨resourceId,none⟩ := by
  have nameless : row.key.scorerName = none := by
    have := integrity.2 row member
    simpa [plain] using this
  obtain ⟨id,⟨stored,scorer⟩,owner,permission,prompt⟩ := row
  simp only at nameless
  simp [nameless]

theorem buildUserPermissionContext_user {ctx : UserPermissionContext}
    (built : buildUserPermissionContext t username = .ok ctx) :
    ∃ user, t.getUser username = .ok user := by
  cases known : t.getUser username with
  | ok user => exact ⟨user,rfl⟩
  | error failure =>
    simp [buildUserPermissionContext,Tables.getGroupsIdsForUser,known,bind,Except.bind] at built

private theorem groupRegexes_of_empty (family : Family) (prompt : Bool) (ids : List Nat) :
    (if ids.isEmpty then [] else t.listGroupRegexPermissionsForGroupsIds family prompt ids) =
      t.listGroupRegexPermissionsForGroupsIds family prompt ids := by
  cases ids with
  | nil => simp [Tables.listGroupRegexPermissionsForGroupsIds,Tables.orderByPriority]
  | cons id rest => rfl

theorem fetched_of_built (known : t.getUser username = .ok user) {ctx : UserPermissionContext}
    (built : buildUserPermissionContext t username = .ok ctx) (kind : BatchKind) :
    ctx.username = username ∧
      (kind.fetched ctx).userPermissions = permissionDict ((t.userPermissions kind.family).filter
        (fun row => decide (row.ownerId = user.id))) ∧
      (kind.fetched ctx).groupPermissions = permissionDict ((t.groupPermissions kind.family).filter
        (fun row => decide (row.ownerId ∈ t.groupIdsOf user))) ∧
      t.listRegexPermissions kind.family kind.resourceType.isPrompt username =
        .ok (kind.fetched ctx).regexPermissions ∧
      t.listGroupRegexPermissionsForGroupsIds kind.family kind.resourceType.isPrompt
        (t.groupIdsOf user) = (kind.fetched ctx).groupRegexPermissions := by
  simp only [buildUserPermissionContext,Tables.getGroupsIdsForUser,Tables.listPermissionsForUser,
    Tables.listUserGroupsPermissions,Tables.listRegexPermissions,known,bind,Except.bind,pure,
    Except.pure,Except.ok.injEq,groupRegexes_of_empty] at built
  subst built
  cases kind <;>
    simp [BatchKind.fetched,BatchKind.family,BatchKind.resourceType,ResourceType.family,
      ResourceType.isPrompt,UserPermissionContext.experiments,UserPermissionContext.models,
      UserPermissionContext.prompts,Tables.listRegexPermissions,known,bind,Except.bind,pure,
      Except.pure]

end Fetched

section Sources
variable {env : Env}

/-- The two regex searches walk the same list; one reports absence as an exception. -/
theorem matchRegexPermission_of_find {engine : RegexEngine} {name : String} (label : String)
    {regexes : List SqlRegexPermission} {found : Option String}
    (searched : findRegexPermission engine name regexes = .ok found) :
    matchRegexPermission engine name label regexes =
      found.elim (.error (.mlflow .resourceDoesNotExist (label ++ " " ++ name))) .ok := by
  induction regexes with
  | nil => cases searched; rfl
  | cons regex rest ih =>
    simp only [findRegexPermission,matchRegexPermission] at searched ⊢
    cases matched : reMatch engine regex.regex name with
    | error failure => simp [matched,bind,Except.bind] at searched
    | ok hit =>
      cases hit with
      | true =>
        simp only [matched,bind,Except.bind,if_true] at searched ⊢
        cases searched
        rfl
      | false =>
        simp only [matched,bind,Except.bind] at searched ⊢
        exact ih searched

/-- A source of the single walk says what the map of the bulk walk holds. -/
def Mirrors (sources : SourcesConfig) (sourceMap : Source → Option String) (source : Source) : Prop :=
  (∃ permission, sources source = .ok permission ∧ sourceMap source = some permission) ∨
    ∃ failure, sources source = .error failure ∧ failure.isMissing = true ∧ sourceMap source = none

theorem askSource_of_mirrors {sources : SourcesConfig} {sourceMap : Source → Option String}
    {name : String} (mirrors : ∀ source, Source.ofName? name = some source →
      Mirrors sources sourceMap source) :
    askSource sources name = askContext sourceMap name := by
  cases named : Source.ofName? name with
  | none => simp only [askSource,askContext,named]
  | some source =>
    simp only [askSource,askContext,named]
    rcases mirrors source named with ⟨permission,single,bulk⟩ | ⟨failure,single,missing,bulk⟩
    · cases got : getPermission permission <;> simp only [single,bulk,got]
    · simp only [single,bulk,missing,if_true]

theorem mirrors_of_find {sources : SourcesConfig} {sourceMap : Source → Option String}
    {source : Source} (name label : String) {regexes : List SqlRegexPermission}
    (single : sources source = matchRegexPermission env.regex name label regexes)
    (bulk : findRegexPermission env.regex name regexes = .ok (sourceMap source)) :
    Mirrors sources sourceMap source := by
  rw [matchRegexPermission_of_find label bulk] at single
  cases found : sourceMap source with
  | some permission =>
    rw [found] at single
    exact .inl ⟨permission,single,found⟩
  | none =>
    rw [found] at single
    exact .inr ⟨_,single,rfl,found⟩

end Sources

section Item
variable {env : Env} {db : Database} {username : String} {user : SqlUser} {kind : BatchKind}
  {item : BatchItem} {ctx : UserPermissionContext}

theorem BatchKind.plain (kind : BatchKind) : kind.family ≠ .scorer := by cases kind <;> decide

/-- The sources of the single resolver for an item under its stored name. -/
theorem BatchKind.registry (kind : BatchKind) (username : String)
    (stored : kind.StoredName env item) (t : Tables) :
    ∃ label, permissionRegistry env t (kind.request username item) =
      .ok (buildSources env t kind.family kind.resourceType.isPrompt (BatchKind.resourceKey item)
        username label
        (t.getUserGroupsPermission kind.family (BatchKind.resourceKey item) username)
        (.ok item.name)) := by
  cases kind with
  | experiment =>
    have name : env.experimentName item.resourceId = .ok item.name := stored
    refine ⟨"experiment",?_⟩
    simp only [permissionRegistry,BatchKind.request,BatchKind.resourceType,buildExperimentSources,
      name]
    rfl
  | model =>
    have name : item.resourceId = item.name := stored
    refine ⟨"model name",?_⟩
    simp only [permissionRegistry,BatchKind.request,BatchKind.resourceType,
      buildRegisteredModelSources,← name]
    rfl
  | prompt =>
    have name : item.resourceId = item.name := stored
    refine ⟨"model name",?_⟩
    simp only [permissionRegistry,BatchKind.request,BatchKind.resourceType,buildPromptSources,
      ← name]
    rfl

theorem dictGet_groupRows (db : Database) (kind : BatchKind) (item : BatchItem) (user : SqlUser) :
    dictGet (permissionDict ((db.tables.groupPermissions kind.family).filter
        (fun row => decide (row.ownerId ∈ db.tables.groupIdsOf user)))) item.resourceId =
      (db.tables.userGroupRows kind.family (BatchKind.resourceKey item) user).getLast?.map
        SqlPermission.permission := by
  rw [dictGet_permissionDict,List.filter_filter,Tables.userGroupRows]
  congr 2
  refine List.filter_congr fun row member => ?_
  have sameKey : row.key.resourceId = item.resourceId ↔ row.key = BatchKind.resourceKey item :=
    resourceId_iff_key (db.integrity.groupPermissions kind.family) kind.plain item.resourceId member
  simp only [sameKey,Bool.decide_and]

theorem dictGet_userRows (db : Database) (kind : BatchKind) (item : BatchItem) (user : SqlUser) :
    dictGet (permissionDict ((db.tables.userPermissions kind.family).filter
        (fun row => decide (row.ownerId = user.id)))) item.resourceId =
      (db.tables.userRows kind.family (BatchKind.resourceKey item) user).getLast?.map
        SqlPermission.permission := by
  rw [dictGet_permissionDict,List.filter_filter,Tables.userRows]
  congr 2
  refine List.filter_congr fun row member => ?_
  have sameKey : row.key.resourceId = item.resourceId ↔ row.key = BatchKind.resourceKey item :=
    resourceId_iff_key (db.integrity.userPermissions kind.family) kind.plain item.resourceId member
  simp only [sameKey,Bool.decide_and]

/-- Apart from the groups, each source of the single walk mirrors the bulk map. -/
theorem mirrors_of_built (known : db.tables.getUser username = .ok user)
    (built : buildUserPermissionContext db.tables username = .ok ctx) {sourceMap : Source → Option String}
    (mapped : (kind.fetched ctx).sourceMap env item.resourceId item.name = .ok sourceMap)
    (label : String) (groupRow : Except Failure SqlPermission) {source : Source}
    (notGroup : source ≠ .group) :
    Mirrors (buildSources env db.tables kind.family kind.resourceType.isPrompt
      (BatchKind.resourceKey item) username label groupRow (.ok item.name)) sourceMap source := by
  obtain ⟨_,userDict,_,userRegexes,groupRegexes⟩ := fetched_of_built known built kind
  have ids : db.tables.getGroupsIdsForUser username = .ok (db.tables.groupIdsOf user) := by
    simp only [Tables.getGroupsIdsForUser,known]
    rfl
  cases searchedUser : findRegexPermission env.regex item.name (kind.fetched ctx).regexPermissions with
  | error failure =>
    simp [FetchedPermissions.sourceMap,searchedUser,bind,Except.bind] at mapped
  | ok userRegex =>
    cases searchedGroup : findRegexPermission env.regex item.name
        (kind.fetched ctx).groupRegexPermissions with
    | error failure =>
      simp [FetchedPermissions.sourceMap,searchedUser,searchedGroup,bind,Except.bind] at mapped
    | ok groupRegex =>
      simp only [FetchedPermissions.sourceMap,searchedUser,searchedGroup,bind,Except.bind,pure,
        Except.pure,Except.ok.injEq] at mapped
      subst mapped
      cases source with
      | group => exact absurd rfl notGroup
      | user =>
        have bulk := dictGet_userRows db kind item user
        rw [← userDict] at bulk
        rcases userRows_unique db kind.family (BatchKind.resourceKey item) user with empty | ⟨row,only⟩
        · rw [empty] at bulk
          refine .inr ⟨.mlflow .resourceDoesNotExist
            (kind.family.missingPermission (BatchKind.resourceKey item) username),?_,rfl,bulk⟩
          simp only [buildSources,Tables.getUserPermission_of_user known,empty,one]
          rfl
        · rw [only] at bulk
          refine .inl ⟨row.permission,?_,bulk⟩
          simp only [buildSources,Tables.getUserPermission_of_user known,only,one]
          rfl
      | regex =>
        refine mirrors_of_find item.name label ?_ searchedUser
        simp only [buildSources,userRegexes]
        rfl
      | groupRegex =>
        refine mirrors_of_find item.name label ?_ searchedGroup
        simp only [buildSources,ids]
        rw [← groupRegexes]
        rfl

end Item
end MlflowOidcAuth
