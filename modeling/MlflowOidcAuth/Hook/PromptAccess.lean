import MlflowOidcAuth.Hook.Parameters
import MlflowOidcAuth.Resolution.Fallback
import MlflowOidcAuth.Resolution.GroupSource

/-! Prompts are stored as registered models, with regex rows of their own. What the
pages report for a prompt reads those rows; the validators, the search filters and the
dependency that guards the pages ask for the registered model of the same name. -/
namespace MlflowOidcAuth
open KeyedCache OrderedSources

/-- The request for a prompt as such, or as the registered model that stores it. -/
def promptRequest (asPrompt : Bool) (name username : String) : ResourceRequest :=
  ⟨if asPrompt then .prompt else .registeredModel,name,username,none⟩

/-- Why an endpoint does not answer: an `HTTPException`, or any other. -/
inductive Refusal
  | http (statusCode : Nat) (detail : String)
  | raised (failure : Failure)
deriving DecidableEq, Repr

/-- `flask.g._after_request_perm_cache`, keyed by kind of resource, name and user. -/
abbrev RequestPermissionCache := Cache (String × String × String) Bool

section Accesses
variable (env : Env) (t : Tables) (context : RequestContext)

def effectiveRegisteredModelPermission (modelName user : String) :
    Caches → Except Failure PermissionResult × Caches :=
  resolvePermission env t context (promptRequest false modelName user)

def effectivePromptPermission (promptName user : String) :
    Caches → Except Failure PermissionResult × Caches :=
  resolvePermission env t context (promptRequest true promptName user)

/-- The lookups of the validators, with registered models resolved for the user. -/
def withResolver (username : String) (caches : Caches) (lookups : Lookups) : Lookups :=
  { lookups with effectiveRegisteredModelPermission := fun
      | .string name =>
        (effectiveRegisteredModelPermission env t context name username caches).1.map
          PermissionResult.permission
      | other => lookups.effectiveRegisteredModelPermission other }

def canReadRegisteredModel (modelName user : String) (caches : Caches) :
    Except Failure Bool × Caches :=
  let (result,caches) := effectiveRegisteredModelPermission env t context modelName user caches
  (result.map (fun result => result.permission.canRead),caches)

def canManageRegisteredModel (modelName user : String) (caches : Caches) :
    Except Failure Bool × Caches :=
  let (result,caches) := effectiveRegisteredModelPermission env t context modelName user caches
  (result.map (fun result => result.permission.canManage),caches)

def cachedCanReadRegisteredModel (modelName username : String) (cache : RequestPermissionCache)
    (caches : Caches) : Except Failure Bool × RequestPermissionCache × Caches :=
  match cache.get ("rm",modelName,username) with
  | some readable => (.ok readable,cache,caches)
  | none =>
    match canReadRegisteredModel env t context modelName username caches with
    | (.ok readable,caches) => (.ok readable,cache.set ("rm",modelName,username) readable,caches)
    | (.error failure,caches) => (.error failure,cache,caches)

def checkPromptManagePermission (promptName currentUsername : String) (isAdmin : Bool)
    (caches : Caches) : Except Refusal Unit × Caches :=
  if isAdmin then (.ok (),caches)
  else
    match canManageRegisteredModel env t context promptName currentUsername caches with
    | (.error failure,caches) => (.error (.raised failure),caches)
    | (.ok true,caches) => (.ok (),caches)
    | (.ok false,caches) =>
      (.error (.http 403 ("Insufficient permissions to manage " ++ promptName)),caches)

variable (promptName username : String)

/-- What is cached for the prompt, under either of its types, is what the store gives. -/
def PromptCachesFresh (caches : Caches) : Prop :=
  (∀ asPrompt result,
      caches.permission.get (promptRequest asPrompt promptName username).cacheKey = some result →
      freshPermission env t context (promptRequest asPrompt promptName username) = .ok result) ∧
    WorkspaceCacheFresh env t username caches

def RequestCacheFresh (cache : RequestPermissionCache) : Prop :=
  ∀ readable, cache.get ("rm",promptName,username) = some readable →
    ∃ result, freshPermission env t context (promptRequest false promptName username) = .ok result ∧
      result.permission.canRead = readable

/-- The pages report this permission. -/
def Reported (caches : Caches) (permission : Permission) : Prop :=
  ∃ result, (effectivePromptPermission env t context promptName username caches).1 = .ok result ∧
    result.permission = permission

/-- Every access to the prompt is decided by the permission that the pages report. A validator
may demand anything of it; the filters demand to read, the dependency to manage. -/
structure EnforcesReported : Prop where
  validators : ∀ caches, PromptCachesFresh env t context promptName username caches →
    ∀ lookups request allows answer, getModelName request = .ok (.string promptName) →
      (Guard.registeredModel.validate (withResolver env t context username caches lookups) request
          allows = .ok answer ↔
        ∃ permission, Reported env t context promptName username caches permission ∧
          allows permission = answer)
  filters : ∀ caches, PromptCachesFresh env t context promptName username caches →
    ∀ cache, RequestCacheFresh env t context promptName username cache → ∀ readable,
      ((cachedCanReadRegisteredModel env t context promptName username cache caches).1 =
          .ok readable ↔
        ∃ permission, Reported env t context promptName username caches permission ∧
          permission.canRead = readable)
  dependency : ∀ caches, PromptCachesFresh env t context promptName username caches →
    ∀ isAdmin, ((checkPromptManagePermission env t context promptName username isAdmin caches).1 =
        .ok () ↔
      isAdmin = true ∨ ∃ permission, Reported env t context promptName username caches permission ∧
        permission.canManage = true)

end Accesses

section Rows

/-- The regex rows of a source that concern the user: those of prompts, or those of models. -/
def Tables.patternRows (t : Tables) (ofPrompts : Bool) (username : String) :
    Source → List SqlRegexPermission
  | .regex => orderByPriority ((t.userRegexPermissions .registeredModel).filter (fun row =>
      decide (row.ownerId ∈ (t.usersNamed username).map SqlUser.id) && row.prompt == ofPrompts))
  | .groupRegex => orderByPriority ((t.groupRegexPermissions .registeredModel).filter (fun row =>
      decide (row.ownerId ∈ t.memberGroupIds username) && row.prompt == ofPrompts))
  | _ => []

variable (env : Env) (t : Tables) (context : RequestContext) (ofPrompts : Bool)
  (name username : String)

/-- The direct row of a source, which prompts and models share. -/
def directRow : Source → Except Failure SqlPermission
  | .group => t.getUserGroupsPermission .registeredModel ⟨name,none⟩ username
  | _ => t.getUserPermission .registeredModel ⟨name,none⟩ username

/-- The row that the source has for the user names this permission. -/
def RowNames (source : Source) (permission : Permission) : Prop :=
  match source with
  | .user | .group => ∃ row, directRow t name username source = .ok row ∧
      getPermission row.permission = .ok permission
  | .regex | .groupRegex =>
    ∃ row, FirstMatch env.regex name (t.patternRows ofPrompts username source) row ∧
      getPermission row.permission = .ok permission

def NoRow (source : Source) : Prop :=
  match source with
  | .user | .group => ∃ failure, directRow t name username source = .error failure ∧
      failure.isMissing = true
  | .regex | .groupRegex => ∀ row ∈ t.patternRows ofPrompts username source,
      reMatch env.regex row.regex name = .ok false

/-- What a user gets for whom no source has a row: the permission on the workspace of the
request, where there is one, and the configured default otherwise. -/
def FallbackGives (permission : Permission) : Prop :=
  ∃ configured, getPermission env.config.defaultMlflowPermission = .ok configured ∧
    permission = match fallbackWorkspace env context ⟨configured,.fallback⟩ with
      | none => configured
      | some workspace => (lookupWorkspacePermission env t username workspace).getD .noPermissions

/-- The first row in the configured order names this permission, or there is none and the
fallback gives it. -/
def RowsGive (permission : Permission) : Prop :=
  (∃ before source after, env.config.permissionSourceOrder = before ++ Source.name source :: after ∧
      (∀ earlier, earlier.name ∈ before → NoRow env t ofPrompts name username earlier) ∧
      RowNames env t ofPrompts name username source permission) ∨
    (∀ source, source.name ∈ env.config.permissionSourceOrder →
      NoRow env t ofPrompts name username source) ∧
    FallbackGives env t context username permission

end Rows

section Sources
variable {env : Env} {db : Database} {ofPrompts : Bool} {name username : String}

/-- The sources of a prompt, or of the registered model that stores it. -/
def promptSources (env : Env) (t : Tables) (ofPrompts : Bool) (name username : String) :
    SourcesConfig :=
  buildSources env t .registeredModel ofPrompts ⟨name,none⟩ username "model name"
    (t.getUserGroupsPermission .registeredModel ⟨name,none⟩ username) (.ok name)

theorem promptSources_registered (t : Tables) :
    permissionRegistry env t (promptRequest ofPrompts name username) =
      .ok (promptSources env t ofPrompts name username) := by
  cases ofPrompts <;> rfl

theorem patternRows_unknown (unknown : db.tables.usersNamed username = []) (source : Source) :
    db.tables.patternRows ofPrompts username source = [] := by
  cases source <;>
    simp [Tables.patternRows,Tables.memberGroupIds,unknown,Tables.orderByPriority]

theorem patternSource_unknown (unknown : db.tables.usersNamed username = []) {source : Source}
    (pattern : source = .regex ∨ source = .groupRegex) :
    promptSources env db.tables ofPrompts name username source =
      .error (.mlflow .resourceDoesNotExist ("User with username=" ++ username ++ " not found")) := by
  have missing : db.tables.getUser username =
      .error (.mlflow .resourceDoesNotExist ("User with username=" ++ username ++ " not found")) := by
    simp only [Tables.getUser,unknown,one]
  rcases pattern with rfl | rfl
  · simp only [promptSources,buildSources,Tables.listRegexPermissions,missing]
    rfl
  · simp only [promptSources,buildSources,Tables.getGroupsIdsForUser,missing]
    rfl

theorem patternSource_known {user : SqlUser} (known : db.tables.usersNamed username = [user])
    {source : Source} (pattern : source = .regex ∨ source = .groupRegex) :
    promptSources env db.tables ofPrompts name username source =
      matchRegexPermission env.regex name "model name"
        (db.tables.patternRows ofPrompts username source) := by
  have found := Tables.getUser_eq_ok.mpr known
  rcases pattern with rfl | rfl
  · simp only [promptSources,buildSources,Tables.listRegexPermissions,found,Tables.patternRows,
      known,List.map_cons,List.map_nil,List.mem_singleton]
    rfl
  · simp only [promptSources,buildSources,Tables.getGroupsIdsForUser,found,Tables.patternRows,
      memberGroupIds_of_user known]
    rfl

theorem source_names_iff (source : Source) (permission : Permission) :
    (∃ perm, promptSources env db.tables ofPrompts name username source = .ok perm ∧
        getPermission perm = .ok permission) ↔
      RowNames env db.tables ofPrompts name username source permission := by
  have direct : ∀ read : Except Failure SqlPermission,
      (∃ perm, (do let row ← read; return row.permission) = Except.ok perm ∧
        getPermission perm = .ok permission) ↔
      ∃ row, read = .ok row ∧ getPermission row.permission = .ok permission := by
    intro read
    cases read <;> simp [bind,Except.bind,pure,Except.pure]
  have pattern : source = .regex ∨ source = .groupRegex →
      ((∃ perm, promptSources env db.tables ofPrompts name username source = .ok perm ∧
          getPermission perm = .ok permission) ↔
        ∃ row, FirstMatch env.regex name (db.tables.patternRows ofPrompts username source) row ∧
          getPermission row.permission = .ok permission) := by
    intro pattern
    rcases usersNamed_unique db username with unknown | ⟨user,known⟩
    · simp [patternSource_unknown unknown pattern,patternRows_unknown unknown,FirstMatch]
    · simp only [patternSource_known known pattern,matchRegexPermission_eq_ok]
      constructor
      · intro named
        obtain ⟨_,⟨row,found,rfl⟩,level⟩ := named
        exact ⟨row,found,level⟩
      · intro matched
        obtain ⟨row,found,level⟩ := matched
        exact ⟨_,⟨row,found,rfl⟩,level⟩
  cases source with
  | user => exact direct _
  | group => exact direct _
  | regex => exact pattern (.inl rfl)
  | groupRegex => exact pattern (.inr rfl)

theorem source_missing_iff (source : Source) :
    (∃ failure, promptSources env db.tables ofPrompts name username source = .error failure ∧
        failure.isMissing = true) ↔
      NoRow env db.tables ofPrompts name username source := by
  have direct : ∀ read : Except Failure SqlPermission,
      (∃ failure, (do let row ← read; return row.permission) = Except.error failure ∧
        failure.isMissing = true) ↔
      ∃ failure, read = .error failure ∧ failure.isMissing = true := by
    intro read
    cases read <;> simp [bind,Except.bind,pure,Except.pure]
  have pattern : source = .regex ∨ source = .groupRegex →
      ((∃ failure, promptSources env db.tables ofPrompts name username source = .error failure ∧
          failure.isMissing = true) ↔
        ∀ row ∈ db.tables.patternRows ofPrompts username source,
          reMatch env.regex row.regex name = .ok false) := by
    intro pattern
    rcases usersNamed_unique db username with unknown | ⟨user,known⟩
    · simp [patternSource_unknown unknown pattern,patternRows_unknown unknown,Failure.isMissing]
    · rw [patternSource_known known pattern]
      exact matchRegexPermission_missing
  cases source with
  | user => exact direct _
  | group => exact direct _
  | regex => exact pattern (.inl rfl)
  | groupRegex => exact pattern (.inr rfl)

theorem silent_iff (listed : List String) :
    (∀ source ∈ listed, askSource (promptSources env db.tables ofPrompts name username) source =
        .absent) ↔
      ∀ source, source.name ∈ listed → NoRow env db.tables ofPrompts name username source := by
  constructor
  · intro silent source member
    exact source_missing_iff source |>.mp (askSource_absent_iff.mp (silent source.name member))
  · intro rowless asked member
    cases known : Source.ofName? asked with
    | none => exact askSource_unlisted known
    | some source =>
      have spelled := Source.ofName?_name known
      subst spelled
      exact askSource_absent_iff.mpr (source_missing_iff source |>.mpr (rowless source member))

/-- The walk over the sources ends in a grant exactly when the first row names one. -/
theorem walk_grants_iff (permission : Permission) :
    (∃ listed result, firstGrant (askSource (promptSources env db.tables ofPrompts name username))
          env.config.permissionSourceOrder = .granted (listed,result) ∧
        result.permission = permission) ↔
      ∃ before source after,
        env.config.permissionSourceOrder = before ++ Source.name source :: after ∧
        (∀ earlier, earlier.name ∈ before →
          NoRow env db.tables ofPrompts name username earlier) ∧
        RowNames env db.tables ofPrompts name username source permission := by
  constructor
  · intro ⟨listed,result,granted,level⟩
    obtain ⟨⟨before,after,order,silent⟩,grants⟩ := firstGrant_granted_iff.mp granted
    obtain ⟨source,known,kind⟩ := kind_of_granted grants
    have spelled := Source.ofName?_name known
    subst spelled level
    obtain ⟨perm,answered,known,_⟩ := askSource_granted_iff.mp grants
    exact ⟨before,source,after,order,(silent_iff before).mp silent,
      (source_names_iff source _).mp ⟨perm,answered,known⟩⟩
  · intro ⟨before,source,after,order,rowless,names⟩
    obtain ⟨perm,answered,known⟩ := (source_names_iff source permission).mpr names
    have grants : askSource (promptSources env db.tables ofPrompts name username) source.name =
        .granted ⟨permission,.source source⟩ :=
      askSource_granted_iff.mpr ⟨perm,answered,known,rfl⟩
    exact ⟨source.name,_,firstGrant_granted_iff.mpr
      ⟨⟨before,after,order,(silent_iff before).mpr rowless⟩,grants⟩,rfl⟩

/-- What the database alone resolves to is what the rows give. -/
theorem fresh_iff_rowsGive (context : RequestContext) (permission : Permission) :
    (∃ result, freshPermission env db.tables context (promptRequest ofPrompts name username) =
        .ok result ∧ result.permission = permission) ↔
      RowsGive env db.tables context ofPrompts name username permission := by
  have silent : firstGrant (askSource (promptSources env db.tables ofPrompts name username))
      env.config.permissionSourceOrder = .absent ↔
        ∀ source, source.name ∈ env.config.permissionSourceOrder →
          NoRow env db.tables ofPrompts name username source :=
    firstGrant_absent_iff.trans (silent_iff env.config.permissionSourceOrder)
  simp only [RowsGive,← walk_grants_iff,← silent,freshPermission,resourcePermission,
    promptSources_registered,bind,Except.bind,getPermissionFromStoreOrDefault]
  cases walked : firstGrant (askSource (promptSources env db.tables ofPrompts name username))
      env.config.permissionSourceOrder with
  | granted grant =>
    obtain ⟨listed,result⟩ := grant
    obtain ⟨source,_,kind⟩ := kind_of_granted (firstGrant_granted_iff.mp walked).2
    have decided : fallbackWorkspace env context result = none := by
      simp [fallbackWorkspace,kind]
    simp [decided,pure,Except.pure]
  | failed failure => simp
  | absent =>
    simp only [FallbackGives]
    cases known : getPermission env.config.defaultMlflowPermission with
    | error failure => simp [defaultResult,known,bind,Except.bind]
    | ok configured =>
      simp only [defaultResult,known,bind,Except.bind,pure,Except.pure]
      cases falls : fallbackWorkspace env context ⟨configured,.fallback⟩ with
      | none => simp [falls,eq_comm]
      | some workspace =>
        cases looked : lookupWorkspacePermission env db.tables username workspace <;>
          simp [falls,promptRequest,looked,workspaceResult,eq_comm]

end Sources

section Agreement
variable {env : Env} {db : Database} {context : RequestContext} {promptName username : String}
  {caches : Caches}

theorem resolve_of_promptCachesFresh
    (fresh : PromptCachesFresh env db.tables context promptName username caches)
    (asPrompt : Bool) :
    (resolvePermission env db.tables context (promptRequest asPrompt promptName username) caches).1 =
      freshPermission env db.tables context (promptRequest asPrompt promptName username) := by
  apply resolvePermission_answer
  · exact fresh.1 asPrompt
  · intro workspace enabled _
    exact getWorkspacePermissionCached_of_fresh enabled fresh.2

theorem reported_iff (fresh : PromptCachesFresh env db.tables context promptName username caches)
    (permission : Permission) :
    Reported env db.tables context promptName username caches permission ↔
      RowsGive env db.tables context true promptName username permission := by
  unfold Reported effectivePromptPermission
  rw [resolve_of_promptCachesFresh fresh true]
  exact fresh_iff_rowsGive context permission

/-- A check of the registered model answers what it makes of the permission of the rows. -/
theorem checked_iff (fresh : PromptCachesFresh env db.tables context promptName username caches)
    (allows : Permission → Bool) (answer : Bool) :
    (effectiveRegisteredModelPermission env db.tables context promptName username caches).1.map
        (fun result => allows result.permission) = .ok answer ↔
      ∃ permission, RowsGive env db.tables context false promptName username permission ∧
        allows permission = answer := by
  unfold effectiveRegisteredModelPermission
  rw [resolve_of_promptCachesFresh fresh false]
  simp only [← fresh_iff_rowsGive]
  cases freshPermission env db.tables context (promptRequest false promptName username) with
  | error failure => simp [Except.map]
  | ok result => simp [Except.map]

theorem validate_iff (fresh : PromptCachesFresh env db.tables context promptName username caches)
    (lookups : Lookups) {request : FlaskRequest} (allows : Permission → Bool) (answer : Bool)
    (named : getModelName request = .ok (.string promptName)) :
    Guard.registeredModel.validate (withResolver env db.tables context username caches lookups)
        request allows = .ok answer ↔
      ∃ permission, RowsGive env db.tables context false promptName username permission ∧
        allows permission = answer := by
  rw [← checked_iff fresh]
  simp only [Guard.validate,Guard.checked,named,Guard.permissionOn,withResolver,bind,Except.bind]
  cases (effectiveRegisteredModelPermission env db.tables context promptName username caches).1 with
  | error failure => simp [Except.map]
  | ok result => simp [Except.map,pure,Except.pure]

theorem cachedCanRead_iff
    (fresh : PromptCachesFresh env db.tables context promptName username caches)
    {cache : RequestPermissionCache}
    (memo : RequestCacheFresh env db.tables context promptName username cache) (readable : Bool) :
    (cachedCanReadRegisteredModel env db.tables context promptName username cache caches).1 =
        .ok readable ↔
      ∃ permission, RowsGive env db.tables context false promptName username permission ∧
        permission.canRead = readable := by
  unfold cachedCanReadRegisteredModel
  cases hit : cache.get ("rm",promptName,username) with
  | some held =>
    obtain ⟨result,resolved,flag⟩ := memo held hit
    simp only [← fresh_iff_rowsGive,resolved]
    simp [flag]
  | none =>
    rw [← checked_iff fresh]
    unfold canReadRegisteredModel
    rcases effectiveRegisteredModelPermission env db.tables context promptName username caches with
      ⟨resolved,after⟩
    cases resolved <;> simp [Except.map]

theorem checkPromptManage_iff
    (fresh : PromptCachesFresh env db.tables context promptName username caches) (isAdmin : Bool) :
    (checkPromptManagePermission env db.tables context promptName username isAdmin caches).1 =
        .ok () ↔
      isAdmin = true ∨ ∃ permission,
        RowsGive env db.tables context false promptName username permission ∧
          permission.canManage = true := by
  unfold checkPromptManagePermission
  cases isAdmin with
  | true => simp
  | false =>
    rw [← checked_iff fresh]
    unfold canManageRegisteredModel
    rcases effectiveRegisteredModelPermission env db.tables context promptName username caches with
      ⟨resolved,after⟩
    cases resolved with
    | error failure => simp [Except.map]
    | ok result => cases flag : result.permission.canManage <;> simp [Except.map,flag]

theorem promptCachesFresh_empty :
    PromptCachesFresh env db.tables context promptName username .empty := by
  constructor
  · intro asPrompt result held
    simp [Caches.empty] at held
  · intro workspace permission held
    simp [Caches.empty] at held

end Agreement

/-- Every access enforces the reported permission exactly when the first row that applies
names the same permission whether the regex rows are those of prompts or of models. -/
theorem enforcesReported_iff (env : Env) (db : Database) (context : RequestContext)
    (promptName username : String) :
    EnforcesReported env db.tables context promptName username ↔ ∀ permission,
      RowsGive env db.tables context false promptName username permission ↔
        RowsGive env db.tables context true promptName username permission := by
  constructor
  · intro enforces permission
    let request : FlaskRequest := ⟨"",.get,some [("name",promptName)],[],[],false,none,none⟩
    have empty : PromptCachesFresh env db.tables context promptName username .empty :=
      promptCachesFresh_empty
    have named : getModelName request = .ok (.string promptName) := rfl
    -- a validator that demands this very permission
    have same := enforces.validators .empty empty ⟨fun _ => .ok none,fun _ => .ok .manage,
      fun _ => .ok .manage⟩ request (fun given => decide (given = permission)) true named
    rw [validate_iff empty _ _ _ named] at same
    simpa [reported_iff empty] using same
  · intro same
    constructor
    · intro caches fresh lookups request allows answer named
      simp only [validate_iff fresh lookups allows answer named,reported_iff fresh,same]
    · intro caches fresh cache memo readable
      simp only [cachedCanRead_iff fresh memo,reported_iff fresh,same]
    · intro caches fresh isAdmin
      simp only [checkPromptManage_iff fresh,reported_iff fresh,same]

/-- Alice is denied the prompts that start with payroll, by a regex row of prompts. -/
def payrollDatabase : Database where
  tables := { Tables.empty with
    users := [⟨1,"alice","Alice","",none,false,false⟩]
    userRegexPermissions := fun
      | .registeredModel => [⟨1,"payroll",0,1,"NO_PERMISSIONS",true⟩]
      | _ => [] }
  integrity := by decide

/-- The pages report the denial, and the search filters list the prompt to her. -/
theorem denied_prompt_read : ¬ ∀ env db context promptName username,
    EnforcesReported env (Database.tables db) context promptName username := by
  intro every
  let env : Env := ⟨.default,.literal,fun _ => .ok ""⟩
  have enforces := every env payrollDatabase ⟨none,none⟩ "payroll-summary" "alice"
  have reads : (cachedCanReadRegisteredModel env payrollDatabase.tables ⟨none,none⟩
      "payroll-summary" "alice" .empty .empty).1 = .ok true := by decide
  have denied : (effectivePromptPermission env payrollDatabase.tables ⟨none,none⟩
      "payroll-summary" "alice" .empty).1 = .ok ⟨.noPermissions,.source .regex⟩ := by decide
  have memo : RequestCacheFresh env payrollDatabase.tables ⟨none,none⟩ "payroll-summary" "alice"
      .empty := by
    intro readable held
    simp at held
  obtain ⟨permission,⟨result,reported,rfl⟩,flag⟩ :=
    (enforces.filters .empty promptCachesFresh_empty .empty memo true).mp reads
  rw [denied] at reported
  cases reported
  cases flag

end MlflowOidcAuth
