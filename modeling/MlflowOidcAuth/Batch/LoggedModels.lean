import MlflowOidcAuth.Batch.Agreement
import MlflowOidcAuth.Library.Effects
import MlflowOidcAuth.Library.Paging

/-! The listing of the logged models that a user can read. It goes by the user's own rows and
the default, where the resolver asks four sources and the workspace. -/
namespace MlflowOidcAuth
open OrderedSources KeyedCache Loop Paging

structure LoggedModel where
  modelId : String
  experimentId : String
deriving DecidableEq, Repr

/-- The parameters of the listing besides the user; the order clauses are passed on unread. -/
structure LoggedModelListing (Order : Type) where
  experimentIds : Option (List String) := none
  filterString : Option String := none
  orderBy : Option (List Order) := none
  maxResultsPerPage : Nat := 1000

/-- A call of the tracking store's `search_logged_models`. -/
structure LoggedModelSearch (Order : Type) where
  maxResults : Nat
  pageToken : Option String
  experimentIds : List String
  filterString : Option String
  orderBy : Option (List Order)

section Listing
variable {Order : Type} (env : Env) (t : Tables)
  (searchLoggedModels : LoggedModelSearch Order → Except Failure (List LoggedModel × Option String))
  (username : String) (listing : LoggedModelListing Order)

/-- The page behind a token; an empty next token ends the pages as a missing one does. -/
def loggedModelPage (pageToken : Option String) :
    Except Failure (List LoggedModel × Option (Option String)) :=
  (searchLoggedModels ⟨listing.maxResultsPerPage,pageToken,listing.experimentIds.getD [],
    listing.filterString,listing.orderBy⟩).map
      (fun result => (result.1,(truthy result.2).map some))

/-- `{p.experiment_id: get_permission(p.permission).can_read for p in perms}`. -/
def canReadPerms (perms : List SqlPermission) : Except Failure (List (String × Bool)) :=
  perms.mapM (fun row => (getPermission row.permission).map
    (fun permission => (row.key.resourceId,permission.canRead)))

def fetchReadableLoggedModels (fuel : Nat) : Except Failure (List LoggedModel) := do
  let perms ← t.listPermissionsForUser .experiment username
  let readable ← canReadPerms perms
  let defaultPermission ← getPermission env.config.defaultMlflowPermission
  iterate (.other "out of fuel") (gatherStep (loggedModelPage searchLoggedModels listing)
    (fun model => (dictGet readable model.experimentId).getD defaultPermission.canRead))
    fuel ([],none)

end Listing

section Readable
variable (env : Env) (t : Tables) (context : RequestContext) (username : String)

/-- `can_read_experiment`, resolved from the database alone. -/
def canReadExperiment (experimentId : String) : Except Failure Bool :=
  (freshPermission env t context ⟨.experiment,experimentId,username,none⟩).map
    (fun result => result.permission.canRead)

/-- The listing is the backing list without the models whose experiment the user cannot read. -/
def ListsReadable {Order : Type}
    (searchLoggedModels : LoggedModelSearch Order →
      Except Failure (List LoggedModel × Option String))
    (listing : LoggedModelListing Order) (fuel : Nat) (backing : List LoggedModel) : Prop :=
  fetchReadableLoggedModels env t searchLoggedModels username listing fuel = .ok
    (backing.filter (fun model =>
      decide (canReadExperiment env t context username model.experimentId = .ok true)))

/-- The permission of the user's own row for an experiment, or the default without one. -/
def ownPermission (user : SqlUser) (experimentId : String) : String :=
  match t.userRows .experiment ⟨experimentId,none⟩ user with
  | [] => env.config.defaultMlflowPermission
  | row :: _ => row.permission

/-- A known permission that allows reading. -/
def allowsRead (permission : String) : Bool :=
  match getPermission permission with
  | .ok known => known.canRead
  | .error _ => false

end Readable

section Rows
variable (env : Env) (t : Tables) (context : RequestContext) (username : String) (user : SqlUser)
  (experimentId : String)

/-- The regex rows of a source that concern the user, in the order they are tried. -/
def experimentPatterns : Source → List SqlRegexPermission
  | .regex => Tables.orderByPriority ((t.userRegexPermissions .experiment).filter
      (fun row => decide (row.ownerId = user.id)))
  | .groupRegex => Tables.orderByPriority ((t.groupRegexPermissions .experiment).filter
      (fun row => decide (row.ownerId ∈ t.groupIdsOf user)))
  | _ => []

/-- The row that a source has for the user, the highest of those of the user's groups or the
first whose pattern matches the experiment's name, allows reading. -/
def RowAllows (source : Source) : Prop :=
  match source with
  | .user => ∃ row ∈ t.userRows .experiment ⟨experimentId,none⟩ user,
      allowsRead row.permission = true
  | .group => ∃ row, t.getUserGroupsPermission .experiment ⟨experimentId,none⟩ username = .ok row ∧
      allowsRead row.permission = true
  | .regex | .groupRegex => ∃ name row, env.experimentName experimentId = .ok name ∧
      FirstMatch env.regex name (experimentPatterns t user source) row ∧
      allowsRead row.permission = true

/-- A source has no row for the user; no pattern is tried on an experiment that is gone. -/
def RowMissing (source : Source) : Prop :=
  match source with
  | .user => t.userRows .experiment ⟨experimentId,none⟩ user = []
  | .group => ∃ failure, t.getUserGroupsPermission .experiment ⟨experimentId,none⟩ username =
      .error failure ∧ failure.isMissing = true
  | .regex | .groupRegex =>
    (∃ failure, env.experimentName experimentId = .error failure ∧ failure.isMissing = true) ∨
      ∃ name, env.experimentName experimentId = .ok name ∧
        ∀ row ∈ experimentPatterns t user source, reMatch env.regex row.regex name = .ok false

/-- The first of the configured sources that has a row. -/
def RowDecides (source : Source) : Prop :=
  (∃ before after, env.config.permissionSourceOrder = before ++ source.name :: after ∧
    ∀ earlier, earlier.name ∈ before → RowMissing env t username user experimentId earlier) ∧
  ¬ RowMissing env t username user experimentId source

/-- The permission on the workspace of the request, where there is one, allows reading, and
the default does otherwise. -/
def fallbackAllows : Bool :=
  match if env.config.mlflowEnableWorkspaces then truthy (getRequestWorkspace context) else none with
  | none => allowsRead env.config.defaultMlflowPermission
  | some workspace => (lookupWorkspacePermission env t username workspace).any Permission.canRead

/-- The user's own rows and the default name known permissions. Where the row of another source
decides on an experiment, or the fallback does, it allows reading exactly if the own row, or
without one the default, does. -/
structure OwnRowsSuffice (backing : List LoggedModel) : Prop where
  rows : ∀ row ∈ t.userPermissions .experiment, row.ownerId = user.id →
    row.permission ∈ allPermissions.map Permission.name
  default : env.config.defaultMlflowPermission ∈ allPermissions.map Permission.name
  bySource : ∀ model ∈ backing, ∀ source, source ≠ .user →
    RowDecides env t username user model.experimentId source →
      (RowAllows env t username user model.experimentId source ↔
        allowsRead (ownPermission env t user model.experimentId) = true)
  byFallback : ∀ model ∈ backing,
    (∀ source, Source.name source ∈ env.config.permissionSourceOrder →
      RowMissing env t username user model.experimentId source) →
    fallbackAllows env t context username =
      allowsRead (ownPermission env t user model.experimentId)

end Rows

section Dictionary

theorem entry_eq_ok {row : SqlPermission} {entry : String × Bool} :
    (getPermission row.permission).map
        (fun permission => (row.key.resourceId,permission.canRead)) = .ok entry ↔
      row.permission ∈ allPermissions.map Permission.name ∧
        (row.key.resourceId,allowsRead row.permission) = entry := by
  rw [← getPermission_ok_iff,allowsRead]
  cases getPermission row.permission with
  | error failure => simp [Except.map]
  | ok permission => simp [Except.map]

theorem canReadPerms_eq_ok {perms : List SqlPermission} {readable : List (String × Bool)} :
    canReadPerms perms = .ok readable ↔
      (∀ row ∈ perms, row.permission ∈ allPermissions.map Permission.name) ∧
        perms.map (fun row => (row.key.resourceId,allowsRead row.permission)) = readable := by
  rw [canReadPerms,Effects.mapM_eq_ok]
  simp only [entry_eq_ok]
  rw [List.forall₂_and_left,← List.forall₂_map_left_iff,List.forall₂_eq_eq_eq]

theorem dictGet_map {Key Value Value' : Type*} [DecidableEq Key] (f : Value → Value')
    (pairs : List (Key × Value)) (key : Key) :
    dictGet (pairs.map (fun pair => (pair.1,f pair.2))) key = (dictGet pairs key).map f := by
  simp only [dictGet,List.filter_map,List.getLast?_map,Option.map_map]
  rfl

variable {db : Database} {username : String} {user : SqlUser} {env : Env}

/-- What the dictionary and the default say of an experiment is what the own row says. -/
theorem dictGet_own (experimentId : String) {defaultPermission : Permission}
    (default : getPermission env.config.defaultMlflowPermission = .ok defaultPermission) :
    (dictGet (((db.tables.userPermissions .experiment).filter
          (fun row => decide (row.ownerId = user.id))).map
        (fun row => (row.key.resourceId,allowsRead row.permission))) experimentId).getD
          defaultPermission.canRead =
      allowsRead (ownPermission env db.tables user experimentId) := by
  have listed := dictGet_userRows db .experiment ⟨experimentId,experimentId⟩ user
  have entries : ((db.tables.userPermissions .experiment).filter
        (fun row => decide (row.ownerId = user.id))).map
          (fun row => (row.key.resourceId,allowsRead row.permission)) =
      (permissionDict ((db.tables.userPermissions .experiment).filter
        (fun row => decide (row.ownerId = user.id)))).map
          (fun pair => (pair.1,allowsRead pair.2)) := by
    rw [permissionDict,List.map_map]
    rfl
  simp only [BatchKind.family,BatchKind.resourceType,ResourceType.family,
    BatchKind.resourceKey] at listed
  rw [entries,dictGet_map,listed,ownPermission]
  rcases userRows_unique db .experiment ⟨experimentId,none⟩ user with empty | ⟨row,only⟩
  · simp only [empty,List.getLast?_nil,Option.map_none,Option.getD_none,allowsRead,default]
  · simp only [only,List.getLast?_singleton,Option.map_some,Option.getD_some]

end Dictionary

section Walk
variable {Order : Type} {env : Env} {db : Database} {username : String} {user : SqlUser}
  {searchLoggedModels : LoggedModelSearch Order →
    Except Failure (List LoggedModel × Option String)}
  {listing : LoggedModelListing Order} {count fuel : Nat} {backing : List LoggedModel}

/-- The listing picks by the own rows and the default, and raises where one of them is unknown. -/
theorem fetch_eq_ok (known : db.tables.getUser username = .ok user)
    (pages : Chain (loggedModelPage searchLoggedModels listing) none count backing)
    (enough : count ≤ fuel) {models : List LoggedModel} :
    fetchReadableLoggedModels env db.tables searchLoggedModels username listing fuel =
        .ok models ↔
      (∀ row ∈ db.tables.userPermissions .experiment, row.ownerId = user.id →
        row.permission ∈ allPermissions.map Permission.name) ∧
      env.config.defaultMlflowPermission ∈ allPermissions.map Permission.name ∧
      models = backing.filter (fun model =>
        allowsRead (ownPermission env db.tables user model.experimentId)) := by
  have listed : db.tables.listPermissionsForUser .experiment username =
      .ok ((db.tables.userPermissions .experiment).filter
        (fun row => decide (row.ownerId = user.id))) := by
    simp only [Tables.listPermissionsForUser,known]
    rfl
  have owned : (∀ row ∈ (db.tables.userPermissions .experiment).filter
        (fun row => decide (row.ownerId = user.id)),
          row.permission ∈ allPermissions.map Permission.name) ↔
      ∀ row ∈ db.tables.userPermissions .experiment, row.ownerId = user.id →
        row.permission ∈ allPermissions.map Permission.name := by
    simp only [List.mem_filter,decide_eq_true_eq,and_imp]
  rw [← owned,← getPermission_ok_iff]
  simp only [fetchReadableLoggedModels,listed,bind,Except.bind]
  cases read : canReadPerms ((db.tables.userPermissions .experiment).filter
      (fun row => decide (row.ownerId = user.id))) with
  | error failure =>
    simp only [reduceCtorEq,false_iff]
    rintro ⟨allKnown,_⟩
    rw [canReadPerms_eq_ok.mpr ⟨allKnown,rfl⟩] at read
    cases read
  | ok readable =>
    obtain ⟨allKnown,rfl⟩ := canReadPerms_eq_ok.mp read
    cases default : getPermission env.config.defaultMlflowPermission with
    | error failure => simp
    | ok defaultPermission =>
      simp only [gather_chain _ pages enough,dictGet_own _ default,List.nil_append,
        Except.ok.injEq]
      constructor
      · rintro rfl
        exact ⟨allKnown,⟨defaultPermission,rfl⟩,rfl⟩
      · rintro ⟨_,_,same⟩
        exact same.symm

end Walk

section Deciding
variable {env : Env} {db : Database} {context : RequestContext} {username : String}
  {user : SqlUser} {experimentId : String}

theorem allowsRead_eq_true {permission : String} : allowsRead permission = true ↔
    ∃ known, getPermission permission = .ok known ∧ known.canRead = true := by
  unfold allowsRead
  cases getPermission permission <;> simp

theorem userSource_eq (known : db.tables.getUser username = .ok user) :
    buildExperimentSources env db.tables experimentId username .user =
      (one (.mlflow .resourceDoesNotExist (Family.experiment.missingPermission
          ⟨experimentId,none⟩ username))
        (.mlflow .invalidState (Family.experiment.multiplePermissions ⟨experimentId,none⟩ username))
        (db.tables.userRows .experiment ⟨experimentId,none⟩ user)).map SqlPermission.permission := by
  simp only [buildExperimentSources,buildSources,Tables.getUserPermission_of_user known]
  rfl

theorem patternSource_eq (known : db.tables.getUser username = .ok user) {source : Source}
    (pattern : source = .regex ∨ source = .groupRegex) :
    buildExperimentSources env db.tables experimentId username source =
      (env.experimentName experimentId >>= fun name =>
        matchRegexPermission env.regex name "experiment"
          (experimentPatterns db.tables user source)) := by
  rcases pattern with rfl | rfl
  · simp only [buildExperimentSources,buildSources,Tables.listRegexPermissions,known,
      Tables.promptMatches,Bool.and_true,experimentPatterns]
    rfl
  · simp only [buildExperimentSources,buildSources,Tables.getGroupsIdsForUser,known,
      Tables.listGroupRegexPermissionsForGroupsIds,Tables.promptMatches,Bool.and_true,
      experimentPatterns]
    rfl

/-- A source's answer allows reading exactly if its row does. -/
theorem rowAllows_iff (known : db.tables.getUser username = .ok user) (source : Source) :
    RowAllows env db.tables username user experimentId source ↔
      ∃ perm, buildExperimentSources env db.tables experimentId username source = .ok perm ∧
        allowsRead perm = true := by
  have pattern : source = .regex ∨ source = .groupRegex →
      ((∃ name row, env.experimentName experimentId = .ok name ∧
          FirstMatch env.regex name (experimentPatterns db.tables user source) row ∧
          allowsRead row.permission = true) ↔
        ∃ perm, buildExperimentSources env db.tables experimentId username source = .ok perm ∧
          allowsRead perm = true) := by
    intro pattern
    rw [patternSource_eq known pattern]
    cases env.experimentName experimentId with
    | error failure => simp [bind,Except.bind]
    | ok name =>
      simp only [bind,Except.bind,matchRegexPermission_eq_ok,Except.ok.injEq,exists_and_left,
        exists_eq_left']
      constructor
      · intro ⟨row,first,allowed⟩
        exact ⟨_,⟨row,first,rfl⟩,allowed⟩
      · intro ⟨_,⟨row,first,same⟩,allowed⟩
        exact ⟨row,first,same ▸ allowed⟩
  cases source with
  | user =>
    rw [userSource_eq known]
    rcases userRows_unique db .experiment ⟨experimentId,none⟩ user with empty | ⟨row,only⟩
    · simp [RowAllows,empty,one,Except.map]
    · simp [RowAllows,only,one,Except.map]
  | group =>
    simp only [RowAllows,buildExperimentSources,buildSources]
    cases db.tables.getUserGroupsPermission .experiment ⟨experimentId,none⟩ username <;>
      simp [bind,Except.bind,pure,Except.pure]
  | regex => exact pattern (.inl rfl)
  | groupRegex => exact pattern (.inr rfl)

theorem rowMissing_iff (known : db.tables.getUser username = .ok user) (source : Source) :
    RowMissing env db.tables username user experimentId source ↔
      askSource (buildExperimentSources env db.tables experimentId username) source.name =
        .absent := by
  rw [askSource_absent_iff]
  have pattern : source = .regex ∨ source = .groupRegex →
      ((∃ failure, env.experimentName experimentId = .error failure ∧ failure.isMissing = true) ∨
        (∃ name, env.experimentName experimentId = .ok name ∧
          ∀ row ∈ experimentPatterns db.tables user source,
            reMatch env.regex row.regex name = .ok false) ↔
      ∃ failure, buildExperimentSources env db.tables experimentId username source =
        .error failure ∧ failure.isMissing = true) := by
    intro pattern
    rw [patternSource_eq known pattern]
    cases env.experimentName experimentId with
    | error failure => simp [bind,Except.bind]
    | ok name =>
      simp only [bind,Except.bind,reduceCtorEq,false_and,exists_false,false_or,Except.ok.injEq,
        exists_eq_left']
      exact matchRegexPermission_missing.symm
  cases source with
  | user =>
    rw [userSource_eq known]
    rcases userRows_unique db .experiment ⟨experimentId,none⟩ user with empty | ⟨row,only⟩
    · simp [RowMissing,empty,one,Except.map,Failure.isMissing]
    · simp [RowMissing,only,one,Except.map]
  | group =>
    simp only [RowMissing,buildExperimentSources,buildSources]
    cases db.tables.getUserGroupsPermission .experiment ⟨experimentId,none⟩ username <;>
      simp [bind,Except.bind,pure,Except.pure]
  | regex => exact pattern (.inl rfl)
  | groupRegex => exact pattern (.inr rfl)

theorem rowsMissing_iff (known : db.tables.getUser username = .ok user) (listed : List String) :
    (∀ source, Source.name source ∈ listed →
        RowMissing env db.tables username user experimentId source) ↔
      ∀ name ∈ listed,
        askSource (buildExperimentSources env db.tables experimentId username) name = .absent := by
  constructor
  · intro missing name member
    cases named : Source.ofName? name with
    | none => exact askSource_unlisted named
    | some source =>
      have spelled := Source.ofName?_name named
      subst spelled
      exact (rowMissing_iff known source).mp (missing source member)
  · intro silent source member
    exact (rowMissing_iff known source).mpr (silent source.name member)

theorem rowDecides_iff (known : db.tables.getUser username = .ok user) (source : Source) :
    RowDecides env db.tables username user experimentId source ↔
      Reaches (askSource (buildExperimentSources env db.tables experimentId username))
          env.config.permissionSourceOrder source.name ∧
        askSource (buildExperimentSources env db.tables experimentId username) source.name ≠
          .absent := by
  simp only [RowDecides,Reaches,rowsMissing_iff known]
  exact and_congr_right (fun _ => not_congr (rowMissing_iff known source))

theorem fresh_eq : freshPermission env db.tables context ⟨.experiment,experimentId,username,none⟩ =
    (getPermissionFromStoreOrDefault env.config
        (buildExperimentSources env db.tables experimentId username) >>= fun result =>
      match fallbackWorkspace env context result with
      | none => .ok result
      | some workspace =>
        .ok (workspaceResult (lookupWorkspacePermission env db.tables username workspace))) := rfl

/-- The source that decides lets the user read exactly if its row does. -/
theorem canRead_of_decides (known : db.tables.getUser username = .ok user) {source : Source}
    (decides : RowDecides env db.tables username user experimentId source) :
    canReadExperiment env db.tables context username experimentId = .ok true ↔
      RowAllows env db.tables username user experimentId source := by
  obtain ⟨reached,reports⟩ := (rowDecides_iff known source).mp decides
  have walk := firstGrant_of_reaches reached reports
  rw [rowAllows_iff known,canReadExperiment,fresh_eq,getPermissionFromStoreOrDefault,walk]
  cases asked : askSource (buildExperimentSources env db.tables experimentId username)
      source.name with
  | absent => exact absurd asked reports
  | granted result =>
    obtain ⟨perm,answered,level,kind⟩ := askSource_granted_iff.mp asked
    have settled : fallbackWorkspace env context result = none := by
      simp [fallbackWorkspace,kind]
    simp [firstGrant,asked,answered,bind,Except.bind,settled,Except.map,allowsRead,level]
  | failed failure =>
    simp only [firstGrant,asked,bind,Except.bind,Except.map,reduceCtorEq,false_iff]
    rintro ⟨perm,answered,allowed⟩
    obtain ⟨level,isKnown,_⟩ := allowsRead_eq_true.mp allowed
    have granted : askSource (buildExperimentSources env db.tables experimentId username)
        source.name = .granted ⟨level,.source source⟩ :=
      askSource_granted_iff.mpr ⟨perm,answered,isKnown,rfl⟩
    rw [asked] at granted
    cases granted

/-- Without a row the user may read exactly if the fallback allows it. -/
theorem canRead_of_missing (known : db.tables.getUser username = .ok user)
    (configured : env.config.defaultMlflowPermission ∈ allPermissions.map Permission.name)
    (missing : ∀ source, Source.name source ∈ env.config.permissionSourceOrder →
      RowMissing env db.tables username user experimentId source) :
    canReadExperiment env db.tables context username experimentId = .ok true ↔
      fallbackAllows env db.tables context username = true := by
  have walk := firstGrant_absent_iff.mpr ((rowsMissing_iff known _).mp missing)
  obtain ⟨level,default⟩ := getPermission_ok_iff.mpr configured
  rw [canReadExperiment,fresh_eq,getPermissionFromStoreOrDefault,walk]
  simp only [defaultResult,default,bind,Except.bind,pure,Except.pure,fallbackWorkspace,true_and,
    fallbackAllows]
  cases (if env.config.mlflowEnableWorkspaces = true then truthy (getRequestWorkspace context)
      else none) with
  | none => simp [Except.map,allowsRead,default]
  | some workspace =>
    cases looked : lookupWorkspacePermission env db.tables username workspace <;>
      simp [Except.map,workspaceResult,looked,Permission.noPermissions]

theorem decides_or_missing (known : db.tables.getUser username = .ok user) :
    (∃ source, RowDecides env db.tables username user experimentId source) ∨
      ∀ source, Source.name source ∈ env.config.permissionSourceOrder →
        RowMissing env db.tables username user experimentId source := by
  have decided : ∀ {name : String},
      Reaches (askSource (buildExperimentSources env db.tables experimentId username))
        env.config.permissionSourceOrder name →
      askSource (buildExperimentSources env db.tables experimentId username) name ≠ .absent →
      ∃ source, RowDecides env db.tables username user experimentId source := by
    intro name reached reports
    cases named : Source.ofName? name with
    | none => exact absurd (askSource_unlisted named) reports
    | some source =>
      have spelled := Source.ofName?_name named
      subst spelled
      exact ⟨source,(rowDecides_iff known source).mpr ⟨reached,reports⟩⟩
  cases walked : firstGrant (askSource (buildExperimentSources env db.tables experimentId username))
      env.config.permissionSourceOrder with
  | granted grant =>
    obtain ⟨name,result⟩ := grant
    obtain ⟨reached,granted⟩ := reaches_of_granted walked
    exact .inl (decided reached (by simp [granted]))
  | failed failure =>
    obtain ⟨name,reached,failed⟩ := reaches_of_failed walked
    exact .inl (decided reached (by simp [failed]))
  | absent => exact .inr ((rowsMissing_iff known _).mpr (firstGrant_absent_iff.mp walked))

/-- The user's own row decides as the listing does. -/
theorem ownRow_allows
    (decides : RowDecides env db.tables username user experimentId .user) :
    RowAllows env db.tables username user experimentId .user ↔
      allowsRead (ownPermission env db.tables user experimentId) = true := by
  unfold ownPermission
  rcases userRows_unique db .experiment ⟨experimentId,none⟩ user with empty | ⟨row,only⟩
  · exact absurd empty decides.2
  · simp [RowAllows,only]

/-- The listing agrees with the resolver on an experiment where the deciding row does. -/
theorem agrees_iff (known : db.tables.getUser username = .ok user)
    (configured : env.config.defaultMlflowPermission ∈ allPermissions.map Permission.name) :
    (canReadExperiment env db.tables context username experimentId = .ok true ↔
        allowsRead (ownPermission env db.tables user experimentId) = true) ↔
      (∀ source, source ≠ .user → RowDecides env db.tables username user experimentId source →
        (RowAllows env db.tables username user experimentId source ↔
          allowsRead (ownPermission env db.tables user experimentId) = true)) ∧
      ((∀ source, Source.name source ∈ env.config.permissionSourceOrder →
          RowMissing env db.tables username user experimentId source) →
        fallbackAllows env db.tables context username =
          allowsRead (ownPermission env db.tables user experimentId)) := by
  constructor
  · intro agree
    constructor
    · intro source _ decides
      rw [← canRead_of_decides known decides]
      exact agree
    · intro missing
      rw [Bool.eq_iff_iff,← canRead_of_missing known configured missing]
      exact agree
  · intro ⟨bySource,byFallback⟩
    rcases @decides_or_missing env _ _ _ experimentId known with ⟨source,decides⟩ | missing
    · rw [canRead_of_decides known decides]
      by_cases own : source = .user
      · subst own
        exact ownRow_allows decides
      · exact bySource source own decides
    · rw [canRead_of_missing known configured missing,byFallback missing]

end Deciding

/-- The listing is the readable models exactly where the own rows and the default suffice. -/
theorem listsReadable_iff {Order : Type} (env : Env) (db : Database) (context : RequestContext)
    (username : String) (user : SqlUser) (known : db.tables.getUser username = .ok user)
    (searchLoggedModels : LoggedModelSearch Order →
      Except Failure (List LoggedModel × Option String))
    (listing : LoggedModelListing Order) (count : Nat) (backing : List LoggedModel)
    (pages : Chain (loggedModelPage searchLoggedModels listing) none count backing)
    (fuel : Nat) (enough : count ≤ fuel) :
    ListsReadable env db.tables context username searchLoggedModels listing fuel backing ↔
      OwnRowsSuffice env db.tables context username user backing := by
  rw [ListsReadable,fetch_eq_ok known pages enough]
  constructor
  · rintro ⟨rows,default,same⟩
    have agree : ∀ model ∈ backing,
        (canReadExperiment env db.tables context username model.experimentId = .ok true ↔
          allowsRead (ownPermission env db.tables user model.experimentId) = true) := by
      intro model member
      have listed := congrArg (model ∈ ·) same
      simpa [List.mem_filter,member] using listed
    exact ⟨rows,default,fun model member => ((agrees_iff known default).mp (agree model member)).1,
      fun model member => ((agrees_iff known default).mp (agree model member)).2⟩
  · intro suffice
    refine ⟨suffice.rows,suffice.default,List.filter_congr ?_⟩
    intro model member
    have agree := (agrees_iff known suffice.default).mpr
      ⟨suffice.bySource model member,suffice.byFallback model member⟩
    simp only [agree,Bool.decide_eq_true]

section Sample

/-- Alice's group is denied experiment 7, and she has a row of her own for experiment 8. -/
def contractorDatabase : Database where
  tables := { Tables.empty with
    users := [⟨1,"alice","Alice","",none,false,false⟩]
    groups := [⟨1,"contractors"⟩]
    userGroups := [⟨1,1,1⟩]
    userPermissions := fun
      | .experiment => [⟨1,⟨"8",none⟩,1,"READ",false⟩]
      | _ => []
    groupPermissions := fun
      | .experiment => [⟨1,⟨"7",none⟩,1,"NO_PERMISSIONS",false⟩]
      | _ => [] }
  integrity := by decide

def contractorEnv : Env := ⟨.default,.literal,fun experimentId => .ok experimentId⟩

/-- A store that hands two models out on two pages. -/
def twoPages (first second : LoggedModel) (search : LoggedModelSearch Unit) :
    Except Failure (List LoggedModel × Option String) :=
  if search.pageToken = none then .ok ([first],some "2") else .ok ([second],none)

theorem chain_twoPages (first second : LoggedModel) :
    Chain (loggedModelPage (twoPages first second) {}) none 2 [first,second] :=
  @Chain.more _ _ _ _ none (some "2") 1 [first] [second] rfl (.last rfl)

theorem listsReadable_two : ListsReadable contractorEnv contractorDatabase.tables ⟨none,none⟩ "alice"
    (twoPages ⟨"m-1","8"⟩ ⟨"m-2","8"⟩) {} 2 [⟨"m-1","8"⟩,⟨"m-2","8"⟩] := by
  apply (listsReadable_iff contractorEnv contractorDatabase ⟨none,none⟩ "alice"
    ⟨1,"alice","Alice","",none,false,false⟩ rfl _ {} 2 _ (chain_twoPages _ _) 2 le_rfl).mpr
  have owned : ¬ RowMissing contractorEnv contractorDatabase.tables "alice"
      ⟨1,"alice","Alice","",none,false,false⟩ "8" .user := by
    change contractorDatabase.tables.userRows .experiment ⟨"8",none⟩
      ⟨1,"alice","Alice","",none,false,false⟩ ≠ []
    decide
  have isEight : ∀ model ∈ ([⟨"m-1","8"⟩,⟨"m-2","8"⟩] : List LoggedModel),
      model.experimentId = "8" := by decide
  refine ⟨by decide,by decide,?_,?_⟩
  · -- The own row comes before the row of any other source.
    intro model member source other ⟨⟨before,after,order,missing⟩,_⟩
    rw [isEight model member] at missing
    cases before with
    | nil =>
      have head := (List.cons.inj order).1
      cases source <;> first | exact absurd rfl other | exact absurd head (by decide)
    | cons first before =>
      obtain ⟨rfl,_⟩ := List.cons.inj order
      exact absurd (missing .user List.mem_cons_self) owned
  · intro model member missing
    rw [isEight model member] at missing
    exact absurd (missing .user (by decide)) owned

/-- The model of experiment 7 is listed for Alice, who is denied the experiment. -/
theorem lists_denied_model : ¬ ∀ (env : Env) (db : Database) (context : RequestContext)
    (username : String) (user : SqlUser), db.tables.getUser username = .ok user →
    ∀ (search : LoggedModelSearch Unit → Except Failure (List LoggedModel × Option String))
      (listing : LoggedModelListing Unit) (count : Nat) (backing : List LoggedModel),
      Chain (loggedModelPage search listing) none count backing → ∀ fuel, count ≤ fuel →
        ListsReadable env db.tables context username search listing fuel backing := by
  intro law
  have lists := law contractorEnv contractorDatabase ⟨none,none⟩ "alice"
    ⟨1,"alice","Alice","",none,false,false⟩ rfl (twoPages ⟨"m-1","7"⟩ ⟨"m-2","8"⟩) {} 2 _
    (chain_twoPages _ _) 2 le_rfl
  revert lists
  unfold ListsReadable
  decide

end Sample

end MlflowOidcAuth
