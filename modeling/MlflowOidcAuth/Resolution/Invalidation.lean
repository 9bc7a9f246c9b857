import Mathlib.Data.List.TakeWhile
import MlflowOidcAuth.Resolution.ContextRuns
import MlflowOidcAuth.Resolution.ScorerRuns
import MlflowOidcAuth.Store.Footprints

/-! Runs of store methods between cached resolutions. A listed method flushes the
permission cache when it returns; what the others, and the workspace cache that no method
flushes, may keep is what decides whether an entry goes stale. -/
namespace MlflowOidcAuth
open KeyedCache OrderedSources Effects

structure StoreState where
  db : Database
  cached : TracedCaches
  /-- Whether the last resolution or method was a method. -/
  mutated : Bool

inductive StoreEvent
  | resolve (resolution : Resolution)
  | mutate (method : StoreMethod) (args : Arguments)
  | evict (key : String)
  | evictWorkspace (key : String)

/-- `_wrap_with_cache_flush`: the flush follows a method of the list that returns. -/
def callMethod (env : StoreEnv) (method : StoreMethod) (args : Arguments) (db : Database)
    (cached : TracedCaches) : Database × TracedCaches :=
  match (method.operation args).run env db with
  | .ok _ written => (written,if method ∈ permissionCudMethods then cached.flush else cached)
  | .error _ reached => (reached,cached)

def storeStep (env : StoreEnv) (state : StoreState) :
    StoreEvent → Option (Except Failure PermissionResult) × StoreState
  | .resolve resolution =>
    let (answer,cached) := state.cached.ask env.resolution state.db.tables resolution
    (some answer,⟨state.db,cached,false⟩)
  | .mutate method args =>
    let (db,cached) := callMethod env method args state.db state.cached
    (none,⟨db,cached,true⟩)
  | .evict key => (none,{ state with cached := state.cached.evict key })
  | .evictWorkspace key => (none,{ state with cached := state.cached.evictWorkspace key })

/-- Every entry of the permission cache is what its resolution would now be answered. -/
def NoStaleEntry (env : Env) (state : StoreState) : Prop :=
  ∀ resolution result, state.cached.Holds resolution result →
    resolution.fresh env state.db.tables = .ok result

/-- Right after a method no entry is stale, and a resolution is answered afresh. -/
def StoreRunFresh (env : StoreEnv) (db : Database) (events : List StoreEvent) : Prop :=
  ∀ moment ∈ Run.moments (storeStep env) ⟨db,.empty,false⟩ events,
    moment.before.mutated = true →
      NoStaleEntry env.resolution moment.before ∧
        ∀ resolution, moment.event = .resolve resolution →
          moment.answer = some (resolution.fresh env.resolution moment.before.db.tables)

section Conditions
variable (env : StoreEnv) (db : Database) (cached : TracedCaches)

/-- The configured sources before the first that reads the user's groups. -/
def ownSources (config : AppConfig) : List String :=
  config.permissionSourceOrder.takeWhile (fun name =>
    decide (name ≠ "group" ∧ name ≠ "group-regex"))

/-- The user's own rows decide a workspace lookup, before any of the groups. -/
def DecidedByOwn (env : Env) (t : Tables) (username workspace : String) : Prop :=
  ((ownSources env.config).findSome? (fun name =>
    (Source.ofName? name).bind (workspaceSource env t username workspace))).isSome = true

/-- The caches hold nothing that rests on a row of the user. -/
def CachesFreeOf (cached : TracedCaches) (username : String) : Prop :=
  (∀ resolution result, cached.Holds resolution result →
    resolution.request.username = username →
    result.kind.restsOnUser resolution.request.resourceType = false) ∧
  ∀ workspace, cached.caches.workspace.get (workspaceCacheKey username workspace) = none

/-- What a method must find in the caches and in the database to leave no stale entry. -/
def Spares : Operation → Prop
  | .wipeBoth .experiment experimentId => ∀ resolution result, cached.Holds resolution result →
      resolution.request.resourceType = .experiment →
      resolution.request.resourceId = experimentId →
      result.kind ≠ .source .user ∧ result.kind ≠ .source .group
  | .createUser username _ _ _ _ => ∀ resolution result, cached.Holds resolution result →
      resolution.request.username = username →
      resolution.request.resourceType = .experiment → ∀ failure,
      env.resolution.experimentName resolution.request.resourceId = .error failure →
      failure.isMissing = true
  | .renameUser oldUsername newUsername =>
      db.tables.usersNamed oldUsername = [] ∨ oldUsername = newUsername ∨
      env.validateUsername newUsername ≠ .ok () ∨ db.tables.usersNamed newUsername ≠ [] ∨
      CachesFreeOf cached oldUsername ∧ ∀ resolution result, cached.Holds resolution result →
        resolution.request.username ≠ newUsername
  | .deleteUser username => db.tables.usersNamed username = [] ∨ CachesFreeOf cached username
  | .renameEndpoint oldName newName =>
      Integrity ((db.tables.renameRows .user .gatewayEndpoint oldName newName).renameRows .group
        .gatewayEndpoint oldName newName) ∨
      ∀ resolution result, cached.Holds resolution result →
        resolution.request.resourceType = .gatewayEndpoint →
        resolution.request.resourceId = oldName ∨ resolution.request.resourceId = newName →
        ∀ row, db.tables.getUserPermission .gatewayEndpoint ⟨oldName,none⟩
          resolution.request.username ≠ .ok row
  | .setUserGroups username _ | .addUserToGroup username _ | .removeUserFromGroup username _ =>
      db.tables.usersNamed username = [] ∨ ∀ workspace permission,
        cached.caches.workspace.get (workspaceCacheKey username workspace) = some permission →
        DecidedByOwn env.resolution db.tables username workspace
  | _ => True

/-- The condition on one event; a resolution after a method must not meet an entry of
another request or, unless the resource itself is granted, of another workspace. -/
def StepSpares (state : StoreState) : StoreEvent → Prop
  | .mutate method args => Spares env state.db state.cached (method.operation args)
  | .resolve resolution => state.mutated = true → ∀ holder,
      state.cached.origin.get resolution.cacheKey = some holder →
      holder.request = resolution.request ∧
        (holder.workspace = resolution.workspace ∨
          hasResourceGrant env.resolution state.db.tables resolution.request = true)
  | _ => True

/-- The workspace lookups that the resolutions of a run may make. -/
def RunLookups (events : List StoreEvent) (question : String × String) : Prop :=
  ∃ resolution, .resolve resolution ∈ events ∧ resolution.request.username = question.1 ∧
    resolution.workspace = some question.2

end Conditions

/-- The operations whose methods are not on the list. -/
def Operation.unlisted : Operation → Bool
  | .wipeBoth family _ => decide (family = .experiment)
  | .createUser .. | .updateUser .. | .renameUser .. | .setUserDisplayname .. | .deleteUser ..
  | .populateGroups .. | .quota .. => true
  | _ => false

theorem unlisted_of_not_mem {method : StoreMethod} (args : Arguments)
    (absent : method ∉ permissionCudMethods) : (method.operation args).unlisted = true := by
  cases method <;> first | rfl | exact absurd (by decide) absent

section Sessions
variable {env : StoreEnv} {db db' : Database}

theorem wipeBoth_ok (family : Family) (resourceId : String) : ∃ wiped : Database,
    (Operation.wipeBoth family resourceId).run env db = .ok () wiped ∧
      wiped.tables = (db.tables.wipe .user family resourceId).wipe .group family resourceId :=
  ⟨_,(bind_of_ok (wipe_commits _ _ _ db)).trans (wipe_commits _ _ _ _),rfl⟩

/-- Only the rename of an endpoint can raise with a write behind it: the users' rows are
renamed, and the schema rejects the renamed rows of the groups. -/
theorem run_error {operation : Operation} {failure : Failure}
    (raised : operation.run env db = .error failure db') : db' = db ∨
      ∃ oldName newName, operation = .renameEndpoint oldName newName ∧
        db'.tables = db.tables.renameRows .user .gatewayEndpoint oldName newName ∧
        ¬ Integrity ((db.tables.renameRows .user .gatewayEndpoint oldName newName).renameRows
          .group .gatewayEndpoint oldName newName) := by
  cases operation
  case renameEndpoint oldName newName =>
    simp only [Operation.run] at raised
    cases first : session rejected (fun t =>
        .ok (t.renameRows .user .gatewayEndpoint oldName newName)) db with
    | error other reached =>
      rw [bind_of_error first] at raised
      cases raised
      exact .inl (session_error first)
    | ok _ reached =>
      rw [bind_of_ok first] at raised
      have renamed := session_ok first
      simp only [Except.ok.injEq] at renamed
      have unchanged := session_error raised
      subst unchanged
      refine .inr ⟨oldName,newName,rfl,renamed.symm,fun integrity => ?_⟩
      rw [renamed] at integrity
      have committed : session rejected (fun t =>
          .ok (t.renameRows .group .gatewayEndpoint oldName newName)) db' =
            .ok () ⟨_,integrity⟩ := by
        apply session_commits
        rfl
      rw [committed] at raised
      cases raised
  case wipe =>
    rw [Operation.run,wipe_commits] at raised
    cases raised
  case wipeBoth family resourceId =>
    obtain ⟨wiped,ran,_⟩ : ∃ wiped : Database,
        (Operation.wipeBoth family resourceId).run env db = .ok () wiped ∧
          wiped.tables = (db.tables.wipe .user family resourceId).wipe .group family resourceId :=
      wipeBoth_ok family resourceId
    rw [ran] at raised
    cases raised
  all_goals exact .inl (session_error raised)

end Sessions

section Lookups
variable {env : Env} {db : Database} {t' : Tables} {username : String}

theorem findSome?_congr {A B : Type} {items : List A} {f g : A → Option B}
    (same : ∀ item ∈ items, f item = g item) : items.findSome? f = items.findSome? g := by
  induction items with
  | nil => rfl
  | cons item rest ih =>
    have tail := ih (fun other member => same other (List.mem_cons_of_mem _ member))
    rw [List.findSome?_cons,List.findSome?_cons,same item List.mem_cons_self,tail]

theorem lookup_of_decidedByOwn {t : Tables} {workspace : String}
    (own : DecidedByOwn env t username workspace)
    (user : workspaceSource env t' username workspace .user =
      workspaceSource env t username workspace .user)
    (regex : workspaceSource env t' username workspace .regex =
      workspaceSource env t username workspace .regex) :
    lookupWorkspacePermission env t' username workspace =
      lookupWorkspacePermission env t username workspace := by
  have same : ∀ name ∈ ownSources env.config,
      (Source.ofName? name).bind (workspaceSource env t' username workspace) =
        (Source.ofName? name).bind (workspaceSource env t username workspace) := by
    intro name member
    have own := List.mem_takeWhile_imp member
    simp only [decide_eq_true_eq] at own
    cases listed : Source.ofName? name with
    | none => rfl
    | some source =>
      cases source with
      | user => exact user
      | regex => exact regex
      | group => exact absurd (Source.ofName?_name listed) own.1
      | groupRegex => exact absurd (Source.ofName?_name listed) own.2
  have prefixed : (ownSources env.config).findSome? (fun name =>
      (Source.ofName? name).bind (workspaceSource env t' username workspace)) =
      (ownSources env.config).findSome? (fun name =>
        (Source.ofName? name).bind (workspaceSource env t username workspace)) :=
    findSome?_congr same
  have split : env.config.permissionSourceOrder = ownSources env.config ++
      env.config.permissionSourceOrder.dropWhile (fun name =>
        decide (name ≠ "group" ∧ name ≠ "group-regex")) :=
    List.takeWhile_append_dropWhile.symm
  obtain ⟨permission,decided⟩ := Option.isSome_iff_exists.mp own
  unfold lookupWorkspacePermission
  rw [split,List.findSome?_append,List.findSome?_append,prefixed,decided]
  rfl

/-- A change of one user's memberships leaves the lookups of everybody else, and those of
the user that the user's own rows decide. -/
theorem lookup_of_memberships {member : String} {user : SqlUser}
    (known : db.tables.usersNamed member = [user])
    (memberships : SameButMemberships db.tables t' user.id) {workspace : String}
    (own : username = member → DecidedByOwn env db.tables username workspace) :
    lookupWorkspacePermission env t' username workspace =
      lookupWorkspacePermission env db.tables username workspace := by
  have written := memberships.written
  by_cases same : username = member
  · apply lookup_of_decidedByOwn (own same)
    · rw [written]
      rfl
    · rw [written]
      rfl
  · apply lookupWorkspacePermission_same
    · rw [written]
      exact ⟨rfl,rfl,rfl,rfl,rfl⟩
    · have names : t'.usersNamed username = db.tables.usersNamed username := by
        rw [written]
        rfl
      rcases usersNamed_unique db username with absent | ⟨other,found⟩
      · exact .absent absent (names.trans absent)
      · refine .known other other found (names.trans found) rfl ⟨?_,?_,?_,?_,?_⟩
        · apply memberships.others
          intro sameId
          obtain ⟨listed,name⟩ := mem_of_usersNamed known
          obtain ⟨listed',name'⟩ := mem_of_usersNamed found
          rw [← name,← name',user_of_id listed' listed sameId] at same
          exact same rfl
        all_goals rw [written]
        all_goals exact fun _ => rfl

end Lookups

section Answers
variable {env : Env} {db : Database} {resolution : Resolution} {result : PermissionResult}
  (fresh : resolution.fresh env db.tables = .ok result)
include fresh

theorem fresh_withoutExperiment {experimentId : String}
    (spared : resolution.request.resourceType = .experiment →
      resolution.request.resourceId = experimentId →
      result.kind ≠ .source .user ∧ result.kind ≠ .source .group) :
    resolution.fresh env (db.tables.withoutExperiment experimentId) = .ok result := by
  apply fresh_of_silenced fresh
  · intro shape shaped name
    cases listed : Source.ofName? name with
    | none => exact .inl (by rw [askSource_unlisted listed,askSource_unlisted listed])
    | some source =>
      by_cases wiped : shape.family = .experiment ∧ shape.key.resourceId = experimentId
      · obtain ⟨family,id⟩ := wiped
        have isExperiment : resolution.request.resourceType = .experiment := by
          rw [shape_family shaped] at family
          cases resourceType : resolution.request.resourceType <;>
            simp [resourceType,ResourceType.family] at family ⊢
        have named : shape.byGroupName = false := by
          rw [shape_byGroupName shaped,isExperiment]
          rfl
        rw [shape_resourceId shaped] at id
        obtain ⟨notUser,notGroup⟩ := spared isExperiment id
        rw [← shape_resourceId shaped] at id
        have silent : source = .user ∨ source = .group →
            askSource (shape.sources env (db.tables.withoutExperiment experimentId)
              resolution.request.username) name = .absent := by
          intro direct
          obtain ⟨failure,raised,missing⟩ : ∃ failure, shape.sources env
              (db.tables.withoutExperiment experimentId) resolution.request.username source =
                .error failure ∧ failure.isMissing = true :=
            source_withoutExperiment db experimentId family id named direct
          exact askSource_of_missing listed raised missing
        cases source with
        | user =>
          refine .inr ⟨silent (.inl rfl),?_⟩
          rintro _ ⟨⟩
          exact notUser
        | group =>
          refine .inr ⟨silent (.inr rfl),?_⟩
          rintro _ ⟨⟩
          exact notGroup
        | regex => exact .inl (askSource_congr listed rfl)
        | groupRegex => exact .inl (askSource_congr listed rfl)
      · exact .inl (askSource_congr listed
          (congrFun (sources_withoutExperiment db.tables experimentId wiped) source))
  · intro workspace _
    apply lookupWorkspacePermission_congr
    simp only [Tables.withoutExperiment,Tables.wipe,forWorkspaces_withDirect]

/-- The creation of a user changes no answer for that name, unless an experiment's name that
the regexes need cannot be found. -/
theorem fresh_created {displayName passwordHash : String} {isAdmin isServiceAccount : Bool}
    (integrity : Integrity (db.tables.createUser resolution.request.username displayName
      passwordHash isAdmin isServiceAccount))
    (spared : resolution.request.resourceType = .experiment → ∀ failure,
      env.experimentName resolution.request.resourceId = .error failure →
      failure.isMissing = true) :
    resolution.fresh env (db.tables.createUser resolution.request.username displayName
      passwordHash isAdmin isServiceAccount) = .ok result := by
  obtain ⟨unknown,user,known,rows⟩ := createUser_new integrity
  have noRows : NoRows (db.tables.createUser resolution.request.username displayName
      passwordHash isAdmin isServiceAccount) user.id :=
    ⟨rows.memberships,rows.direct,rows.regex,rows.workspace,rows.workspaceRegex⟩
  apply fresh_of_silenced fresh
  · intro shape shaped name
    left
    cases listed : Source.ofName? name with
    | none => rw [askSource_unlisted listed,askSource_unlisted listed]
    | some source =>
      by_cases byName : source = .group ∧ shape.byGroupName = true
      · obtain ⟨rfl,named⟩ := byName
        have groups : SameGroupTables db.tables (db.tables.createUser resolution.request.username
            displayName passwordHash isAdmin isServiceAccount) := createUser_groups
        exact askSource_congr listed (groupSource_same groups.groups groups.direct named)
      · have owned : source = .group → shape.byGroupName = false := by
          intro isGroup
          simpa [isGroup] using byName
        have subject : ∀ failure, shape.subject = .error failure → failure.isMissing = true := by
          intro failure raised
          obtain ⟨_,_,_,⟨named,isExperiment⟩ | ⟨name,named⟩⟩ := shape_of_request shaped
          · rw [named] at raised
            exact spared isExperiment failure raised
          · rw [named] at raised
            cases raised
        obtain ⟨failure,raised,missing⟩ : ∃ failure, shape.sources env db.tables
            resolution.request.username source = .error failure ∧ failure.isMissing = true :=
          sources_unknown unknown shape source owned
        obtain ⟨failure',raised',missing'⟩ : ∃ failure, shape.sources env
            (db.tables.createUser resolution.request.username displayName passwordHash isAdmin
              isServiceAccount) resolution.request.username source = .error failure ∧
              failure.isMissing = true :=
          sources_noRows known noRows shape source owned subject
        rw [askSource_of_missing listed raised missing,askSource_of_missing listed raised' missing']
  · intro workspace _
    rw [lookupWorkspacePermission_unknown unknown]
    exact lookupWorkspacePermission_noRows known noRows workspace

end Answers

section Spared
variable {env : StoreEnv} {db db' : Database} {cached : TracedCaches}

theorem deleteUser_spared {username : String}
    (spares : Spares env db cached (.deleteUser username))
    (ran : (Operation.deleteUser username).run env db = .ok () db') :
    Tables.deleteUser username db.tables = .ok db'.tables ∧ CachesFreeOf cached username := by
  have written := session_ok ran
  refine ⟨written,?_⟩
  obtain ⟨found,known,_⟩ := bind_ok written
  rcases spares with unknown | free
  · rw [getUser_unknown unknown] at known
    cases known
  · exact free

/-- A cached lookup survives a change of memberships that spares it. -/
theorem lookup_of_spared {member username workspace : String} {user : SqlUser} {t' : Tables}
    {permission : Permission} (known : db.tables.usersNamed member = [user])
    (memberships : SameButMemberships db.tables t' user.id)
    (spares : db.tables.usersNamed member = [] ∨ ∀ workspace permission,
      cached.caches.workspace.get (workspaceCacheKey member workspace) = some permission →
      DecidedByOwn env.resolution db.tables member workspace)
    (held : cached.caches.workspace.get (workspaceCacheKey username workspace) = some permission) :
    lookupWorkspacePermission env.resolution t' username workspace =
      lookupWorkspacePermission env.resolution db.tables username workspace := by
  apply lookup_of_memberships known memberships
  rintro rfl
  rcases spares with unknown | own
  · simp [unknown] at known
  · exact own workspace permission held

theorem renameUser_spared {oldUsername newUsername : String}
    (spares : Spares env db cached (.renameUser oldUsername newUsername))
    (ran : (Operation.renameUser oldUsername newUsername).run env db = .ok () db') :
    db'.tables = db.tables ∨ oldUsername ≠ newUsername ∧
      Tables.changeUser (fun user => { user with username := newUsername }) oldUsername db.tables =
        .ok db'.tables ∧ db.tables.usersNamed newUsername = [] ∧ CachesFreeOf cached oldUsername ∧
      ∀ resolution result, cached.Holds resolution result →
        resolution.request.username ≠ newUsername := by
  obtain ⟨_,valid,written⟩ := bind_ok (session_ok ran)
  by_cases same : oldUsername = newUsername
  · exact .inl (renameUser_same written same)
  · have unused := renameUser_new written db'.integrity same
    obtain ⟨found,known,_⟩ := changeUser_ok written
    rcases spares with unknown | same' | invalid | taken | ⟨free,unasked⟩
    · simp [unknown] at known
    · exact absurd same' same
    · exact absurd valid invalid
    · exact absurd unused taken
    · exact .inr ⟨same,written,unused,free,unasked⟩

end Spared

section Kept
variable {env : StoreEnv} {db db' : Database} {cached : TracedCaches} {operation : Operation}
  (spares : Spares env db cached operation) (ran : operation.run env db = .ok () db')
include spares ran

/-- A method that returns leaves every cached workspace permission as it would be looked up. -/
theorem lookups_kept (username workspace : String) (permission : Permission)
    (held : cached.caches.workspace.get (workspaceCacheKey username workspace) = some permission)
    (looked : lookupWorkspacePermission env.resolution db.tables username workspace =
      some permission) :
    lookupWorkspacePermission env.resolution db'.tables username workspace = some permission := by
  rw [← looked]
  by_cases resource : operation.sparesWorkspaces = true
  · exact lookupWorkspacePermission_congr ((run_keeps_workspaces env resource).of_ok ran) _ _
  · cases operation
    case setUserGroups member groupNames =>
      obtain ⟨user,known,memberships⟩ := setGroupsForUser_memberships (session_ok ran)
      exact lookup_of_spared known memberships spares held
    case addUserToGroup member groupName =>
      obtain ⟨user,known,memberships⟩ := addUserToGroup_memberships (session_ok ran)
      exact lookup_of_spared known memberships spares held
    case removeUserFromGroup member groupName =>
      obtain ⟨user,known,memberships⟩ := removeUserFromGroup_memberships (session_ok ran)
      exact lookup_of_spared known memberships spares held
    case createUser created password displayName isAdmin isServiceAccount =>
      obtain ⟨_,_,written⟩ := bind_ok (session_ok ran)
      simp only [pure,Except.pure,Except.ok.injEq] at written
      have integrity := db'.integrity
      rw [← written] at integrity ⊢
      by_cases self : username = created
      · subst self
        rw [lookupWorkspacePermission_unknown (createUser_new integrity).1] at looked
        cases looked
      · exact lookupWorkspacePermission_same createUser_groups (createUser_others self) _
    case updateUser changed change =>
      have written := session_ok ran
      exact lookupWorkspacePermission_same (changeUser_groups written)
        (changeUser_accounts written (fun _ => rfl) (fun _ => rfl) username) _
    case setUserDisplayname changed displayName =>
      have written := session_ok ran
      exact lookupWorkspacePermission_same (changeUser_groups written)
        (changeUser_accounts written (fun _ => rfl) (fun _ => rfl) username) _
    case deleteUser deleted =>
      obtain ⟨written,free⟩ := deleteUser_spared spares ran
      by_cases self : username = deleted
      · rw [self,free.2 workspace] at held
        cases held
      · exact lookupWorkspacePermission_same (deleteUser_groups written)
          (deleteUser_others written self) _
    case renameUser oldUsername newUsername =>
      rcases renameUser_spared spares ran with same | ⟨distinct,written,unused,free,_⟩
      · rw [same]
      · by_cases isOld : username = oldUsername
        · rw [isOld,free.2 workspace] at held
          cases held
        · by_cases isNew : username = newUsername
          · rw [isNew,lookupWorkspacePermission_unknown unused] at looked
            cases looked
          · exact lookupWorkspacePermission_same (changeUser_groups written)
              (renameUser_others written isOld isNew) _
    all_goals exact absurd rfl resource

/-- A method off the list that returns leaves every cached answer as it would be resolved. -/
theorem answers_kept (unlisted : operation.unlisted = true) (resolution : Resolution)
    (result : PermissionResult) (held : cached.Holds resolution result)
    (fresh : resolution.fresh env.resolution db.tables = .ok result) :
    resolution.fresh env.resolution db'.tables = .ok result := by
  cases operation
  case wipeBoth family experimentId =>
    simp only [Operation.unlisted,decide_eq_true_eq] at unlisted
    subst unlisted
    obtain ⟨wiped,commits,tables⟩ : ∃ wiped : Database,
        (Operation.wipeBoth .experiment experimentId).run env db = .ok () wiped ∧
          wiped.tables = db.tables.withoutExperiment experimentId := wipeBoth_ok _ _
    rw [commits] at ran
    cases ran
    rw [tables]
    exact fresh_withoutExperiment fresh (spares _ _ held)
  case createUser created password displayName isAdmin isServiceAccount =>
    obtain ⟨_,_,written⟩ := bind_ok (session_ok ran)
    simp only [pure,Except.pure,Except.ok.injEq] at written
    have integrity := db'.integrity
    rw [← written] at integrity ⊢
    by_cases self : resolution.request.username = created
    · subst self
      exact fresh_created fresh integrity (spares _ _ held rfl)
    · rw [fresh_same createUser_groups (createUser_others self) rfl]
      exact fresh
  case updateUser changed change =>
    have written := session_ok ran
    rw [fresh_same (changeUser_groups written)
      (changeUser_accounts written (fun _ => rfl) (fun _ => rfl) _) rfl]
    exact fresh
  case setUserDisplayname changed displayName =>
    have written := session_ok ran
    rw [fresh_same (changeUser_groups written)
      (changeUser_accounts written (fun _ => rfl) (fun _ => rfl) _) rfl]
    exact fresh
  case deleteUser deleted =>
    obtain ⟨written,free⟩ := deleteUser_spared spares ran
    have groups := deleteUser_groups written
    by_cases self : resolution.request.username = deleted
    · apply fresh_of_unknown groups.groups groups.direct _ fresh (free.1 _ _ held self)
      rw [self]
      exact deleteUser_gone written
    · rw [fresh_same groups (deleteUser_others written self) rfl]
      exact fresh
  case renameUser oldUsername newUsername =>
    rcases renameUser_spared spares ran with same | ⟨distinct,written,_,free,unasked⟩
    · rw [same]
      exact fresh
    · have groups := changeUser_groups written
      by_cases isOld : resolution.request.username = oldUsername
      · apply fresh_of_unknown groups.groups groups.direct _ fresh (free.1 _ _ held isOld)
        rw [isOld]
        exact renameUser_old written distinct
      · rw [fresh_same groups (renameUser_others written isOld (unasked _ _ held)) rfl]
        exact fresh
  case populateGroups groupNames =>
    have written := session_ok ran
    simp only [Except.ok.injEq] at written
    have added := createGroups_added groupNames db.tables
    rw [written] at added
    rw [← fresh]
    apply fresh_congr
    · intro shape _ name
      rw [sources_groupsAdded added]
    · obtain ⟨groups,tables,_⟩ := added
      rw [tables]
      exact fun _ => rfl
  case quota username write =>
    rw [QuotaWrite.body_quotas (session_ok ran),← fresh]
    exact fresh_congr (fun _ _ _ => rfl) (fun _ => rfl)
  all_goals cases unlisted

end Kept

section Runs
variable {env : StoreEnv} {liveWorkspace : String × String → Prop}

/-- A method that raises, too, leaves every cached answer as it would be resolved and every
cached workspace permission as it would be looked up. -/
theorem raised_kept {operation : Operation} {db reached : Database} {cached : TracedCaches}
    {failure : Failure} (spares : Spares env db cached operation)
    (raised : operation.run env db = .error failure reached) :
    (∀ resolution result, cached.Holds resolution result →
        resolution.fresh env.resolution reached.tables =
          resolution.fresh env.resolution db.tables) ∧
      ∀ username workspace,
        lookupWorkspacePermission env.resolution reached.tables username workspace =
          lookupWorkspacePermission env.resolution db.tables username workspace := by
  rcases run_error raised with same | ⟨oldName,newName,isRename,renamed,refused⟩
  · rw [same]
    exact ⟨fun _ _ _ => rfl,fun _ _ => rfl⟩
  · rw [isRename] at spares
    rw [renamed]
    have lookups : ∀ username workspace, lookupWorkspacePermission env.resolution
        (db.tables.renameRows .user .gatewayEndpoint oldName newName) username workspace =
          lookupWorkspacePermission env.resolution db.tables username workspace :=
      lookupWorkspacePermission_congr (forWorkspaces_withDirect ..)
    refine ⟨fun resolution result held => ?_,lookups⟩
    apply fresh_congr
    · intro shape shaped name
      rw [sources_renameEndpoint]
      intro family named
      rcases spares with integrity | unmoved
      · exact absurd integrity refused
      · rw [shape_resourceId shaped] at named
        rw [shape_family shaped] at family
        apply unmoved resolution result held _ named
        cases resourceType : resolution.request.resourceType <;>
          simp [resourceType,ResourceType.family] at family ⊢
    · exact lookups _

/-- The step lemma for methods: a call whose condition holds keeps the caches sound. -/
theorem callMethod_sound {method : StoreMethod} {args : Arguments} {db : Database}
    {cached : TracedCaches} (spares : Spares env db cached (method.operation args))
    (sound : cached.Sound env.resolution db.tables liveWorkspace) :
    (callMethod env method args db cached).2.Sound env.resolution
      (callMethod env method args db cached).1.tables liveWorkspace := by
  unfold callMethod
  cases ran : (method.operation args).run env db with
  | ok _ written =>
    have lookups := lookups_kept spares ran
    by_cases listed : method ∈ permissionCudMethods
    · simp only [listed,if_true]
      apply sound.flush.change _ lookups
      rintro resolution result ⟨filled,_⟩
      cases filled
    · simp only [listed,if_false]
      exact sound.change (answers_kept spares ran (unlisted_of_not_mem args listed)) lookups
  | error failure reached =>
    obtain ⟨answers,lookups⟩ := raised_kept spares ran
    apply sound.change
    · intro resolution result held fresh
      exact (answers resolution result held).trans fresh
    · intro username workspace permission _ looked
      exact (lookups username workspace).trans looked

end Runs

section Stale

/-- An installation that grants nothing by default. -/
def strictEnv : StoreEnv where
  resolution := ⟨{ AppConfig.default with defaultMlflowPermission := "NO_PERMISSIONS" },.literal,
    fun experimentId => .ok ("experiment " ++ experimentId)⟩
  generatePasswordHash := id
  validateUsername := fun _ => .ok ()

/-- Alice manages experiment 1. -/
def experimentDatabase : Database where
  tables := { Tables.empty with
    users := [⟨1,"alice","Alice","",none,false,false⟩]
    userPermissions := fun
      | .experiment => [⟨1,⟨"1",none⟩,1,"MANAGE",false⟩]
      | _ => [] }
  integrity := by decide

def aliceOn (experimentId : String) : Resolution :=
  ⟨outsideFlask,⟨.experiment,experimentId,"alice",none⟩⟩

example : ¬ StoreRunFresh strictEnv experimentDatabase
    [.resolve (aliceOn "1"),.mutate .deleteUser { username := "alice" },
      .resolve (aliceOn "1")] := by
  intro fresh
  have third := fresh _ (List.mem_cons_of_mem _ (List.mem_cons_of_mem _ List.mem_cons_self)) rfl
  have answered := third.2 (aliceOn "1") rfl
  revert answered
  decide

end Stale
end MlflowOidcAuth
