import MlflowOidcAuth.Hook.Dispatch
import MlflowOidcAuth.Quota.Enforcement
import MlflowOidcAuth.Quota.Measurement
import MlflowOidcAuth.Resolution.Workspace
import MlflowOidcAuth.Store.Footprints

/-! Who an experiment's bytes are charged to: the owner that an upload is charged to, and
the users whose scan counts the experiment. -/
namespace MlflowOidcAuth
open Effects KeyedCache Sweep

namespace Tables

def getUserById (t : Tables) (userId : Nat) : Except Failure (Option SqlUser) :=
  oneOrNone (t.users.filter (fun user => decide (user.id = userId)))

def listExperimentPermissionsForExperiment (t : Tables) (experimentId : String) :
    List SqlPermission :=
  (t.userPermissions .experiment).filter (fun row => decide (row.key.resourceId = experimentId))

/-- The loop of `get_experiment_owner`. -/
def ownerAmong (t : Tables) : List SqlPermission → Except Failure (Option String)
  | [] => .ok none
  | perm :: rest =>
    if perm.permission = Permission.manage.name then do
      match ← t.getUserById perm.ownerId with
      | some user => return some user.username
      | none => ownerAmong t rest
    else ownerAmong t rest

def getExperimentOwner (t : Tables) (order : RowOrder) (experimentId : String) : Option String :=
  match t.ownerAmong (order.list (t.listExperimentPermissionsForExperiment experimentId)) with
  | .ok owner => owner
  | .error _ => none

/-- The account that an upload to an experiment is charged to. -/
def chargedAccount (t : Tables) (order : RowOrder) (experimentId : String) : Option String :=
  truthy (t.getExperimentOwner order experimentId)

/-- The rows that let users manage an experiment. -/
def managers (t : Tables) (experimentId : String) : List SqlPermission :=
  (t.listExperimentPermissionsForExperiment experimentId).filter
    (fun row => decide (row.permission = Permission.manage.name))

end Tables

section Owner

theorem chargeOwner_account {services : HookServices} {t : Tables} {order : RowOrder} {id : String}
    (told : services.experimentOwner id = .ok (t.getExperimentOwner order id)) (size : Nat) :
    chargeOwner services id (some (size + 1)) =
      match t.chargedAccount order id with
      | none => .ok ()
      | some owner => services.enforceQuota owner >>= fun _ =>
        services.incrementUsedBytes owner (size + 1) := by
  simp only [chargeOwner,told,Tables.chargedAccount,bind,Except.bind]
  cases truthy (t.getExperimentOwner order id) <;> rfl

theorem getUser_of_member {db : Database} {user : SqlUser} (member : user ∈ db.tables.users) :
    db.tables.getUser user.username = .ok user := by
  have listed : user ∈ db.tables.usersNamed user.username :=
    List.mem_filter.mpr ⟨member,decide_eq_true rfl⟩
  apply Tables.getUser_eq_ok.mpr
  rcases usersNamed_unique db user.username with absent | ⟨only,known⟩
  · rw [absent] at listed
    cases listed
  · rw [known,List.mem_singleton] at listed
    rw [known,listed]

theorem owner_of_row {db : Database} {row : SqlPermission} {family : Family}
    (stored : row ∈ db.tables.userPermissions family) :
    ∃ user ∈ db.tables.users, user.id = row.ownerId ∧
      db.tables.getUserById row.ownerId = .ok (some user) ∧
      db.tables.getUser user.username = .ok user := by
  obtain ⟨user,member,same⟩ := List.mem_map.mp ((db.integrity.userPermissions family).1.2.2 row stored)
  refine ⟨user,member,same,?_,?_⟩
  · apply oneOrNone_eq_some.mpr
    have found : ∀ other : SqlUser, decide (other.id = row.ownerId) = true →
        other.id = row.ownerId := fun other matched => of_decide_eq_true matched
    rcases filter_unique db.integrity.userIds row.ownerId found with none | ⟨only,single⟩
    · have listed : user ∈ db.tables.users.filter (fun user => decide (user.id = row.ownerId)) :=
        List.mem_filter.mpr ⟨member,decide_eq_true same⟩
      rw [none] at listed
      cases listed
    · have listed : user ∈ db.tables.users.filter (fun user => decide (user.id = row.ownerId)) :=
        List.mem_filter.mpr ⟨member,decide_eq_true same⟩
      rw [single,List.mem_singleton] at listed
      rw [listed]
      exact single
  · exact getUser_of_member member

theorem ownerAmong_manage {t : Tables} {rows : List SqlPermission} {first : SqlPermission}
    {rest : List SqlPermission} {user : SqlUser}
    (managers : rows.filter (fun row => decide (row.permission = Permission.manage.name)) =
      first :: rest)
    (known : t.getUserById first.ownerId = .ok (some user)) :
    t.ownerAmong rows = .ok (some user.username) := by
  induction rows with
  | nil => cases managers
  | cons row later ih =>
    rw [List.filter_cons] at managers
    unfold Tables.ownerAmong
    by_cases manages : row.permission = Permission.manage.name
    · rw [if_pos (decide_eq_true manages)] at managers
      obtain ⟨rfl,_⟩ := List.cons.inj managers
      rw [if_pos manages]
      simp only [known,bind,Except.bind]
      rfl
    · rw [if_neg (by simpa using manages)] at managers
      rw [if_neg manages]
      exact ih managers

theorem managers_listed (t : Tables) (order : RowOrder) (id : String) :
    ((order.list (t.listExperimentPermissionsForExperiment id)).filter
      (fun row => decide (row.permission = Permission.manage.name))).Perm (t.managers id) :=
  (List.perm_insertionSort _ _).filter _

/-- The owner is the user of the manager's row that is listed first. -/
theorem getExperimentOwner_of_first {db : Database} {order : RowOrder} {id : String}
    {first : SqlPermission} {rest : List SqlPermission}
    (managed : (order.list (db.tables.listExperimentPermissionsForExperiment id)).filter
      (fun row => decide (row.permission = Permission.manage.name)) = first :: rest) :
    ∃ user, user.id = first.ownerId ∧ db.tables.getUser user.username = .ok user ∧
      db.tables.getExperimentOwner order id = some user.username := by
  have member : first ∈ db.tables.managers id := by
    rw [← (managers_listed db.tables order id).mem_iff,managed]
    exact List.mem_cons_self
  have stored : first ∈ db.tables.userPermissions .experiment :=
    List.mem_of_mem_filter (List.mem_of_mem_filter member)
  obtain ⟨user,_,same,known,named⟩ := owner_of_row stored
  refine ⟨user,same,named,?_⟩
  simp only [Tables.getExperimentOwner,ownerAmong_manage managed known]

theorem getExperimentOwner_of_sole {db : Database} (order : RowOrder) {id : String}
    {row : SqlPermission} (alone : db.tables.managers id = [row]) :
    ∃ user, user.id = row.ownerId ∧ db.tables.getUser user.username = .ok user ∧
      db.tables.getExperimentOwner order id = some user.username := by
  have listed := managers_listed db.tables order id
  rw [alone,List.perm_singleton] at listed
  exact getExperimentOwner_of_first listed

theorem mem_ownedBy {db : Database} {username id : String} :
    id ∈ ownedBy db .experiment username ↔
      ∃ user, db.tables.getUser username = .ok user ∧
        ∃ row ∈ db.tables.managers id, row.ownerId = user.id := by
  unfold ownedBy Tables.listPermissionsForUser
  cases found : db.tables.getUser username with
  | error failure => simp [bind,Except.bind]
  | ok user =>
    simp only [bind,Except.bind,pure,Except.pure,ownedNames,Tables.managers,
      Tables.listExperimentPermissionsForExperiment,List.mem_map,List.mem_filter,decide_eq_true_eq,
      Except.ok.injEq,exists_eq_left']
    constructor
    · rintro ⟨row,⟨⟨stored,owner⟩,manages⟩,named⟩
      exact ⟨row,⟨⟨stored,named⟩,manages⟩,owner⟩
    · rintro ⟨row,⟨⟨stored,named⟩,manages⟩,owner⟩
      exact ⟨row,⟨⟨stored,owner⟩,manages⟩,named⟩

end Owner

section Scans
variable (around : Surroundings)

/-- The full scan of one user after the other, and what the scans that return find. -/
def scanUsers : List String → QuotaState → List (String × Sizes)
  | [], _ => []
  | username :: rest, state =>
    match calculateUsedBytes around username state with
    | .ok measured reached => (username,measured.2) :: scanUsers rest reached
    | .error _ reached => scanUsers rest reached

/-- MLflow's client raises nothing but its own exceptions. -/
structure ClientRaises : Prop where
  experiments : ∀ workspaceName id failure,
    around.getExperiment workspaceName id = .error failure → failure.isMlflow = true
  models : ∀ workspaceName filter failure,
    around.searchModelVersions workspaceName filter = .error failure → failure.isMlflow = true

variable {around}

theorem not_interrupted (raises : ClientRaises around) (workspaceNames : List (Option String))
    (items : List (String ⊕ String)) : ¬ Interrupted (probe around) workspaceNames items := by
  have quiet : ∀ workspaceName item, probe around workspaceName item ≠ .raised := by
    intro workspaceName item
    cases item with
    | inl id =>
      cases answer : around.getExperiment workspaceName id with
      | ok experiment => simp [probe,probeOf,answer]
      | error failure =>
        simp [probe,probeOf,answer,raises.experiments workspaceName id failure answer]
    | inr name =>
      cases answer : around.searchModelVersions workspaceName (modelFilter name) with
      | ok versions => simp [probe,probeOf,answer]
      | error failure => simp [probe,probeOf,answer,raises.models workspaceName _ failure answer]
  induction workspaceNames generalizing items with
  | nil => exact fun interrupted => interrupted
  | cons workspaceName rest ih =>
    rintro (⟨item,_,raised⟩ | later)
    · exact quiet workspaceName item raised
    · exact ih _ later

/-- The accounts, the sizes that scans count and the rows of what they count are still those of
an earlier state. -/
structure ScansAlike (around : Surroundings) (earlier state : QuotaState) : Prop where
  accounts : state.db.tables.accounts = earlier.db.tables.accounts
  sizes : ∀ id, countedSize around state.sizeCache id = countedSize around earlier.sizeCache id
  rows : ∀ id, countedSize around earlier.sizeCache id ≠ none →
    permissionRows state.db id = permissionRows earlier.db id

theorem wipeOrphans_cache (ids : List String) {state reached : QuotaState}
    (ran : ids.forM wipeOrphan state = .ok () reached) (id : String) :
    reached.sizeCache.get id = if id ∈ ids then none else state.sizeCache.get id := by
  refine forM_relates (fun ids state reached =>
    reached.sizeCache.get id = if id ∈ ids then none else state.sizeCache.get id) ?_ ?_ ran
  · intro state
    simp
  · intro first rest state middle reached wiped later
    rw [later]
    obtain ⟨db,committed,_⟩ := wipeExperimentPermissions_commits first state.db
    simp only [wipeOrphan,committed] at wiped
    cases wiped
    by_cases same : id = first
    · subst same
      simp
    · simp only [Cache.get_delete_of_ne _ same,List.mem_cons,same,false_or]

theorem calculate_countedSize {username : String} {state reached : QuotaState}
    {measured : Nat × Sizes} (ran : calculateUsedBytes around username state = .ok measured reached)
    (id : String) : countedSize around reached.sizeCache id = countedSize around state.sizeCache id := by
  by_cases owns : ownedBy state.db .experiment username = [] ∧
      ownedBy state.db .registeredModel username = []
  · rw [(calculate_idles ran owns).2]
  · obtain ⟨swept,counted,_,wipes⟩ := calculate_sweeps ran owns
    have wiped := wipeOrphans_cache _ wipes id
    rw [counted.remainingExperiments] at wiped
    unfold countedSize
    simp only [List.mem_filter,mem_startRemaining] at wiped
    rw [wiped]
    split
    · next orphaned =>
      obtain ⟨⟨_,uncached⟩,nowhere⟩ := orphaned
      rw [uncached]
    · rcases counted.cached id with kept | ⟨asked,found,stored⟩
      · rw [kept]
        rfl
      · rw [mem_startRemaining] at asked
        rw [stored,asked.2,Option.none_or,Option.or_self]

theorem firstAnswer_of_unlocated {workspaceNames : List (Option String)} {id : String}
    (unlocated : Unlocated (probe around) workspaceNames (.inl id)) :
    firstAnswer (experimentAnswer around) workspaceNames id = none := by
  rw [firstAnswer,List.findSome?_eq_none_iff]
  intro workspaceName listed
  cases answer : around.getExperiment workspaceName id with
  | error failure => simp only [experimentAnswer,answer]
  | ok experiment =>
    exact absurd unlocated (located_iff.mpr ⟨workspaceName,listed,experiment,answer⟩)

theorem scansAlike_step {username : String} {state reached : QuotaState} {measured : Nat × Sizes}
    (ran : calculateUsedBytes around username state = .ok measured reached) :
    ScansAlike around state reached := by
  refine ⟨(keeps_calculateUsedBytes around username).of_ok ran,calculate_countedSize ran,?_⟩
  intro id counted
  have wiped := calculateUsedBytes_rows around username state id
  rw [after,ran,finish] at wiped
  apply wiped.2
  rintro ⟨_,unsized,unlocated⟩
  have uncached : state.sizeCache.get id = none := by
    simpa using (List.mem_filter.mp unsized).2
  rw [countedSize,uncached,firstAnswer_of_unlocated unlocated] at counted
  exact counted rfl

theorem ScansAlike.trans {first second third : QuotaState} (alike : ScansAlike around first second)
    (alike' : ScansAlike around second third) : ScansAlike around first third := by
  refine ⟨alike'.accounts.trans alike.accounts,fun id => (alike'.sizes id).trans (alike.sizes id),?_⟩
  intro id counted
  exact (alike'.rows id (by rwa [alike.sizes])).trans (alike.rows id counted)

theorem managers_of_rows {db other : Database} {id : String}
    (same : permissionRows other id = permissionRows db id) :
    other.tables.managers id = db.tables.managers id := by
  have listed : other.tables.listExperimentPermissionsForExperiment id =
      db.tables.listExperimentPermissionsForExperiment id := congrFun same .user
  simp only [Tables.managers,listed]

theorem getUser_of_accounts {t other : Tables} (same : other.accounts = t.accounts)
    (username : String) : other.getUser username = t.getUser username := by
  have users : other.users = t.users := congrArg Prod.fst same
  simp only [Tables.getUser,Tables.usersNamed,users]

theorem ownedBy_alike {earlier state : QuotaState} (alike : ScansAlike around earlier state)
    {id : String} (counted : countedSize around earlier.sizeCache id ≠ none) (username : String) :
    id ∈ ownedBy state.db .experiment username ↔ id ∈ ownedBy earlier.db .experiment username := by
  rw [mem_ownedBy,mem_ownedBy,managers_of_rows (alike.rows id counted)]
  simp only [getUser_of_accounts alike.accounts]

theorem scan_returns (raises : ClientRaises around) {earlier state : QuotaState}
    (alike : ScansAlike around earlier state) {username : String} {user : SqlUser}
    (known : earlier.db.tables.getUser username = .ok user) :
    ∃ measured reached, calculateUsedBytes around username state = .ok measured reached := by
  have found : state.db.tables.getUser username = .ok user := by
    rw [getUser_of_accounts alike.accounts]
    exact known
  have listed : state.db.tables.listPermissionsForUser .experiment username =
      .ok ((state.db.tables.userPermissions .experiment).filter
        (fun row => decide (row.ownerId = user.id))) := by
    simp only [Tables.listPermissionsForUser,found,bind,Except.bind]
    rfl
  exact calculate_returns listed (not_interrupted raises _ _)

/-- Every user is scanned, and every scan finds the counted sizes of what its user owned before
the first of them. -/
theorem scanUsers_spec (raises : ClientRaises around) {earlier state : QuotaState}
    (alike : ScansAlike around earlier state) {usernames : List String}
    (known : ∀ username ∈ usernames, ∃ user, earlier.db.tables.getUser username = .ok user) :
    (scanUsers around usernames state).map Prod.fst = usernames ∧
    ∀ scan ∈ scanUsers around usernames state, ∀ id, scan.2.get id =
      if id ∈ ownedBy earlier.db .experiment scan.1 then countedSize around earlier.sizeCache id
      else none := by
  induction usernames generalizing state with
  | nil => exact ⟨rfl,fun scan member => by cases member⟩
  | cons username rest ih =>
    obtain ⟨user,found⟩ := known username List.mem_cons_self
    obtain ⟨measured,reached,ran⟩ := scan_returns raises alike found
    obtain ⟨names,sizes⟩ := ih (alike.trans (scansAlike_step ran))
      (fun other member => known other (List.mem_cons_of_mem _ member))
    unfold scanUsers
    simp only [ran]
    refine ⟨by rw [List.map_cons,names],fun scan member id => ?_⟩
    rcases List.mem_cons.mp member with rfl | later
    · rw [calculated_sizes ran,alike.sizes]
      by_cases counted : countedSize around earlier.sizeCache id = none
      · simp [counted]
      · simp only [ownedBy_alike alike counted]
    · exact sizes scan later id

end Scans

section Law
variable (around : Surroundings)

/-- The bytes that scans find for an experiment. -/
def artifactBytes (state : QuotaState) (id : String) : Nat :=
  (countedSize around state.sizeCache id).getD 0

/-- The experiments that some user manages. -/
def ownedExperiments (t : Tables) : List String :=
  (ownedNames (t.userPermissions .experiment)).dedup

def allScans (state : QuotaState) : List (String × Sizes) :=
  scanUsers around (state.db.tables.users.map SqlUser.username) state

/-- Every experiment with artifacts and an owner is counted in the scan of the account that an
upload to it is charged to and in no other, and the scans of all users sum up to the owned bytes. -/
def CountedForOwner (state : QuotaState) : Prop :=
  (∀ id ∈ ownedExperiments state.db.tables, 0 < artifactBytes around state id →
    (∃ scan ∈ allScans around state, (scan.2.get id).isSome) ∧
    ∀ scan ∈ allScans around state, (scan.2.get id).isSome ↔
      state.db.tables.chargedAccount around.rowOrder id = some scan.1) ∧
  ((allScans around state).map (fun scan =>
      ((ownedExperiments state.db.tables).map (fun id => (scan.2.get id).getD 0)).sum)).sum =
    ((ownedExperiments state.db.tables).map (artifactBytes around state)).sum

/-- One user manages the experiment, and the user has a name. -/
def ManagedByOne (t : Tables) (id : String) : Prop :=
  ∃ row, t.managers id = [row] ∧ ∀ user ∈ t.users, user.id = row.ownerId → user.username ≠ ""

variable {around} {state : QuotaState}

theorem scansAlike_refl (state : QuotaState) : ScansAlike around state state :=
  ⟨rfl,fun _ => rfl,fun _ _ => rfl⟩

theorem allScans_spec (raises : ClientRaises around) (state : QuotaState) :
    (allScans around state).map Prod.fst = state.db.tables.users.map SqlUser.username ∧
    ∀ scan ∈ allScans around state, ∀ id, scan.2.get id =
      if id ∈ ownedBy state.db .experiment scan.1 then countedSize around state.sizeCache id
      else none := by
  apply scanUsers_spec raises (scansAlike_refl state)
  intro username named
  obtain ⟨user,member,rfl⟩ := List.mem_map.mp named
  exact ⟨user,getUser_of_member member⟩

theorem mem_ownedExperiments {t : Tables} {id : String} :
    id ∈ ownedExperiments t ↔ t.managers id ≠ [] := by
  rw [ownedExperiments,List.mem_dedup,ownedNames,List.mem_map]
  constructor
  · rintro ⟨row,kept,named⟩
    obtain ⟨stored,manages⟩ := List.mem_filter.mp kept
    exact List.ne_nil_of_mem
      (List.mem_filter.mpr ⟨List.mem_filter.mpr ⟨stored,decide_eq_true named⟩,manages⟩)
  · intro managed
    obtain ⟨row,member⟩ := List.exists_mem_of_ne_nil _ managed
    obtain ⟨listed,manages⟩ := List.mem_filter.mp member
    obtain ⟨stored,named⟩ := List.mem_filter.mp listed
    exact ⟨row,List.mem_filter.mpr ⟨stored,manages⟩,of_decide_eq_true named⟩

theorem countedSize_of_bytes {id : String} (bytes : 0 < artifactBytes around state id) :
    countedSize around state.sizeCache id = some (artifactBytes around state id) := by
  unfold artifactBytes at bytes ⊢
  cases counted : countedSize around state.sizeCache id with
  | some found => rfl
  | none =>
    rw [counted] at bytes
    cases bytes

theorem manager_counts (raises : ClientRaises around) {id : String}
    (bytes : 0 < artifactBytes around state id) {row : SqlPermission}
    (manages : row ∈ state.db.tables.managers id) :
    ∃ user, user.id = row.ownerId ∧ user ∈ state.db.tables.users ∧
      ∃ scan ∈ allScans around state, scan.1 = user.username ∧ (scan.2.get id).isSome := by
  obtain ⟨names,sizes⟩ := allScans_spec raises state
  have stored : row ∈ state.db.tables.userPermissions .experiment :=
    List.mem_of_mem_filter (List.mem_of_mem_filter manages)
  obtain ⟨user,member,same,_,known⟩ := owner_of_row stored
  have named : user.username ∈ (allScans around state).map Prod.fst := by
    rw [names]
    exact List.mem_map.mpr ⟨user,member,rfl⟩
  obtain ⟨scan,scanned,first⟩ := List.mem_map.mp named
  refine ⟨user,same,member,scan,scanned,first,?_⟩
  have owned : id ∈ ownedBy state.db .experiment scan.1 := by
    rw [first]
    exact mem_ownedBy.mpr ⟨user,known,row,manages,same.symm⟩
  rw [sizes scan scanned id,if_pos owned,countedSize_of_bytes bytes]
  rfl

theorem managers_nodup (db : Database) (id : String) : (db.tables.managers id).Nodup :=
  (((db.integrity.userPermissions .experiment).1.1.of_map _).filter _).filter _

theorem manager_unique {db : Database} {id : String} {row other : SqlPermission}
    (manages : row ∈ db.tables.managers id) (manages' : other ∈ db.tables.managers id)
    (same : row.ownerId = other.ownerId) : row = other := by
  obtain ⟨⟨_,keys,_⟩,unscored⟩ := db.integrity.userPermissions .experiment
  obtain ⟨stored,named⟩ := List.mem_filter.mp (List.mem_of_mem_filter manages)
  obtain ⟨stored',named'⟩ := List.mem_filter.mp (List.mem_of_mem_filter manages')
  have plain : ∀ perm ∈ db.tables.userPermissions .experiment, perm.key = ⟨perm.key.resourceId,none⟩ := by
    intro perm member
    have none := unscored perm member
    have absent : perm.key.scorerName = Option.none := by simpa using none
    rw [← absent]
  have key : row.key = other.key := by
    rw [plain row stored,plain other stored',of_decide_eq_true named,of_decide_eq_true named']
  exact List.inj_on_of_nodup_map keys stored stored' (by rw [key,same])

theorem managedByOne_of_counted (raises : ClientRaises around) {id : String}
    (owned : id ∈ ownedExperiments state.db.tables) (bytes : 0 < artifactBytes around state id)
    (counted : ∀ scan ∈ allScans around state, (scan.2.get id).isSome ↔
      state.db.tables.chargedAccount around.rowOrder id = some scan.1) :
    ManagedByOne state.db.tables id := by
  obtain ⟨first,rest,managed⟩ := List.exists_cons_of_ne_nil (mem_ownedExperiments.mp owned)
  have charged : ∀ row ∈ state.db.tables.managers id, ∃ user ∈ state.db.tables.users,
      user.id = row.ownerId ∧
        state.db.tables.chargedAccount around.rowOrder id = some user.username := by
    intro row manages
    obtain ⟨user,same,member,scan,scanned,named,counts⟩ := manager_counts raises bytes manages
    exact ⟨user,member,same,named ▸ (counted scan scanned).mp counts⟩
  have head : first ∈ state.db.tables.managers id := by simp [managed]
  obtain ⟨user,member,same,account⟩ := charged first head
  have all : ∀ row ∈ state.db.tables.managers id, row = first := by
    intro row manages
    obtain ⟨other,member',same',account'⟩ := charged row manages
    rw [account,Option.some.injEq] at account'
    have one : user = other := user_of_name member member' account'
    exact manager_unique manages head (by rw [← same,← same',one])
  refine ⟨first,?_,?_⟩
  · have alone : rest = [] := by
      have distinct := managers_nodup state.db id
      rw [managed] at distinct
      rw [List.eq_nil_iff_forall_not_mem]
      intro row later
      have same := all row (by simp [managed,later])
      exact (List.nodup_cons.mp distinct).1 (same ▸ later)
    rw [managed,alone]
  · intro other member' same'
    have one : other = user := user_of_id member' member (same'.trans same.symm)
    rw [one]
    exact (truthy_eq_some.mp account).2

theorem sum_exchange {A B : Type} (bytes : A → B → Nat) (items : List A) (others : List B) :
    (items.map (fun a => (others.map (bytes a)).sum)).sum =
      (others.map (fun b => (items.map (fun a => bytes a b)).sum)).sum := by
  induction items with
  | nil => simp
  | cons a rest ih => simp only [List.map_cons,List.sum_cons,ih,List.sum_map_add]

theorem user_of_getUser {t : Tables} {username : String} {user : SqlUser}
    (known : t.getUser username = .ok user) : user ∈ t.users ∧ user.username = username :=
  mem_of_usersNamed (Tables.getUser_eq_ok.mp known)

theorem ownedBy_sole {db : Database} {id : String} {row : SqlPermission} {user : SqlUser}
    (alone : db.tables.managers id = [row]) (same : user.id = row.ownerId)
    (known : db.tables.getUser user.username = .ok user) (username : String) :
    id ∈ ownedBy db .experiment username ↔ username = user.username := by
  rw [mem_ownedBy,alone]
  constructor
  · rintro ⟨other,found,held,member,owner⟩
    rw [List.mem_singleton] at member
    subst member
    obtain ⟨listed,named⟩ := user_of_getUser found
    have one : other = user :=
      user_of_id listed (user_of_getUser known).1 (owner.symm.trans same.symm)
    rw [← named,one]
  · rintro rfl
    exact ⟨user,known,row,List.mem_singleton_self row,same.symm⟩

theorem counted_once (raises : ClientRaises around) {id : String}
    (managed : 0 < artifactBytes around state id → ManagedByOne state.db.tables id) :
    ((allScans around state).map (fun scan => (scan.2.get id).getD 0)).sum =
      artifactBytes around state id := by
  obtain ⟨names,sizes⟩ := allScans_spec raises state
  rcases Nat.eq_zero_or_pos (artifactBytes around state id) with none | bytes
  · rw [none]
    apply List.sum_eq_zero
    intro counted member
    obtain ⟨scan,scanned,rfl⟩ := List.mem_map.mp member
    rw [sizes scan scanned id]
    split
    · exact none
    · rfl
  · obtain ⟨row,alone,_⟩ := managed bytes
    obtain ⟨user,same,known,_⟩ := getExperimentOwner_of_sole around.rowOrder alone
    have counts : ∀ scan ∈ allScans around state, (scan.2.get id).getD 0 =
        (only user.username (some (artifactBytes around state id)) scan.1).getD 0 := by
      intro scan scanned
      rw [sizes scan scanned id,countedSize_of_bytes bytes,only]
      simp only [ownedBy_sole alone same known]
    have byName : (allScans around state).map (fun scan =>
          (only user.username (some (artifactBytes around state id)) scan.1).getD 0) =
        ((allScans around state).map Prod.fst).map (fun username =>
          (only user.username (some (artifactBytes around state id)) username).getD 0) := by
      rw [List.map_map]
      rfl
    rw [List.map_congr_left counts,byName,names]
    apply sum_only state.db.integrity.usernames
    exact List.mem_map.mpr ⟨user,(user_of_getUser known).1,rfl⟩

end Law

section Sample

/-- Experiment 7 is managed by Alice and by Bob. -/
def sharedState : QuotaState where
  db :=
    { tables := { Tables.empty with
        users := [⟨1,"alice","Alice","",none,false,false⟩,⟨2,"bob","Bob","",none,false,false⟩]
        userPermissions := fun family =>
          if family = .experiment then
            [⟨1,⟨"7",none⟩,1,"MANAGE",false⟩,⟨2,⟨"7",none⟩,2,"MANAGE",false⟩]
          else [] }
      integrity := by decide }
  sizeCache := Cache.empty

theorem overDefault_raises : ClientRaises overDefault := by
  constructor
  · intro _ _ _ failed
    cases failed
  · intro _ _ _ failed
    cases failed

end Sample
end MlflowOidcAuth
