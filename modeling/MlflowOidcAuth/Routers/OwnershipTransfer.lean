import MlflowOidcAuth.Hook.CreationGrants
import MlflowOidcAuth.Hook.PromptAccess
import MlflowOidcAuth.Quota.Ownership
import MlflowOidcAuth.Routers.Login

/-! The transfer of an experiment to a new owner: a downgrade of the owner that is looked up
first and a grant to the new one, each in a session of its own that may raise. -/
namespace MlflowOidcAuth
open Effects

/-- The calls of the store at which a transfer may be interrupted. -/
inductive TransferStep
  | lookup
  | profile
  | downgrade
  | upgrade
  | create
deriving DecidableEq, Repr

structure TransferCall where
  experimentId : String
  newOwner : String
  currentUsername : String
  isAdmin : Bool

def TransferCall.key (call : TransferCall) : ResourceKey := ⟨call.experimentId,none⟩

/-- A call that raises instead of running, as on a database that is locked or gone. -/
def mayRaise {α : Type} (fault : Option Failure) (program : EStateM Failure Database α) :
    EStateM Failure Database α := fun db =>
  match fault with
  | some failure => .error failure db
  | none => program db

section Endpoint
variable (order : RowOrder) (env : StoreEnv) (faults : TransferStep → Option Failure)
  (call : TransferCall)

/-- `get_experiment_owner` catches whatever its reads raise. -/
def currentOwner (t : Tables) : Option String :=
  match faults .lookup with
  | some _ => none
  | none => t.getExperimentOwner order call.experimentId

def updateOwnerPermission (step : TransferStep) (username permission : String) :
    EStateM Failure Database PUnit :=
  mayRaise (faults step)
    ((Operation.update .user .experiment call.key username permission).run env)

def downgradeOwner (owner : Option String) : EStateM Failure Database PUnit :=
  match truthy owner with
  | none => pure ()
  | some owner =>
    quietly (updateOwnerPermission env faults call .downgrade owner Permission.edit.name)

/-- Any exception of the update leads to a creation. -/
def upgradeOwner : EStateM Failure Database PUnit := fun db =>
  match updateOwnerPermission env faults call .upgrade call.newOwner Permission.manage.name db with
  | .ok _ reached => .ok () reached
  | .error _ reached =>
    mayRaise (faults .create) ((Operation.grant .user .experiment call.key call.newOwner
      Permission.manage.name).run env) reached

/-- From the profile on; a missing user is an exception of the store, not a `None`. -/
def moveOwnership (owner : Option String) : EStateM Failure Database PUnit := do
  mayRaise (faults .profile) (UserModule.getUserProfile call.newOwner)
  downgradeOwner env faults call owner
  upgradeOwner env faults call

def transferExperimentOwnership : EStateM Refusal Database String := fun db =>
  let owner := currentOwner order faults call db.tables
  if call.isAdmin = false ∧ owner ≠ some call.currentUsername then
    .error (.http 403 "Only the experiment owner or an admin can transfer ownership") db
  else if owner = some call.newOwner then
    .ok "No change — new owner is already the owner" db
  else
    match moveOwnership env faults call owner db with
    | .ok _ reached => .ok ("Ownership of experiment " ++ call.experimentId ++ " transferred to " ++
        call.newOwner) reached
    | .error _ reached => .error (.http 500 "Failed to transfer ownership") reached

def experimentRows (t : Tables) (experimentId : String) (holder : Holder) : List SqlPermission :=
  (t.direct holder .experiment).filter (fun row => decide (row.key.resourceId = experimentId))

/-- A transfer that succeeds makes the new owner the owner; one that fails changes nothing. -/
structure TransfersOwnership (db : Database) : Prop where
  success : ∀ message reached,
    transferExperimentOwnership order env faults call db = .ok message reached →
    reached.tables.getExperimentOwner order call.experimentId = some call.newOwner
  failure : ∀ refusal reached,
    transferExperimentOwnership order env faults call db = .error refusal reached →
    reached.tables.getExperimentOwner order call.experimentId =
        db.tables.getExperimentOwner order call.experimentId ∧
      experimentRows reached.tables call.experimentId = experimentRows db.tables call.experimentId

end Endpoint

/-! The rows of one experiment: an owner is the holder of the row that says `MANAGE` and is
listed before the others that do. -/
section Rows

def manages (row : SqlPermission) : Bool := decide (row.permission = Permission.manage.name)

def setLevel (owner : Nat) (permission : String) (rows : List SqlPermission) : List SqlPermission :=
  rows.map (fun row => if row.ownerId = owner then { row with permission := permission } else row)

/-- The rows of other managers that are listed before a row. -/
def managersBefore (order : RowOrder) (place : SqlPermission) (rows : List SqlPermission) :
    List SqlPermission :=
  rows.filter (fun row => manages row &&
    decide (row.ownerId ≠ place.ownerId ∧ order.rank row < order.rank place))

/-- The user's row says `MANAGE` and is listed before every other that does. -/
def LedBy (order : RowOrder) (owner : Nat) (rows : List SqlPermission) : Prop :=
  ∃ first ∈ rows, manages first = true ∧ first.ownerId = owner ∧
    ∀ row ∈ rows, manages row = true → row.ownerId ≠ owner → order.rank first < order.rank row

variable {order : RowOrder} {other : Nat} {rows : List SqlPermission} {place row : SqlPermission}

theorem mem_managersBefore : row ∈ managersBefore order place rows ↔
    row ∈ rows ∧ manages row = true ∧ row.ownerId ≠ place.ownerId ∧
      order.rank row < order.rank place := by
  simp only [managersBefore,List.mem_filter,Bool.and_eq_true,decide_eq_true_eq]

theorem rank_ne (distinct : (rows.map SqlPermission.id).Nodup) {later : SqlPermission}
    (member : row ∈ rows) (member' : later ∈ rows) (apart : row.ownerId ≠ later.ownerId) :
    order.rank row ≠ order.rank later := by
  intro same
  rcases order.apart row later same with sameId | sameOwner
  · rw [List.inj_on_of_nodup_map distinct member member' sameId] at apart
    exact apart rfl
  · exact apart sameOwner

/-- A manager's row leads exactly when no other manager's is listed before it. -/
theorem ledBy_iff_before (distinct : (rows.map SqlPermission.id).Nodup)
    (owners : (rows.map SqlPermission.ownerId).Nodup) (placed : place ∈ rows)
    (leads : manages place = true) :
    LedBy order place.ownerId rows ↔ managersBefore order place rows = [] := by
  constructor
  · intro ⟨first,member,_,own,least⟩
    obtain rfl : first = place := List.inj_on_of_nodup_map owners member placed own
    rw [List.eq_nil_iff_forall_not_mem]
    intro row before
    obtain ⟨stored,manager,apart,lower⟩ := mem_managersBefore.mp before
    have higher := least row stored manager apart
    omega
  · intro empty
    refine ⟨place,placed,leads,rfl,?_⟩
    intro row stored manager apart
    have differ : order.rank row ≠ order.rank place := rank_ne distinct stored placed apart
    have notBefore : row ∉ managersBefore order place rows := by
      rw [empty]
      exact List.not_mem_nil
    have notLower : ¬ order.rank row < order.rank place :=
      fun lower => notBefore (mem_managersBefore.mpr ⟨stored,manager,apart,lower⟩)
    omega

/-- Rows of the same user do not count. -/
theorem managersBefore_nil_congr {reached : List SqlPermission}
    (others : ∀ row : SqlPermission, row.ownerId ≠ place.ownerId →
      (row ∈ reached ↔ row ∈ rows)) :
    managersBefore order place reached = [] ↔ managersBefore order place rows = [] := by
  simp only [List.eq_nil_iff_forall_not_mem,mem_managersBefore]
  apply forall_congr'
  intro row
  apply not_congr
  constructor
  · intro ⟨stored,manager,apart,lower⟩
    exact ⟨(others row apart).mp stored,manager,apart,lower⟩
  · intro ⟨stored,manager,apart,lower⟩
    exact ⟨(others row apart).mpr stored,manager,apart,lower⟩

theorem managersBefore_lowered (rows : List SqlPermission) :
    managersBefore order place (setLevel other Permission.edit.name rows) =
      (managersBefore order place rows).filter (fun row => decide (row.ownerId ≠ other)) := by
  have notManage : ∀ row : SqlPermission,
      manages { row with permission := Permission.edit.name } = false := by
    intro row
    simp [manages,Permission.edit,Permission.manage]
  induction rows with
  | nil => rfl
  | cons row rest ih =>
    unfold managersBefore setLevel at ih ⊢
    rw [List.map_cons,List.filter_cons,List.filter_cons,ih]
    by_cases lowered : row.ownerId = other
    · rw [if_pos lowered,notManage,Bool.false_and,if_neg Bool.false_ne_true]
      split
      · rw [List.filter_cons,if_neg (by simp [lowered])]
      · rfl
    · rw [if_neg lowered]
      split
      · rw [List.filter_cons,if_pos (by simp [lowered])]
      · rfl

/-- Once the first of all managers is lowered, no manager comes before another user's row
exactly when at most one did. -/
theorem lowered_nil_iff (distinct : (rows.map SqlPermission.ownerId).Nodup)
    (led : LedBy order other rows) (apart : other ≠ place.ownerId) :
    managersBefore order place (setLevel other Permission.edit.name rows) = [] ↔
      (managersBefore order place rows).length ≤ 1 := by
  obtain ⟨first,stored,leads,own,least⟩ := led
  have owners : ((managersBefore order place rows).map SqlPermission.ownerId).Nodup :=
    distinct.sublist (List.filter_sublist.map _)
  -- The first of all managers is among those that come before, if anybody is.
  have leading : ∀ row ∈ managersBefore order place rows,
      first ∈ managersBefore order place rows := by
    intro row before
    obtain ⟨member,manager,_,lower⟩ := mem_managersBefore.mp before
    refine mem_managersBefore.mpr ⟨stored,leads,own ▸ apart,?_⟩
    by_cases same : row.ownerId = other
    · rw [List.inj_on_of_nodup_map distinct stored member (own.trans same.symm)]
      exact lower
    · exact (least row member manager same).trans lower
  rw [managersBefore_lowered]
  cases found : managersBefore order place rows with
  | nil => simp
  | cons row later =>
    rw [found] at owners leading
    have member := leading row List.mem_cons_self
    cases later with
    | nil =>
      rw [List.mem_singleton] at member
      simp [← member,own]
    | cons next rest =>
      simp only [List.length_cons,Nat.reduceLeDiff,iff_false]
      intro none
      have all := List.filter_eq_nil_iff.mp none
      have ofRow := all row List.mem_cons_self
      have ofNext := all next (List.mem_cons_of_mem _ List.mem_cons_self)
      simp only [decide_eq_true_eq,not_not] at ofRow ofNext
      have differ := (List.nodup_cons.mp owners).1
      exact differ (by simp [ofRow,ofNext])

end Rows

section Writes
variable (env : StoreEnv) {order : RowOrder} {db : Database} {id username permission : String}
  {user : SqlUser}

def userRowsOf (t : Tables) (id : String) : List SqlPermission :=
  t.listExperimentPermissionsForExperiment id

theorem TableIntegrity.rewrite {Row Id Key : Type*} {column : Row → Id} {constraint : Row → Key}
    {owner : Row → Nat} {owners : List Nat} {rows : List Row}
    (valid : TableIntegrity column constraint owner owners rows) {change : Row → Row}
    (ids : ∀ row, column (change row) = column row)
    (constraints : ∀ row, constraint (change row) = constraint row)
    (owned : ∀ row, owner (change row) = owner row) :
    TableIntegrity column constraint owner owners (rows.map change) := by
  obtain ⟨distinct,unique,known⟩ := valid
  refine ⟨?_,?_,?_⟩
  · rw [List.map_map,(funext ids : column ∘ change = column)]
    exact distinct
  · rw [List.map_map,(funext constraints : constraint ∘ change = constraint)]
    exact unique
  · intro row member
    obtain ⟨before,stored,rfl⟩ := List.mem_map.mp member
    rw [owned]
    exact known before stored

theorem mem_userRowsOf {row : SqlPermission} : row ∈ userRowsOf db.tables id ↔
    row ∈ db.tables.userPermissions .experiment ∧ row.key = ⟨id,none⟩ := by
  simp only [userRowsOf,Tables.listExperimentPermissionsForExperiment,List.mem_filter,
    decide_eq_true_eq]
  apply and_congr_right
  intro stored
  have unscored : row.key.scorerName = none := by
    simpa using (db.integrity.userPermissions .experiment).2 row stored
  constructor
  · intro named
    rw [← named,← unscored]
  · intro keyed
    rw [keyed]

theorem userRows_of_owned {row : SqlPermission} (member : row ∈ userRowsOf db.tables id)
    (owned : row.ownerId = user.id) :
    db.tables.userRows .experiment ⟨id,none⟩ user = [row] := by
  obtain ⟨stored,keyed⟩ := mem_userRowsOf.mp member
  have found : row ∈ db.tables.userRows .experiment ⟨id,none⟩ user :=
    List.mem_filter.mpr ⟨stored,by simp [keyed,owned]⟩
  rcases userRows_unique db .experiment ⟨id,none⟩ user with empty | ⟨other,only⟩
  · rw [empty] at found
    cases found
  · rw [only] at found ⊢
    rw [List.mem_singleton.mp found]

theorem userRows_of_unowned (without : ∀ row ∈ userRowsOf db.tables id, row.ownerId ≠ user.id) :
    db.tables.userRows .experiment ⟨id,none⟩ user = [] := by
  simp only [Tables.userRows,List.filter_eq_nil_iff,decide_eq_true_eq,not_and]
  intro row stored keyed
  exact without row (mem_userRowsOf.mpr ⟨stored,keyed⟩)

theorem owners_distinct (db : Database) (id : String) :
    ((userRowsOf db.tables id).map SqlPermission.ownerId).Nodup := by
  apply List.Nodup.map_on
  · intro row member other member' same
    obtain ⟨stored,keyed⟩ := mem_userRowsOf.mp member
    obtain ⟨stored',keyed'⟩ := mem_userRowsOf.mp member'
    exact List.inj_on_of_nodup_map (db.integrity.userPermissions .experiment).1.2.1 stored stored'
      (by rw [keyed,keyed',same])
  · exact ((db.integrity.userPermissions .experiment).1.1.of_map _).filter _

theorem ids_distinct (db : Database) (id : String) :
    ((userRowsOf db.tables id).map SqlPermission.id).Nodup :=
  (db.integrity.userPermissions .experiment).1.1.sublist (List.filter_sublist.map _)

theorem ownerAmong_none {t : Tables} {rows : List SqlPermission}
    (unmanaged : rows.filter manages = []) : t.ownerAmong rows = .ok none := by
  induction rows with
  | nil => rfl
  | cons row rest ih =>
    rw [List.filter_cons] at unmanaged
    unfold Tables.ownerAmong
    by_cases leads : row.permission = Permission.manage.name
    · rw [if_pos (by simpa [manages] using leads)] at unmanaged
      cases unmanaged
    · rw [if_neg (by simpa [manages] using leads)] at unmanaged
      rw [if_neg leads]
      exact ih unmanaged

variable (known : db.tables.getUser username = .ok user)
include known

theorem update_ok (valid : validatePermission permission = .ok ())
    (has : ∃ row ∈ userRowsOf db.tables id, row.ownerId = user.id) :
    ∃ db', (Operation.update .user .experiment ⟨id,none⟩ username permission).run env db =
        .ok () db' ∧ db'.tables.users = db.tables.users ∧
      (db'.tables.userPermissions .experiment).map SqlPermission.id =
        (db.tables.userPermissions .experiment).map SqlPermission.id ∧
      userRowsOf db'.tables id = setLevel user.id permission (userRowsOf db.tables id) := by
  obtain ⟨found,member,owned⟩ := has
  let change : SqlPermission → SqlPermission := fun row =>
    if row.id = found.id then { row with permission := permission } else row
  have kept : ∀ row, (change row).id = row.id ∧ (change row).key = row.key ∧
      (change row).ownerId = row.ownerId := by
    intro row
    simp only [change]
    split
    · exact ⟨rfl,rfl,rfl⟩
    · exact ⟨rfl,rfl,rfl⟩
  have integrity : Integrity (db.tables.withDirect .user .experiment
      ((db.tables.direct .user .experiment).map change)) := by
    apply db.integrity.withDirect
    obtain ⟨table,scorers⟩ := db.integrity.direct .user .experiment
    refine ⟨table.rewrite (fun row => (kept row).1) ?_ (fun row => (kept row).2.2),?_⟩
    · intro row
      rw [(kept row).2.1,(kept row).2.2]
    · intro row stored
      obtain ⟨before,listed,rfl⟩ := List.mem_map.mp stored
      rw [(kept before).2.1]
      exact scorers before listed
  refine ⟨⟨_,integrity⟩,session_commits ?_ integrity,rfl,?_,?_⟩
  · simp only [Tables.updatePermission,valid,Tables.directRow,
      Tables.getUserPermission_of_user known,userRows_of_owned member owned]
    rfl
  · simp only [Tables.withDirect,Tables.direct,Function.update_self,List.map_map]
    exact List.map_congr_left (fun row _ => (kept row).1)
  · simp only [userRowsOf,Tables.listExperimentPermissionsForExperiment,Tables.withDirect,
      Tables.direct,Function.update_self,setLevel,List.filter_map]
    have names : (fun row : SqlPermission => decide (row.key.resourceId = id)) ∘ change =
        fun row => decide (row.key.resourceId = id) := by
      funext row
      simp only [Function.comp,(kept row).2.1]
    rw [names]
    apply List.map_congr_left
    intro row listed
    have sameRow : row.id = found.id ↔ row.ownerId = user.id := by
      rw [← owned]
      constructor
      · intro same
        rw [List.inj_on_of_nodup_map (db.integrity.userPermissions .experiment).1.1
          (List.mem_of_mem_filter listed) (List.mem_of_mem_filter member) same]
      · intro same
        rw [List.inj_on_of_nodup_map (owners_distinct db id) listed member same]
    simp only [change,sameRow]

theorem update_raises (without : ∀ row ∈ userRowsOf db.tables id, row.ownerId ≠ user.id) :
    ∃ failure, (Operation.update .user .experiment ⟨id,none⟩ username permission).run env db =
      .error failure db := by
  cases valid : validatePermission permission with
  | error failure =>
    refine ⟨failure,session_raises ?_⟩
    simp only [Tables.updatePermission,valid]
    rfl
  | ok _ =>
    refine ⟨.mlflow .resourceDoesNotExist (Family.experiment.missingPermission ⟨id,none⟩ username),
      session_raises ?_⟩
    simp only [Tables.updatePermission,valid,Tables.directRow,
      Tables.getUserPermission_of_user known,userRows_of_unowned without]
    rfl

theorem grant_ok (valid : validatePermission permission = .ok ())
    (without : ∀ row ∈ userRowsOf db.tables id, row.ownerId ≠ user.id) :
    ∃ db', (Operation.grant .user .experiment ⟨id,none⟩ username permission).run env db =
        .ok () db' ∧ db'.tables.users = db.tables.users ∧
      userRowsOf db'.tables id =
        userRowsOf db.tables id ++ [grantedRow db.tables .experiment ⟨id,none⟩ user permission] := by
  refine ⟨⟨_,(withGranted_integrity known rfl).mpr (userRows_of_unowned without)⟩,
    session_commits (grantPermission_of_user valid known) _,rfl,?_⟩
  simp [userRowsOf,Tables.listExperimentPermissionsForExperiment,withGranted,Tables.withDirect,
    grantedRow]

theorem grant_raises (valid : validatePermission permission = .ok ())
    (has : ∃ row ∈ userRowsOf db.tables id, row.ownerId = user.id) :
    ∃ failure, (Operation.grant .user .experiment ⟨id,none⟩ username permission).run env db =
      .error failure db := by
  obtain ⟨row,member,owned⟩ := has
  refine ⟨_,session_rejects (grantPermission_of_user valid known) ?_⟩
  intro integrity
  have empty := (withGranted_integrity known rfl).mp integrity
  rw [userRows_of_owned member owned] at empty
  cases empty

/-- A known user is the owner exactly when the user's row leads the managers. -/
theorem owner_iff_ledBy : db.tables.getExperimentOwner order id = some username ↔
    LedBy order user.id (userRowsOf db.tables id) := by
  have perm : (order.list (userRowsOf db.tables id)).Perm (userRowsOf db.tables id) :=
    List.perm_insertionSort _ _
  have sorted : (order.list (userRowsOf db.tables id)).Pairwise
      (fun row other => order.rank row ≤ order.rank other) := List.pairwise_insertionSort _ _
  have listed : ∀ row, row ∈ (order.list (userRowsOf db.tables id)).filter manages ↔
      row ∈ userRowsOf db.tables id ∧ manages row = true := by
    intro row
    rw [List.mem_filter,perm.mem_iff]
  cases managed : (order.list (userRowsOf db.tables id)).filter manages with
  | nil =>
    have none_manages : db.tables.ownerAmong
        (order.list (db.tables.listExperimentPermissionsForExperiment id)) = .ok none :=
      ownerAmong_none managed
    simp only [Tables.getExperimentOwner,none_manages,reduceCtorEq,false_iff]
    intro led
    obtain ⟨first,stored,leads,_⟩ := led
    have member := (listed first).mpr ⟨stored,leads⟩
    rw [managed] at member
    cases member
  | cons first rest =>
    obtain ⟨owner,same,named,owns⟩ := getExperimentOwner_of_first managed
    have leader := (listed first).mp (managed ▸ List.mem_cons_self)
    have least : ∀ row ∈ userRowsOf db.tables id, manages row = true →
        row.ownerId ≠ first.ownerId → order.rank first < order.rank row := by
      intro row stored manager apart
      have member := (listed row).mpr ⟨stored,manager⟩
      have ranks := sorted.filter manages
      rw [managed] at member ranks
      have later := (List.mem_cons.mp member).resolve_left (fun isFirst => apart (by rw [isFirst]))
      have atMost := (List.pairwise_cons.mp ranks).1 row later
      have differ : order.rank first ≠ order.rank row :=
        rank_ne (ids_distinct db id) leader.1 stored apart.symm
      omega
    have led : LedBy order user.id (userRowsOf db.tables id) ↔ first.ownerId = user.id := by
      constructor
      · intro leads
        obtain ⟨other,stored,manager,own,lowest⟩ := leads
        by_contra apart
        have below := lowest first leader.1 leader.2 apart
        have above := least other stored manager (fun sameOwner => apart (sameOwner.symm.trans own))
        omega
      · intro own
        exact ⟨first,leader.1,leader.2,own,own ▸ least⟩
    rw [owns,led,Option.some.injEq]
    constructor
    · intro sameName
      rw [sameName,known,Except.ok.injEq] at named
      rw [named,same]
    · intro own
      have isUser := user_of_id (user_of_getUser named).1 (user_of_getUser known).1
        (same.trans own)
      rw [isUser,(user_of_getUser known).2]

end Writes

section Conditions
variable (order : RowOrder) (faults : TransferStep → Option Failure) (call : TransferCall)

/-- The checks let the transfer through to its writes. -/
structure ReachesWrites (t : Tables) (user : SqlUser) : Prop where
  allowed : call.isAdmin = true ∨ currentOwner order faults call t = some call.currentUsername
  changes : currentOwner order faults call t ≠ some call.newOwner
  profile : faults .profile = none
  known : t.getUser call.newOwner = .ok user

def HasRow (t : Tables) (user : SqlUser) : Prop :=
  user.id ∈ (userRowsOf t call.experimentId).map SqlPermission.ownerId

/-- An owner is found and the downgrade goes through. -/
def Downgrades (t : Tables) : Prop :=
  faults .lookup = none ∧ faults .downgrade = none ∧
    ∃ owner, truthy (t.getExperimentOwner order call.experimentId) = some owner

/-- The row of the new owner is updated or, where there is none, created. -/
def Grants (t : Tables) (user : SqlUser) : Prop :=
  (HasRow call t user ∧ faults .upgrade = none) ∨ (¬ HasRow call t user ∧ faults .create = none)

/-- The new owner's row as the grant leaves it, in the place of the row that there is or of a
new one. -/
def managingRow (t : Tables) (user : SqlUser) : SqlPermission :=
  match (userRowsOf t call.experimentId).find? (fun row => decide (row.ownerId = user.id)) with
  | some row => { row with permission := Permission.manage.name }
  | none => grantedRow t .experiment call.key user Permission.manage.name

/-- The rows of other managers that are listed before the new owner's. -/
def managersAhead (t : Tables) (user : SqlUser) : List SqlPermission :=
  managersBefore order (managingRow call t user) (userRowsOf t call.experimentId)

end Conditions

section Transfer
variable {order : RowOrder} {env : StoreEnv} {faults : TransferStep → Option Failure} {call : TransferCall}
  {db : Database} {user : SqlUser}

theorem mayRaise_some {α : Type} {fault : Option Failure} {failure : Failure}
    (raises : fault = some failure) (program : EStateM Failure Database α) (db : Database) :
    mayRaise fault program db = .error failure db := by
  simp only [mayRaise,raises]

theorem mayRaise_none {α : Type} {fault : Option Failure} (quiet : fault = none)
    (program : EStateM Failure Database α) : mayRaise fault program = program := by
  funext db
  simp only [mayRaise,quiet]

theorem owners_setLevel (owner : Nat) (permission : String) (rows : List SqlPermission) :
    (setLevel owner permission rows).map SqlPermission.ownerId =
      rows.map SqlPermission.ownerId := by
  rw [setLevel,List.map_map]
  apply List.map_congr_left
  intro row _
  simp only [Function.comp]
  split <;> rfl

theorem mem_setLevel_of_other {owner : Nat} {permission : String} {rows : List SqlPermission}
    {row : SqlPermission} (apart : row.ownerId ≠ owner) :
    row ∈ setLevel owner permission rows ↔ row ∈ rows := by
  simp only [setLevel,List.mem_map]
  constructor
  · rintro ⟨before,stored,rewritten⟩
    split at rewritten
    · next own =>
      rw [← rewritten] at apart
      exact absurd own apart
    · exact rewritten ▸ stored
  · intro stored
    exact ⟨row,stored,if_neg apart⟩

theorem hasRow_iff {t : Tables} : HasRow call t user ↔
    ∃ row ∈ userRowsOf t call.experimentId, row.ownerId = user.id := List.mem_map

theorem valid_edit : validatePermission Permission.edit.name = .ok () := by decide

theorem owner_known {id owner : String}
    (owns : db.tables.getExperimentOwner order id = some owner) :
    ∃ user, db.tables.getUser owner = .ok user := by
  cases managed : (order.list (userRowsOf db.tables id)).filter manages with
  | nil =>
    have none_manages : db.tables.ownerAmong
        (order.list (db.tables.listExperimentPermissionsForExperiment id)) = .ok none :=
      ownerAmong_none managed
    simp [Tables.getExperimentOwner,none_manages] at owns
  | cons first rest =>
    obtain ⟨user,_,known,named⟩ := getExperimentOwner_of_first managed
    rw [named,Option.some.injEq] at owns
    exact ⟨user,owns ▸ known⟩

/-- The downgrade never raises. It lowers the first manager or leaves everything as it is. -/
theorem downgradeOwner_spec (order : RowOrder) (env : StoreEnv)
    (faults : TransferStep → Option Failure) (call : TransferCall) (db : Database) :
    ∃ db', downgradeOwner env faults call (currentOwner order faults call db.tables) db =
        .ok () db' ∧
      db'.tables.users = db.tables.users ∧
      (¬ Downgrades order faults call db.tables → db' = db) ∧
      (Downgrades order faults call db.tables → ∃ owner,
        LedBy order owner (userRowsOf db.tables call.experimentId) ∧
        (db'.tables.userPermissions .experiment).map SqlPermission.id =
          (db.tables.userPermissions .experiment).map SqlPermission.id ∧
        userRowsOf db'.tables call.experimentId =
          setLevel owner Permission.edit.name (userRowsOf db.tables call.experimentId)) := by
  by_cases downgrades : Downgrades order faults call db.tables
  · obtain ⟨quiet,quiet',owner,named⟩ := downgrades
    have owns := (truthy_eq_some.mp named).1
    obtain ⟨holder,known⟩ := owner_known owns
    have led := (owner_iff_ledBy known).mp owns
    obtain ⟨first,stored,_,own,_⟩ := led
    obtain ⟨db',ran,users,ids,rows⟩ := update_ok env known valid_edit ⟨first,stored,own⟩
    refine ⟨db',?_,users,fun not => absurd ⟨quiet,quiet',owner,named⟩ not,
      fun _ => ⟨holder.id,(owner_iff_ledBy known).mp owns,ids,rows⟩⟩
    simp only [downgradeOwner,currentOwner,quiet,named,updateOwnerPermission,
      mayRaise_none quiet',quietly,after]
    rw [TransferCall.key,ran]
    rfl
  · refine ⟨db,?_,rfl,fun _ => rfl,fun yes => absurd yes downgrades⟩
    unfold downgradeOwner
    cases named : truthy (currentOwner order faults call db.tables) with
    | none => rfl
    | some owner =>
      cases lookup : faults .lookup with
      | some failure =>
        simp only [currentOwner,lookup] at named
        cases named
      | none =>
        simp only [currentOwner,lookup] at named
        cases fault : faults .downgrade with
        | none => exact absurd ⟨lookup,fault,owner,named⟩ downgrades
        | some failure =>
          simp only [updateOwnerPermission,quietly,after,mayRaise_some fault]
          rfl

theorem managingRow_of_row {t : Tables} (has : HasRow call t user) :
    ∃ row ∈ userRowsOf t call.experimentId, row.ownerId = user.id ∧
      managingRow call t user = { row with permission := Permission.manage.name } := by
  obtain ⟨row,stored,own⟩ := hasRow_iff.mp has
  cases found : (userRowsOf t call.experimentId).find?
      (fun row => decide (row.ownerId = user.id)) with
  | none => exact absurd own (by simpa using List.find?_eq_none.mp found row stored)
  | some first =>
    refine ⟨first,List.mem_of_find?_eq_some found,by simpa using List.find?_some found,?_⟩
    simp only [managingRow,found]

theorem managingRow_of_none {t : Tables} (lacks : ¬ HasRow call t user) :
    managingRow call t user = grantedRow t .experiment call.key user Permission.manage.name := by
  have none : (userRowsOf t call.experimentId).find? (fun row => decide (row.ownerId = user.id)) =
      none := by
    rw [List.find?_eq_none]
    intro row stored own
    exact lacks (hasRow_iff.mpr ⟨row,stored,of_decide_eq_true own⟩)
  simp only [managingRow,none]

theorem managingRow_ownerId (t : Tables) : (managingRow call t user).ownerId = user.id := by
  by_cases has : HasRow call t user
  · obtain ⟨row,_,own,written⟩ := managingRow_of_row has
    rw [written]
    exact own
  · rw [managingRow_of_none has]
    rfl

/-- The rows after a grant: the new owner's is there, and the others are as before. -/
theorem ledBy_iff_ahead {reached : Database}
    (placed : managingRow call db.tables user ∈ userRowsOf reached.tables call.experimentId)
    (others : ∀ row : SqlPermission, row.ownerId ≠ user.id →
      (row ∈ userRowsOf reached.tables call.experimentId ↔
        row ∈ userRowsOf db.tables call.experimentId)) :
    LedBy order user.id (userRowsOf reached.tables call.experimentId) ↔
      managersAhead order call db.tables user = [] := by
  have leads : manages (managingRow call db.tables user) = true := by
    by_cases has : HasRow call db.tables user
    · obtain ⟨row,_,_,written⟩ := managingRow_of_row has
      simp [written,manages]
    · simp [managingRow_of_none has,grantedRow,manages]
  have own : (managingRow call db.tables user).ownerId = user.id := managingRow_ownerId db.tables
  rw [← own,ledBy_iff_before (ids_distinct reached _) (owners_distinct reached _) placed leads]
  apply managersBefore_nil_congr
  rw [own]
  exact others

/-- The grant makes the new owner lead unless a manager comes before. -/
theorem upgradeOwner_grants (order : RowOrder) (known : db.tables.getUser call.newOwner = .ok user)
    (grants : Grants faults call db.tables user) :
    ∃ db', upgradeOwner env faults call db = .ok () db' ∧ db'.tables.users = db.tables.users ∧
      (LedBy order user.id (userRowsOf db'.tables call.experimentId) ↔
        managersAhead order call db.tables user = []) := by
  rcases grants with ⟨has,quiet⟩ | ⟨lacks,quiet⟩
  · obtain ⟨db',ran,users,_,rows⟩ := update_ok env known valid_manage (hasRow_iff.mp has)
    refine ⟨db',?_,users,ledBy_iff_ahead ?_ ?_⟩
    · simp only [upgradeOwner,updateOwnerPermission,mayRaise_none quiet,TransferCall.key,ran]
    · obtain ⟨row,stored,own,written⟩ := managingRow_of_row has
      rw [rows,written]
      exact List.mem_map.mpr ⟨row,stored,if_pos own⟩
    · intro row apart
      rw [rows]
      exact mem_setLevel_of_other apart
  · have without : ∀ row ∈ userRowsOf db.tables call.experimentId, row.ownerId ≠ user.id :=
      fun row member own => lacks (hasRow_iff.mpr ⟨row,member,own⟩)
    obtain ⟨db',ran,users,rows⟩ := grant_ok env known valid_manage without
    refine ⟨db',?_,users,ledBy_iff_ahead ?_ ?_⟩
    · have raised : ∃ failure, updateOwnerPermission env faults call .upgrade call.newOwner
          Permission.manage.name db = .error failure db := by
        cases fault : faults .upgrade with
        | some failure => exact ⟨failure,mayRaise_some fault _ _⟩
        | none =>
          rw [updateOwnerPermission,mayRaise_none fault]
          exact update_raises env known without
      obtain ⟨failure,raised⟩ := raised
      simp only [upgradeOwner,raised,mayRaise_none quiet,TransferCall.key,ran]
    · rw [rows,managingRow_of_none lacks]
      exact List.mem_append_right _ List.mem_cons_self
    · intro row apart
      rw [rows,List.mem_append,List.mem_singleton]
      refine or_iff_left ?_
      rintro rfl
      exact apart rfl

theorem upgradeOwner_raises (known : db.tables.getUser call.newOwner = .ok user)
    (lacks : ¬ Grants faults call db.tables user) :
    ∃ failure, upgradeOwner env faults call db = .error failure db := by
  have raises : ∀ step, faults step ≠ none → ∃ failure, faults step = some failure :=
    fun step => Option.ne_none_iff_exists'.mp
  have created : (∃ failure, updateOwnerPermission env faults call .upgrade call.newOwner
        Permission.manage.name db = .error failure db) ∧
      ∃ failure, mayRaise (faults .create) ((Operation.grant .user .experiment call.key call.newOwner
        Permission.manage.name).run env) db = .error failure db := by
    by_cases has : HasRow call db.tables user
    · obtain ⟨failure,fault⟩ := raises .upgrade (fun quiet => lacks (.inl ⟨has,quiet⟩))
      refine ⟨⟨failure,mayRaise_some fault _ _⟩,?_⟩
      cases second : faults .create with
      | some failure => exact ⟨failure,rfl⟩
      | none => exact grant_raises env known valid_manage (hasRow_iff.mp has)
    · obtain ⟨failure,fault⟩ := raises .create (fun quiet => lacks (.inr ⟨has,quiet⟩))
      refine ⟨?_,failure,mayRaise_some fault _ _⟩
      cases first : faults .upgrade with
      | some failure => exact ⟨failure,mayRaise_some first _ _⟩
      | none =>
        rw [updateOwnerPermission,mayRaise_none first]
        exact update_raises env known
          (fun row member own => has (hasRow_iff.mpr ⟨row,member,own⟩))
  obtain ⟨⟨_,raised⟩,failure,raised'⟩ := created
  exact ⟨failure,by simp only [upgradeOwner,raised,raised']⟩

theorem transfers_of_ok {message : String} {reached : Database}
    (ran : transferExperimentOwnership order env faults call db = .ok message reached) :
    TransfersOwnership order env faults call db ↔
      reached.tables.getExperimentOwner order call.experimentId = some call.newOwner := by
  constructor
  · intro transfers
    exact transfers.success message reached ran
  · intro owns
    constructor
    · intro message' reached' ran'
      rw [ran] at ran'
      cases ran'
      exact owns
    · intro refusal reached' raised
      rw [ran] at raised
      cases raised

theorem transfers_of_error {refusal : Refusal} {reached : Database}
    (raised : transferExperimentOwnership order env faults call db = .error refusal reached) :
    TransfersOwnership order env faults call db ↔
      reached.tables.getExperimentOwner order call.experimentId =
          db.tables.getExperimentOwner order call.experimentId ∧
        experimentRows reached.tables call.experimentId =
          experimentRows db.tables call.experimentId := by
  constructor
  · intro transfers
    exact transfers.failure refusal reached raised
  · intro unchanged
    constructor
    · intro message reached' ran
      rw [raised] at ran
      cases ran
    · intro refusal' reached' raised'
      rw [raised] at raised'
      cases raised'
      exact unchanged

theorem currentOwner_owns {t : Tables} {owner : String}
    (owns : currentOwner order faults call t = some owner) :
    t.getExperimentOwner order call.experimentId = some owner := by
  unfold currentOwner at owns
  cases lookup : faults .lookup with
  | some failure =>
    rw [lookup] at owns
    cases owns
  | none =>
    rw [lookup] at owns
    exact owns

theorem transfer_stops (stops : ∀ user, ¬ ReachesWrites order faults call db.tables user) :
    TransfersOwnership order env faults call db := by
  by_cases refused : call.isAdmin = false ∧
      currentOwner order faults call db.tables ≠ some call.currentUsername
  · have ran : transferExperimentOwnership order env faults call db =
        .error (.http 403 "Only the experiment owner or an admin can transfer ownership") db :=
      if_pos refused
    exact (transfers_of_error ran).mpr ⟨rfl,rfl⟩
  by_cases same : currentOwner order faults call db.tables = some call.newOwner
  · have ran : transferExperimentOwnership order env faults call db =
        .ok "No change — new owner is already the owner" db := (if_neg refused).trans (if_pos same)
    exact (transfers_of_ok ran).mpr (currentOwner_owns same)
  · have profile : ∃ failure, mayRaise (faults .profile)
        (UserModule.getUserProfile call.newOwner) db = .error failure db := by
      cases fault : faults .profile with
      | some failure => exact ⟨failure,rfl⟩
      | none =>
        apply getUserProfile_raises
        intro user known
        apply stops user
        refine ⟨?_,same,fault,known⟩
        by_cases admin : call.isAdmin = true
        · exact .inl admin
        · exact .inr (not_not.mp (fun other => refused ⟨by simpa using admin,other⟩))
    obtain ⟨failure,raised⟩ := profile
    have moved : moveOwnership env faults call (currentOwner order faults call db.tables) db =
        .error failure db := bind_of_error raised
    have ran : transferExperimentOwnership order env faults call db =
        .error (.http 500 "Failed to transfer ownership") db := by
      rw [transferExperimentOwnership,if_neg refused,if_neg same,moved]
    exact (transfers_of_error ran).mpr ⟨rfl,rfl⟩

/-- A transfer that reaches its writes ends as the grant after the downgrade does. -/
theorem transfer_writes (reaches : ReachesWrites order faults call db.tables user) {lowered : Database}
    (ran : downgradeOwner env faults call (currentOwner order faults call db.tables) db =
      .ok () lowered) :
    (∀ reached, upgradeOwner env faults call lowered = .ok () reached →
      ∃ message, transferExperimentOwnership order env faults call db = .ok message reached) ∧
    ∀ failure reached, upgradeOwner env faults call lowered = .error failure reached →
      ∃ refusal, transferExperimentOwnership order env faults call db = .error refusal reached := by
  obtain ⟨allowed,changes,profile,known⟩ := reaches
  have notRefused : ¬ (call.isAdmin = false ∧
      currentOwner order faults call db.tables ≠ some call.currentUsername) := by
    intro ⟨noAdmin,other⟩
    rcases allowed with admin | owner
    · rw [noAdmin] at admin
      cases admin
    · exact other owner
  have checked : mayRaise (faults .profile) (UserModule.getUserProfile call.newOwner) db =
      .ok () db := by
    rw [mayRaise_none profile]
    exact getUserProfile_of_user known
  have moved : moveOwnership env faults call (currentOwner order faults call db.tables) db =
      upgradeOwner env faults call lowered := (bind_of_ok checked).trans (bind_of_ok ran)
  constructor
  · intro reached upgraded
    refine ⟨"Ownership of experiment " ++ call.experimentId ++ " transferred to " ++ call.newOwner,?_⟩
    rw [transferExperimentOwnership,if_neg notRefused,if_neg changes,moved,upgraded]
  · intro failure reached raised
    refine ⟨.http 500 "Failed to transfer ownership",?_⟩
    rw [transferExperimentOwnership,if_neg notRefused,if_neg changes,moved,raised]

theorem setLevel_ne {owner : Nat} {rows : List SqlPermission} (led : LedBy order owner rows) :
    setLevel owner Permission.edit.name rows ≠ rows := by
  intro same
  obtain ⟨first,stored,leads,own,_⟩ := led
  rw [← same] at stored
  obtain ⟨before,_,rewritten⟩ := List.mem_map.mp stored
  split at rewritten
  · rw [← rewritten] at leads
    simp [manages,Permission.edit,Permission.manage] at leads
  · next apart =>
    rw [rewritten] at apart
    exact apart own

theorem managingRow_lowered {t lowered : Tables} {owner : Nat} (apart : owner ≠ user.id)
    (ids : (lowered.userPermissions .experiment).map SqlPermission.id =
      (t.userPermissions .experiment).map SqlPermission.id)
    (rows : userRowsOf lowered call.experimentId =
      setLevel owner Permission.edit.name (userRowsOf t call.experimentId)) :
    managingRow call lowered user = managingRow call t user := by
  have owned : (fun row => decide (row.ownerId = user.id)) ∘ (fun row : SqlPermission =>
      if row.ownerId = owner then { row with permission := Permission.edit.name } else row) =
      fun row => decide (row.ownerId = user.id) := by
    funext row
    simp only [Function.comp]
    split <;> rfl
  rw [managingRow,rows,setLevel,List.find?_map,owned,managingRow]
  cases found : (userRowsOf t call.experimentId).find?
      (fun row => decide (row.ownerId = user.id)) with
  | none => simp only [Option.map_none,grantedRow,ids]
  | some row =>
    have own : row.ownerId = user.id := by simpa using List.find?_some found
    simp only [Option.map_some,own,if_neg apart.symm]

/-- The downgrade leaves the rows' holders as they are; at most the first manager's row no longer
comes before the new owner's. -/
theorem downgradeOwner_before (order : RowOrder) (env : StoreEnv)
    (faults : TransferStep → Option Failure) (call : TransferCall) (db : Database)
    (reaches : ReachesWrites order faults call db.tables user) :
    ∃ lowered, downgradeOwner env faults call (currentOwner order faults call db.tables) db =
        .ok () lowered ∧ lowered.tables.users = db.tables.users ∧
      (¬ Downgrades order faults call db.tables → lowered = db) ∧
      (Downgrades order faults call db.tables → userRowsOf lowered.tables call.experimentId ≠
        userRowsOf db.tables call.experimentId) ∧
      (HasRow call lowered.tables user ↔ HasRow call db.tables user) ∧
      (managersAhead order call lowered.tables user = [] ↔
        managersAhead order call db.tables user = [] ∨
          (Downgrades order faults call db.tables ∧
            (managersAhead order call db.tables user).length ≤ 1)) := by
  obtain ⟨lowered,ran,users,kept,changed⟩ := downgradeOwner_spec order env faults call db
  refine ⟨lowered,ran,users,kept,?_⟩
  by_cases downgrades : Downgrades order faults call db.tables
  · obtain ⟨owner,led,ids,rows⟩ := changed downgrades
    have apart : owner ≠ user.id := by
      rintro rfl
      apply reaches.changes
      rw [currentOwner,downgrades.1]
      exact (owner_iff_ledBy reaches.known).mpr led
    refine ⟨fun _ => ?_,?_,?_⟩
    · rw [rows]
      exact setLevel_ne led
    · rw [HasRow,rows,owners_setLevel,HasRow]
    · have place : (managingRow call db.tables user).ownerId = user.id :=
        managingRow_ownerId db.tables
      rw [managersAhead,managersAhead,managingRow_lowered apart ids rows,rows,
        lowered_nil_iff (owners_distinct db call.experimentId) led (place ▸ apart)]
      simp only [downgrades,true_and,List.eq_nil_iff_length_eq_zero]
      omega
  · rw [kept downgrades]
    simp only [downgrades,false_implies,false_and,or_false,true_and]

/-- A transfer makes the new owner the owner or changes nothing exactly when it stops before
its writes, or the grant goes through and every manager's row listed before the new owner's is
the one that the downgrade lowers, or neither the grant nor the downgrade goes through. -/
theorem transfersOwnership_iff (order : RowOrder) (env : StoreEnv)
    (faults : TransferStep → Option Failure) (call : TransferCall) (db : Database) :
    TransfersOwnership order env faults call db ↔
      ∀ user, ReachesWrites order faults call db.tables user →
        (Grants faults call db.tables user →
          managersAhead order call db.tables user = [] ∨
          (Downgrades order faults call db.tables ∧
            (managersAhead order call db.tables user).length ≤ 1)) ∧
        (¬ Grants faults call db.tables user → ¬ Downgrades order faults call db.tables) := by
  by_cases stops : ∀ user, ¬ ReachesWrites order faults call db.tables user
  · constructor
    · intro _ user reaches
      exact absurd reaches (stops user)
    · intro _
      exact transfer_stops stops
  obtain ⟨user,reaches⟩ := not_forall_not.mp stops
  have only : ∀ other, ReachesWrites order faults call db.tables other → other = user := by
    intro other reaches'
    have same := reaches'.known
    rw [reaches.known,Except.ok.injEq] at same
    exact same.symm
  obtain ⟨lowered,ran,users,kept,changed,owners,before⟩ :=
    downgradeOwner_before order env faults call db reaches
  obtain ⟨succeeds,fails⟩ := transfer_writes reaches ran
  have known : lowered.tables.getUser call.newOwner = .ok user := by
    rw [Tables.getUser,Tables.usersNamed,users]
    exact reaches.known
  have sameGrants : Grants faults call lowered.tables user ↔ Grants faults call db.tables user := by
    simp only [Grants,owners]
  have condition : TransfersOwnership order env faults call db ↔
      (Grants faults call db.tables user → managersAhead order call lowered.tables user = []) ∧
      (¬ Grants faults call db.tables user → ¬ Downgrades order faults call db.tables) := by
    by_cases grants : Grants faults call db.tables user
    · obtain ⟨reached,upgraded,users',leads⟩ :=
        upgradeOwner_grants order known (sameGrants.mpr grants)
      obtain ⟨message,ok⟩ := succeeds reached upgraded
      have named : reached.tables.getUser call.newOwner = .ok user := by
        rw [Tables.getUser,Tables.usersNamed,users']
        exact known
      rw [transfers_of_ok ok,owner_iff_ledBy named,leads]
      simp only [grants,forall_const,not_true_eq_false,false_implies,and_true]
    · obtain ⟨failure,raised⟩ := upgradeOwner_raises known (fun yes => grants (sameGrants.mp yes))
      obtain ⟨refusal,refused⟩ := fails failure lowered raised
      rw [transfers_of_error refused]
      simp only [grants,false_implies,not_false_eq_true,forall_const,true_and]
      constructor
      · intro unchanged downgrades
        exact changed downgrades (congrFun unchanged.2 .user)
      · intro quiet
        rw [kept quiet]
        exact ⟨rfl,rfl⟩
  rw [condition,before]
  constructor
  · intro holds other reaches'
    rw [only other reaches']
    exact holds
  · intro holds
    exact holds user reaches

end Transfer

section TwoManagers

/-- Alice and Carol both manage the experiment; Alice comes first and Bob last, by their own ids
as well as by those of their rows. -/
def twoManagers : Database where
  tables := { Tables.empty with
    users := [⟨1,"alice","Alice","",none,false,false⟩,⟨2,"carol","Carol","",none,false,false⟩,
      ⟨3,"bob","Bob","",none,false,false⟩]
    userPermissions := fun
      | .experiment => [⟨1,⟨"7",none⟩,1,"MANAGE",false⟩,⟨2,⟨"7",none⟩,2,"MANAGE",false⟩]
      | _ => [] }
  integrity := by decide

def aliceToBob : TransferCall := ⟨"7","bob","alice",false⟩

theorem owned_by_carol :
    ¬ ∀ order env faults call db, TransfersOwnership order env faults call db := by
  intro transfers
  have succeeds : returned (transferExperimentOwnership .byOwner .bare (fun _ => none) aliceToBob
      twoManagers) = some "Ownership of experiment 7 transferred to bob" := by decide +kernel
  have carols : (after (transferExperimentOwnership .byOwner .bare (fun _ => none) aliceToBob)
      twoManagers).tables.getExperimentOwner .byOwner "7" = some "carol" := by decide +kernel
  cases ran : transferExperimentOwnership .byOwner .bare (fun _ => none) aliceToBob twoManagers with
  | error refusal reached =>
    rw [ran] at succeeds
    cases succeeds
  | ok message reached =>
    have bobs : reached.tables.getExperimentOwner .byOwner "7" = some "bob" :=
      (transfers _ _ _ _ _).success message reached ran
    rw [after,ran,finish,bobs] at carols
    exact absurd carols (by decide)

end TwoManagers
end MlflowOidcAuth
