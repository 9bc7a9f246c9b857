import Mathlib.Data.List.Nodup
import MlflowOidcAuth.PyFloat

/-! The authorisation database: one row type for each shape of table, the schema's
keys and foreign keys as an invariant, and a managed session that commits only
states which satisfy it. -/
namespace MlflowOidcAuth

/-- A `datetime`: its wall-clock reading in microseconds and its UTC offset, when
it carries one. -/
structure DateTime where
  wallClock : Int
  utcOffset : Option Int
deriving DecidableEq, Repr

structure SqlUser where
  id : Nat
  username : String
  displayName : String
  passwordHash : String
  passwordExpiration : Option DateTime
  isAdmin : Bool
  isServiceAccount : Bool
deriving DecidableEq, Repr

structure SqlGroup where
  id : Nat
  groupName : String
deriving DecidableEq, Repr

structure SqlUserGroup where
  id : Nat
  userId : Nat
  groupId : Nat
deriving DecidableEq, Repr

/-- The resources that have a direct and a regex table for users and for groups.
Prompts share the tables of registered models. -/
inductive Family
  | experiment
  | registeredModel
  | scorer
  | gatewayEndpoint
  | gatewaySecret
  | gatewayModelDefinition
deriving DecidableEq, Repr

namespace Family

def all : List Family :=
  [.experiment,.registeredModel,.scorer,.gatewayEndpoint,.gatewaySecret,.gatewayModelDefinition]

theorem mem_all (family : Family) : family ∈ all := by cases family <;> decide

instance (p : Family → Prop) [DecidablePred p] : Decidable (∀ family, p family) :=
  decidable_of_iff (∀ family ∈ all, p family)
    ⟨fun every family => every family (mem_all family),fun every family _ => every family⟩

/-- The column that `resource_id_attr` names. -/
def resourceIdAttr : Family → String
  | .experiment => "experiment_id"
  | .registeredModel => "name"
  | .scorer => "experiment_id"
  | .gatewayEndpoint => "endpoint_id"
  | .gatewaySecret => "secret_id"
  | .gatewayModelDefinition => "model_definition_id"

end Family

/-- The columns that identify a resource; only scorer tables have a `scorer_name`. -/
structure ResourceKey where
  resourceId : String
  scorerName : Option String
deriving DecidableEq, Repr

/-- A direct grant. The owner is a user or a group, by table; only the group table
of registered models has a `prompt` column. -/
structure SqlPermission where
  id : Nat
  key : ResourceKey
  ownerId : Nat
  permission : String
  prompt : Bool
deriving DecidableEq, Repr

/-- A regex grant; only the two tables of registered models have a `prompt` column. -/
structure SqlRegexPermission where
  id : Nat
  regex : String
  priority : Int
  ownerId : Nat
  permission : String
  prompt : Bool
deriving DecidableEq, Repr

structure SqlWorkspacePermission where
  workspace : String
  ownerId : Nat
  permission : String
deriving DecidableEq, Repr

structure SqlUserQuota where
  id : Nat
  userId : Nat
  quotaBytes : Option Int
  usedBytes : Int
  softCapFraction : Option PyFloat
  lastReconciledAt : Option DateTime
  softNotifiedAt : Option DateTime
  hardBlocked : Bool
  email : Option String
deriving DecidableEq

structure Tables where
  users : List SqlUser
  groups : List SqlGroup
  userGroups : List SqlUserGroup
  userPermissions : Family → List SqlPermission
  groupPermissions : Family → List SqlPermission
  userRegexPermissions : Family → List SqlRegexPermission
  groupRegexPermissions : Family → List SqlRegexPermission
  workspacePermissions : List SqlWorkspacePermission
  workspaceGroupPermissions : List SqlWorkspacePermission
  workspaceRegexPermissions : List SqlRegexPermission
  workspaceGroupRegexPermissions : List SqlRegexPermission
  userQuotas : List SqlUserQuota

namespace Tables

def empty : Tables where
  users := []
  groups := []
  userGroups := []
  userPermissions := fun _ => []
  groupPermissions := fun _ => []
  userRegexPermissions := fun _ => []
  groupRegexPermissions := fun _ => []
  workspacePermissions := []
  workspaceGroupPermissions := []
  workspaceRegexPermissions := []
  workspaceGroupRegexPermissions := []
  userQuotas := []

def userIds (t : Tables) : List Nat := t.users.map SqlUser.id

def groupIds (t : Tables) : List Nat := t.groups.map SqlGroup.id

end Tables

/-- The primary key an insertion draws. -/
def nextId (ids : List Nat) : Nat := ids.foldr max 0 + 1

theorem nextId_not_mem (ids : List Nat) : nextId ids ∉ ids := by
  have bounded : ∀ known ∈ ids, known ≤ ids.foldr max 0 := by
    intro known member
    induction ids with
    | nil => cases member
    | cons first rest ih =>
      rcases List.mem_cons.mp member with rfl | later
      · exact le_max_left _ _
      · exact (ih later).trans (le_max_right _ _)
  intro member
  have := bounded _ member
  unfold nextId at this
  omega

/-- Primary key, unique constraint and owner foreign key of one table. -/
def TableIntegrity {Row Id Key : Type*} (id : Row → Id) (constraint : Row → Key)
    (owner : Row → Nat) (owners : List Nat) (rows : List Row) : Prop :=
  (rows.map id).Nodup ∧ (rows.map constraint).Nodup ∧ ∀ row ∈ rows, owner row ∈ owners

instance {Row Id Key : Type*} [DecidableEq Id] [DecidableEq Key] (id : Row → Id)
    (constraint : Row → Key) (owner : Row → Nat) (owners : List Nat) (rows : List Row) :
    Decidable (TableIntegrity id constraint owner owners rows) := by
  unfold TableIntegrity
  infer_instance

/-- Direct rows are unique by resource and owner, and carry a scorer name exactly in
the scorer tables. -/
def DirectIntegrity (family : Family) (owners : List Nat) (rows : List SqlPermission) : Prop :=
  TableIntegrity SqlPermission.id (fun row => (row.key,row.ownerId)) SqlPermission.ownerId
      owners rows ∧
    ∀ row ∈ rows, row.key.scorerName.isSome = decide (family = .scorer)

def RegexIntegrity (owners : List Nat) (rows : List SqlRegexPermission) : Prop :=
  TableIntegrity SqlRegexPermission.id (fun row => (row.regex,row.ownerId,row.prompt))
    SqlRegexPermission.ownerId owners rows

def WorkspaceIntegrity (owners : List Nat) (rows : List SqlWorkspacePermission) : Prop :=
  TableIntegrity (fun row => (row.workspace,row.ownerId)) (fun row => (row.workspace,row.ownerId))
    SqlWorkspacePermission.ownerId owners rows

instance (family : Family) (owners : List Nat) (rows : List SqlPermission) :
    Decidable (DirectIntegrity family owners rows) :=
  inferInstanceAs (Decidable (TableIntegrity _ _ _ _ _ ∧ _))

instance (owners : List Nat) (rows : List SqlRegexPermission) :
    Decidable (RegexIntegrity owners rows) :=
  inferInstanceAs (Decidable (TableIntegrity _ _ _ _ _))

instance (owners : List Nat) (rows : List SqlWorkspacePermission) :
    Decidable (WorkspaceIntegrity owners rows) :=
  inferInstanceAs (Decidable (TableIntegrity _ _ _ _ _))

/-- What the schema enforces on every committed state. -/
structure Integrity (t : Tables) : Prop where
  userIds : t.userIds.Nodup
  usernames : (t.users.map SqlUser.username).Nodup
  groupIds : t.groupIds.Nodup
  groupNames : (t.groups.map SqlGroup.groupName).Nodup
  memberUsers : TableIntegrity SqlUserGroup.id (fun row => (row.userId,row.groupId))
    SqlUserGroup.userId t.userIds t.userGroups
  memberGroups : ∀ row ∈ t.userGroups, row.groupId ∈ t.groupIds
  userPermissions : ∀ family, DirectIntegrity family t.userIds (t.userPermissions family)
  groupPermissions : ∀ family, DirectIntegrity family t.groupIds (t.groupPermissions family)
  userRegexPermissions : ∀ family, RegexIntegrity t.userIds (t.userRegexPermissions family)
  groupRegexPermissions : ∀ family, RegexIntegrity t.groupIds (t.groupRegexPermissions family)
  workspacePermissions : WorkspaceIntegrity t.userIds t.workspacePermissions
  workspaceGroupPermissions : WorkspaceIntegrity t.groupIds t.workspaceGroupPermissions
  workspaceRegexPermissions : RegexIntegrity t.userIds t.workspaceRegexPermissions
  workspaceGroupRegexPermissions : RegexIntegrity t.groupIds t.workspaceGroupRegexPermissions
  userQuotas : TableIntegrity SqlUserQuota.id SqlUserQuota.userId SqlUserQuota.userId
    t.userIds t.userQuotas

instance (t : Tables) : Decidable (Integrity t) :=
  decidable_of_iff
    (t.userIds.Nodup ∧ (t.users.map SqlUser.username).Nodup ∧ t.groupIds.Nodup ∧
      (t.groups.map SqlGroup.groupName).Nodup ∧
      TableIntegrity SqlUserGroup.id (fun row => (row.userId,row.groupId))
        SqlUserGroup.userId t.userIds t.userGroups ∧
      (∀ row ∈ t.userGroups, row.groupId ∈ t.groupIds) ∧
      (∀ family, DirectIntegrity family t.userIds (t.userPermissions family)) ∧
      (∀ family, DirectIntegrity family t.groupIds (t.groupPermissions family)) ∧
      (∀ family, RegexIntegrity t.userIds (t.userRegexPermissions family)) ∧
      (∀ family, RegexIntegrity t.groupIds (t.groupRegexPermissions family)) ∧
      WorkspaceIntegrity t.userIds t.workspacePermissions ∧
      WorkspaceIntegrity t.groupIds t.workspaceGroupPermissions ∧
      RegexIntegrity t.userIds t.workspaceRegexPermissions ∧
      RegexIntegrity t.groupIds t.workspaceGroupRegexPermissions ∧
      TableIntegrity SqlUserQuota.id SqlUserQuota.userId SqlUserQuota.userId
        t.userIds t.userQuotas)
    ⟨fun ⟨a,b,c,d,e,f,g,h,i,j,k,l,m,n,o⟩ => ⟨a,b,c,d,e,f,g,h,i,j,k,l,m,n,o⟩,
      fun ⟨a,b,c,d,e,f,g,h,i,j,k,l,m,n,o⟩ => ⟨a,b,c,d,e,f,g,h,i,j,k,l,m,n,o⟩⟩

/-- A committed state of the database. -/
structure Database where
  tables : Tables
  integrity : Integrity tables

/-- A managed session: the body's writes are committed together or, when it raises
or leaves a state the schema rejects, not at all. -/
def managedSession (violation : Failure) (body : Tables → Except Failure Tables)
    (db : Database) : Except Failure Database :=
  match body db.tables with
  | .error failure => .error failure
  | .ok tables =>
    if integrity : Integrity tables then .ok ⟨tables,integrity⟩ else .error violation

theorem managedSession_ok {violation : Failure} {body : Tables → Except Failure Tables}
    {db after : Database} (ok : managedSession violation body db = .ok after) :
    body db.tables = .ok after.tables := by
  unfold managedSession at ok
  split at ok
  · cases ok
  · next tables ran =>
    split at ok
    · cases ok
      exact ran
    · cases ok

theorem filter_unique {Row Key : Type*} {column : Row → Key} {rows : List Row}
    (unique : (rows.map column).Nodup) {matching : Row → Bool} (value : Key)
    (fixed : ∀ row, matching row = true → column row = value) :
    rows.filter matching = [] ∨ ∃ row, rows.filter matching = [row] := by
  have values : ∀ row ∈ rows.filter matching, column row = value :=
    fun row member => fixed row (List.mem_filter.mp member).2
  have nodup : ((rows.filter matching).map column).Nodup :=
    unique.sublist (List.filter_sublist.map column)
  match found : rows.filter matching with
  | [] => exact .inl rfl
  | [row] => exact .inr ⟨row,rfl⟩
  | first :: second :: rest =>
    rw [found] at values nodup
    have same : column first = column second :=
      (values first List.mem_cons_self).trans
        (values second (List.mem_cons_of_mem _ List.mem_cons_self)).symm
    simp [same] at nodup

end MlflowOidcAuth
