import MlflowOidcAuth.Store.Footprints

/-! The deletion of a user: the statements of its session, table by table, and what they leave
of the tables. -/
namespace MlflowOidcAuth
open Effects

/-- The tables with a `user_id`. -/
inductive UserTable
  | direct (family : Family)
  | regex (family : Family)
  | workspace
  | workspaceRegex
  | quota
  | membership
deriving DecidableEq, Repr

def UserTable.deletionOrder : List UserTable :=
  [.direct .experiment,.regex .experiment,.direct .registeredModel,.regex .registeredModel,
    .direct .scorer,.regex .scorer,.direct .gatewayEndpoint,.regex .gatewayEndpoint,
    .direct .gatewaySecret,.regex .gatewaySecret,.direct .gatewayModelDefinition,
    .regex .gatewayModelDefinition,.workspace,.workspaceRegex,.quota,.membership]

/-- A statement of the session, at which the database may raise. -/
def statement (raises : Option Failure) (written : Tables) : Except Failure Tables :=
  match raises with
  | some failure => .error failure
  | none => .ok written

namespace Tables

def deleteRows (userId : Nat) (t : Tables) : UserTable → Tables
  | .direct family => t.withDirect .user family
      ((t.direct .user family).filter (fun row => decide (row.ownerId ≠ userId)))
  | .regex family => t.withRegex .user family
      ((t.regex .user family).filter (fun row => decide (row.ownerId ≠ userId)))
  | .workspace => { t with
      workspacePermissions :=
        t.workspacePermissions.filter (fun row => decide (row.ownerId ≠ userId)) }
  | .workspaceRegex => { t with
      workspaceRegexPermissions :=
        t.workspaceRegexPermissions.filter (fun row => decide (row.ownerId ≠ userId)) }
  | .quota => { t with
      userQuotas := t.userQuotas.filter (fun quota => decide (quota.userId ≠ userId)) }
  | .membership => { t with
      userGroups := t.userGroups.filter (fun row => decide (row.userId ≠ userId)) }

/-- `UserRepository.delete`, statement by statement; the last is the account's own. -/
def deleteUserStatements (raises : Option UserTable → Option Failure) (username : String)
    (t : Tables) : Except Failure Tables := do
  let user ← t.getUser username
  let emptied ← UserTable.deletionOrder.foldlM
    (fun t table => statement (raises (some table)) (t.deleteRows user.id table)) t
  statement (raises none)
    { emptied with users := emptied.users.filter (fun other => decide (other.id ≠ user.id)) }

end Tables

/-- When the database raises at no statement, the session is the deletion of the store. -/
theorem deleteUserStatements_none (username : String) :
    Tables.deleteUserStatements (fun _ => none) username = Tables.deleteUser username := by
  funext t
  cases known : t.getUser username with
  | error failure => simp only [Tables.deleteUserStatements,Tables.deleteUser,known,bind,Except.bind]
  | ok user =>
    simp only [Tables.deleteUserStatements,Tables.deleteUser,known,bind,Except.bind,
      UserTable.deletionOrder,List.foldlM,statement,Tables.deleteRows,pure,Except.pure,
      Except.ok.injEq,Tables.withDirect,Tables.withRegex,Tables.direct,Tables.regex]
    congr 1
    · funext family
      cases family <;> rfl
    · funext family
      cases family <;> rfl

/-- No row of any table has the id. -/
structure Unreferenced (t : Tables) (userId : Nat) : Prop where
  account : userId ∉ t.userIds
  direct : ∀ family, ∀ row ∈ t.userPermissions family, row.ownerId ≠ userId
  regex : ∀ family, ∀ row ∈ t.userRegexPermissions family, row.ownerId ≠ userId
  workspace : ∀ row ∈ t.workspacePermissions, row.ownerId ≠ userId
  workspaceRegex : ∀ row ∈ t.workspaceRegexPermissions, row.ownerId ≠ userId
  quota : ∀ quota ∈ t.userQuotas, quota.userId ≠ userId
  membership : ∀ row ∈ t.userGroups, row.userId ≠ userId

/-- The rows that do not belong to a user. -/
def ofOthers {Row : Type} (owner : Row → Nat) (userId : Nat) (rows : List Row) : List Row :=
  rows.filter (fun row => decide (owner row ≠ userId))

/-- The accounts and rows of everybody else are the same, and so are all group tables. -/
structure OthersKept (userId : Nat) (t t' : Tables) : Prop where
  accounts : ofOthers SqlUser.id userId t'.users = ofOthers SqlUser.id userId t.users
  direct : ∀ family, ofOthers SqlPermission.ownerId userId (t'.userPermissions family) =
    ofOthers SqlPermission.ownerId userId (t.userPermissions family)
  regex : ∀ family, ofOthers SqlRegexPermission.ownerId userId (t'.userRegexPermissions family) =
    ofOthers SqlRegexPermission.ownerId userId (t.userRegexPermissions family)
  workspace : ofOthers SqlWorkspacePermission.ownerId userId t'.workspacePermissions =
    ofOthers SqlWorkspacePermission.ownerId userId t.workspacePermissions
  workspaceRegex : ofOthers SqlRegexPermission.ownerId userId t'.workspaceRegexPermissions =
    ofOthers SqlRegexPermission.ownerId userId t.workspaceRegexPermissions
  quota : ofOthers SqlUserQuota.userId userId t'.userQuotas =
    ofOthers SqlUserQuota.userId userId t.userQuotas
  membership : ofOthers SqlUserGroup.userId userId t'.userGroups =
    ofOthers SqlUserGroup.userId userId t.userGroups
  groups : t'.groups = t.groups
  groupDirect : t'.groupPermissions = t.groupPermissions
  groupRegex : t'.groupRegexPermissions = t.groupRegexPermissions
  groupWorkspace : t'.workspaceGroupPermissions = t.workspaceGroupPermissions
  groupWorkspaceRegex : t'.workspaceGroupRegexPermissions = t.workspaceGroupRegexPermissions

section Rows
variable {Row : Type} {owner : Row → Nat} {userId : Nat} {rows : List Row}

theorem owner_of_ofOthers : ∀ row ∈ ofOthers owner userId rows, owner row ≠ userId := by
  intro row member
  simpa using (List.mem_filter.mp member).2

theorem ofOthers_ofOthers : ofOthers owner userId (ofOthers owner userId rows) =
    ofOthers owner userId rows := by
  simp only [ofOthers,List.filter_filter,Bool.and_self]

theorem tableIntegrity_ofOthers {Id Key : Type} {id : Row → Id} {constraint : Row → Key}
    {owners : List Nat} (valid : TableIntegrity id constraint owner owners rows) (userId : Nat) :
    TableIntegrity id constraint owner (owners.filter (fun other => decide (other ≠ userId)))
      (ofOthers owner userId rows) := by
  have sub : (ofOthers owner userId rows).Sublist rows := List.filter_sublist
  obtain ⟨ids,constraints,owned⟩ := valid.sublist sub
  refine ⟨ids,constraints,fun row member => ?_⟩
  rw [List.mem_filter,decide_eq_true_eq]
  exact ⟨owned row member,owner_of_ofOthers row member⟩

end Rows

section Deletion
variable {t : Tables} {username : String} {user : SqlUser}

/-- The tables without a user's rows. -/
def withoutUser (t : Tables) (userId : Nat) : Tables :=
  { t with
    users := ofOthers SqlUser.id userId t.users
    userGroups := ofOthers SqlUserGroup.userId userId t.userGroups
    userPermissions := fun family => ofOthers SqlPermission.ownerId userId (t.userPermissions family)
    userRegexPermissions := fun family =>
      ofOthers SqlRegexPermission.ownerId userId (t.userRegexPermissions family)
    workspacePermissions := ofOthers SqlWorkspacePermission.ownerId userId t.workspacePermissions
    workspaceRegexPermissions :=
      ofOthers SqlRegexPermission.ownerId userId t.workspaceRegexPermissions
    userQuotas := ofOthers SqlUserQuota.userId userId t.userQuotas }

theorem deleteUser_of_user (known : t.getUser username = .ok user) :
    Tables.deleteUser username t = .ok (withoutUser t user.id) := by
  simp only [Tables.deleteUser,known]
  rfl

theorem userIds_withoutUser (userId : Nat) : (withoutUser t userId).userIds =
    t.userIds.filter (fun other => decide (other ≠ userId)) := by
  simp only [Tables.userIds,withoutUser,ofOthers,List.filter_map]
  rfl

theorem integrity_withoutUser (integrity : Integrity t) (userId : Nat) :
    Integrity (withoutUser t userId) := by
  have ids := userIds_withoutUser (t := t) userId
  exact { integrity with
    userIds := by
      rw [ids]
      exact integrity.userIds.filter _
    usernames := integrity.usernames.sublist (List.filter_sublist.map _)
    memberUsers := by
      rw [ids]
      exact tableIntegrity_ofOthers integrity.memberUsers userId
    memberGroups := fun row member => integrity.memberGroups row (List.mem_of_mem_filter member)
    userPermissions := fun family => by
      rw [ids]
      exact ⟨tableIntegrity_ofOthers (integrity.userPermissions family).1 userId,fun row member =>
        (integrity.userPermissions family).2 row (List.mem_of_mem_filter member)⟩
    userRegexPermissions := fun family => by
      rw [ids]
      exact tableIntegrity_ofOthers (integrity.userRegexPermissions family) userId
    workspacePermissions := by
      rw [ids]
      exact tableIntegrity_ofOthers integrity.workspacePermissions userId
    workspaceRegexPermissions := by
      rw [ids]
      exact tableIntegrity_ofOthers integrity.workspaceRegexPermissions userId
    userQuotas := by
      rw [ids]
      exact tableIntegrity_ofOthers integrity.userQuotas userId }

theorem unreferenced_withoutUser (t : Tables) (userId : Nat) :
    Unreferenced (withoutUser t userId) userId where
  account := by
    rw [userIds_withoutUser]
    intro member
    simpa using (List.mem_filter.mp member).2
  direct := fun _ => owner_of_ofOthers
  regex := fun _ => owner_of_ofOthers
  workspace := owner_of_ofOthers
  workspaceRegex := owner_of_ofOthers
  quota := owner_of_ofOthers
  membership := owner_of_ofOthers

theorem othersKept_withoutUser (t : Tables) (userId : Nat) :
    OthersKept userId t (withoutUser t userId) where
  accounts := ofOthers_ofOthers
  direct := fun _ => ofOthers_ofOthers
  regex := fun _ => ofOthers_ofOthers
  workspace := ofOthers_ofOthers
  workspaceRegex := ofOthers_ofOthers
  quota := ofOthers_ofOthers
  membership := ofOthers_ofOthers
  groups := rfl
  groupDirect := rfl
  groupRegex := rfl
  groupWorkspace := rfl
  groupWorkspaceRegex := rfl

end Deletion

/-- The deletion of a known user commits and leaves no row of that user and every other row; a
deletion that is interrupted at a statement leaves the database as it was. -/
theorem deleteUser_whole (env : StoreEnv) (db : Database) (username : String) (user : SqlUser)
    (known : db.tables.getUser username = .ok user) :
    (Operation.deleteUser username).run env =
        session rejected (Tables.deleteUserStatements (fun _ => none) username) ∧
      (∃ written, (Operation.deleteUser username).run env db = .ok () written ∧
        Unreferenced written.tables user.id ∧ OthersKept user.id db.tables written.tables) ∧
      ∀ raises failure reached,
        session rejected (Tables.deleteUserStatements raises username) db = .error failure reached →
          reached = db := by
  refine ⟨?_,?_,fun raises failure reached raised => session_error raised⟩
  · rw [deleteUserStatements_none]
    rfl
  · exact ⟨_,session_commits (deleteUser_of_user known) (integrity_withoutUser db.integrity user.id),
      unreferenced_withoutUser db.tables user.id,othersKept_withoutUser db.tables user.id⟩

/-- Alice and Bob, each with a row in every table of users. -/
def twoAccounts : Database where
  tables := { Tables.empty with
    users := [⟨1,"alice","Alice","",none,true,false⟩,⟨2,"bob","Bob","",none,false,false⟩]
    groups := [⟨1,"team"⟩]
    userGroups := [⟨1,1,1⟩,⟨2,2,1⟩]
    userPermissions := fun
      | .scorer => [⟨1,⟨"1",some "quality"⟩,1,"MANAGE",false⟩,⟨2,⟨"1",some "quality"⟩,2,"READ",false⟩]
      | _ => [⟨1,⟨"1",none⟩,1,"MANAGE",false⟩,⟨2,⟨"1",none⟩,2,"READ",false⟩]
    userRegexPermissions := fun _ => [⟨1,".*",1,1,"READ",false⟩,⟨2,".*",1,2,"READ",false⟩]
    workspacePermissions := [⟨"team-a",1,"MANAGE"⟩,⟨"team-a",2,"READ"⟩]
    workspaceRegexPermissions := [⟨1,"team-.*",1,1,"READ",false⟩,⟨2,"team-.*",1,2,"READ",false⟩]
    userQuotas := [⟨1,1,some 10,5,none,none,none,false,none⟩,⟨2,2,none,0,none,none,none,false,none⟩] }
  integrity := by decide

theorem deleteUser_whole_alice :
    ∃ written, (Operation.deleteUser "alice").run .bare twoAccounts = .ok () written ∧
      Unreferenced written.tables 1 ∧ OthersKept 1 twoAccounts.tables written.tables :=
  (deleteUser_whole .bare twoAccounts "alice" ⟨1,"alice","Alice","",none,true,false⟩ rfl).2.1

end MlflowOidcAuth
