import Mathlib.Data.List.Sort
import MlflowOidcAuth.Store.Tables

/-! The reads of the permission repositories: single-row lookups with their
errors, the highest grant over a user's groups, and the regex rows in priority
order. Rows come back in table order. -/
namespace MlflowOidcAuth

/-- `Query.one()`, with the exceptions raised for no row and for several. -/
def one {Row : Type*} (missing multiple : Failure) : List Row → Except Failure Row
  | [] => .error missing
  | [row] => .ok row
  | _ => .error multiple

/-- `Query.one_or_none()`; a managed session reports several rows as a bad request. -/
def oneOrNone {Row : Type*} : List Row → Except Failure (Option Row)
  | [] => .ok none
  | [row] => .ok (some row)
  | _ => .error (.mlflow .badRequest "Multiple rows were found when one or none was required")

/-- The rows of a table that join one of the given owners. -/
def joined {Row Owner : Type*} (rows : List Row) (owners : List Owner) (on : Row → Owner → Bool) :
    List Row :=
  rows.flatMap (fun row => (owners.filter (on row)).map (fun _ => row))

namespace Tables

def usersNamed (t : Tables) (username : String) : List SqlUser :=
  t.users.filter (fun user => decide (user.username = username))

def groupsNamed (t : Tables) (groupName : String) : List SqlGroup :=
  t.groups.filter (fun group => decide (group.groupName = groupName))

def getUser (t : Tables) (username : String) : Except Failure SqlUser :=
  one (.mlflow .resourceDoesNotExist ("User with username=" ++ username ++ " not found"))
    (.mlflow .invalidState ("Found multiple users with username=" ++ username))
    (t.usersNamed username)

def getGroup (t : Tables) (groupName : String) : Except Failure SqlGroup :=
  one (.mlflow .resourceDoesNotExist ("Group with name=" ++ groupName ++ " not found"))
    (.mlflow .invalidState ("Found multiple groups with name=" ++ groupName))
    (t.groupsNamed groupName)

def listUserGroups (t : Tables) (user : SqlUser) : List SqlUserGroup :=
  t.userGroups.filter (fun row => decide (row.userId = user.id))

def groupIdsOf (t : Tables) (user : SqlUser) : List Nat :=
  (t.listUserGroups user).map SqlUserGroup.groupId

def getGroupsIdsForUser (t : Tables) (username : String) : Except Failure (List Nat) := do
  let user ← t.getUser username
  return t.groupIdsOf user

def getGroupsForUser (t : Tables) (username : String) : Except Failure (List String) := do
  let user ← t.getUser username
  let ids := t.groupIdsOf user
  return (t.groups.filter (fun group => decide (group.id ∈ ids))).map SqlGroup.groupName

end Tables

section Labels

def ResourceKey.scorer (key : ResourceKey) : String := key.scorerName.getD ""

/-- The resource as the user-level errors name it. -/
def Family.describe (family : Family) (key : ResourceKey) : String :=
  match family with
  | .scorer => "exp=" ++ key.resourceId ++ ", scorer=" ++ key.scorer
  | family => family.resourceIdAttr ++ "=" ++ key.resourceId

def Family.missingPermission (family : Family) (key : ResourceKey) (username : String) : String :=
  match family with
  | .scorer => "No scorer permission for " ++ family.describe key ++ ", user=" ++ username
  | family => "No permission for " ++ family.describe key ++ ", user=" ++ username

def Family.multiplePermissions (family : Family) (key : ResourceKey) (username : String) : String :=
  match family with
  | .scorer => "Multiple scorer perms for " ++ family.describe key ++ ", user=" ++ username
  | family => "Multiple perms for " ++ family.describe key ++ ", user=" ++ username

def Family.missingGroupPermission (family : Family) (key : ResourceKey) (username : String) :
    String :=
  match family with
  | .scorer =>
    "Scorer group permission not found for " ++ family.describe key ++ ", user=" ++ username
  | .registeredModel =>
    "Registered model permission with " ++ family.describe key ++ " and username=" ++ username ++
      " not found"
  | family =>
    "Group permission with " ++ family.describe key ++ " and username=" ++ username ++ " not found"

end Labels

namespace Tables

/-- `_get_permission` of the user-level repositories. -/
def getUserPermission (t : Tables) (family : Family) (key : ResourceKey) (username : String) :
    Except Failure SqlPermission :=
  one (.mlflow .resourceDoesNotExist (family.missingPermission key username))
    (.mlflow .invalidState (family.multiplePermissions key username))
    (joined ((t.userPermissions family).filter (fun row => decide (row.key = key)))
      (t.usersNamed username) (fun row user => decide (row.ownerId = user.id)))

def groupRows (t : Tables) (family : Family) (key : ResourceKey) (groupId : Nat) :
    List SqlPermission :=
  (t.groupPermissions family).filter (fun row => decide (row.key = key ∧ row.ownerId = groupId))

/-- `_get_group_permission_or_none`: no group of that name is no permission. -/
def getGroupPermissionOrNone (t : Tables) (family : Family) (key : ResourceKey)
    (groupName : String) : Except Failure (Option SqlPermission) := do
  match ← oneOrNone (t.groupsNamed groupName) with
  | none => return none
  | some group => oneOrNone (t.groupRows family key group.id)

/-- Keep the later of two rows unless it ranks strictly below the earlier one. -/
def higherRow (best perms : Option SqlPermission) : Except Failure (Option SqlPermission) :=
  match best, perms with
  | best, none => .ok best
  | none, some perms => .ok (some perms)
  | some best, some perms => do
    if ← comparePermissions best.permission perms.permission then
      return some perms
    else
      return some best

/-- The highest group row of a resource over a user's groups, as the experiment,
registered-model and scorer repositories compute it. -/
def getUserGroupsPermission (t : Tables) (family : Family) (key : ResourceKey)
    (username : String) : Except Failure SqlPermission := do
  let userGroups ← t.getGroupsForUser username
  let best ← userGroups.foldlM (fun best groupName => do
    let perms ← t.getGroupPermissionOrNone family key groupName
    higherRow best perms) none
  match best with
  | some row => return row
  | none => .error (.mlflow .resourceDoesNotExist (family.missingGroupPermission key username))

/-- `_get_group_permission`: the row of one group, given by its name. -/
def getGroupPermission (t : Tables) (family : Family) (key : ResourceKey) (groupName : String) :
    Except Failure SqlPermission :=
  one (.mlflow .resourceDoesNotExist
      ("No group permission for " ++ family.describe key ++ ", group=" ++ groupName))
    (.mlflow .invalidState
      ("Multiple group perms for " ++ family.describe key ++ ", group=" ++ groupName))
    (joined ((t.groupPermissions family).filter (fun row => decide (row.key = key)))
      (t.groupsNamed groupName) (fun row group => decide (row.ownerId = group.id)))

/-- `ORDER BY priority`; rows of one priority keep their table order. -/
def orderByPriority (rows : List SqlRegexPermission) : List SqlRegexPermission :=
  rows.insertionSort (fun first second => first.priority ≤ second.priority)

/-- Only the two tables of registered models filter on `prompt`. -/
def promptMatches (family : Family) (prompt : Bool) (row : SqlRegexPermission) : Bool :=
  match family with
  | .registeredModel => row.prompt == prompt
  | _ => true

def listRegexPermissions (t : Tables) (family : Family) (prompt : Bool) (username : String) :
    Except Failure (List SqlRegexPermission) := do
  let user ← t.getUser username
  return orderByPriority ((t.userRegexPermissions family).filter (fun row =>
    decide (row.ownerId = user.id) && promptMatches family prompt row))

def listGroupRegexPermissionsForGroupsIds (t : Tables) (family : Family) (prompt : Bool)
    (groupIds : List Nat) : List SqlRegexPermission :=
  orderByPriority ((t.groupRegexPermissions family).filter (fun row =>
    decide (row.ownerId ∈ groupIds) && promptMatches family prompt row))

def listPermissionsForUser (t : Tables) (family : Family) (username : String) :
    Except Failure (List SqlPermission) := do
  let user ← t.getUser username
  return (t.userPermissions family).filter (fun row => decide (row.ownerId = user.id))

def listUserGroupsPermissions (t : Tables) (family : Family) (username : String) :
    Except Failure (List SqlPermission) := do
  let user ← t.getUser username
  return (t.groupPermissions family).filter (fun row => decide (row.ownerId ∈ t.groupIdsOf user))

section Workspaces

def missingWorkspacePermission (workspace : String) (userId : Nat) : Failure :=
  .mlflow .resourceDoesNotExist
    ("Workspace permission not found for workspace=" ++ workspace ++ ", user_id=" ++ toString userId)

def getWorkspacePermission (t : Tables) (workspace username : String) :
    Except Failure SqlWorkspacePermission := do
  let user ← t.getUser username
  one (missingWorkspacePermission workspace user.id)
    (.mlflow .badRequest "Multiple rows were found when exactly one was required")
    (t.workspacePermissions.filter (fun row =>
      decide (row.workspace = workspace ∧ row.ownerId = user.id)))

/-- The fold of `get_highest_for_user` over the rows after the first. -/
def highestWorkspaceRow (highest : SqlWorkspacePermission) :
    List SqlWorkspacePermission → Except Failure SqlWorkspacePermission
  | [] => .ok highest
  | row :: rest => do
    if ← comparePermissions highest.permission row.permission then
      highestWorkspaceRow row rest
    else
      highestWorkspaceRow highest rest

def getUserGroupsWorkspacePermission (t : Tables) (workspace username : String) :
    Except Failure SqlWorkspacePermission := do
  let user ← t.getUser username
  let rows := joined (t.workspaceGroupPermissions.filter (fun row =>
      decide (row.workspace = workspace))) (t.listUserGroups user)
    (fun row member => decide (row.ownerId = member.groupId))
  match rows with
  | [] => .error (.mlflow .resourceDoesNotExist ("No workspace group permission found for workspace="
      ++ workspace ++ ", user_id=" ++ toString user.id))
  | first :: rest => highestWorkspaceRow first rest

def listWorkspaceRegexPermissions (t : Tables) (username : String) :
    Except Failure (List SqlRegexPermission) := do
  let user ← t.getUser username
  return orderByPriority (t.workspaceRegexPermissions.filter (fun row =>
    decide (row.ownerId = user.id)))

def listWorkspaceGroupRegexPermissionsForGroupsIds (t : Tables) (groupIds : List Nat) :
    List SqlRegexPermission :=
  orderByPriority (t.workspaceGroupRegexPermissions.filter (fun row =>
    decide (row.ownerId ∈ groupIds)))

end Workspaces
end Tables
end MlflowOidcAuth
