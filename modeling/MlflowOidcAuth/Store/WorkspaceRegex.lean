import MlflowOidcAuth.Store.Workspaces

/-! The workspace tables beyond single grants: the regex grants of the two base repositories
and the deletion of all rows of a workspace. -/
namespace MlflowOidcAuth
open Effects

namespace Tables

def workspaceRegex (t : Tables) : Holder → List SqlRegexPermission
  | .user => t.workspaceRegexPermissions
  | .group => t.workspaceGroupRegexPermissions

def withWorkspaceRegex (t : Tables) (holder : Holder) (rows : List SqlRegexPermission) : Tables :=
  match holder with
  | .user => { t with workspaceRegexPermissions := rows }
  | .group => { t with workspaceGroupRegexPermissions := rows }

theorem workspaceRegex_withWorkspaceRegex (t : Tables) (holder other : Holder)
    (rows : List SqlRegexPermission) :
    (t.withWorkspaceRegex holder rows).workspaceRegex other =
      if other = holder then rows else t.workspaceRegex other := by
  cases holder <;> cases other <;> rfl

def describeRegexRow (holder : Holder) (id ownerId : Nat) : String :=
  match holder with
  | .user => "for user_id: " ++ toString ownerId ++ ", and id: " ++ toString id
  | .group => "for group_id: " ++ toString ownerId ++ " and id: " ++ toString id

/-- `_get_regex_permission` and `_get_group_regex_permission`. -/
def workspaceRegexRow (holder : Holder) (id : Nat) (owner : String) (t : Tables) :
    Except Failure SqlRegexPermission := do
  let ownerId ← t.ownerId holder owner
  one (.mlflow .resourceDoesNotExist ("Permission not found " ++ describeRegexRow holder id ownerId))
    (.mlflow .invalidState ("Multiple Permissions found " ++ describeRegexRow holder id ownerId))
    ((t.workspaceRegex holder).filter (fun row => decide (row.id = id ∧ row.ownerId = ownerId)))

/-- The repository of users checks the pattern first, that of groups the permission. -/
def checkWorkspaceRegex (engine : RegexEngine) (holder : Holder) (regex permission : String) :
    Except Failure Unit :=
  match holder with
  | .user => do
    validateRegex engine regex
    validatePermission permission
  | .group => do
    validatePermission permission
    validateRegex engine regex

def grantWorkspaceRegex (engine : RegexEngine) (holder : Holder) (regex : String) (priority : Int)
    (permission owner : String) (t : Tables) : Except Failure Tables := do
  checkWorkspaceRegex engine holder regex permission
  let ownerId ← t.ownerId holder owner
  let rows := t.workspaceRegex holder
  return t.withWorkspaceRegex holder (rows ++
    [⟨nextId (rows.map SqlRegexPermission.id),regex,priority,ownerId,permission,false⟩])

def updateWorkspaceRegex (engine : RegexEngine) (holder : Holder) (id : Nat) (regex : String)
    (priority : Int) (permission owner : String) (t : Tables) : Except Failure Tables := do
  checkWorkspaceRegex engine holder regex permission
  let found ← t.workspaceRegexRow holder id owner
  return t.withWorkspaceRegex holder ((t.workspaceRegex holder).map (fun row =>
    if row.id = found.id then
      { row with regex := regex, priority := priority, permission := permission }
    else row))

def revokeWorkspaceRegex (holder : Holder) (id : Nat) (owner : String) (t : Tables) :
    Except Failure Tables := do
  let found ← t.workspaceRegexRow holder id owner
  return t.withWorkspaceRegex holder
    ((t.workspaceRegex holder).filter (fun row => decide (row.id ≠ found.id)))

/-- `delete_all_for_workspace`. -/
def deleteAllForWorkspace (holder : Holder) (workspace : String) (t : Tables) : Tables :=
  t.withWorkspaceRows holder
    ((t.workspaceRows holder).filter (fun row => decide (row.workspace ≠ workspace)))

end Tables

def workspaceRegexViolation (holder : Holder) (regex owner : String) : Failure :=
  alreadyExists (match holder with
    | .user => "Regex perm exists (" ++ regex ++ "," ++ owner ++ ")"
    | .group => "Group regex perm exists (" ++ regex ++ "," ++ owner ++ ")")

/-- The methods of the store that write the workspace tables. -/
inductive WorkspaceWrite
  | create (holder : Holder) (workspace owner permission : String)
  | update (holder : Holder) (workspace owner permission : String)
  | delete (holder : Holder) (workspace owner : String)
  | wipe (workspace : String)
  | grantRegex (holder : Holder) (regex : String) (priority : Int) (permission owner : String)
  | updateRegex (holder : Holder) (id : Nat) (regex : String) (priority : Int)
      (permission owner : String)
  | revokeRegex (holder : Holder) (id : Nat) (owner : String)

def WorkspaceWrite.run (engine : RegexEngine) : WorkspaceWrite → EStateM Failure Database PUnit
  | create holder workspace owner permission =>
    createWorkspacePermission holder workspace owner permission
  | update holder workspace owner permission =>
    updateWorkspacePermission holder workspace owner permission
  | delete holder workspace owner => deleteWorkspacePermission holder workspace owner
  | wipe workspace => do
    session rejected (fun t => .ok (t.deleteAllForWorkspace .user workspace))
    session rejected (fun t => .ok (t.deleteAllForWorkspace .group workspace))
  | grantRegex holder regex priority permission owner =>
    session (workspaceRegexViolation holder regex owner)
      (Tables.grantWorkspaceRegex engine holder regex priority permission owner)
  | updateRegex holder id regex priority permission owner =>
    session rejected (Tables.updateWorkspaceRegex engine holder id regex priority permission owner)
  | revokeRegex holder id owner =>
    session rejected (Tables.revokeWorkspaceRegex holder id owner)

end MlflowOidcAuth
