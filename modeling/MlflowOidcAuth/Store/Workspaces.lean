import MlflowOidcAuth.Store.Mutators

/-! The writes of the two workspace repositories, one for users and one for groups. -/
namespace MlflowOidcAuth
open Effects

namespace Tables

def workspaceRows (t : Tables) : Holder → List SqlWorkspacePermission
  | .user => t.workspacePermissions
  | .group => t.workspaceGroupPermissions

def withWorkspaceRows (t : Tables) (holder : Holder) (rows : List SqlWorkspacePermission) : Tables :=
  match holder with
  | .user => { t with workspacePermissions := rows }
  | .group => { t with workspaceGroupPermissions := rows }

theorem workspaceRows_withWorkspaceRows (t : Tables) (holder other : Holder)
    (rows : List SqlWorkspacePermission) :
    (t.withWorkspaceRows holder rows).workspaceRows other =
      if other = holder then rows else t.workspaceRows other := by
  cases holder <;> cases other <;> rfl

/-- How a workspace repository names its row in a message. -/
def describeWorkspaceRow (holder : Holder) (workspace : String) (ownerId : Nat) : String :=
  match holder with
  | .user => "for workspace=" ++ workspace ++ ", user_id=" ++ toString ownerId
  | .group => "for workspace=" ++ workspace ++ ", group_id=" ++ toString ownerId

def missingWorkspaceRow (holder : Holder) (workspace : String) (ownerId : Nat) : Failure :=
  .mlflow .resourceDoesNotExist (match holder with
    | .user => "Workspace permission not found " ++ describeWorkspaceRow .user workspace ownerId
    | .group =>
      "Workspace group permission not found " ++ describeWorkspaceRow .group workspace ownerId)

/-- What a repository reports for the row it was to create; an unknown owner is reported first. -/
def workspaceRowExists (t : Tables) (holder : Holder) (workspace owner : String) : Failure :=
  match t.ownerId holder owner with
  | .error failure => failure
  | .ok ownerId => .mlflow .resourceAlreadyExists (match holder with
    | .user =>
      "Workspace permission already exists " ++ describeWorkspaceRow .user workspace ownerId
    | .group =>
      "Workspace group permission already exists " ++ describeWorkspaceRow .group workspace ownerId)

/-- The row that an update or a deletion is about. -/
def workspaceRow (t : Tables) (holder : Holder) (workspace owner : String) :
    Except Failure SqlWorkspacePermission := do
  let ownerId ← t.ownerId holder owner
  one (missingWorkspaceRow holder workspace ownerId) manyRows
    ((t.workspaceRows holder).filter (fun row =>
      decide (row.workspace = workspace ∧ row.ownerId = ownerId)))

def createWorkspaceRow (holder : Holder) (workspace owner permission : String) (t : Tables) :
    Except Failure Tables := do
  let ownerId ← t.ownerId holder owner
  return t.withWorkspaceRows holder (t.workspaceRows holder ++ [⟨workspace,ownerId,permission⟩])

def updateWorkspaceRow (holder : Holder) (workspace owner permission : String) (t : Tables) :
    Except Failure Tables := do
  let found ← t.workspaceRow holder workspace owner
  return t.withWorkspaceRows holder ((t.workspaceRows holder).map (fun row =>
    if row.workspace = found.workspace ∧ row.ownerId = found.ownerId then
      { row with permission := permission }
    else row))

def deleteWorkspaceRow (holder : Holder) (workspace owner : String) (t : Tables) :
    Except Failure Tables := do
  let found ← t.workspaceRow holder workspace owner
  return t.withWorkspaceRows holder ((t.workspaceRows holder).filter (fun row =>
    decide (¬ (row.workspace = found.workspace ∧ row.ownerId = found.ownerId))))

end Tables

/-- `create_workspace_permission` and `create_workspace_group_permission`. -/
def createWorkspacePermission (holder : Holder) (workspace owner permission : String) :
    EStateM Failure Database PUnit := fun db =>
  session (db.tables.workspaceRowExists holder workspace owner)
    (Tables.createWorkspaceRow holder workspace owner permission) db

def updateWorkspacePermission (holder : Holder) (workspace owner permission : String) :
    EStateM Failure Database PUnit :=
  session rejected (Tables.updateWorkspaceRow holder workspace owner permission)

def deleteWorkspacePermission (holder : Holder) (workspace owner : String) :
    EStateM Failure Database PUnit :=
  session rejected (Tables.deleteWorkspaceRow holder workspace owner)

end MlflowOidcAuth
