import MlflowOidcAuth.Regex
import MlflowOidcAuth.Store.Quotas

/-! The writes of the repositories: direct grants, regex grants, users, groups and the
rest of the quota repository. A write of one kind is one definition for all tables of
that kind; where a repository differs from its base, so does the definition. -/
namespace MlflowOidcAuth

/-- What a session reports for an uncaught `NoResultFound` or `MultipleResultsFound`. -/
def noRow : Failure := .mlflow .badRequest "No row was found when one was required"

def manyRows : Failure :=
  .mlflow .badRequest "Multiple rows were found when exactly one was required"

def alreadyExists (message : String) : Failure :=
  .mlflow .resourceAlreadyExists (message ++ ": constraint failed")

namespace Tables

def ownerId (t : Tables) (holder : Holder) (owner : String) : Except Failure Nat := do
  match holder with
  | .user => return (← t.getUser owner).id
  | .group => return (← t.getGroup owner).id

section Direct

/-- The row that an update or a revocation of a direct grant is about. -/
def directRow (holder : Holder) (family : Family) (key : ResourceKey) (owner : String)
    (t : Tables) : Except Failure SqlPermission := do
  match holder with
  | .user => t.getUserPermission family key owner
  | .group =>
    let group ← t.getGroup owner
    one noRow manyRows (t.groupRows family key group.id)

/-- `_get_prompt_group_permission`: only rows flagged as prompts count. -/
def promptRow (name groupName : String) (t : Tables) : Except Failure SqlPermission := do
  let group ← t.getGroup groupName
  one (.mlflow .resourceDoesNotExist
      ("No permission for prompt=" ++ name ++ ", group=" ++ toString group.id))
    (.mlflow .invalidState
      ("Multiple perms for prompt=" ++ name ++ ", group=" ++ toString group.id))
    ((t.groupRows .registeredModel ⟨name,none⟩ group.id).filter SqlPermission.prompt)

def grantPermission (holder : Holder) (family : Family) (key : ResourceKey)
    (owner permission : String) (prompt : Bool) (t : Tables) : Except Failure Tables := do
  validatePermission permission
  let ownerId ← t.ownerId holder owner
  let rows := t.direct holder family
  return t.withDirect holder family
    (rows ++ [⟨nextId (rows.map SqlPermission.id),key,ownerId,permission,prompt⟩])

def updatePermission (holder : Holder) (family : Family)
    (find : Tables → Except Failure SqlPermission) (permission : String) (t : Tables) :
    Except Failure Tables := do
  validatePermission permission
  let found ← find t
  return t.withDirect holder family ((t.direct holder family).map (fun row =>
    if row.id = found.id then { row with permission := permission } else row))

def revokePermission (holder : Holder) (family : Family)
    (find : Tables → Except Failure SqlPermission) (t : Tables) : Except Failure Tables := do
  let found ← find t
  return t.withDirect holder family
    ((t.direct holder family).filter (fun row => decide (row.id ≠ found.id)))

def renameRows (holder : Holder) (family : Family) (oldName newName : String) (t : Tables) :
    Tables :=
  t.withDirect holder family ((t.direct holder family).map (fun row =>
    if row.key.resourceId = oldName then { row with key := { row.key with resourceId := newName } }
    else row))

/-- The rename of the two registered-model repositories, which raises without rows. -/
def renameModelRows (holder : Holder) (oldName newName : String) (t : Tables) :
    Except Failure Tables :=
  if (t.direct holder .registeredModel).all (fun row => decide (row.key.resourceId ≠ oldName)) then
    .error (.mlflow .resourceDoesNotExist (match holder with
      | .user => "No registered model permissions found for name: " ++ oldName
      | .group => "No registered model group permissions found for name: " ++ oldName))
  else .ok (t.renameRows holder .registeredModel oldName newName)

/-- Both tables in one session, as `delete_scorer_permissions_for_scorer` does it. -/
def deleteScorerRows (experimentId scorerName : String) (t : Tables) : Tables :=
  let kept := fun rows : List SqlPermission =>
    rows.filter (fun row => decide (row.key ≠ ⟨experimentId,some scorerName⟩))
  (t.withDirect .user .scorer (kept (t.direct .user .scorer))).withDirect .group .scorer
    (kept (t.direct .group .scorer))

end Direct

section Regex

def regex (t : Tables) : Holder → Family → List SqlRegexPermission
  | .user => t.userRegexPermissions
  | .group => t.groupRegexPermissions

def withRegex (t : Tables) (holder : Holder) (family : Family) (rows : List SqlRegexPermission) :
    Tables :=
  match holder with
  | .user => { t with userRegexPermissions := Function.update t.userRegexPermissions family rows }
  | .group =>
    { t with groupRegexPermissions := Function.update t.groupRegexPermissions family rows }

theorem regex_withRegex (t : Tables) (holder other : Holder) (family otherFamily : Family)
    (rows : List SqlRegexPermission) : (t.withRegex holder family rows).regex other otherFamily =
      if other = holder ∧ otherFamily = family then rows else t.regex other otherFamily := by
  cases holder <;> cases other <;> simp [withRegex,regex,Function.update_apply]

def missingRegex (holder : Holder) (family : Family) (prompt : Bool) (id : String) (ownerId : Nat) :
    String :=
  match holder,family with
  | .user,.registeredModel =>
    "Permission not found for user_id: " ++ toString ownerId ++ " and id: " ++ id
  | .user,_ => "Permission not found for user_id: " ++ toString ownerId ++ ", and id: " ++ id
  | .group,.registeredModel => "No model perm for id=" ++ id ++ ", group_id=" ++ toString ownerId ++
      ", prompt=" ++ (if prompt then "True" else "False")
  | .group,_ => "Permission not found for group_id: " ++ toString ownerId ++ " and id: " ++ id

def multipleRegex (holder : Holder) (family : Family) (prompt : Bool) (id : String)
    (ownerId : Nat) : String :=
  match holder,family with
  | .user,.registeredModel =>
    "Multiple Permissions found for user_id: " ++ toString ownerId ++ " and id: " ++ id
  | .user,_ => "Multiple Permissions found for user_id: " ++ toString ownerId ++ ", and id: " ++ id
  | .group,.registeredModel => "Multiple model perms for id=" ++ id ++ ", group_id=" ++
      toString ownerId ++ ", prompt=" ++ (if prompt then "True" else "False")
  | .group,_ => "Multiple Permissions found for group_id: " ++ toString ownerId ++ " and id: " ++ id

/-- The regex row with an id; the id arrives as the text the query compares. -/
def regexRow (holder : Holder) (family : Family) (prompt : Bool) (id owner : String) (t : Tables) :
    Except Failure SqlRegexPermission := do
  let ownerId ← t.ownerId holder owner
  one (.mlflow .resourceDoesNotExist (missingRegex holder family prompt id ownerId))
    (.mlflow .invalidState (multipleRegex holder family prompt id ownerId))
    ((t.regex holder family).filter (fun row =>
      decide (toString row.id = id ∧ row.ownerId = ownerId) && promptMatches family prompt row))

/-- Users' regexes are checked before the permission, groups' after it, and those of the
group table of registered models not at all. -/
def checkRegexGrant (engine : RegexEngine) (holder : Holder) (family : Family)
    (regex permission : String) : Except Failure Unit :=
  match holder,family with
  | .user,_ => do
    validateRegex engine regex
    validatePermission permission
  | .group,.registeredModel => validatePermission permission
  | .group,_ => do
    validatePermission permission
    validateRegex engine regex

def grantRegex (engine : RegexEngine) (holder : Holder) (family : Family) (prompt : Bool)
    (regex : String) (priority : Int) (permission owner : String) (t : Tables) :
    Except Failure Tables := do
  checkRegexGrant engine holder family regex permission
  let ownerId ← t.ownerId holder owner
  let rows := t.regex holder family
  return t.withRegex holder family (rows ++
    [⟨nextId (rows.map SqlRegexPermission.id),regex,priority,ownerId,permission,prompt⟩])

/-- An update of a registered model's or a gateway resource's regex of a user keeps the
pattern that was stored. -/
def assignsRegex : Holder → Family → Bool
  | .user,.experiment | .user,.scorer => true
  | .user,_ => false
  | .group,_ => true

def updateRegex (engine : RegexEngine) (holder : Holder) (family : Family) (prompt : Bool)
    (id : Nat) (regex : String) (priority : Int) (permission owner : String) (t : Tables) :
    Except Failure Tables := do
  checkRegexGrant engine holder family regex permission
  let found ← t.regexRow holder family prompt (toString id) owner
  return t.withRegex holder family ((t.regex holder family).map (fun row =>
    if row.id = found.id then
      { row with
        regex := if assignsRegex holder family then regex else row.regex
        priority := priority
        permission := permission }
    else row))

def revokeRegex (holder : Holder) (family : Family) (prompt : Bool) (id owner : String)
    (t : Tables) : Except Failure Tables := do
  let found ← t.regexRow holder family prompt id owner
  return t.withRegex holder family
    ((t.regex holder family).filter (fun row => decide (row.id ≠ found.id)))

end Regex

section Groups

def addMember (userId : Nat) (t : Tables) (groupName : String) : Except Failure Tables := do
  let group ← t.getGroup groupName
  return { t with userGroups := t.userGroups ++
    [⟨nextId (t.userGroups.map SqlUserGroup.id),userId,group.id⟩] }

def addUserToGroup (username groupName : String) (t : Tables) : Except Failure Tables := do
  let user ← t.getUser username
  t.addMember user.id groupName

def removeUserFromGroup (username groupName : String) (t : Tables) : Except Failure Tables := do
  let user ← t.getUser username
  let group ← t.getGroup groupName
  let found ← one noRow manyRows (t.userGroups.filter (fun row =>
    decide (row.userId = user.id ∧ row.groupId = group.id)))
  return { t with userGroups := t.userGroups.filter (fun row => decide (row.id ≠ found.id)) }

def setGroupsForUser (username : String) (groupNames : List String) (t : Tables) :
    Except Failure Tables := do
  let user ← t.getUser username
  let left := { t with userGroups :=
    t.userGroups.filter (fun row => decide (row.userId ≠ user.id)) }
  groupNames.eraseDups.foldlM (addMember user.id) left

def createGroup (t : Tables) (groupName : String) : Tables :=
  if t.groupsNamed groupName = [] then
    { t with groups := t.groups ++ [⟨nextId t.groupIds,groupName⟩] }
  else t

def createGroups (groupNames : List String) (t : Tables) : Tables :=
  groupNames.eraseDups.foldl createGroup t

end Groups

section Users

def createUser (username displayName passwordHash : String) (isAdmin isServiceAccount : Bool)
    (t : Tables) : Tables :=
  { t with users := t.users ++
    [⟨nextId t.userIds,username,displayName,passwordHash,none,isAdmin,isServiceAccount⟩] }

def changeUser (change : SqlUser → SqlUser) (username : String) (t : Tables) :
    Except Failure Tables := do
  let found ← t.getUser username
  return { t with users := t.users.map (fun user => if user.id = found.id then change user else user) }

/-- The user's rows go with the user. -/
def deleteUser (username : String) (t : Tables) : Except Failure Tables := do
  let found ← t.getUser username
  let ownDirect := fun rows : List SqlPermission =>
    rows.filter (fun row => decide (row.ownerId ≠ found.id))
  let ownRegex := fun rows : List SqlRegexPermission =>
    rows.filter (fun row => decide (row.ownerId ≠ found.id))
  return { t with
    users := t.users.filter (fun user => decide (user.id ≠ found.id))
    userGroups := t.userGroups.filter (fun row => decide (row.userId ≠ found.id))
    userPermissions := fun family => ownDirect (t.userPermissions family)
    userRegexPermissions := fun family => ownRegex (t.userRegexPermissions family)
    workspacePermissions := t.workspacePermissions.filter (fun row =>
      decide (row.ownerId ≠ found.id))
    workspaceRegexPermissions := ownRegex t.workspaceRegexPermissions
    userQuotas := t.userQuotas.filter (fun quota => decide (quota.userId ≠ found.id)) }

end Users

section Quotas

/-- `update_email` makes a row for a user who has none. -/
def updateQuotaEmail (username : String) (email : Option String) (t : Tables) :
    Except Failure Tables := do
  match ← oneOrNone (t.usersNamed username) with
  | none => return t
  | some user =>
    match ← oneOrNone (t.userQuotas.filter (fun quota => decide (quota.userId = user.id))) with
    | none =>
      let quota : SqlUserQuota :=
        { id := nextId (t.userQuotas.map SqlUserQuota.id), userId := user.id, quotaBytes := none,
          usedBytes := 0, softCapFraction := none, lastReconciledAt := none,
          softNotifiedAt := none, hardBlocked := false, email := email }
      return { t with userQuotas := t.userQuotas ++ [quota] }
    | some found =>
      return { t with userQuotas := t.userQuotas.map (fun quota =>
        if quota.id = found.id then { quota with email := email } else quota) }

def deleteQuota (username : String) (t : Tables) : Except Failure Tables := do
  match ← oneOrNone (t.usersNamed username) with
  | none => return t
  | some user =>
    return { t with userQuotas :=
      t.userQuotas.filter (fun quota => decide (quota.userId ≠ user.id)) }

end Quotas
end Tables
end MlflowOidcAuth
