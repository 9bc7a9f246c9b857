import MlflowOidcAuth.Store.Footprints
import MlflowOidcAuth.Store.WorkspaceRegex

/-! The user and group management of the OIDC callback: who may log in, the account that a
login creates or updates, and what a rejected login leaves of an account. -/
namespace MlflowOidcAuth
open Effects

/-- The configuration that the callback reads. -/
structure LoginConfig where
  oidcAdminGroupName : List String
  oidcGroupName : List String
  oidcUsernameField : List String
  mlflowEnableWorkspaces : Bool
  oidcWorkspaceDefaultPermission : String

/-- Who logs in, once the names are extracted. The groups and workspaces are those that the
plugins detect, or the claims without a plugin. -/
structure LoginClaims where
  username : String
  named : username ≠ ""
  displayName : String
  groups : Except Failure (List String)
  workspaces : List String
  email : Option String

structure LoginEnv extends StoreEnv where
  generateToken : String
  lower : String → String

/-- The name of who is logged in, or the errors to show. -/
abbrev LoginAnswer := Option String × List String

/-! The functions of the user module. -/
namespace UserModule

def hasUser (t : Tables) (username : String) : Bool := !(t.usersNamed username).isEmpty

/-- `get_profile`, as far as the caller looks at it. -/
def getUserProfile (username : String) : EStateM Failure Database PUnit := fun db =>
  match oneOrNone (db.tables.usersNamed username) with
  | .error failure => .error failure db
  | .ok none =>
    .error (.mlflow .resourceDoesNotExist ("User '" ++ username ++ "' not found")) db
  | .ok (some _) => .ok () db

/-- An existing account is updated; any exception of the store leads to a creation. -/
def createUser (env : LoginEnv) (username displayName : String) (isAdmin : Bool) :
    EStateM Failure Database PUnit := fun db =>
  let updated : EStateM Failure Database PUnit := do
    getUserProfile username
    (Operation.updateUser username
      { isAdmin := some isAdmin, isServiceAccount := some false }).run env.toStoreEnv
  match updated db with
  | .error (.mlflow _ _) reached =>
    (Operation.createUser username env.generateToken displayName isAdmin false).run env.toStoreEnv
      reached
  | result => result

def updateUser (env : LoginEnv) (username : String) (groupNames : List String) :
    EStateM Failure Database PUnit :=
  (Operation.setUserGroups username groupNames).run env.toStoreEnv

end UserModule

section Profiles
variable {db : Database} {username : String}

theorem getUserProfile_of_user {user : SqlUser}
    (known : db.tables.getUser username = .ok user) :
    UserModule.getUserProfile username db = .ok () db := by
  simp only [UserModule.getUserProfile,Tables.getUser_eq_ok.mp known,oneOrNone]

theorem getUserProfile_raises
    (unknown : ∀ user, db.tables.getUser username ≠ .ok user) :
    ∃ failure, UserModule.getUserProfile username db = .error failure db := by
  rcases usersNamed_unique db username with absent | ⟨user,known⟩
  · refine ⟨.mlflow .resourceDoesNotExist ("User '" ++ username ++ "' not found"),?_⟩
    simp only [UserModule.getUserProfile,absent,oneOrNone]
  · exact absurd (Tables.getUser_eq_ok.mpr known) (unknown user)

end Profiles

section Callback
variable (env : LoginEnv) (config : LoginConfig) (claims : LoginClaims)

def isAdminLogin (userGroups : List String) : Bool :=
  config.oidcAdminGroupName.any (fun group => decide (group ∈ userGroups))

def isAllowedLogin (userGroups : List String) : Bool :=
  config.oidcGroupName.any (fun group => decide (group ∈ userGroups))

/-- Whether the callback goes on to manage the account. -/
def allowsLogin : Bool :=
  match claims.groups with
  | .ok userGroups => isAdminLogin config userGroups || isAllowedLogin config userGroups
  | .error _ => false

/-- The memberships of a known user are dropped when the login is not allowed. -/
def revokeGroups : EStateM Failure Database PUnit := fun db =>
  if claims.username ≠ "" ∧ UserModule.hasUser db.tables claims.username = true then
    quietly (UserModule.updateUser env claims.username []) db
  else .ok () db

/-- An account keyed by e-mail is renamed when the name comes from another claim. -/
def migrateLegacyUser : EStateM Failure Database PUnit := fun db =>
  match config.oidcUsernameField,claims.email with
  | field :: _,some email =>
    let legacyUsername := env.lower email
    if field ≠ "email" ∧ legacyUsername ≠ "" ∧ legacyUsername ≠ claims.username ∧
        UserModule.hasUser db.tables legacyUsername = true ∧
        UserModule.hasUser db.tables claims.username = false then
      quietly ((Operation.renameUser legacyUsername claims.username).run env.toStoreEnv) db
    else .ok () db
  | _,_ => .ok () db

def syncProfile (userGroups : List String) : EStateM Failure Database PUnit :=
  quietly (do
    (Operation.populateGroups userGroups).run env.toStoreEnv
    UserModule.updateUser env claims.username userGroups
    if claims.displayName ≠ "" then
      (Operation.setUserDisplayname claims.username claims.displayName).run env.toStoreEnv
    else pure ())

/-- A workspace that the user already has a permission on is left as it is. -/
def assignWorkspace (workspace : String) : EStateM Failure Database PUnit :=
  if workspace = "" then pure ()
  else quietly (createWorkspacePermission .user workspace claims.username
    config.oidcWorkspaceDefaultPermission)

def assignWorkspaces : EStateM Failure Database PUnit :=
  if config.mlflowEnableWorkspaces then claims.workspaces.forM (assignWorkspace config claims)
  else pure ()

def syncQuotaEmail : EStateM Failure Database PUnit :=
  match claims.email with
  | none => pure ()
  | some email =>
    if email = "" then pure ()
    else quietly ((Operation.quota claims.username (.email (some email))).run env.toStoreEnv)

def manageUser (userGroups : List String) : EStateM Failure Database LoginAnswer :=
  if isAdminLogin config userGroups = false ∧ isAllowedLogin config userGroups = false then do
    revokeGroups env claims
    return (none,["User is not allowed to login"])
  else do
    migrateLegacyUser env config claims
    UserModule.createUser env claims.username claims.displayName (isAdminLogin config userGroups)
    syncProfile env claims userGroups
    assignWorkspaces config claims
    syncQuotaEmail env claims
    return (some claims.username,[])

def detectGroups : EStateM Failure Database (List String) := fun db =>
  match claims.groups with
  | .ok userGroups => .ok userGroups db
  | .error failure => .error failure db

/-- `_process_oidc_callback_fastapi`, from the extracted claims on. -/
def processOidcCallback : EStateM Failure Database LoginAnswer := fun db =>
  match (detectGroups claims >>= manageUser env config claims) db with
  | .error _ reached => .ok (none,["Failed to update user/groups"]) reached
  | result => result

end Callback

/-- The account has no membership left and is no administrator. -/
def Deauthorised (t : Tables) (username : String) : Prop :=
  ∃ user, t.getUser username = .ok user ∧ t.listUserGroups user = [] ∧ user.isAdmin = false

section Rejection
variable {env : LoginEnv} {config : LoginConfig} {claims : LoginClaims} {db : Database}
  {user : SqlUser} {userGroups : List String}

def withoutMemberships (t : Tables) (user : SqlUser) : Tables :=
  { t with userGroups := t.userGroups.filter (fun row => decide (row.userId ≠ user.id)) }

theorem integrity_withoutMemberships {t : Tables} (integrity : Integrity t) (user : SqlUser) :
    Integrity (withoutMemberships t user) :=
  { integrity with
    memberUsers := integrity.memberUsers.sublist List.filter_sublist
    memberGroups := fun row member =>
      integrity.memberGroups row (List.mem_of_mem_filter member) }

/-- A rejected login of a known user drops the memberships and changes nothing else. -/
theorem rejected_login (claimed : claims.groups = .ok userGroups)
    (noAdmin : isAdminLogin config userGroups = false)
    (notAllowed : isAllowedLogin config userGroups = false)
    (known : db.tables.getUser claims.username = .ok user) :
    (after (processOidcCallback env config claims) db).tables = withoutMemberships db.tables user := by
  have has : UserModule.hasUser db.tables claims.username = true := by
    rw [UserModule.hasUser,Tables.getUser_eq_ok.mp known]
    rfl
  have emptied : Tables.setGroupsForUser claims.username [] db.tables =
      .ok (withoutMemberships db.tables user) := by
    simp only [Tables.setGroupsForUser,known]
    rfl
  have updated : UserModule.updateUser env claims.username [] db =
      .ok () ⟨_,integrity_withoutMemberships db.integrity user⟩ := session_commits emptied _
  have revoked : revokeGroups env claims db =
      .ok () ⟨_,integrity_withoutMemberships db.integrity user⟩ := by
    rw [revokeGroups,if_pos ⟨claims.named,has⟩]
    simp only [quietly,after,updated,finish]
  have managed : manageUser env config claims userGroups db =
      .ok (none,["User is not allowed to login"])
        ⟨_,integrity_withoutMemberships db.integrity user⟩ := by
    rw [manageUser,if_pos ⟨noAdmin,notAllowed⟩]
    exact bind_of_ok revoked
  have detected : detectGroups claims db = .ok userGroups db := by
    simp only [detectGroups,claimed]
  have ran := (bind_of_ok detected).trans managed
  simp only [after,processOidcCallback,ran,finish]

/-- A rejected login takes the privileges of a known user exactly when the user was no
administrator. -/
theorem deauthorised_iff (claimed : claims.groups = .ok userGroups)
    (noAdmin : isAdminLogin config userGroups = false)
    (notAllowed : isAllowedLogin config userGroups = false)
    (known : db.tables.getUser claims.username = .ok user) :
    Deauthorised (after (processOidcCallback env config claims) db).tables claims.username ↔
      user.isAdmin = false := by
  rw [rejected_login claimed noAdmin notAllowed known]
  have known' : (withoutMemberships db.tables user).getUser claims.username = .ok user := known
  constructor
  · intro ⟨other,found,_,notAdmin⟩
    rw [known',Except.ok.injEq] at found
    rw [found]
    exact notAdmin
  · intro notAdmin
    refine ⟨user,known',?_,notAdmin⟩
    simp [Tables.listUserGroups,withoutMemberships]

section Administrator

def LoginEnv.bare : LoginEnv where
  toStoreEnv := .bare
  generateToken := "token"
  lower := String.toLower

/-- The configuration of an installation that sets nothing. -/
def LoginConfig.default : LoginConfig where
  oidcAdminGroupName := ["mlflow-admin"]
  oidcGroupName := ["mlflow"]
  oidcUsernameField := ["email","preferred_username"]
  mlflowEnableWorkspaces := false
  oidcWorkspaceDefaultPermission := "NO_PERMISSIONS"

/-- Alice, who has left all groups that may log in. -/
def aliceOutside : LoginClaims where
  username := "alice"
  named := by decide
  displayName := "Alice"
  groups := .ok ["guests"]
  workspaces := []
  email := none

/-- Alice as her last login left her. -/
def memberOnce (isAdmin : Bool) : Database where
  tables := { Tables.empty with
    users := [⟨1,"alice","Alice","",none,isAdmin,false⟩]
    groups := [⟨1,"mlflow"⟩]
    userGroups := [⟨1,1,1⟩] }
  integrity := by cases isAdmin <;> decide

theorem stays_administrator : ¬ ∀ env config claims db user userGroups,
    claims.groups = .ok userGroups → isAdminLogin config userGroups = false →
    isAllowedLogin config userGroups = false → db.tables.getUser claims.username = .ok user →
    Deauthorised (after (processOidcCallback env config claims) db).tables claims.username := by
  intro deauthorised
  obtain ⟨user,found,_,notAdmin⟩ := deauthorised .bare .default aliceOutside (memberOnce true) _ _
    rfl rfl rfl rfl
  rw [rejected_login rfl rfl rfl rfl] at found
  cases found
  cases notAdmin

theorem deauthorised_iff_member : Deauthorised
    (after (processOidcCallback .bare .default aliceOutside) (memberOnce false)).tables "alice" :=
  (deauthorised_iff rfl rfl rfl rfl).mpr rfl

end Administrator
end Rejection
end MlflowOidcAuth
