import MlflowOidcAuth.Store.Footprints
import MlflowOidcAuth.Store.Workspaces

/-! What the hook does after a resource was created: its creator is to manage it. The grant
is a plain insertion, which a row that is already there refuses. -/
namespace MlflowOidcAuth
open Effects

/-- What a successful response says was created. -/
inductive Creation
  | experiment (experimentId : String)
  | registeredModel (name : String)
  | scorer (experimentId scorerName : String)
  | gatewayEndpoint (name : String)
  | gatewaySecret (secretName : String)
  | gatewayModelDefinition (name : String)
deriving DecidableEq, Repr

namespace Creation

def family : Creation → Family
  | experiment _ => .experiment
  | registeredModel _ => .registeredModel
  | scorer _ _ => .scorer
  | gatewayEndpoint _ => .gatewayEndpoint
  | gatewaySecret _ => .gatewaySecret
  | gatewayModelDefinition _ => .gatewayModelDefinition

def key : Creation → ResourceKey
  | experiment experimentId => ⟨experimentId,none⟩
  | registeredModel name => ⟨name,none⟩
  | scorer experimentId scorerName => ⟨experimentId,some scorerName⟩
  | gatewayEndpoint name => ⟨name,none⟩
  | gatewaySecret secretName => ⟨secretName,none⟩
  | gatewayModelDefinition name => ⟨name,none⟩

theorem scorerName_key (creation : Creation) :
    creation.key.scorerName.isSome = decide (creation.family = .scorer) := by
  cases creation <;> rfl

/-- The method of the store that the handler of the response calls. -/
def method : Creation → StoreMethod
  | experiment _ => .createExperimentPermission
  | registeredModel _ => .createRegisteredModelPermission
  | scorer _ _ => .createScorerPermission
  | gatewayEndpoint _ => .createGatewayEndpointPermission
  | gatewaySecret _ => .createGatewaySecretPermission
  | gatewayModelDefinition _ => .createGatewayModelDefinitionPermission

def arguments (username : String) : Creation → Arguments
  | experiment experimentId =>
    { experimentId := experimentId, username := username, permission := Permission.manage.name }
  | registeredModel name =>
    { name := name, username := username, permission := Permission.manage.name }
  | scorer experimentId scorerName =>
    { experimentId := experimentId, scorerName := scorerName, username := username,
      permission := Permission.manage.name }
  | gatewayEndpoint name =>
    { gatewayName := name, username := username, permission := Permission.manage.name }
  | gatewaySecret secretName =>
    { gatewayName := secretName, username := username, permission := Permission.manage.name }
  | gatewayModelDefinition name =>
    { gatewayName := name, username := username, permission := Permission.manage.name }

end Creation

/-- `_set_can_manage_…_permission`. -/
def setCanManagePermission (env : StoreEnv) (username : String) (creation : Creation) :
    EStateM Failure Database PUnit :=
  (creation.method.operation (creation.arguments username)).run env

/-- `_auto_grant_workspace_manage_permission`; a failure is only logged. -/
def autoGrantWorkspaceManagePermission (config : AppConfig) (username workspaceName : String) :
    EStateM Failure Database PUnit :=
  if config.mlflowEnableWorkspaces = true ∧ workspaceName ≠ "" then
    quietly (createWorkspacePermission .user workspaceName username Permission.manage.name)
  else pure ()

/-- The handler returns, and the creator's own row then says `MANAGE`. -/
def GrantsManage (env : StoreEnv) (username : String) (creation : Creation) (db : Database) : Prop :=
  ∃ written row, setCanManagePermission env username creation db = .ok () written ∧
    written.tables.getUserPermission creation.family creation.key username = .ok row ∧
    row.permission = Permission.manage.name

section Grant
variable {db : Database} {username : String} {user : SqlUser} {family : Family} {key : ResourceKey}
  {permission : String}

/-- The row that a grant to a user inserts. -/
def grantedRow (t : Tables) (family : Family) (key : ResourceKey) (user : SqlUser)
    (permission : String) : SqlPermission :=
  ⟨nextId ((t.userPermissions family).map SqlPermission.id),key,user.id,permission,false⟩

def withGranted (t : Tables) (family : Family) (key : ResourceKey) (user : SqlUser)
    (permission : String) : Tables :=
  t.withDirect .user family (t.userPermissions family ++ [grantedRow t family key user permission])

theorem grantPermission_of_user {t : Tables} (valid : validatePermission permission = .ok ())
    (known : t.getUser username = .ok user) :
    Tables.grantPermission .user family key username permission false t =
      .ok (withGranted t family key user permission) := by
  simp only [Tables.grantPermission,valid,Tables.ownerId,known]
  rfl

/-- The schema takes the row unless the user already has one for the resource. -/
theorem withGranted_integrity (known : db.tables.getUser username = .ok user)
    (keyed : key.scorerName.isSome = decide (family = .scorer)) :
    Integrity (withGranted db.tables family key user permission) ↔
      db.tables.userRows family key user = [] := by
  have member := (mem_of_usersNamed (Tables.getUser_eq_ok.mp known)).1
  obtain ⟨table,scorers⟩ := db.integrity.userPermissions family
  have unowned : db.tables.userRows family key user = [] ↔
      (key,user.id) ∉ (db.tables.userPermissions family).map (fun row => (row.key,row.ownerId)) := by
    simp only [Tables.userRows,List.filter_eq_nil_iff,decide_eq_true_eq,List.mem_map,Prod.mk.injEq,
      not_exists,not_and]
  rw [unowned]
  constructor
  · intro integrity
    have inserted := (integrity.direct .user family).1
    rw [withGranted,Tables.owners_withDirect,Tables.direct_withDirect,if_pos ⟨rfl,rfl⟩] at inserted
    exact ((tableIntegrity_concat table).mp inserted).2.1
  · intro without
    apply db.integrity.withDirect
    refine ⟨(tableIntegrity_concat table).mpr ⟨nextId_not_mem _,without,?_⟩,?_⟩
    · exact List.mem_map.mpr ⟨user,member,rfl⟩
    · intro row stored
      rcases List.mem_append.mp stored with old | new
      · exact scorers row old
      · rw [List.mem_singleton.mp new]
        exact keyed

theorem getUserPermission_withGranted (known : db.tables.getUser username = .ok user)
    (without : db.tables.userRows family key user = []) :
    (withGranted db.tables family key user permission).getUserPermission family key username =
      .ok (grantedRow db.tables family key user permission) := by
  have found : (withGranted db.tables family key user permission).getUser username = .ok user := known
  have rows : (withGranted db.tables family key user permission).userRows family key user =
      [grantedRow db.tables family key user permission] := by
    simp only [Tables.userRows] at without
    simp only [Tables.userRows,withGranted,Tables.withDirect,Function.update_self,
      List.filter_append,without]
    simp [grantedRow]
  rw [Tables.getUserPermission_of_user found,rows]
  rfl

end Grant

theorem setCanManagePermission_eq (env : StoreEnv) (username : String) (creation : Creation) :
    setCanManagePermission env username creation =
      session (grantViolation .user creation.family creation.key username)
        (Tables.grantPermission .user creation.family creation.key username
          Permission.manage.name false) := by
  cases creation <;> rfl

section Handler
variable {env : StoreEnv} {username : String} {creation : Creation} {db : Database}

theorem valid_manage : validatePermission Permission.manage.name = .ok () := by decide

theorem setCanManagePermission_new {written : Database}
    (ran : setCanManagePermission env username creation db = .ok () written) :
    ∃ user, db.tables.getUser username = .ok user ∧
      db.tables.userRows creation.family creation.key user = [] := by
  rw [setCanManagePermission_eq] at ran
  have body := session_ok ran
  obtain ⟨_,_,inserted⟩ := bind_ok body
  obtain ⟨_,owner,_⟩ := bind_ok inserted
  obtain ⟨user,known,_⟩ := bind_ok owner
  rw [grantPermission_of_user valid_manage known,Except.ok.injEq] at body
  exact ⟨user,known,(withGranted_integrity known creation.scorerName_key).mp
    (body ▸ written.integrity)⟩

theorem setCanManagePermission_grants {user : SqlUser} (known : db.tables.getUser username = .ok user)
    (without : db.tables.userRows creation.family creation.key user = []) :
    GrantsManage env username creation db := by
  have integrity : Integrity (withGranted db.tables creation.family creation.key user
      Permission.manage.name) := (withGranted_integrity known creation.scorerName_key).mpr without
  rw [GrantsManage,setCanManagePermission_eq]
  exact ⟨_,_,session_commits (grantPermission_of_user valid_manage known) integrity,
    getUserPermission_withGranted known without,rfl⟩

end Handler

theorem grantsManage_iff (env : StoreEnv) (username : String) (creation : Creation)
    (db : Database) : GrantsManage env username creation db ↔
      (∃ user, db.tables.getUser username = .ok user) ∧
        ∀ row, db.tables.getUserPermission creation.family creation.key username ≠ .ok row := by
  constructor
  · intro ⟨written,_,ran,_⟩
    obtain ⟨user,known,without⟩ := setCanManagePermission_new ran
    refine ⟨⟨user,known⟩,fun row held => ?_⟩
    rw [Tables.getUserPermission_of_user known,without] at held
    cases held
  · intro ⟨⟨user,known⟩,unheld⟩
    apply setCanManagePermission_grants known
    rcases userRows_unique db creation.family creation.key user with empty | ⟨row,only⟩
    · exact empty
    · rw [Tables.getUserPermission_of_user known,only] at unheld
      exact absurd rfl (unheld row)

section SecondVersion

def aliceAlone : Database where
  tables := { Tables.empty with users := [⟨1,"alice","Alice","",none,false,false⟩] }
  integrity := by decide

/-- Whoever registers a second version of a scorer has the row of the first. -/
theorem second_version_raises : ¬ ∀ env username creation start reached user,
    start.tables.getUser username = .ok user →
    setCanManagePermission env username creation start = .ok () reached →
    GrantsManage env username creation reached := by
  intro granted
  have known : aliceAlone.tables.getUser "alice" = .ok ⟨1,"alice","Alice","",none,false,false⟩ := rfl
  obtain ⟨reached,row,ran,held,_⟩ :
      GrantsManage .bare "alice" (.scorer "1" "quality") aliceAlone :=
    setCanManagePermission_grants known rfl
  obtain ⟨_,_,again,_⟩ := granted .bare "alice" _ aliceAlone reached _ rfl ran
  obtain ⟨user,known,without⟩ := setCanManagePermission_new again
  rw [Tables.getUserPermission_of_user known,without] at held
  cases held

end SecondVersion
end MlflowOidcAuth
