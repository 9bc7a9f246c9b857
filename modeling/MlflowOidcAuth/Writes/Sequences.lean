import MlflowOidcAuth.Hook.CreationGrants
import MlflowOidcAuth.Hook.Renames
import MlflowOidcAuth.Library.Run
import MlflowOidcAuth.Routers.Login
import MlflowOidcAuth.Routers.WorkspacePermissions
import MlflowOidcAuth.Writes.Rows

/-! Everything that writes permission rows, one write after the other: the methods of the store,
the endpoints of workspaces, the handlers of the hook and the logins. -/
namespace MlflowOidcAuth
open Effects

inductive Write
  | method (operation : Operation)
  | workspaceMethod (write : WorkspaceWrite)
  | endpoint (workspace : String) (call : WorkspaceCall)
  | created (username : String) (creation : Creation)
  | createdWorkspace (username workspaceName : String)
  | renamedModel (request : FlaskRequest)
  | gateway (g : GatewayContext) (newName : String) (kind : GatewayKind)
      (operation : GatewayOperation)
  | login (config : LoginConfig) (claims : LoginClaims)

namespace Write

def run (env : LoginEnv) : Write → EStateM Failure Database PUnit
  | method operation => operation.run env.toStoreEnv
  | workspaceMethod write => write.run env.resolution.regex
  | endpoint workspace call => call.write workspace
  | created username creation => setCanManagePermission env.toStoreEnv username creation
  | createdWorkspace username workspaceName =>
    autoGrantWorkspaceManagePermission env.resolution.config username workspaceName
  | renamedModel request => renameRegisteredModelPermission env.toStoreEnv request
  | gateway g newName kind operation => gatewayHandler env.toStoreEnv g newName kind operation
  | login config claims => do
    let _ ← processOidcCallback env config claims

/-- The permissions that a write stores without a check. -/
def uncheckedPermissions : Write → List String
  | workspaceMethod write => write.uncheckedPermissions
  | login config claims =>
    if allowsLogin config claims && config.mlflowEnableWorkspaces &&
        claims.workspaces.any (fun name => decide (name ≠ "")) then
      [config.oidcWorkspaceDefaultPermission]
    else []
  | _ => []

/-- The patterns that a write stores without a check. -/
def uncheckedPatterns : Write → List String
  | method operation => operation.uncheckedPatterns
  | _ => []

end Write

def emptyDatabase : Database := ⟨.empty,by decide⟩

/-- A write that answers whether it returned. -/
def writeStep (env : LoginEnv) (db : Database) (write : Write) : Bool × Database :=
  match write.run env db with
  | .ok _ written => (true,written)
  | .error _ reached => (false,reached)

section Login
variable {inv : Database → Prop} {env : LoginEnv} {config : LoginConfig} {claims : LoginClaims}

theorem preserves_decided {condition : Database → Prop} [DecidablePred condition]
    {program : EStateM Failure Database PUnit} (kept : Preserves inv program) :
    Preserves inv (fun db => if condition db then program db else .ok () db) := by
  intro db held
  by_cases holds : condition db
  · simp only [after,if_pos holds]
    exact kept db held
  · simp only [after,if_neg holds]
    exact held

theorem preserves_getUserProfile (username : String) :
    Preserves inv (UserModule.getUserProfile username) := by
  intro db held
  unfold after UserModule.getUserProfile
  split <;> exact held

section Callback
variable (operations : ∀ operation : Operation, operation.uncheckedPatterns = [] →
  Preserves inv (operation.run env.toStoreEnv))
include operations

theorem preserves_createUser (username displayName : String) (isAdmin : Bool) :
    Preserves inv (UserModule.createUser env username displayName isAdmin) := by
  intro db held
  have updated := ((preserves_getUserProfile username).bind (fun _ => operations
    (.updateUser username { isAdmin := some isAdmin, isServiceAccount := some false }) rfl)) db held
  have created := operations (.createUser username env.generateToken displayName isAdmin false) rfl
  simp only [after,UserModule.createUser] at updated ⊢
  split
  · next failed =>
    rw [failed] at updated
    exact created _ updated
  · exact updated

theorem preserves_migrateLegacyUser : Preserves inv (migrateLegacyUser env config claims) := by
  intro db held
  unfold after migrateLegacyUser
  split
  · next email _ _ =>
    dsimp only
    split
    · exact operations (.renameUser (env.lower email) claims.username) rfl db held
    · exact held
  · exact held

theorem preserves_syncProfile (userGroups : List String) :
    Preserves inv (syncProfile env claims userGroups) := by
  apply Preserves.quietly
  apply (operations (.populateGroups userGroups) rfl).bind
  intro _
  apply (operations (.setUserGroups claims.username userGroups) rfl).bind
  intro _
  apply Preserves.ite
  · intro _
    exact operations (.setUserDisplayname claims.username claims.displayName) rfl
  · intro _
    exact preserves_pure _

theorem preserves_syncQuotaEmail : Preserves inv (syncQuotaEmail env claims) := by
  unfold syncQuotaEmail
  split
  · exact preserves_pure _
  · next email _ =>
    apply Preserves.ite
    · intro _
      exact preserves_pure _
    · intro _
      exact (operations (.quota claims.username (.email (some email))) rfl).quietly

theorem preserves_manageUser (userGroups : List String)
    (assigned : isAdminLogin config userGroups || isAllowedLogin config userGroups →
      Preserves inv (assignWorkspaces config claims)) :
    Preserves inv (manageUser env config claims userGroups) := by
  apply Preserves.ite
  · intro _
    have revoked : Preserves inv (revokeGroups env claims) :=
      preserves_decided (operations (.setUserGroups claims.username []) rfl).quietly
    exact revoked.bind (fun _ => preserves_pure _)
  · intro notRejected
    have letIn : isAdminLogin config userGroups || isAllowedLogin config userGroups := by
      rw [Bool.or_eq_true]
      by_contra neither
      rw [not_or,Bool.not_eq_true,Bool.not_eq_true] at neither
      exact notRejected neither
    apply (preserves_migrateLegacyUser operations).bind
    intro _
    apply (preserves_createUser operations _ _ _).bind
    intro _
    apply (preserves_syncProfile operations userGroups).bind
    intro _
    apply (assigned letIn).bind
    intro _
    exact (preserves_syncQuotaEmail operations).bind (fun _ => preserves_pure _)

theorem preserves_processOidcCallback
    (assigned : allowsLogin config claims → Preserves inv (assignWorkspaces config claims)) :
    Preserves inv (processOidcCallback env config claims) := by
  intro db held
  cases claimed : claims.groups with
  | error failure =>
    have detected : detectGroups claims db = .error failure db := by
      simp only [detectGroups,claimed]
    simp only [after,processOidcCallback,bind_of_error detected]
    exact held
  | ok userGroups =>
    have detected : detectGroups claims db = .ok userGroups db := by
      simp only [detectGroups,claimed]
    have kept : Preserves inv (manageUser env config claims userGroups) := by
      apply preserves_manageUser operations
      intro letIn
      apply assigned
      rw [allowsLogin,claimed]
      exact letIn
    have managed := kept db held
    simp only [after,processOidcCallback,bind_of_ok detected] at managed ⊢
    split
    · next failed =>
      rw [failed] at managed
      exact managed
    · exact managed

end Callback
end Login

section Writes
variable {level pattern : String → Prop} {env : LoginEnv}
  (checked : ∀ name, validatePermission name = .ok () → level name)
  (accepted : ∀ text, validateRegex env.resolution.regex text = .ok () → pattern text)
include checked

theorem preserves_endpoint (workspace : String) (call : WorkspaceCall) :
    Preserves (fun db => RowsSatisfy level pattern db.tables) (call.write workspace) := by
  intro db held
  cases call with
  | create holder owner permission =>
    simp only [after,WorkspaceCall.write]
    split
    · exact held
    · next valid =>
      exact createWorkspacePermission_preserves _ _ _ _ (checked permission valid) db held
  | update holder owner permission =>
    simp only [after,WorkspaceCall.write]
    split
    · exact held
    · next valid =>
      have brought := checked permission valid
      have kept : Preserves (fun db => RowsSatisfy level pattern db.tables)
          (updateWorkspacePermission holder workspace owner permission) :=
        preserves_session (fun _ _ held ran => updateWorkspaceRow_satisfies brought held ran)
      exact kept db held
  | delete holder owner =>
    have kept : Preserves (fun db => RowsSatisfy level pattern db.tables)
        (deleteWorkspacePermission holder workspace owner) :=
      preserves_session (fun _ _ held ran => deleteWorkspaceRow_satisfies held ran)
    exact kept db held

omit checked in
theorem preserves_assignWorkspaces (config : LoginConfig) (claims : LoginClaims)
    (letIn : allowsLogin config claims)
    (unchecked : ∀ name ∈ (Write.login config claims).uncheckedPermissions, level name) :
    Preserves (fun db => RowsSatisfy level pattern db.tables) (assignWorkspaces config claims) := by
  apply Preserves.ite
  · intro enabled
    apply Preserves.forM
    intro workspace listed
    apply Preserves.ite
    · intro _
      exact preserves_pure _
    · intro nonempty
      have named : claims.workspaces.any (fun name => decide (name ≠ "")) = true :=
        List.any_eq_true.mpr ⟨workspace,listed,by simpa using nonempty⟩
      have assigns : (allowsLogin config claims && config.mlflowEnableWorkspaces &&
          claims.workspaces.any (fun name => decide (name ≠ ""))) = true := by
        rw [letIn,enabled,named]
        rfl
      have brought : level config.oidcWorkspaceDefaultPermission := by
        apply unchecked
        rw [Write.uncheckedPermissions,if_pos assigns]
        exact List.mem_cons_self
      exact (createWorkspacePermission_preserves _ _ _ _ brought).quietly
  · intro _
    exact preserves_pure _

include accepted

theorem write_preserves (write : Write)
    (unchecked : ∀ name ∈ write.uncheckedPermissions, level name)
    (unchecked' : ∀ text ∈ write.uncheckedPatterns, pattern text) :
    Preserves (fun db => RowsSatisfy level pattern db.tables) (write.run env) := by
  have operations : ∀ operation : Operation, operation.uncheckedPatterns = [] →
      Preserves (fun db => RowsSatisfy level pattern db.tables) (operation.run env.toStoreEnv) := by
    intro operation none_unchecked
    apply operation_preserves checked accepted operation
    rw [none_unchecked]
    exact fun _ member => absurd member List.not_mem_nil
  cases write with
  | method operation => exact operation_preserves checked accepted operation unchecked'
  | workspaceMethod write =>
    exact workspaceWrite_preserves checked accepted write unchecked
  | endpoint workspace call => exact preserves_endpoint checked workspace call
  | created username creation =>
    rw [Write.run,setCanManagePermission_eq]
    exact preserves_session (fun _ _ held ran => grantPermission_satisfies checked held ran)
  | createdWorkspace username workspaceName =>
    apply Preserves.ite
    · intro _
      exact (createWorkspacePermission_preserves _ _ _ _ (checked _ valid_manage)).quietly
    · intro _
      exact preserves_pure _
  | renamedModel request =>
    simp only [Write.run,renameRegisteredModelPermission]
    split
    · exact preserves_pure _
    · exact (operations (.renameModel .user _ _) rfl).bind
        (fun _ => operations (.renameModel .group _ _) rfl)
  | gateway g newName kind operation =>
    simp only [Write.run,gatewayHandler]
    split
    · exact preserves_pure _
    · exact (operations (.renameEndpoint _ _) rfl).quietly
    · exact (operations (.wipeBoth _ _) rfl).quietly
  | login config claims =>
    have assigned : allowsLogin config claims → Preserves (fun db => RowsSatisfy level pattern db.tables)
        (assignWorkspaces config claims) :=
      fun letIn => preserves_assignWorkspaces config claims letIn unchecked
    exact (preserves_processOidcCallback operations assigned).bind (fun _ => preserves_pure _)

omit checked accepted in
theorem writeStep_after (db : Database) (write : Write) :
    (writeStep env db write).2 = after (write.run env) db := by
  unfold writeStep after
  split
  · next ran =>
    rw [ran]
    rfl
  · next raised =>
    rw [raised]
    rfl

/-- In a run whose unchecked values satisfy the conditions, all stored values do. -/
theorem run_satisfies {start : Database} {writes : List Write}
    (initial : RowsSatisfy level pattern start.tables)
    (unchecked : ∀ write ∈ writes, (∀ name ∈ write.uncheckedPermissions, level name) ∧
      ∀ text ∈ write.uncheckedPatterns, pattern text) :
    (∀ moment ∈ Run.moments (writeStep env) start writes,
        RowsSatisfy level pattern moment.before.tables) ∧
      RowsSatisfy level pattern (Run.final (writeStep env) start writes).tables := by
  have keeps : ∀ db write, RowsSatisfy level pattern db.tables →
      ((∀ name ∈ write.uncheckedPermissions, level name) ∧
        ∀ text ∈ write.uncheckedPatterns, pattern text) →
      RowsSatisfy level pattern (writeStep env db write).2.tables := by
    intro db write held fine
    rw [writeStep_after]
    exact write_preserves checked accepted write fine.1 fine.2 db held
  exact Run.invariant_of_moments keeps initial
    (fun moment member => unchecked _ (Run.event_of_moment _ member))

end Writes
end MlflowOidcAuth
