import MlflowOidcAuth.Library.Run
import MlflowOidcAuth.Middleware.Pipeline
import MlflowOidcAuth.Store.UserDeletion

/-! The application over time: requests and writes of the store in any order. Who is an
administrator is read for each request, so a demotion holds from the next one on. -/
namespace MlflowOidcAuth
open Effects

inductive SiteEvent
  | request (clock : Clock) (request : WebRequest)
  | operation (operation : Operation)

/-- The application answers a request as it is at the moment, that is for the current tables. -/
def siteStep (env : StoreEnv) (app : Database → Application) (db : Database) :
    SiteEvent → Option Served × Database
  | .request clock request => (some ((app db).serve request clock db.tables),db)
  | .operation operation => (none,after (operation.run env) db)

/-- Nobody of the name is an administrator. -/
def NotAdmin (username : String) (t : Tables) : Prop :=
  ∀ user ∈ t.users, user.username = username → user.isAdmin = false

/-- The operations that may make an administrator of whoever has the name. -/
def Operation.promotes (username : String) : Operation → Bool
  | .createUser created _ _ isAdmin _ => isAdmin && decide (created = username)
  | .updateUser changed change => decide (change.isAdmin = some true ∧ changed = username)
  | .renameUser _ newUsername => decide (newUsername = username)
  | _ => false

section Accounts
variable {env : StoreEnv} {operation : Operation} {username : String}

theorem NotAdmin.of_users {t t' : Tables} (plain : NotAdmin username t)
    (same : t'.users = t.users) : NotAdmin username t' := by
  intro user member
  rw [same] at member
  exact plain user member

theorem notAdmin_changeUser {change : SqlUser → SqlUser} {changed : String} {db : Database}
    {t' : Tables} (plain : NotAdmin username db.tables)
    (ran : Tables.changeUser change changed db.tables = .ok t')
    (spares : ∀ user ∈ db.tables.users, user.username = changed →
      (change user).username = username → (change user).isAdmin = false) : NotAdmin username t' := by
  obtain ⟨found,known,rfl⟩ := changeUser_ok ran
  obtain ⟨listed,name⟩ := mem_of_usersNamed known
  intro user member named
  obtain ⟨account,stored,rfl⟩ := List.mem_map.mp member
  split at named
  · next same =>
    rw [if_pos same]
    have isFound : account = found := user_of_id stored listed same
    exact spares account stored (isFound ▸ name) named
  · next other =>
    rw [if_neg other]
    exact plain account stored named

/-- An operation that promotes nobody of the name leaves nobody of the name an administrator. -/
theorem notAdmin_run (env : StoreEnv) (spares : operation.promotes username = false) :
    Preserves (fun db : Database => NotAdmin username db.tables) (operation.run env) := by
  by_cases elsewhere : operation.sparesWorkspaces = true
  · intro db plain
    have kept := congrArg Tables.users (run_keeps_workspaces env elsewhere db)
    exact plain.of_users kept
  · cases operation
    case setUserGroups =>
      apply preserves_session
      intro db written plain ran
      obtain ⟨_,_,same⟩ := setGroupsForUser_memberships ran
      exact plain.of_users (by rw [same.written])
    case addUserToGroup =>
      apply preserves_session
      intro db written plain ran
      obtain ⟨_,_,same⟩ := addUserToGroup_memberships ran
      exact plain.of_users (by rw [same.written])
    case removeUserFromGroup =>
      apply preserves_session
      intro db written plain ran
      obtain ⟨_,_,same⟩ := removeUserFromGroup_memberships ran
      exact plain.of_users (by rw [same.written])
    case createUser created password displayName isAdmin isServiceAccount =>
      apply preserves_session
      intro db written plain ran
      obtain ⟨_,_,ran⟩ := bind_ok ran
      cases ran
      intro user member named
      rcases List.mem_append.mp member with earlier | last
      · exact plain user earlier named
      · rw [List.mem_singleton.mp last] at named ⊢
        have isSame : created = username := named
        simpa [Operation.promotes,isSame] using spares
    case updateUser changed change =>
      apply preserves_session
      intro db written plain ran
      apply notAdmin_changeUser plain ran
      intro user stored name named
      have same : changed = username := name.symm.trans named
      have refused : change.isAdmin ≠ some true := by
        simpa [Operation.promotes,same] using spares
      change change.isAdmin.getD user.isAdmin = false
      rcases given : change.isAdmin with _ | isAdmin
      · exact plain user stored (name.trans same)
      · cases isAdmin
        · rfl
        · exact absurd given refused
    case renameUser oldUsername newUsername =>
      apply preserves_session
      intro db written plain ran
      obtain ⟨_,_,ran⟩ := bind_ok ran
      apply notAdmin_changeUser plain ran
      intro user stored name named
      exact absurd named (of_decide_eq_false spares)
    case setUserDisplayname changed displayName =>
      apply preserves_session
      intro db written plain ran
      apply notAdmin_changeUser plain ran
      intro user stored name named
      exact plain user stored named
    case deleteUser deleted =>
      apply preserves_session
      intro db written plain ran
      obtain ⟨_,_,ran⟩ := bind_ok ran
      cases ran
      intro user member
      exact plain user (List.mem_filter.mp member).1
    all_goals exact absurd rfl elsewhere

theorem notAdmin_of_demotion {change : UserChange} {db db' : Database}
    (demotes : change.isAdmin = some false)
    (ran : (Operation.updateUser username change).run env db = .ok () db') :
    NotAdmin username db'.tables := by
  have changed := session_ok ran
  obtain ⟨found,known,written⟩ := changeUser_ok changed
  obtain ⟨listed,name⟩ := mem_of_usersNamed known
  intro user member named
  rw [written] at member
  obtain ⟨account,stored,rfl⟩ := List.mem_map.mp member
  split
  · change change.isAdmin.getD account.isAdmin = false
    rw [demotes]
    rfl
  · next other =>
    rw [if_neg other] at named
    exact absurd (congrArg SqlUser.id (user_of_name stored listed (named.trans name.symm))) other

theorem getUserAdminStatus_of_notAdmin {t : Tables} (plain : NotAdmin username t) :
    getUserAdminStatus t username = false := by
  unfold getUserAdminStatus
  split
  · next user found =>
    have member : user ∈ t.usersNamed username := by
      unfold oneOrNone at found
      split at found
      · cases found
      · next only =>
        cases found
        rw [only]
        exact List.mem_singleton_self _
      · cases found
    obtain ⟨listed,named⟩ := List.mem_filter.mp member
    exact plain user listed (of_decide_eq_true named)
  · rfl

end Accounts

/-- After a demotion, and until an operation promotes the name again, every request that is
served to a user of the name is served on the grounds of permissions. -/
theorem demoted_until_promoted (env : StoreEnv) (app : Database → Application)
    (start reached : Database) (username : String) (change : UserChange) (events : List SiteEvent)
    (demotes : change.isAdmin = some false)
    (ran : (Operation.updateUser username change).run env start = .ok () reached)
    (spares : ∀ operation, .operation operation ∈ events → operation.promotes username = false) :
    ∀ moment ∈ Run.moments (siteStep env app) reached events, ∀ clock request destination auth,
      moment.event = .request clock request →
      moment.answer = some (.handled destination (some auth)) → auth.username = username →
        auth.isAdmin = false ∧ ∃ workspace,
          NativePermits ((app moment.before).urlPath ((app moment.before).proxied request)) request
            ((app moment.before).effective ⟨none,workspace⟩) username ∧
          (destination = .flask →
            HookPermits (app moment.before) request ⟨some auth,workspace⟩ username) := by
  let Spares := fun (_ : Database) (event : SiteEvent) => ∀ operation,
    event = .operation operation → operation.promotes username = false
  have kept : ∀ db event, NotAdmin username db.tables → Spares db event →
      NotAdmin username (siteStep env app db event).2.tables := by
    intro db event plain allowed
    cases event with
    | request clock request => exact plain
    | operation operation => exact notAdmin_run env (allowed operation rfl) db plain
  have allowed : ∀ moment ∈ Run.moments (siteStep env app) reached events,
      Spares moment.before moment.event := by
    intro moment member operation isOperation
    exact spares operation (isOperation ▸ Run.event_of_moment _ member)
  have plain : ∀ moment ∈ Run.moments (siteStep env app) reached events,
      NotAdmin username moment.before.tables :=
    (@Run.invariant_of_moments _ _ _ _ (fun db : Database => NotAdmin username db.tables) Spares kept
      _ _ (notAdmin_of_demotion demotes ran) allowed).1
  intro moment member clock request destination auth asked answered named
  have grounds := Run.answer_of_moment _ member
  rw [answered,asked] at grounds
  simp only [siteStep,Option.some.injEq] at grounds
  obtain ⟨_,_,_,passed,checked,hook⟩ := served_iff.mp grounds.symm
  rcases authMiddleware_next.mp passed with ⟨_,impossible⟩ | ⟨_,other,solid,_,same⟩
  · cases impossible
  · cases same
    have isSame : other = username := named
    subst isSame
    have solid' : (authContext (app moment.before) moment.before.tables request other).username ≠ "" :=
      solid
    have demoted := getUserAdminStatus_of_notAdmin (plain moment member)
    have notAdmin : ¬ (authContext (app moment.before) moment.before.tables request other).isAdmin =
        true := by
      simp [authContext,demoted]
    refine ⟨demoted,_,((nativePermits_iff solid').mp checked).resolve_left notAdmin,?_⟩
    intro flask
    exact ((hook_permits solid').mp (hook flask)).resolve_left notAdmin

/-- A server of the plugin's own routes, with plain sessions. -/
def pluginSite : Application where
  env :=
    { plainAuth with
      session := ⟨false,60⟩
      fetchAccessToken := none
      validateToken := fun _ => .error (.other "bad signature")
      oidcUsernameField := ["email"]
      resolveWorkspace := fun _ _ => .ok none
      automaticLoginRedirect := true }
  flask := sampleApplication
  services := fun context =>
    { HookServices.allBut .denyNonAdmin with context := context }
  context := fun _ => rfl
  effective := fun _ _ => .error (.other "no such resource")
  proxyEnv := lanEnv
  trustedProxies := []
  destination := fun _ _ => .plugin
  flaskPath := Scope.path

def aliceVisits : WebRequest where
  toFlaskRequest := requestTo .get "/oidc/permissions" []
  headers := []
  session := ⟨[("username",.str "alice")],by
    intro value stored
    have read : OrderedDict.get [("username",PyValue.str "alice")] "username" =
      some (.str "alice") := rfl
    rw [read,Option.some.injEq] at stored
    exact ⟨"alice",stored.symm⟩⟩

theorem demoted_until_promoted_alice : ∃ reached,
    (Operation.updateUser "alice" { isAdmin := some false }).run .bare twoAccounts = .ok () reached ∧
      (pluginSite.serve aliceVisits ⟨0,0,0⟩ reached.tables =
        .handled .plugin (some ⟨"alice",false,none⟩)) ∧
      NativePermits (pluginSite.urlPath (pluginSite.proxied aliceVisits)) aliceVisits
        (pluginSite.effective ⟨none,none⟩) "alice" := by
  have known : twoAccounts.tables.getUser "alice" =
    .ok ⟨1,"alice","Alice","",none,true,false⟩ := rfl
  let demotion : UserChange := { isAdmin := some false }
  have committed : ∃ reached, session rejected
      (Tables.changeUser (demotion.apply StoreEnv.bare.generatePasswordHash) "alice") twoAccounts =
        .ok () reached ∧ reached.tables.getUser "alice" = .ok _ :=
    changeUser_commits (fun _ => rfl) (fun _ => rfl) known
  obtain ⟨reached,committed,_⟩ := committed
  have ran : (Operation.updateUser "alice" demotion).run .bare twoAccounts = .ok () reached :=
    committed
  have demoted : getUserAdminStatus reached.tables "alice" = false :=
    getUserAdminStatus_of_notAdmin (notAdmin_of_demotion rfl ran)
  have session : Identifies pluginSite.env ⟨0,0,0⟩ reached.tables aliceVisits "alice" := by
    apply Identifies.session
    · intro authHeader sent
      cases sent
    · rfl
    · left
      rfl
  have served : pluginSite.serve aliceVisits ⟨0,0,0⟩ reached.tables =
      .handled .plugin (some ⟨"alice",false,none⟩) := by
    refine served_iff.mpr ⟨rfl,none,rfl,?_,?_,?_⟩
    · refine authMiddleware_next.mpr (.inr ⟨by decide +kernel,"alice",by decide,session,?_⟩)
      simp only [authContext,demoted]
      rfl
    · have unguarded : findFastapiValidator
          (pluginSite.urlPath (pluginSite.proxied aliceVisits)) = none := by decide +kernel
      simp only [fastapiPermissionMiddleware,unguarded]
    · intro impossible
      cases impossible
  have grounds := demoted_until_promoted .bare (fun _ => pluginSite) twoAccounts reached "alice"
    demotion [.request ⟨0,0,0⟩ aliceVisits] rfl ran (by simp) _
    (List.mem_singleton_self _) _ _ _ _ rfl (congrArg some served) rfl
  obtain ⟨_,workspace,permits,_⟩ := grounds
  exact ⟨reached,ran,served,permits⟩

end MlflowOidcAuth
