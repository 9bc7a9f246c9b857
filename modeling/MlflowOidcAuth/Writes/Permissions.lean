import MlflowOidcAuth.Writes.Sequences

/-! Which permissions the tables hold after any sequence of writes. The writes of single
workspace rows and the logins store what they are given. -/
namespace MlflowOidcAuth

/-- A key of `ALL_PERMISSIONS`, which `get_permission` finds. -/
structure StoredLevel (permission : String) : Prop where
  listed : permission ∈ allPermissions.map Permission.name
  found : ∃ level, getPermission permission = .ok level

theorem storedLevel_iff {permission : String} :
    StoredLevel permission ↔ validatePermission permission = .ok () := by
  rw [validatePermission_ok_iff]
  exact ⟨fun known => known.found,fun found => ⟨getPermission_ok_iff.mp found,found⟩⟩

def PermissionsKnown (t : Tables) : Prop := RowsSatisfy StoredLevel (fun _ => True) t

/-- When whatever is stored unchecked is a level, every stored permission is one, in every state
that a sequence of writes reaches. -/
theorem permissionsKnown_run (env : LoginEnv) (start : Database) (writes : List Write)
    (initial : PermissionsKnown start.tables)
    (careful : ∀ write ∈ writes, ∀ name ∈ write.uncheckedPermissions, StoredLevel name) :
    (∀ moment ∈ Run.moments (writeStep env) start writes, PermissionsKnown moment.before.tables) ∧
      PermissionsKnown (Run.final (writeStep env) start writes).tables :=
  run_satisfies (fun _ valid => storedLevel_iff.mpr valid) (fun _ _ => trivial) initial
    (fun write listed => ⟨careful write listed,fun _ _ => trivial⟩)

section DefaultPermission

def viewerConfig : LoginConfig :=
  { LoginConfig.default with
    mlflowEnableWorkspaces := true
    oidcWorkspaceDefaultPermission := "VIEWER" }

/-- Alice, whose claims name a workspace. -/
def aliceInTeam : LoginClaims :=
  { aliceOutside with
    groups := .ok ["mlflow"]
    workspaces := ["team-a"] }

/-- The first login of Alice stores the configured default, which is no permission. -/
theorem stores_default : ¬ ∀ env start writes, PermissionsKnown start.tables →
    PermissionsKnown (Run.final (writeStep env) start writes).tables := by
  intro known
  have reached := known .bare emptyDatabase [.login viewerConfig aliceInTeam] rowsSatisfy_empty
  have stored := reached.workspace .user ⟨"team-a",1,"VIEWER"⟩ List.mem_cons_self
  exact absurd stored.listed (by decide)

def readerConfig : LoginConfig := { viewerConfig with oidcWorkspaceDefaultPermission := "READ" }

theorem permissionsKnown_run_reader : PermissionsKnown
    (Run.final (writeStep .bare) emptyDatabase [.login readerConfig aliceInTeam]).tables := by
  apply (permissionsKnown_run .bare emptyDatabase [.login readerConfig aliceInTeam]
    rowsSatisfy_empty ?_).2
  intro write listed name unchecked
  rw [List.mem_singleton.mp listed] at unchecked
  rw [List.mem_singleton.mp unchecked]
  exact storedLevel_iff.mpr (by decide)

end DefaultPermission
end MlflowOidcAuth
