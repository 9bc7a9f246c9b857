import MlflowOidcAuth.Store.UserDeletion
import MlflowOidcAuth.Store.WorkspaceRegex

/-! Conditions on the permissions and patterns of all rows, and the writes of the store that
keep them: what a write brings in is checked, or is one of its unchecked values. -/
namespace MlflowOidcAuth
open Effects

/-- Every permission and every pattern of every row satisfies a condition. -/
structure RowsSatisfy (level pattern : String → Prop) (t : Tables) : Prop where
  direct : ∀ holder family, ∀ row ∈ t.direct holder family, level row.permission
  regex : ∀ holder family, ∀ row ∈ t.regex holder family, level row.permission ∧ pattern row.regex
  workspace : ∀ holder, ∀ row ∈ t.workspaceRows holder, level row.permission
  workspaceRegex : ∀ holder, ∀ row ∈ t.workspaceRegex holder,
    level row.permission ∧ pattern row.regex

/-- The patterns that an operation stores without a check. -/
def Operation.uncheckedPatterns : Operation → List String
  | .grantRegex .group .registeredModel _ regex _ _ _ => [regex]
  | .updateRegex .group .registeredModel _ _ regex _ _ _ => [regex]
  | _ => []

/-- The permissions that a write of the workspace tables stores without a check. -/
def WorkspaceWrite.uncheckedPermissions : WorkspaceWrite → List String
  | .create _ _ _ permission => [permission]
  | .update _ _ _ permission => [permission]
  | _ => []

section Tables
variable {level pattern : String → Prop} {t t' : Tables} {holder : Holder} {family : Family}

theorem rowsSatisfy_empty : RowsSatisfy level pattern Tables.empty := by
  refine ⟨?_,?_,?_,?_⟩
  · intro holder family row member
    cases holder <;> cases member
  · intro holder family row member
    cases holder <;> cases member
  · intro holder row member
    cases holder <;> cases member
  · intro holder row member
    cases holder <;> cases member

theorem RowsSatisfy.withDirect (held : RowsSatisfy level pattern t) {rows : List SqlPermission}
    (fine : ∀ row ∈ rows, level row.permission) :
    RowsSatisfy level pattern (t.withDirect holder family rows) where
  direct := by
    intro other otherFamily row member
    rw [Tables.direct_withDirect] at member
    split at member
    · exact fine row member
    · exact held.direct other otherFamily row member
  regex := by cases holder <;> exact held.regex
  workspace := by cases holder <;> exact held.workspace
  workspaceRegex := by cases holder <;> exact held.workspaceRegex

theorem RowsSatisfy.withRegex (held : RowsSatisfy level pattern t) {rows : List SqlRegexPermission}
    (fine : ∀ row ∈ rows, level row.permission ∧ pattern row.regex) :
    RowsSatisfy level pattern (t.withRegex holder family rows) where
  direct := by cases holder <;> exact held.direct
  regex := by
    intro other otherFamily row member
    rw [Tables.regex_withRegex] at member
    split at member
    · exact fine row member
    · exact held.regex other otherFamily row member
  workspace := by cases holder <;> exact held.workspace
  workspaceRegex := by cases holder <;> exact held.workspaceRegex

theorem RowsSatisfy.withWorkspaceRows (held : RowsSatisfy level pattern t)
    {rows : List SqlWorkspacePermission} (fine : ∀ row ∈ rows, level row.permission) :
    RowsSatisfy level pattern (t.withWorkspaceRows holder rows) where
  direct := by cases holder <;> exact held.direct
  regex := by cases holder <;> exact held.regex
  workspace := by
    intro other row member
    rw [Tables.workspaceRows_withWorkspaceRows] at member
    split at member
    · exact fine row member
    · exact held.workspace other row member
  workspaceRegex := by cases holder <;> exact held.workspaceRegex

theorem RowsSatisfy.withWorkspaceRegex (held : RowsSatisfy level pattern t)
    {rows : List SqlRegexPermission} (fine : ∀ row ∈ rows, level row.permission ∧ pattern row.regex) :
    RowsSatisfy level pattern (t.withWorkspaceRegex holder rows) where
  direct := by cases holder <;> exact held.direct
  regex := by cases holder <;> exact held.regex
  workspace := by cases holder <;> exact held.workspace
  workspaceRegex := by
    intro other row member
    rw [Tables.workspaceRegex_withWorkspaceRegex] at member
    split at member
    · exact fine row member
    · exact held.workspaceRegex other row member

theorem RowsSatisfy.accounts (held : RowsSatisfy level pattern t) (users : List SqlUser)
    (groups : List SqlGroup) (userGroups : List SqlUserGroup) (userQuotas : List SqlUserQuota) :
    RowsSatisfy level pattern { t with
      users := users
      groups := groups
      userGroups := userGroups
      userQuotas := userQuotas } := by
  refine ⟨?_,?_,?_,?_⟩
  · intro other
    cases other
    · exact held.direct .user
    · exact held.direct .group
  · intro other
    cases other
    · exact held.regex .user
    · exact held.regex .group
  · intro other
    cases other
    · exact held.workspace .user
    · exact held.workspace .group
  · intro other
    cases other
    · exact held.workspaceRegex .user
    · exact held.workspaceRegex .group

end Tables

section Lists
variable {Row : Type} {fine : Row → Prop} {rows : List Row}

theorem all_concat (old : ∀ row ∈ rows, fine row) {added : Row} (new : fine added) :
    ∀ row ∈ rows ++ [added], fine row := by
  intro row member
  rcases List.mem_append.mp member with earlier | last
  · exact old row earlier
  · rw [List.mem_singleton.mp last]
    exact new

theorem all_map {change : Row → Row} (old : ∀ row ∈ rows, fine row)
    (changed : ∀ row, fine row → fine (change row)) : ∀ row ∈ rows.map change, fine row := by
  intro row member
  obtain ⟨earlier,stored,rfl⟩ := List.mem_map.mp member
  exact changed earlier (old earlier stored)

theorem all_filter {kept : Row → Bool} (old : ∀ row ∈ rows, fine row) :
    ∀ row ∈ rows.filter kept, fine row :=
  fun row member => old row (List.mem_of_mem_filter member)

end Lists

section Bodies
variable {level pattern : String → Prop} {engine : RegexEngine} {t t' : Tables} {holder : Holder}
  {family : Family} {owner regex permission : String} {priority : Int}

theorem grantPermission_satisfies (checked : ∀ name, validatePermission name = .ok () → level name)
    {key : ResourceKey} {prompt : Bool} (held : RowsSatisfy level pattern t)
    (ran : Tables.grantPermission holder family key owner permission prompt t = .ok t') :
    RowsSatisfy level pattern t' := by
  obtain ⟨_,valid,ran⟩ := bind_ok ran
  obtain ⟨ownerId,_,written⟩ := bind_ok ran
  cases written
  exact held.withDirect (all_concat (held.direct holder family) (checked permission valid))

theorem updatePermission_satisfies (checked : ∀ name, validatePermission name = .ok () → level name)
    {find : Tables → Except Failure SqlPermission} (held : RowsSatisfy level pattern t)
    (ran : Tables.updatePermission holder family find permission t = .ok t') :
    RowsSatisfy level pattern t' := by
  obtain ⟨_,valid,ran⟩ := bind_ok ran
  obtain ⟨found,_,written⟩ := bind_ok ran
  cases written
  apply held.withDirect
  apply all_map (held.direct holder family)
  intro row fine
  split
  · exact checked permission valid
  · exact fine

theorem revokePermission_satisfies {find : Tables → Except Failure SqlPermission}
    (held : RowsSatisfy level pattern t)
    (ran : Tables.revokePermission holder family find t = .ok t') : RowsSatisfy level pattern t' := by
  obtain ⟨found,_,written⟩ := bind_ok ran
  cases written
  exact held.withDirect (all_filter (held.direct holder family))

theorem renameRows_satisfies {oldName newName : String} (held : RowsSatisfy level pattern t) :
    RowsSatisfy level pattern (t.renameRows holder family oldName newName) := by
  apply held.withDirect
  apply all_map (held.direct holder family)
  intro row fine
  split <;> exact fine

theorem renameModelRows_satisfies {oldName newName : String} (held : RowsSatisfy level pattern t)
    (ran : t.renameModelRows holder oldName newName = .ok t') : RowsSatisfy level pattern t' := by
  unfold Tables.renameModelRows at ran
  split at ran <;> cases ran
  exact renameRows_satisfies held

theorem wipe_satisfies {resourceId : String} (held : RowsSatisfy level pattern t) :
    RowsSatisfy level pattern (t.wipe holder family resourceId) :=
  held.withDirect (all_filter (held.direct holder family))

theorem deleteScorerRows_satisfies {experimentId scorerName : String}
    (held : RowsSatisfy level pattern t) :
    RowsSatisfy level pattern (t.deleteScorerRows experimentId scorerName) := by
  unfold Tables.deleteScorerRows
  apply RowsSatisfy.withDirect
  · exact held.withDirect (all_filter (held.direct .user .scorer))
  · exact all_filter (held.direct .group .scorer)

/-- Where the check of a regex grant passes, the permission is valid, and the pattern too except
in the group table of registered models. -/
theorem checkRegexGrant_ok
    (passed : Tables.checkRegexGrant engine holder family regex permission = .ok ()) :
    validatePermission permission = .ok () ∧
      (holder = .group ∧ family = .registeredModel ∨ validateRegex engine regex = .ok ()) := by
  unfold Tables.checkRegexGrant at passed
  split at passed
  · obtain ⟨_,accepted,valid⟩ := bind_ok passed
    exact ⟨valid,.inr accepted⟩
  · exact ⟨passed,.inl ⟨rfl,rfl⟩⟩
  · obtain ⟨_,valid,accepted⟩ := bind_ok passed
    exact ⟨valid,.inr accepted⟩

theorem grantRegex_satisfies (checked : ∀ name, validatePermission name = .ok () → level name)
    (accepted : ∀ text, validateRegex engine text = .ok () → pattern text) {prompt : Bool}
    (unchecked : holder = .group → family = .registeredModel → pattern regex)
    (held : RowsSatisfy level pattern t)
    (ran : Tables.grantRegex engine holder family prompt regex priority permission owner t = .ok t') :
    RowsSatisfy level pattern t' := by
  obtain ⟨_,passed,ran⟩ := bind_ok ran
  obtain ⟨ownerId,_,written⟩ := bind_ok ran
  obtain ⟨valid,fine⟩ := checkRegexGrant_ok passed
  cases written
  apply held.withRegex
  apply all_concat (held.regex holder family)
  refine ⟨checked permission valid,?_⟩
  rcases fine with ⟨isGroup,isModel⟩ | valid
  · exact unchecked isGroup isModel
  · exact accepted regex valid

theorem updateRegex_satisfies (checked : ∀ name, validatePermission name = .ok () → level name)
    (accepted : ∀ text, validateRegex engine text = .ok () → pattern text) {prompt : Bool} {id : Nat}
    (unchecked : holder = .group → family = .registeredModel → pattern regex)
    (held : RowsSatisfy level pattern t)
    (ran : Tables.updateRegex engine holder family prompt id regex priority permission owner t =
      .ok t') : RowsSatisfy level pattern t' := by
  obtain ⟨_,passed,ran⟩ := bind_ok ran
  obtain ⟨found,_,written⟩ := bind_ok ran
  obtain ⟨valid,fine⟩ := checkRegexGrant_ok passed
  cases written
  apply held.withRegex
  apply all_map (held.regex holder family)
  intro row old
  split
  · refine ⟨checked permission valid,?_⟩
    -- an update that keeps the stored pattern keeps what is known of it
    cases assigns : Tables.assignsRegex holder family with
    | false => exact old.2
    | true =>
      rcases fine with ⟨isGroup,isModel⟩ | valid
      · exact unchecked isGroup isModel
      · exact accepted regex valid
  · exact old

theorem revokeRegex_satisfies {prompt : Bool} {id : String} (held : RowsSatisfy level pattern t)
    (ran : Tables.revokeRegex holder family prompt id owner t = .ok t') :
    RowsSatisfy level pattern t' := by
  obtain ⟨found,_,written⟩ := bind_ok ran
  cases written
  exact held.withRegex (all_filter (held.regex holder family))

theorem withoutUser_satisfies (held : RowsSatisfy level pattern t) (userId : Nat) :
    RowsSatisfy level pattern (withoutUser t userId) where
  direct := by
    intro other family
    cases other
    · exact all_filter (held.direct .user family)
    · exact held.direct .group family
  regex := by
    intro other family
    cases other
    · exact all_filter (held.regex .user family)
    · exact held.regex .group family
  workspace := by
    intro other
    cases other
    · exact all_filter (held.workspace .user)
    · exact held.workspace .group
  workspaceRegex := by
    intro other
    cases other
    · exact all_filter (held.workspaceRegex .user)
    · exact held.workspaceRegex .group

theorem createWorkspaceRow_satisfies {workspace : String} (brought : level permission)
    (held : RowsSatisfy level pattern t)
    (ran : Tables.createWorkspaceRow holder workspace owner permission t = .ok t') :
    RowsSatisfy level pattern t' := by
  obtain ⟨ownerId,_,written⟩ := bind_ok ran
  cases written
  exact held.withWorkspaceRows (all_concat (held.workspace holder) brought)

theorem updateWorkspaceRow_satisfies {workspace : String} (brought : level permission)
    (held : RowsSatisfy level pattern t)
    (ran : Tables.updateWorkspaceRow holder workspace owner permission t = .ok t') :
    RowsSatisfy level pattern t' := by
  obtain ⟨found,_,written⟩ := bind_ok ran
  cases written
  apply held.withWorkspaceRows
  apply all_map (held.workspace holder)
  intro row fine
  split
  · exact brought
  · exact fine

theorem deleteWorkspaceRow_satisfies {workspace : String} (held : RowsSatisfy level pattern t)
    (ran : Tables.deleteWorkspaceRow holder workspace owner t = .ok t') :
    RowsSatisfy level pattern t' := by
  obtain ⟨found,_,written⟩ := bind_ok ran
  cases written
  exact held.withWorkspaceRows (all_filter (held.workspace holder))

theorem checkWorkspaceRegex_ok
    (passed : Tables.checkWorkspaceRegex engine holder regex permission = .ok ()) :
    validatePermission permission = .ok () ∧ validateRegex engine regex = .ok () := by
  cases holder with
  | user =>
    obtain ⟨_,accepted,valid⟩ := bind_ok passed
    exact ⟨valid,accepted⟩
  | group =>
    obtain ⟨_,valid,accepted⟩ := bind_ok passed
    exact ⟨valid,accepted⟩

theorem grantWorkspaceRegex_satisfies
    (checked : ∀ name, validatePermission name = .ok () → level name)
    (accepted : ∀ text, validateRegex engine text = .ok () → pattern text)
    (held : RowsSatisfy level pattern t)
    (ran : Tables.grantWorkspaceRegex engine holder regex priority permission owner t = .ok t') :
    RowsSatisfy level pattern t' := by
  obtain ⟨_,passed,ran⟩ := bind_ok ran
  obtain ⟨ownerId,_,written⟩ := bind_ok ran
  obtain ⟨valid,valid'⟩ := checkWorkspaceRegex_ok passed
  cases written
  apply held.withWorkspaceRegex
  exact all_concat (held.workspaceRegex holder) ⟨checked permission valid,accepted regex valid'⟩

theorem updateWorkspaceRegex_satisfies
    (checked : ∀ name, validatePermission name = .ok () → level name)
    (accepted : ∀ text, validateRegex engine text = .ok () → pattern text) {id : Nat}
    (held : RowsSatisfy level pattern t)
    (ran : Tables.updateWorkspaceRegex engine holder id regex priority permission owner t = .ok t') :
    RowsSatisfy level pattern t' := by
  obtain ⟨_,passed,ran⟩ := bind_ok ran
  obtain ⟨found,_,written⟩ := bind_ok ran
  obtain ⟨valid,valid'⟩ := checkWorkspaceRegex_ok passed
  cases written
  apply held.withWorkspaceRegex
  apply all_map (held.workspaceRegex holder)
  intro row fine
  split
  · exact ⟨checked permission valid,accepted regex valid'⟩
  · exact fine

theorem revokeWorkspaceRegex_satisfies {id : Nat} (held : RowsSatisfy level pattern t)
    (ran : Tables.revokeWorkspaceRegex holder id owner t = .ok t') : RowsSatisfy level pattern t' := by
  obtain ⟨found,_,written⟩ := bind_ok ran
  cases written
  exact held.withWorkspaceRegex (all_filter (held.workspaceRegex holder))

theorem changeUser_satisfies {change : SqlUser → SqlUser} {username : String}
    (held : RowsSatisfy level pattern t) (ran : Tables.changeUser change username t = .ok t') :
    RowsSatisfy level pattern t' := by
  obtain ⟨_,_,rfl⟩ := changeUser_ok ran
  exact held.accounts _ _ _ _

end Bodies

section Sessions
variable {level pattern : String → Prop}

theorem renameRows_preserves (holder : Holder) (family : Family) (oldName newName : String) :
    Preserves (fun db => RowsSatisfy level pattern db.tables)
      (session rejected (fun t => .ok (t.renameRows holder family oldName newName))) := by
  apply preserves_session
  intro db written held ran
  cases ran
  exact renameRows_satisfies held

theorem wipe_preserves (holder : Holder) (family : Family) (resourceId : String) :
    Preserves (fun db => RowsSatisfy level pattern db.tables) (wipe holder family resourceId) := by
  apply preserves_session
  intro db written held ran
  cases ran
  exact wipe_satisfies held

theorem deleteAllForWorkspace_preserves (holder : Holder) (workspace : String) :
    Preserves (fun db => RowsSatisfy level pattern db.tables)
      (session rejected (fun t => .ok (t.deleteAllForWorkspace holder workspace))) := by
  apply preserves_session
  intro db written held ran
  cases ran
  exact held.withWorkspaceRows (all_filter (held.workspace holder))

theorem createWorkspacePermission_preserves (holder : Holder) (workspace owner permission : String)
    (brought : level permission) : Preserves (fun db => RowsSatisfy level pattern db.tables)
      (createWorkspacePermission holder workspace owner permission) := by
  intro db held
  have kept : Preserves (fun db => RowsSatisfy level pattern db.tables)
      (session (db.tables.workspaceRowExists holder workspace owner)
        (Tables.createWorkspaceRow holder workspace owner permission)) :=
    preserves_session (fun _ _ held ran => createWorkspaceRow_satisfies brought held ran)
  exact kept db held

end Sessions

section Programs
variable {level pattern : String → Prop} {env : StoreEnv}
  (checked : ∀ name, validatePermission name = .ok () → level name)
  (accepted : ∀ text, validateRegex env.resolution.regex text = .ok () → pattern text)
include checked accepted

/-- A method of the store keeps the condition when its unchecked patterns satisfy it. -/
theorem operation_preserves (operation : Operation)
    (unchecked : ∀ text ∈ operation.uncheckedPatterns, pattern text) :
    Preserves (fun db => RowsSatisfy level pattern db.tables) (operation.run env) := by
  cases operation with
  | grant holder family key owner permission =>
    exact preserves_session (fun _ _ held ran => grantPermission_satisfies checked held ran)
  | update holder family key owner permission =>
    exact preserves_session (fun _ _ held ran => updatePermission_satisfies checked held ran)
  | revoke holder family key owner =>
    exact preserves_session (fun _ _ held ran => revokePermission_satisfies held ran)
  | grantPrompt name groupName permission =>
    exact preserves_session (fun _ _ held ran => grantPermission_satisfies checked held ran)
  | updatePrompt name groupName permission =>
    exact preserves_session (fun _ _ held ran => updatePermission_satisfies checked held ran)
  | revokePrompt name groupName =>
    exact preserves_session (fun _ _ held ran => revokePermission_satisfies held ran)
  | grantRegex holder family prompt regex priority permission owner =>
    have group : holder = .group → family = .registeredModel → pattern regex := by
      rintro rfl rfl
      exact unchecked regex List.mem_cons_self
    exact preserves_session (fun _ _ held ran =>
      grantRegex_satisfies checked accepted group held ran)
  | updateRegex holder family prompt id regex priority permission owner =>
    have group : holder = .group → family = .registeredModel → pattern regex := by
      rintro rfl rfl
      exact unchecked regex List.mem_cons_self
    exact preserves_session (fun _ _ held ran =>
      updateRegex_satisfies checked accepted group held ran)
  | revokeRegex holder family prompt id owner =>
    exact preserves_session (fun _ _ held ran => revokeRegex_satisfies held ran)
  | renameModel holder oldName newName =>
    exact preserves_session (fun _ _ held ran => renameModelRows_satisfies held ran)
  | renameEndpoint oldName newName =>
    exact (renameRows_preserves _ _ _ _).bind (fun _ => renameRows_preserves _ _ _ _)
  | wipe holder family resourceId => exact wipe_preserves _ _ _
  | wipeBoth family resourceId => exact (wipe_preserves _ _ _).bind (fun _ => wipe_preserves _ _ _)
  | deleteScorer experimentId scorerName =>
    apply preserves_session
    intro db written held ran
    cases ran
    exact deleteScorerRows_satisfies held
  | setUserGroups username groupNames =>
    apply preserves_session
    intro db written held ran
    obtain ⟨_,_,memberships⟩ := setGroupsForUser_memberships ran
    rw [memberships.written]
    exact held.accounts _ _ _ _
  | addUserToGroup username groupName =>
    apply preserves_session
    intro db written held ran
    obtain ⟨_,_,memberships⟩ := addUserToGroup_memberships ran
    rw [memberships.written]
    exact held.accounts _ _ _ _
  | removeUserFromGroup username groupName =>
    apply preserves_session
    intro db written held ran
    obtain ⟨_,_,memberships⟩ := removeUserFromGroup_memberships ran
    rw [memberships.written]
    exact held.accounts _ _ _ _
  | populateGroups groupNames =>
    apply preserves_session
    intro db written held ran
    cases ran
    obtain ⟨groups,added,_⟩ := createGroups_added groupNames db.tables
    rw [added]
    exact held.accounts _ _ _ _
  | createUser username password displayName isAdmin isServiceAccount =>
    apply preserves_session
    intro db written held ran
    obtain ⟨_,_,created⟩ := bind_ok ran
    cases created
    exact held.accounts _ _ _ _
  | updateUser username change =>
    exact preserves_session (fun _ _ held ran => changeUser_satisfies held ran)
  | renameUser oldUsername newUsername =>
    apply preserves_session
    intro db written held ran
    obtain ⟨_,_,changed⟩ := bind_ok ran
    exact changeUser_satisfies held changed
  | setUserDisplayname username displayName =>
    exact preserves_session (fun _ _ held ran => changeUser_satisfies held ran)
  | deleteUser username =>
    apply preserves_session
    intro db written held ran
    obtain ⟨user,known,_⟩ := bind_ok ran
    rw [deleteUser_of_user known] at ran
    cases ran
    exact withoutUser_satisfies held user.id
  | quota username write =>
    apply preserves_session
    intro db written held ran
    rw [QuotaWrite.body_quotas ran]
    exact held.accounts _ _ _ _

theorem workspaceWrite_preserves (write : WorkspaceWrite)
    (unchecked : ∀ name ∈ write.uncheckedPermissions, level name) :
    Preserves (fun db => RowsSatisfy level pattern db.tables) (write.run env.resolution.regex) := by
  cases write with
  | create holder workspace owner permission =>
    exact createWorkspacePermission_preserves _ _ _ _ (unchecked permission List.mem_cons_self)
  | update holder workspace owner permission =>
    have brought := unchecked permission List.mem_cons_self
    exact preserves_session (fun _ _ held ran => updateWorkspaceRow_satisfies brought held ran)
  | delete holder workspace owner =>
    exact preserves_session (fun _ _ held ran => deleteWorkspaceRow_satisfies held ran)
  | wipe workspace =>
    exact (deleteAllForWorkspace_preserves _ _).bind (fun _ => deleteAllForWorkspace_preserves _ _)
  | grantRegex holder regex priority permission owner =>
    exact preserves_session (fun _ _ held ran =>
      grantWorkspaceRegex_satisfies checked accepted held ran)
  | updateRegex holder id regex priority permission owner =>
    exact preserves_session (fun _ _ held ran =>
      updateWorkspaceRegex_satisfies checked accepted held ran)
  | revokeRegex holder id owner =>
    exact preserves_session (fun _ _ held ran => revokeWorkspaceRegex_satisfies held ran)

end Programs
end MlflowOidcAuth
