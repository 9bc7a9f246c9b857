import MlflowOidcAuth.Grants.Refinement

/-! Names outlive accounts: what a deleted user was granted does not come back with the name,
whatever the store does in between. -/
namespace MlflowOidcAuth
open Effects OrderedSources

/-- Nobody has the name, or somebody without a grant and without a group. -/
inductive Blank (t : Tables) (username : String) : Prop
  | unknown (absent : t.usersNamed username = [])
  | known (user : SqlUser) (only : t.usersNamed username = [user]) (rows : NoRows t user.id)

/-- The operations that may give something to whoever has the name: grants, groups, and the
renaming of another account. -/
def Operation.favours (username : String) : Operation → Bool
  | .grant .user _ _ owner _ => decide (owner = username)
  | .grantRegex .user _ _ _ _ _ owner => decide (owner = username)
  | .setUserGroups member _ => decide (member = username)
  | .addUserToGroup member _ => decide (member = username)
  | .renameUser _ newUsername => decide (newUsername = username)
  | _ => false

section Rows
variable {Row : Type} {owner : Row → Nat} {rows rows' : List Row} {id : Nat}

theorem unowned_iff : rows.filter (fun row => decide (owner row = id)) = [] ↔
    ∀ row ∈ rows, owner row ≠ id := by
  simp [List.filter_eq_nil_iff]

theorem unowned_of_owners (free : rows.filter (fun row => decide (owner row = id)) = [])
    (owners : ∀ row' ∈ rows', ∃ row ∈ rows, owner row = owner row') :
    rows'.filter (fun row => decide (owner row = id)) = [] := by
  rw [unowned_iff] at free ⊢
  intro row' member same
  obtain ⟨row,stored,sameOwner⟩ := owners row' member
  exact free row stored (sameOwner.trans same)

end Rows

section Account
variable {db : Database} {t t' : Tables} {username : String} {id : Nat}

theorem blank_of_account (blank : Blank t username) (account : SameAccount t t' username) :
    Blank t' username := by
  cases account with
  | absent before after => exact .unknown after
  | known user user' before after sameId rows =>
    cases blank with
    | unknown absent => simp [absent] at before
    | known found only free =>
      rw [before,List.singleton_inj] at only
      subst only
      exact .known user' after
        { memberships := by rw [sameId,rows.memberships,free.memberships]
          direct := fun family => by rw [sameId,rows.direct,free.direct]
          regex := fun family => by rw [sameId,rows.regex,free.regex]
          workspace := by rw [sameId,rows.workspace,free.workspace]
          workspaceRegex := by rw [sameId,rows.workspaceRegex,free.workspaceRegex] }

theorem NoRows.withDirect (free : NoRows t id) {holder : Holder} {family : Family}
    {rows : List SqlPermission}
    (kept : holder = .user → rows.filter (fun row => decide (row.ownerId = id)) = []) :
    NoRows (t.withDirect holder family rows) id := by
  cases holder with
  | group => exact { free with }
  | user =>
    exact { free with
      direct := by
        intro other
        change (Function.update t.userPermissions family rows other).filter _ = []
        rw [Function.update_apply]
        split
        · exact kept rfl
        · exact free.direct other }

theorem NoRows.withRegex (free : NoRows t id) {holder : Holder} {family : Family}
    {rows : List SqlRegexPermission}
    (kept : holder = .user → rows.filter (fun row => decide (row.ownerId = id)) = []) :
    NoRows (t.withRegex holder family rows) id := by
  cases holder with
  | group => exact { free with }
  | user =>
    exact { free with
      regex := by
        intro other
        change (Function.update t.userRegexPermissions family rows other).filter _ = []
        rw [Function.update_apply]
        split
        · exact kept rfl
        · exact free.regex other }

theorem NoRows.direct_unowned (free : NoRows t id) (family : Family) :
    ∀ row ∈ t.direct .user family, row.ownerId ≠ id :=
  unowned_iff.mp (free.direct family)

theorem Blank.withDirect (blank : Blank t username) {holder : Holder} {family : Family}
    {rows : List SqlPermission} (kept : ∀ user, t.usersNamed username = [user] → NoRows t user.id →
      holder = .user → rows.filter (fun row => decide (row.ownerId = user.id)) = []) :
    Blank (t.withDirect holder family rows) username := by
  have named : (t.withDirect holder family rows).usersNamed username = t.usersNamed username := by
    cases holder <;> rfl
  cases blank with
  | unknown absent => exact .unknown (named.trans absent)
  | known user only free => exact .known user (named.trans only) (free.withDirect (kept user only free))

theorem Blank.withRegex (blank : Blank t username) {holder : Holder} {family : Family}
    {rows : List SqlRegexPermission} (kept : ∀ user, t.usersNamed username = [user] →
      NoRows t user.id → holder = .user →
        rows.filter (fun row => decide (row.ownerId = user.id)) = []) :
    Blank (t.withRegex holder family rows) username := by
  have named : (t.withRegex holder family rows).usersNamed username = t.usersNamed username := by
    cases holder <;> rfl
  cases blank with
  | unknown absent => exact .unknown (named.trans absent)
  | known user only free => exact .known user (named.trans only) (free.withRegex (kept user only free))

/-- Rows that come from rows of the same owners. -/
theorem Blank.ownersKept (blank : Blank t username) {holder : Holder} {family : Family}
    {rows : List SqlPermission}
    (owners : ∀ row' ∈ rows, ∃ row ∈ t.direct holder family, row.ownerId = row'.ownerId) :
    Blank (t.withDirect holder family rows) username := by
  apply blank.withDirect
  intro user only free ofUser
  subst ofUser
  exact unowned_of_owners (free.direct family) owners

theorem Blank.wipe (blank : Blank t username) (holder : Holder) (family : Family)
    (resourceId : String) : Blank (t.wipe holder family resourceId) username := by
  apply blank.ownersKept
  intro row member
  exact ⟨row,(List.mem_filter.mp member).1,rfl⟩

theorem Blank.renameRows (blank : Blank t username) (holder : Holder) (family : Family)
    (oldName newName : String) : Blank (t.renameRows holder family oldName newName) username := by
  rw [renameRows_eq]
  apply blank.ownersKept
  intro moved member
  obtain ⟨row,stored,rfl⟩ := List.mem_map.mp member
  exact ⟨row,stored,(movedRow_ownerId ..).symm⟩

theorem ownerId_apart {owner : String} {user : SqlUser} (other : owner ≠ username)
    (known : db.tables.ownerId .user owner = .ok id)
    (only : db.tables.usersNamed username = [user]) : id ≠ user.id := by
  intro same
  exact other (ownerId_inj known (ownerId_user.mpr ⟨user,only,same.symm⟩))

end Account

section Steps
variable {env : StoreEnv} {db db' : Database} {operation : Operation} {username : String}

/-- A write of one entry leaves a blank account blank, unless it grants to that account. -/
theorem blank_entry {holder : Holder} {family : Family} {key : ResourceKey} {owner : String}
    (about : operation.entry = some (holder,family,key,owner)) (blank : Blank db.tables username)
    (spares : operation.favours username = false) (ran : operation.run env db = .ok () db') :
    Blank db'.tables username := by
  obtain ⟨id,after,known,step,write⟩ := entry_writes about ran
  obtain ⟨rows,written⟩ := write.tables
  rw [written]
  apply blank.withDirect
  intro user only free ofUser
  subst ofUser
  have unowned := free.direct family
  have apart : id ≠ user.id := by
    intro same
    subst same
    -- The entry of a blank account is free, so only a grant could write it.
    have held : db.tables.entryAt .user family key user.id = none := by
      rw [entryAt_none,Tables.ownedRows,List.filter_eq_nil_iff]
      intro row stored matched
      exact free.direct_unowned family row stored (of_decide_eq_true matched).2
    rw [held] at step
    cases step with
    | grant valid shaped =>
      cases about
      have other : owner ≠ username := of_decide_eq_false spares
      exact ownerId_apart other known only rfl
    | grantPrompt valid => cases about
  have same := write.others (fun _ other => decide (other = user.id)) (decide_eq_false apart)
  rw [written,direct_withDirect_self] at same
  rw [same]
  exact unowned

theorem blank_regexGrant {engine : RegexEngine} {holder : Holder} {family : Family} {prompt : Bool}
    {regex permission owner : String} {priority : Int} {t' : Tables}
    (blank : Blank db.tables username) (other : holder = .user → owner ≠ username)
    (ran : Tables.grantRegex engine holder family prompt regex priority permission owner db.tables =
      .ok t') : Blank t' username := by
  obtain ⟨_,_,ran⟩ := bind_ok ran
  obtain ⟨id,known,written⟩ := bind_ok ran
  cases written
  apply blank.withRegex
  intro user only free ofUser
  subst ofUser
  have apart : id ≠ user.id := ownerId_apart (other rfl) known only
  rw [List.filter_append]
  simp [Tables.regex,free.regex family,apart]

theorem blank_regexUpdate {engine : RegexEngine} {holder : Holder} {family : Family} {prompt : Bool}
    {regex permission owner : String} {priority : Int} {id : Nat} {t' : Tables}
    (blank : Blank db.tables username)
    (ran : Tables.updateRegex engine holder family prompt id regex priority permission owner
      db.tables = .ok t') : Blank t' username := by
  obtain ⟨_,_,ran⟩ := bind_ok ran
  obtain ⟨found,_,written⟩ := bind_ok ran
  cases written
  apply blank.withRegex
  intro user only free ofUser
  subst ofUser
  apply unowned_of_owners (free.regex family)
  intro changed member
  obtain ⟨row,stored,rfl⟩ := List.mem_map.mp member
  refine ⟨row,stored,?_⟩
  split <;> rfl

theorem blank_regexRevoke {holder : Holder} {family : Family} {prompt : Bool} {id owner : String}
    {t' : Tables} (blank : Blank db.tables username)
    (ran : Tables.revokeRegex holder family prompt id owner db.tables = .ok t') :
    Blank t' username := by
  obtain ⟨found,_,written⟩ := bind_ok ran
  cases written
  apply blank.withRegex
  intro user only free ofUser
  subst ofUser
  apply unowned_of_owners (free.regex family)
  intro row member
  exact ⟨row,(List.mem_filter.mp member).1,rfl⟩

theorem blank_memberships {t' : Tables} {member : String} (other : member ≠ username)
    (blank : Blank db.tables username)
    (changed : ∃ user, db.tables.usersNamed member = [user] ∧
      SameButMemberships db.tables t' user.id) : Blank t' username := by
  obtain ⟨joined,named,written,others⟩ := changed
  have users : t'.usersNamed username = db.tables.usersNamed username := by
    rw [written]
    rfl
  cases blank with
  | unknown absent => exact .unknown (users.trans absent)
  | known user only free =>
    have apart : user.id ≠ joined.id := by
      intro same
      obtain ⟨listed,name⟩ := mem_of_usersNamed only
      obtain ⟨listed',name'⟩ := mem_of_usersNamed named
      rw [user_of_id listed listed' same] at name
      exact other (name'.symm.trans name)
    have memberships := (others user.id apart).trans free.memberships
    rw [written] at memberships ⊢
    exact .known user only { free with memberships := memberships }

theorem blank_removal {t' : Tables} {member groupName : String} (blank : Blank db.tables username)
    (ran : Tables.removeUserFromGroup member groupName db.tables = .ok t') : Blank t' username := by
  obtain ⟨joined,_,ran⟩ := bind_ok ran
  obtain ⟨group,_,ran⟩ := bind_ok ran
  obtain ⟨found,_,written⟩ := bind_ok ran
  cases written
  cases blank with
  | unknown absent => exact .unknown absent
  | known user only free =>
    refine .known user only { free with memberships := ?_ }
    apply unowned_of_owners free.memberships
    intro row member
    exact ⟨row,(List.mem_filter.mp member).1,rfl⟩

/-- What an operation that succeeds leaves of a blank account. -/
theorem blank_run (blank : Blank db.tables username) (spares : operation.favours username = false)
    (ran : operation.run env db = .ok () db') : Blank db'.tables username := by
  cases operation
  case grant | update | revoke | grantPrompt | updatePrompt | revokePrompt =>
    exact blank_entry rfl blank spares ran
  case grantRegex holder family prompt regex priority permission owner =>
    apply blank_regexGrant blank _ (session_ok ran)
    intro ofUser
    subst ofUser
    exact of_decide_eq_false spares
  case updateRegex => exact blank_regexUpdate blank (session_ok ran)
  case revokeRegex => exact blank_regexRevoke blank (session_ok ran)
  case renameModel holder oldName newName =>
    have renamed := session_ok ran
    unfold Tables.renameModelRows at renamed
    split at renamed
    · cases renamed
    · simp only [Except.ok.injEq] at renamed
      rw [← renamed]
      exact blank.renameRows ..
  case renameEndpoint oldName newName =>
    cases first : session rejected (fun t =>
        .ok (t.renameRows .user .gatewayEndpoint oldName newName)) db with
    | error failure reached =>
      rw [Operation.run,bind_of_error first] at ran
      cases ran
    | ok _ reached =>
      rw [Operation.run,bind_of_ok first] at ran
      have renamed := session_ok first
      have renamed' := session_ok ran
      simp only [Except.ok.injEq] at renamed renamed'
      rw [← renamed',← renamed]
      exact (blank.renameRows ..).renameRows ..
  case wipe holder family resourceId =>
    rw [Operation.run,wipe_commits] at ran
    cases ran
    exact blank.wipe ..
  case wipeBoth family resourceId =>
    obtain ⟨wiped,ran',written⟩ := @wipeBoth_ok env db family resourceId
    rw [ran'] at ran
    cases ran
    rw [written]
    exact (blank.wipe ..).wipe ..
  case deleteScorer experimentId scorerName =>
    have written := session_ok ran
    simp only [Except.ok.injEq] at written
    rw [← written]
    simp only [Tables.deleteScorerRows]
    apply Blank.ownersKept
    · apply blank.ownersKept
      intro row member
      exact ⟨row,(List.mem_filter.mp member).1,rfl⟩
    · intro row member
      rw [Tables.direct_withDirect,if_neg (by simp)]
      exact ⟨row,(List.mem_filter.mp member).1,rfl⟩
  case setUserGroups member groupNames =>
    exact blank_memberships (of_decide_eq_false spares) blank
      (setGroupsForUser_memberships (session_ok ran))
  case addUserToGroup member groupName =>
    exact blank_memberships (of_decide_eq_false spares) blank
      (addUserToGroup_memberships (session_ok ran))
  case removeUserFromGroup => exact blank_removal blank (session_ok ran)
  case populateGroups groupNames =>
    have written := session_ok ran
    simp only [Except.ok.injEq] at written
    obtain ⟨added,tables,_⟩ := createGroups_added groupNames db.tables
    rw [← written,tables]
    cases blank with
    | unknown absent => exact .unknown absent
    | known user only free => exact .known user only { free with }
  case createUser created password displayName isAdmin isServiceAccount =>
    obtain ⟨_,_,written⟩ := bind_ok (session_ok ran)
    simp only [pure,Except.pure,Except.ok.injEq] at written
    by_cases same : username = created
    · subst same
      have integrity := db'.integrity
      rw [← written] at integrity ⊢
      obtain ⟨_,user,only,free⟩ := createUser_new integrity
      exact .known user only { free with }
    · rw [← written]
      exact blank_of_account blank (createUser_others same)
  case updateUser changed change =>
    exact blank_of_account blank
      (changeUser_accounts (session_ok ran) (fun _ => rfl) (fun _ => rfl) username)
  case renameUser oldUsername newUsername =>
    obtain ⟨_,_,changed⟩ := bind_ok (session_ok ran)
    have notNew : newUsername ≠ username := of_decide_eq_false spares
    by_cases isOld : username = oldUsername
    · subst isOld
      exact .unknown (renameUser_old changed notNew.symm)
    · exact blank_of_account blank (renameUser_others changed isOld notNew.symm)
  case setUserDisplayname changed displayName =>
    exact blank_of_account blank
      (changeUser_accounts (session_ok ran) (fun _ => rfl) (fun _ => rfl) username)
  case deleteUser deleted =>
    by_cases same : username = deleted
    · subst same
      exact .unknown (deleteUser_gone (session_ok ran))
    · exact blank_of_account blank (deleteUser_others (session_ok ran) same)
  case quota member write =>
    rw [QuotaWrite.body_quotas (session_ok ran)]
    cases blank with
    | unknown absent => exact .unknown absent
    | known user only free => exact .known user only { free with }

end Steps

section Answers
variable {env : Env} {t : Tables} {username : String}

/-- Only the group of the user's own name, which the gateway types ask for, can grant
anything to a blank account. -/
theorem blank_silent (blank : Blank t username) {shape : SourceShape} {source : Source}
    {perm : String} (held : shape.sources env t username source = .ok perm) :
    source = .group ∧ shape.byGroupName = true := by
  by_contra apart
  have owned : source = .group → shape.byGroupName = false := by
    intro isGroup
    simpa [isGroup] using apart
  have raised : ∃ failure, shape.sources env t username source = .error failure := by
    cases blank with
    | unknown absent =>
      obtain ⟨failure,raised,_⟩ := @sources_unknown env t username absent shape source owned
      exact ⟨failure,raised⟩
    | known user only free =>
      -- The name that a pattern is matched against is not asked for by the direct sources.
      let plain : SourceShape := { shape with subject := .ok "" }
      obtain ⟨failure,raised,_⟩ := @sources_noRows env t username user only free plain source owned
        (fun _ impossible => by cases impossible)
      cases source with
      | user => exact ⟨failure,raised⟩
      | group => exact ⟨failure,raised⟩
      | regex | groupRegex =>
        obtain ⟨_,_,matched⟩ := bind_ok held
        obtain ⟨name,named,_⟩ := bind_ok matched
        obtain ⟨failure,raised,_⟩ := @sources_noRows env t username user only free shape _ owned
          (fun _ impossible => by rw [named] at impossible; cases impossible)
        exact ⟨failure,raised⟩
  obtain ⟨failure,raised⟩ := raised
  rw [raised] at held
  cases held

theorem asked_granted {sources : SourcesConfig} {name : String} {result : PermissionResult}
    (granted : askSource sources name = .granted result) :
    ∃ source perm, sources source = .ok perm ∧ result.kind = .source source := by
  obtain ⟨source,listed,kind⟩ := kind_of_granted granted
  simp only [askSource,listed] at granted
  split at granted
  · next perm held => exact ⟨source,perm,held,kind⟩
  · split at granted <;> cases granted

theorem blank_answers (blank : Blank t username) {resolution : Resolution}
    (asks : resolution.request.username = username) {result : PermissionResult}
    (found : resolution.fresh env t = .ok result) :
    result.kind.restsOnUser resolution.request.resourceType = false := by
  subst asks
  obtain ⟨first,resolved,found⟩ := bind_ok found
  cases consulted : fallbackWorkspace env resolution.context first with
  | some workspace =>
    have silent : lookupWorkspacePermission env t resolution.request.username workspace = none := by
      cases blank with
      | unknown absent => exact lookupWorkspacePermission_unknown absent workspace
      | known user only free => exact lookupWorkspacePermission_noRows only free workspace
    simp only [consulted,silent,workspaceResult,pure,Except.pure,Except.ok.injEq] at found
    rw [← found]
    rfl
  | none =>
    simp only [consulted,pure,Except.pure,Except.ok.injEq] at found
    subst found
    obtain ⟨sources,built,walked⟩ := bind_ok resolved
    rw [permissionRegistry_eq] at built
    cases shaped : resolution.request.shape env with
    | error failure =>
      rw [shaped] at built
      cases built
    | ok shape =>
      rw [shaped] at built
      cases built
      unfold getPermissionFromStoreOrDefault at walked
      split at walked
      · next name granted answered =>
        cases walked
        obtain ⟨source,perm,held,kind⟩ := asked_granted (reaches_of_granted answered).2
        obtain ⟨rfl,named⟩ := blank_silent blank held
        rw [kind]
        simp [ResultKind.restsOnUser,← shape_byGroupName shaped,named]
      · cases walked
      · obtain ⟨permission,_,walked⟩ := bind_ok walked
        cases walked
        rfl

end Answers

/-- After a user is deleted, and whatever the store does next short of favouring the name, the
name holds nothing, also when a new account has it. -/
theorem reused_name_blank (env : StoreEnv) (db db' : Database) (username : String)
    (operations : List Operation) (deleted : (Operation.deleteUser username).run env db = .ok () db')
    (spares : ∀ operation ∈ operations, operation.favours username = false) :
    let reached := Run.final (tablesStep env) db' operations
    Blank reached.tables username ∧
      (∀ family key, reached.tables.grantMap.entry (.user,family,key,username) = none) ∧
      ∀ resolution : Resolution, resolution.request.username = username → ∀ result,
        resolution.fresh env.resolution reached.tables = .ok result →
          result.kind.restsOnUser resolution.request.resourceType = false := by
  intro reached
  have kept : ∀ operations : List Operation, (∀ operation ∈ operations,
      operation.favours username = false) → ∀ start : Database, Blank start.tables username →
        Blank (Run.final (tablesStep env) start operations).tables username := by
    intro operations
    induction operations with
    | nil => exact fun _ _ blank => blank
    | cons operation rest ih =>
      intro spares start blank
      rw [Run.final_cons]
      apply ih (fun later member => spares later (List.mem_cons_of_mem _ member))
      have first := spares operation List.mem_cons_self
      unfold tablesStep
      cases ran : operation.run env start with
      | ok _ next => exact blank_run blank first ran
      | error failure next =>
        rcases run_error ran with same | ⟨oldName,newName,_,renamed,_⟩
        · rw [same]
          exact blank
        · rw [renamed]
          exact blank.renameRows ..
  have blank : Blank reached.tables username :=
    kept operations spares db' (.unknown (deleteUser_gone (session_ok deleted)))
  refine ⟨blank,?_,fun resolution asks result found => blank_answers blank asks found⟩
  intro family key
  cases blank with
  | unknown absent => exact entry_unknown (fun known => owners_user_iff.mp known absent)
  | known user only free =>
    rw [entry_known (ownerId_user.mpr ⟨user,only,rfl⟩),entryAt_none,Tables.ownedRows,
      List.filter_eq_nil_iff]
    intro row stored matched
    exact free.direct_unowned family row stored (of_decide_eq_true matched).2

theorem reused_name_blank_alice : ∃ db', (Operation.deleteUser "alice").run .bare twoAccounts =
    .ok () db' ∧ Blank (Run.final (tablesStep .bare) db'
      [.createUser "alice" "secret" "Alice" false false,
        .update .user .experiment ⟨"1",none⟩ "alice" "MANAGE"]).tables "alice" := by
  have known : twoAccounts.tables.getUser "alice" =
    .ok ⟨1,"alice","Alice","",none,true,false⟩ := rfl
  have deleted : session rejected (Tables.deleteUser "alice") twoAccounts = .ok () _ :=
    session_commits (deleteUser_of_user known) (integrity_withoutUser twoAccounts.integrity _)
  refine ⟨_,deleted,(reused_name_blank .bare twoAccounts _ "alice" _ deleted ?_).1⟩
  simp [Operation.favours]

end MlflowOidcAuth
