import MlflowOidcAuth.Grants.Tables
import MlflowOidcAuth.Library.Run
import MlflowOidcAuth.Middleware.BasicAuth
import MlflowOidcAuth.Resolution.Invalidation

/-! The store's operations carry out the updates of the grant map: each succeeds exactly where
the map allows it, over whole runs of operations. -/
namespace MlflowOidcAuth
open Effects

section Entries
variable {env : StoreEnv} {db db' : Database} {operation : Operation} {map : GrantMap}
  {holder : Holder} {family : Family} {key : ResourceKey} {owner : String}

theorem after_of_step {result : Option Grant}
    (about : operation.entry = some (holder,family,key,owner))
    (step : EntryStep operation (map.entry (holder,family,key,owner)) result) :
    map.after operation = map.put (holder,family,key,owner) result := by
  generalize before : map.entry (holder,family,key,owner) = entry at step
  cases step with
  | grant => cases about; rfl
  | update => cases about; simp [GrantMap.after,before]
  | revoke => cases about; rfl
  | grantPrompt => cases about; rfl
  | updatePrompt => cases about; rfl
  | revokePrompt => cases about; rfl

/-- The entry steps that the map allows are those of a known owner. -/
theorem allows_iff (about : operation.entry = some (holder,family,key,owner)) :
    db.tables.grantMap.Allows env operation ↔ db.tables.grantMap.owners holder owner ∧
      ∃ after, EntryStep operation (db.tables.grantMap.entry (holder,family,key,owner)) after := by
  have known : ∀ {grant}, db.tables.grantMap.entry (holder,family,key,owner) = some grant →
      db.tables.grantMap.owners holder owner := by
    intro grant held
    exact owner_of_entry (by rw [held]; simp)
  constructor
  · intro allowed
    cases operation <;> cases about
    case mp.grant permission =>
      obtain ⟨valid,shaped,named,free⟩ := allowed
      rw [free]
      exact ⟨named,_,.grant valid shaped⟩
    case mp.update permission =>
      obtain ⟨valid,held⟩ := allowed
      obtain ⟨grant,held⟩ := Option.ne_none_iff_exists'.mp held
      rw [held]
      exact ⟨known held,_,.update valid⟩
    case mp.revoke =>
      obtain ⟨grant,held⟩ := Option.ne_none_iff_exists'.mp allowed
      rw [held]
      exact ⟨known held,_,.revoke⟩
    case mp.grantPrompt name permission =>
      obtain ⟨valid,named,free⟩ := allowed
      rw [free]
      exact ⟨named,_,.grantPrompt valid⟩
    case mp.updatePrompt name permission =>
      obtain ⟨valid,grant,held,flagged⟩ := allowed
      rw [held]
      exact ⟨known held,_,.updatePrompt flagged valid⟩
    case mp.revokePrompt name =>
      obtain ⟨grant,held,flagged⟩ := allowed
      rw [held]
      exact ⟨known held,_,.revokePrompt flagged⟩
  · intro permitted
    obtain ⟨named,after,step⟩ := permitted
    generalize before : db.tables.grantMap.entry (holder,family,key,owner) = entry at step
    cases step with
    | grant valid shaped => cases about; exact ⟨valid,shaped,named,before⟩
    | update valid => cases about; exact ⟨valid,by rw [before]; simp⟩
    | revoke => cases about; exact Option.ne_none_iff_exists'.mpr ⟨_,before⟩
    | grantPrompt valid => cases about; exact ⟨valid,named,before⟩
    | updatePrompt flagged valid => cases about; exact ⟨valid,_,before,flagged⟩
    | revokePrompt flagged => cases about; exact ⟨_,before,flagged⟩

theorem entry_allows (about : operation.entry = some (holder,family,key,owner)) :
    (∃ db', operation.run env db = .ok () db') ↔ db.tables.grantMap.Allows env operation := by
  rw [entry_runs about,allows_iff about]
  constructor
  · intro ran
    obtain ⟨id,after,known,step⟩ := ran
    rw [entry_known known]
    exact ⟨⟨id,known⟩,after,step⟩
  · intro permitted
    obtain ⟨⟨id,known⟩,after,step⟩ := permitted
    rw [entry_known known] at step
    exact ⟨id,after,known,step⟩

theorem entry_after (about : operation.entry = some (holder,family,key,owner))
    (ran : operation.run env db = .ok () db') :
    db'.tables.grantMap = db.tables.grantMap.after operation := by
  obtain ⟨id,after,known,step,write⟩ := entry_writes about ran
  rw [← entry_known known] at step
  rw [after_of_step about step,write_map known write]

end Entries

section Outcomes
variable {env : StoreEnv} {db db' : Database} {violation : Failure} {username : String}

theorem owners_iff_getUser : db.tables.grantMap.owners .user username ↔
    ∃ user, db.tables.getUser username = .ok user := by
  constructor
  · intro known
    obtain ⟨id,known⟩ := known
    obtain ⟨user,only,_⟩ := ownerId_user.mp known
    exact ⟨user,Tables.getUser_eq_ok.mpr only⟩
  · intro known
    obtain ⟨user,known⟩ := known
    exact ⟨user.id,ownerId_user.mpr ⟨user,Tables.getUser_eq_ok.mp known,rfl⟩⟩

/-- A session whose body only fails on an unknown user. -/
theorem known_runs {body : Tables → Except Failure Tables}
    (fails : ∀ t', body db.tables = .ok t' → ∃ user, db.tables.getUser username = .ok user)
    (commits : ∀ user, db.tables.getUser username = .ok user →
      ∃ t', body db.tables = .ok t' ∧ Integrity t') :
    (∃ db', session violation body db = .ok () db') ↔ db.tables.grantMap.owners .user username := by
  rw [owners_iff_getUser]
  constructor
  · intro ran
    obtain ⟨db',ran⟩ := ran
    exact fails _ (session_ok ran)
  · intro known
    obtain ⟨user,known⟩ := known
    obtain ⟨t',ran,integrity⟩ := commits user known
    exact ⟨_,session_commits ran integrity⟩

theorem changeUser_runs {change : SqlUser → SqlUser} (sameId : ∀ user, (change user).id = user.id)
    (sameName : ∀ user, (change user).username = user.username) :
    (∃ db', session violation (Tables.changeUser change username) db = .ok () db') ↔
      db.tables.grantMap.owners .user username := by
  apply known_runs
  · intro t' ran
    obtain ⟨user,known,_⟩ := bind_ok ran
    exact ⟨user,known⟩
  · intro user known
    refine ⟨_,by simp only [Tables.changeUser,known]; rfl,?_⟩
    apply integrity_mapUsers db.integrity
    · intro account
      split
      · exact sameId account
      · rfl
    · intro account
      split
      · exact sameName account
      · rfl

theorem deleteUser_runs :
    (∃ db', session violation (Tables.deleteUser username) db = .ok () db') ↔
      db.tables.grantMap.owners .user username := by
  apply known_runs
  · intro t' ran
    obtain ⟨user,known,_⟩ := bind_ok ran
    exact ⟨user,known⟩
  · intro user known
    exact ⟨_,deleteUser_of_user known,integrity_withoutUser db.integrity user.id⟩

/-- A new name that nobody has may be given to a user. -/
theorem renameUser_integrity {newUsername : String} (found : SqlUser)
    (free : db.tables.usersNamed newUsername = []) :
    Integrity { db.tables with users := db.tables.users.map (fun user =>
      if user.id = found.id then { user with username := newUsername } else user) } := by
  let rewrite : SqlUser → SqlUser := fun user =>
    if user.id = found.id then { user with username := newUsername } else user
  have sameId : ∀ user, (rewrite user).id = user.id := by
    intro user
    simp only [rewrite]
    split <;> rfl
  have ids : (db.tables.users.map rewrite).map SqlUser.id = db.tables.userIds := by
    rw [List.map_map]
    exact List.map_congr_left (fun user _ => sameId user)
  have unnamed : ∀ user ∈ db.tables.users, user.username ≠ newUsername := by
    intro user member named
    have taken : user ∈ db.tables.usersNamed newUsername :=
      List.mem_filter.mpr ⟨member,decide_eq_true named⟩
    rw [free] at taken
    cases taken
  have names : ((db.tables.users.map rewrite).map SqlUser.username).Nodup := by
    rw [List.map_map]
    apply List.Nodup.map_on
    · intro user member other member' same
      simp only [Function.comp_apply,rewrite] at same
      split at same <;> split at same
      · next moved moved' => exact user_of_id member member' (moved.trans moved'.symm)
      · exact absurd same.symm (unnamed other member')
      · exact absurd same (unnamed user member)
      · exact user_of_name member member' same
    · exact db.integrity.userIds.of_map _
  have userIds : ({ db.tables with users := db.tables.users.map rewrite } : Tables).userIds =
      db.tables.userIds := ids
  exact { db.integrity with
    userIds := userIds ▸ db.integrity.userIds
    usernames := names
    memberUsers := userIds ▸ db.integrity.memberUsers
    userPermissions := fun family => userIds ▸ db.integrity.userPermissions family
    userRegexPermissions := fun family => userIds ▸ db.integrity.userRegexPermissions family
    workspacePermissions := userIds ▸ db.integrity.workspacePermissions
    workspaceRegexPermissions := userIds ▸ db.integrity.workspaceRegexPermissions
    userQuotas := userIds ▸ db.integrity.userQuotas }

theorem renameUser_runs {oldUsername newUsername : String} :
    (∃ db', (Operation.renameUser oldUsername newUsername).run env db = .ok () db') ↔
      db.tables.grantMap.Allows env (.renameUser oldUsername newUsername) := by
  simp only [Operation.run,GrantMap.Allows]
  constructor
  · intro ran
    obtain ⟨db',ran⟩ := ran
    obtain ⟨_,valid,changed⟩ := bind_ok (session_ok ran)
    obtain ⟨user,known,_⟩ := bind_ok changed
    refine ⟨valid,owners_iff_getUser.mpr ⟨user,known⟩,?_⟩
    by_cases same : oldUsername = newUsername
    · exact .inl same
    · right
      rw [owners_user_iff,not_not]
      exact renameUser_new changed db'.integrity same
  · intro allowed
    obtain ⟨valid,known,apart⟩ := allowed
    obtain ⟨user,known⟩ := owners_iff_getUser.mp known
    have changed : Tables.changeUser (fun account => { account with username := newUsername })
        oldUsername db.tables = .ok { db.tables with users := db.tables.users.map (fun account =>
          if account.id = user.id then { account with username := newUsername } else account) } := by
      simp only [Tables.changeUser,known]
      rfl
    have ran : (do
        env.validateUsername newUsername
        db.tables.changeUser (fun account => { account with username := newUsername })
          oldUsername : Except Failure Tables) =
        .ok { db.tables with users := db.tables.users.map (fun account =>
          if account.id = user.id then { account with username := newUsername } else account) } := by
      rw [valid]
      exact changed
    refine ⟨_,session_commits ran ?_⟩
    rcases apart with same | free
    · rw [renameUser_same changed same]
      exact db.integrity
    · rw [owners_user_iff,not_not] at free
      exact renameUser_integrity user free

theorem createUser_runs {password displayName : String} {isAdmin isServiceAccount : Bool} :
    (∃ db', (Operation.createUser username password displayName isAdmin isServiceAccount).run env
        db = .ok () db') ↔
      env.validateUsername username = .ok () ∧ ¬ db.tables.grantMap.owners .user username := by
  simp only [Operation.run,owners_user_iff,not_not]
  constructor
  · intro ran
    obtain ⟨db',ran⟩ := ran
    obtain ⟨_,valid,written⟩ := bind_ok (session_ok ran)
    simp only [pure,Except.pure,Except.ok.injEq] at written
    have integrity := db'.integrity
    rw [← written] at integrity
    exact ⟨valid,(createUser_new integrity).1⟩
  · intro allowed
    obtain ⟨valid,unused⟩ := allowed
    have integrity : Integrity (db.tables.createUser username displayName
        (env.generatePasswordHash password) isAdmin isServiceAccount) :=
      db.integrity.createUser unused
    refine ⟨_,session_commits ?_ integrity⟩
    rw [valid]
    rfl

end Outcomes

section Renames
variable (env : StoreEnv) (holder : Holder) (oldName newName : String)

theorem renameRows_runs (db : Database) {family : Family} (plain : family ≠ .scorer) :
    (db.tables.grantMap.Collides holder family oldName newName →
      session rejected (fun t => .ok (t.renameRows holder family oldName newName)) db =
        .error rejected db) ∧
    (¬ db.tables.grantMap.Collides holder family oldName newName → ∃ db',
      session rejected (fun t => .ok (t.renameRows holder family oldName newName)) db = .ok () db' ∧
        db'.tables.grantMap = db.tables.grantMap.rename holder family oldName newName) := by
  rw [← collides_iff plain]
  constructor
  · intro collision
    apply session_rejects
    · rfl
    · rw [renameRows_integrity holder oldName newName db.integrity plain,not_not]
      exact collision
  · intro apart
    have integrity := (renameRows_integrity holder oldName newName db.integrity plain).mpr apart
    refine ⟨⟨_,integrity⟩,session_commits ?_ integrity,rename_map integrity rfl apart⟩
    rfl

theorem renameModel_runs (db : Database) :
    match (Operation.renameModel holder oldName newName).run env db with
    | .ok _ db' => db.tables.grantMap.Allows env (.renameModel holder oldName newName) ∧
        db'.tables.grantMap = db.tables.grantMap.rename holder .registeredModel oldName newName
    | .error _ db' => ¬ db.tables.grantMap.Allows env (.renameModel holder oldName newName) ∧
        db' = db := by
  simp only [Operation.run,GrantMap.Allows,anyone_held_iff (show Family.registeredModel ≠ .scorer by
    decide)]
  by_cases found : ∃ row ∈ db.tables.direct holder .registeredModel,
      row.key.resourceId = oldName
  · have body : Tables.renameModelRows holder oldName newName db.tables =
        .ok (db.tables.renameRows holder .registeredModel oldName newName) := by
      apply if_neg
      simpa using found
    have runs := renameRows_runs holder oldName newName db
      (show Family.registeredModel ≠ .scorer by decide)
    have same : session rejected (Tables.renameModelRows holder oldName newName) db =
        session rejected (fun t => .ok (t.renameRows holder .registeredModel oldName newName)) db := by
      simp only [session,managedSession,body]
    rw [same]
    by_cases collision : db.tables.grantMap.Collides holder .registeredModel oldName newName
    · rw [runs.1 collision]
      exact ⟨fun allowed => allowed.2 collision,rfl⟩
    · obtain ⟨db',ran,written⟩ := runs.2 collision
      rw [ran]
      exact ⟨⟨found,collision⟩,written⟩
  · have body : ∃ failure, Tables.renameModelRows holder oldName newName db.tables =
        .error failure := by
      refine ⟨_,if_pos ?_⟩
      simpa using found
    obtain ⟨failure,body⟩ := body
    rw [session_raises body]
    exact ⟨fun allowed => found allowed.1,rfl⟩

/-- The users' rows are renamed first; a collision among the groups comes too late for them. -/
theorem renameEndpoint_runs (db : Database) :
    match (Operation.renameEndpoint oldName newName).run env db with
    | .ok _ db' => db.tables.grantMap.Allows env (.renameEndpoint oldName newName) ∧
        db'.tables.grantMap = db.tables.grantMap.after (.renameEndpoint oldName newName)
    | .error _ db' => ¬ db.tables.grantMap.Allows env (.renameEndpoint oldName newName) ∧
        db'.tables.grantMap = db.tables.grantMap.afterRefusal (.renameEndpoint oldName newName) := by
  have plain : Family.gatewayEndpoint ≠ .scorer := by decide
  simp only [Operation.run,GrantMap.Allows,GrantMap.after,GrantMap.afterRefusal]
  obtain ⟨refuses,renames⟩ := renameRows_runs .user oldName newName db plain
  by_cases users : db.tables.grantMap.Collides .user .gatewayEndpoint oldName newName
  · rw [bind_of_error (refuses users),if_pos users]
    exact ⟨fun allowed => allowed.1 users,rfl⟩
  · obtain ⟨reached,ran,written⟩ := renames users
    rw [bind_of_ok ran,if_neg users,← written]
    have sameGroups : reached.tables.grantMap.Collides .group .gatewayEndpoint oldName newName ↔
        db.tables.grantMap.Collides .group .gatewayEndpoint oldName newName := by
      rw [written]
      simp [GrantMap.Collides,GrantMap.rename]
    obtain ⟨refuses',renames'⟩ := renameRows_runs .group oldName newName reached plain
    by_cases groups : db.tables.grantMap.Collides .group .gatewayEndpoint oldName newName
    · rw [refuses' (sameGroups.mpr groups)]
      exact ⟨fun allowed => allowed.2 groups,rfl⟩
    · obtain ⟨db',ran',written'⟩ := renames' (fun collision => groups (sameGroups.mp collision))
      rw [ran']
      exact ⟨⟨users,groups⟩,written'⟩

end Renames

section Steps
variable {env : StoreEnv} {db db' : Database} {operation : Operation}

theorem withRegex_map (t : Tables) (holder : Holder) (family : Family)
    (rows : List SqlRegexPermission) : (t.withRegex holder family rows).grantMap = t.grantMap := by
  cases holder <;> rfl

theorem memberships_map {t t' : Tables} {userId : Nat} (same : SameButMemberships t t' userId) :
    t'.grantMap = t.grantMap := by
  rw [same.written]
  rfl

/-- An operation that succeeds carries out its update of the map. -/
theorem run_after (ran : operation.run env db = .ok () db') :
    db'.tables.grantMap = db.tables.grantMap.after operation := by
  cases operation
  case grant | update | revoke | grantPrompt | updatePrompt | revokePrompt =>
    exact entry_after rfl ran
  case grantRegex | updateRegex =>
    obtain ⟨_,_,written⟩ := bind_ok (session_ok ran)
    obtain ⟨_,_,written⟩ := bind_ok written
    simp only [pure,Except.pure,Except.ok.injEq] at written
    rw [← written]
    exact withRegex_map ..
  case revokeRegex =>
    obtain ⟨_,_,written⟩ := bind_ok (session_ok ran)
    simp only [pure,Except.pure,Except.ok.injEq] at written
    rw [← written]
    exact withRegex_map ..
  case renameModel holder oldName newName =>
    have runs := renameModel_runs env holder oldName newName db
    rw [ran] at runs
    exact runs.2
  case renameEndpoint oldName newName =>
    have runs := renameEndpoint_runs env oldName newName db
    rw [ran] at runs
    exact runs.2
  case wipe holder family resourceId =>
    rw [Operation.run,wipe_commits] at ran
    cases ran
    exact wipe_map ..
  case wipeBoth family resourceId =>
    obtain ⟨wiped,ran',written⟩ := @wipeBoth_ok env db family resourceId
    rw [ran'] at ran
    cases ran
    rw [written]
    exact wipeBoth_map ..
  case deleteScorer experimentId scorerName =>
    have written := session_ok ran
    simp only [Except.ok.injEq] at written
    rw [← written]
    exact deleteScorer_map ..
  case setUserGroups =>
    obtain ⟨_,_,same⟩ := setGroupsForUser_memberships (session_ok ran)
    exact memberships_map same
  case addUserToGroup =>
    obtain ⟨_,_,same⟩ := addUserToGroup_memberships (session_ok ran)
    exact memberships_map same
  case removeUserFromGroup =>
    obtain ⟨_,_,same⟩ := removeUserFromGroup_memberships (session_ok ran)
    exact memberships_map same
  case populateGroups groupNames =>
    have written := session_ok ran
    simp only [Except.ok.injEq] at written
    exact createGroups_map written.symm
  case createUser username password displayName isAdmin isServiceAccount =>
    obtain ⟨_,_,written⟩ := bind_ok (session_ok ran)
    simp only [pure,Except.pure,Except.ok.injEq] at written
    exact createUser_map written.symm
  case updateUser username change =>
    have changed := session_ok ran
    exact same_map (changeUser_groups changed)
      (changeUser_accounts changed (fun _ => rfl) (fun _ => rfl))
  case renameUser oldUsername newUsername =>
    obtain ⟨_,_,changed⟩ := bind_ok (session_ok ran)
    exact renameUser_map changed
  case setUserDisplayname username displayName =>
    have changed := session_ok ran
    exact same_map (changeUser_groups changed)
      (changeUser_accounts changed (fun _ => rfl) (fun _ => rfl))
  case deleteUser username => exact deleteUser_map (session_ok ran)
  case quota username write =>
    rw [QuotaWrite.body_quotas (session_ok ran)]
    rfl

/-- One that raises leaves the map, or of the rename of an endpoint the first half. -/
theorem run_afterRefusal {failure : Failure} (raised : operation.run env db = .error failure db') :
    db'.tables.grantMap = db.tables.grantMap.afterRefusal operation := by
  by_cases endpoint : ∃ oldName newName, operation = .renameEndpoint oldName newName
  · obtain ⟨oldName,newName,rfl⟩ := endpoint
    have runs := renameEndpoint_runs env oldName newName db
    rw [raised] at runs
    exact runs.2
  · have refused : db.tables.grantMap.afterRefusal operation = db.tables.grantMap := by
      cases operation
      case renameEndpoint oldName newName => exact absurd ⟨oldName,newName,rfl⟩ endpoint
      all_goals rfl
    rcases run_error raised with same | ⟨oldName,newName,rename,_⟩
    · rw [same,refused]
    · exact absurd ⟨oldName,newName,rename⟩ endpoint

/-- The map decides whether an operation on grants and their owners succeeds. -/
theorem run_allows (grants : operation.besideGrants = false) :
    (∃ db', operation.run env db = .ok () db') ↔ db.tables.grantMap.Allows env operation := by
  cases operation
  case grant | update | revoke | grantPrompt | updatePrompt | revokePrompt =>
    exact entry_allows rfl
  case grantRegex | updateRegex | revokeRegex | setUserGroups | addUserToGroup
      | removeUserFromGroup | quota => cases grants
  case renameModel holder oldName newName =>
    have runs := renameModel_runs env holder oldName newName db
    split at runs
    · next db' ran => exact iff_of_true ⟨db',ran⟩ runs.1
    · next failure db' raised =>
      apply iff_of_false
      · intro ran
        obtain ⟨db',ran⟩ := ran
        rw [raised] at ran
        cases ran
      · exact runs.1
  case renameEndpoint oldName newName =>
    have runs := renameEndpoint_runs env oldName newName db
    split at runs
    · next db' ran => exact iff_of_true ⟨db',ran⟩ runs.1
    · next failure db' raised =>
      apply iff_of_false
      · intro ran
        obtain ⟨db',ran⟩ := ran
        rw [raised] at ran
        cases ran
      · exact runs.1
  case wipe holder family resourceId =>
    exact iff_of_true ⟨_,wipe_commits holder family resourceId db⟩ trivial
  case wipeBoth family resourceId =>
    obtain ⟨wiped,ran,_⟩ := @wipeBoth_ok env db family resourceId
    exact iff_of_true ⟨wiped,ran⟩ trivial
  case deleteScorer experimentId scorerName =>
    have integrity : Integrity (db.tables.deleteScorerRows experimentId scorerName) :=
      deleteScorerRows_integrity db.integrity
    refine iff_of_true ⟨_,session_commits ?_ integrity⟩ trivial
    rfl
  case populateGroups groupNames =>
    refine iff_of_true ⟨_,session_commits ?_ (createGroups_known groupNames db).1⟩ trivial
    rfl
  case createUser => exact createUser_runs
  case updateUser => exact changeUser_runs (fun _ => rfl) (fun _ => rfl)
  case renameUser => exact renameUser_runs
  case setUserDisplayname => exact changeUser_runs (fun _ => rfl) (fun _ => rfl)
  case deleteUser => exact deleteUser_runs

end Steps

/-- One operation of the store, with whether it succeeded. -/
def tablesStep (env : StoreEnv) (db : Database) (operation : Operation) : Bool × Database :=
  match operation.run env db with
  | .ok _ db' => (true,db')
  | .error _ db' => (false,db')

section Runs
variable {env : StoreEnv} {db : Database} {operation : Operation}

theorem tablesStep_succeeds :
    (tablesStep env db operation).1 = true ↔ ∃ db', operation.run env db = .ok () db' := by
  unfold tablesStep
  cases ran : operation.run env db <;> simp

/-- The simulation: the map of the next state is the next map. -/
theorem tablesStep_map (env : StoreEnv) (db : Database) (operation : Operation) :
    (tablesStep env db operation).2.tables.grantMap = db.tables.grantMap.next env operation := by
  by_cases grants : operation.besideGrants = false
  · have allowed := @run_allows env db operation grants
    unfold tablesStep GrantMap.next
    cases ran : operation.run env db with
    | ok _ db' => rw [if_pos (allowed.mp ⟨db',ran⟩),run_after ran]
    | error failure db' =>
      have refused : ¬ db.tables.grantMap.Allows env operation := by
        intro permitted
        obtain ⟨_,ran'⟩ := allowed.mpr permitted
        rw [ran] at ran'
        cases ran'
      rw [if_neg refused,run_afterRefusal ran]
  · -- The other operations leave the map, whether they succeed or not.
    have untouched : ∀ map : GrantMap, map.next env operation = map ∧
        map.after operation = map ∧ map.afterRefusal operation = map := by
      intro map
      cases operation <;> first | exact absurd rfl grants | exact ⟨if_pos trivial,rfl,rfl⟩
    rw [(untouched _).1]
    unfold tablesStep
    cases ran : operation.run env db with
    | ok _ db' => exact (run_after ran).trans (untouched _).2.1
    | error failure db' => exact (run_afterRefusal ran).trans (untouched _).2.2

theorem directRow_map {holder : Holder} {family : Family} {key : ResourceKey} {owner : String}
    (grant : Grant) :
    (∃ row, db.tables.directRow holder family key owner = .ok row ∧ row.grant = grant) ↔
      db.tables.grantMap.entry (holder,family,key,owner) = some grant := by
  simp only [directRow_ok]
  constructor
  · intro found
    obtain ⟨row,⟨id,known,held⟩,same⟩ := found
    rw [entry_known known,entryAt_some]
    exact ⟨row,held,same⟩
  · intro held
    obtain ⟨id,known⟩ : db.tables.grantMap.owners holder owner :=
      owner_of_entry (by rw [held]; simp)
    rw [entry_known known,entryAt_some] at held
    obtain ⟨row,only,same⟩ := held
    exact ⟨row,⟨id,known,only⟩,same⟩

/-- After any run the tables hold the grants that the run makes on the map, the map tells which
further operation on grants succeeds, and a lookup of a grant reads the map. -/
theorem store_refines_grants (env : StoreEnv) (start : Database) (operations : List Operation) :
    let reached := Run.final (tablesStep env) start operations
    let map := operations.foldl (GrantMap.next env) start.tables.grantMap
    reached.tables.grantMap = map ∧
      (∀ operation, operation.besideGrants = true ∨
        ((tablesStep env reached operation).1 = true ↔ map.Allows env operation)) ∧
      ∀ holder family key owner grant,
        (∃ row, reached.tables.directRow holder family key owner = .ok row ∧ row.grant = grant) ↔
          map.entry (holder,family,key,owner) = some grant := by
  intro reached map
  have simulated : reached.tables.grantMap = map :=
    (List.foldl_hom (fun db : Database => db.tables.grantMap)
      (fun db operation => (tablesStep_map env db operation).symm)).symm
  rw [← simulated]
  refine ⟨rfl,?_,fun holder family key owner grant => directRow_map grant⟩
  intro operation
  cases grants : operation.besideGrants with
  | true => exact .inl rfl
  | false => exact .inr (tablesStep_succeeds.trans (run_allows grants))

end Runs

end MlflowOidcAuth
