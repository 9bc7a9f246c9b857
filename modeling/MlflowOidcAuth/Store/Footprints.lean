import MlflowOidcAuth.Resolution.Locality
import MlflowOidcAuth.Store.Methods

/-! What the writes of the store leave alone: the accounts a write is not about, and, for
the writes of resource grants, all that a workspace lookup reads. -/
namespace MlflowOidcAuth
open OrderedSources Effects

section Accounts
variable {db : Database} {t' : Tables} {username : String} {found : SqlUser}

theorem mem_of_usersNamed {t : Tables} (known : t.usersNamed username = [found]) :
    found ∈ t.users ∧ found.username = username := by
  have member : found ∈ t.usersNamed username := by
    rw [known]
    exact List.mem_singleton_self found
  simpa [Tables.usersNamed] using member

theorem user_of_id {user other : SqlUser} (member : user ∈ db.tables.users)
    (member' : other ∈ db.tables.users) (same : user.id = other.id) : user = other :=
  List.inj_on_of_nodup_map db.integrity.userIds member member' same

theorem user_of_name {user other : SqlUser} (member : user ∈ db.tables.users)
    (member' : other ∈ db.tables.users) (same : user.username = other.username) : user = other :=
  List.inj_on_of_nodup_map db.integrity.usernames member member' same

theorem sameAccount_map {rewrite : SqlUser → SqlUser}
    (written : t' = { db.tables with users := db.tables.users.map rewrite })
    (sameId : ∀ user, (rewrite user).id = user.id)
    (sameName : ∀ user ∈ db.tables.users,
      (rewrite user).username = username ↔ user.username = username) :
    SameAccount db.tables t' username := by
  have named : t'.usersNamed username = (db.tables.usersNamed username).map rewrite := by
    simp only [Tables.usersNamed,written,List.filter_map]
    congr 1
    apply List.filter_congr
    intro user member
    simpa using sameName user member
  rcases usersNamed_unique db username with absent | ⟨user,known⟩
  · refine .absent absent ?_
    rw [named,absent]
    rfl
  · refine .known user (rewrite user) known ?_ (sameId user) ?_
    · rw [named,known]
      rfl
    · subst written
      exact ⟨rfl,fun _ => rfl,fun _ => rfl,rfl,rfl⟩

theorem changeUser_ok {change : SqlUser → SqlUser} {t : Tables}
    (ran : Tables.changeUser change username t = .ok t') :
    ∃ found, t.usersNamed username = [found] ∧ t' = { t with
      users := t.users.map (fun user => if user.id = found.id then change user else user) } := by
  obtain ⟨found,known,written⟩ := bind_ok ran
  cases written
  exact ⟨found,Tables.getUser_eq_ok.mp known,rfl⟩

theorem changeUser_groups {change : SqlUser → SqlUser} {t : Tables}
    (ran : Tables.changeUser change username t = .ok t') : SameGroupTables t t' := by
  obtain ⟨_,_,rfl⟩ := changeUser_ok ran
  exact ⟨rfl,rfl,rfl,rfl,rfl⟩

theorem changeUser_accounts {change : SqlUser → SqlUser} {changed : String}
    (ran : Tables.changeUser change changed db.tables = .ok t')
    (sameId : ∀ user, (change user).id = user.id)
    (sameName : ∀ user, (change user).username = user.username) (username : String) :
    SameAccount db.tables t' username := by
  obtain ⟨found,_,written⟩ := changeUser_ok ran
  apply sameAccount_map written
  · intro user
    split
    · exact sameId user
    · rfl
  · intro user _
    split
    · rw [sameName]
    · rfl

section Rename
variable {oldUsername newUsername : String}
  (ran : Tables.changeUser (fun user => { user with username := newUsername }) oldUsername
    db.tables = .ok t')
include ran

theorem renameUser_others (notOld : username ≠ oldUsername) (notNew : username ≠ newUsername) :
    SameAccount db.tables t' username := by
  obtain ⟨found,known,written⟩ := changeUser_ok ran
  obtain ⟨listed,name⟩ := mem_of_usersNamed known
  apply sameAccount_map written
  · intro user
    split <;> rfl
  · intro user member
    split
    · next same =>
      have isFound := user_of_id member listed same
      subst isFound
      simp only [name,notOld.symm,notNew.symm]
    · rfl

theorem renameUser_same (same : oldUsername = newUsername) : t' = db.tables := by
  obtain ⟨found,known,rfl⟩ := changeUser_ok ran
  obtain ⟨listed,name⟩ := mem_of_usersNamed known
  have unchanged : db.tables.users.map (fun user =>
      if user.id = found.id then { user with username := newUsername } else user) =
      db.tables.users := by
    conv_rhs => rw [← List.map_id db.tables.users]
    apply List.map_congr_left
    intro user member
    split
    · next sameId =>
      rw [user_of_id member listed sameId,← same,← name]
      rfl
    · rfl
  rw [unchanged]

theorem renameUser_old (distinct : oldUsername ≠ newUsername) :
    t'.usersNamed oldUsername = [] := by
  obtain ⟨found,known,rfl⟩ := changeUser_ok ran
  obtain ⟨listed,name⟩ := mem_of_usersNamed known
  simp only [Tables.usersNamed,List.filter_eq_nil_iff,List.mem_map,decide_eq_true_eq]
  rintro _ ⟨user,member,rfl⟩
  split
  · exact distinct.symm
  · next other =>
    intro named
    exact other (congrArg SqlUser.id (user_of_name member listed (named.trans name.symm)))

theorem renameUser_new (integrity : Integrity t') (distinct : oldUsername ≠ newUsername) :
    db.tables.usersNamed newUsername = [] := by
  obtain ⟨found,known,rfl⟩ := changeUser_ok ran
  obtain ⟨listed,name⟩ := mem_of_usersNamed known
  simp only [Tables.usersNamed,List.filter_eq_nil_iff,decide_eq_true_eq]
  intro user member named
  have apart : user.id ≠ found.id := by
    intro same
    rw [user_of_id member listed same,name] at named
    exact distinct named
  have renamed : ({ found with username := newUsername } : SqlUser) ∈ db.tables.users.map
      (fun user => if user.id = found.id then { user with username := newUsername } else user) :=
    List.mem_map.mpr ⟨found,listed,by simp⟩
  have kept : user ∈ db.tables.users.map
      (fun user => if user.id = found.id then { user with username := newUsername } else user) :=
    List.mem_map.mpr ⟨user,member,by simp [apart]⟩
  have same := List.inj_on_of_nodup_map integrity.usernames kept renamed named
  have sameId := congrArg SqlUser.id same
  exact apart sameId

end Rename

section Delete
variable {deleted : String} (ran : Tables.deleteUser deleted db.tables = .ok t')
include ran

theorem deleteUser_groups : SameGroupTables db.tables t' := by
  obtain ⟨found,_,written⟩ := bind_ok ran
  cases written
  exact ⟨rfl,rfl,rfl,rfl,rfl⟩

theorem deleteUser_gone : t'.usersNamed deleted = [] := by
  obtain ⟨found,known,written⟩ := bind_ok ran
  obtain ⟨listed,name⟩ := mem_of_usersNamed (Tables.getUser_eq_ok.mp known)
  cases written
  simp only [Tables.usersNamed,List.filter_eq_nil_iff,List.mem_filter,decide_eq_true_eq]
  rintro user ⟨member,other⟩ named
  exact other (congrArg SqlUser.id (user_of_name member listed (named.trans name.symm)))

theorem deleteUser_others (other : username ≠ deleted) : SameAccount db.tables t' username := by
  obtain ⟨found,known,written⟩ := bind_ok ran
  obtain ⟨listed,name⟩ := mem_of_usersNamed (Tables.getUser_eq_ok.mp known)
  cases written
  have apart : ∀ user ∈ db.tables.users, user.username = username → user.id ≠ found.id := by
    intro user member named same
    rw [user_of_id member listed same,name] at named
    exact other named.symm
  have named : (db.tables.users.filter (fun user => decide (user.id ≠ found.id))).filter
      (fun user => decide (user.username = username)) = db.tables.usersNamed username := by
    rw [List.filter_filter]
    apply List.filter_congr
    intro user member
    by_cases isNamed : user.username = username
    · simp [isNamed,apart user member isNamed]
    · simp [isNamed]
  rcases usersNamed_unique db username with absent | ⟨user,own⟩
  · exact .absent absent (named.trans absent)
  · obtain ⟨member,isNamed⟩ := mem_of_usersNamed own
    have distinct := apart user member isNamed
    have kept : ∀ {Row : Type} (owner : Row → Nat) (rows : List Row),
        (rows.filter (fun row => decide (owner row ≠ found.id))).filter
          (fun row => decide (owner row = user.id)) =
        rows.filter (fun row => decide (owner row = user.id)) := by
      intro Row owner rows
      rw [List.filter_filter]
      apply List.filter_congr
      intro row _
      by_cases owned : owner row = user.id
      · simp [owned,distinct]
      · simp [owned]
    exact .known user user own (named.trans own) rfl
      ⟨kept SqlUserGroup.userId _,fun _ => kept SqlPermission.ownerId _,
        fun _ => kept SqlRegexPermission.ownerId _,kept SqlWorkspacePermission.ownerId _,
        kept SqlRegexPermission.ownerId _⟩

end Delete

section Create
variable {created displayName passwordHash : String} {isAdmin isServiceAccount : Bool}

theorem createUser_groups : SameGroupTables db.tables
    (db.tables.createUser created displayName passwordHash isAdmin isServiceAccount) :=
  ⟨rfl,rfl,rfl,rfl,rfl⟩

theorem createUser_others (other : username ≠ created) :
    SameAccount db.tables
      (db.tables.createUser created displayName passwordHash isAdmin isServiceAccount) username := by
  have named : (db.tables.createUser created displayName passwordHash isAdmin
      isServiceAccount).usersNamed username = db.tables.usersNamed username := by
    simp [Tables.usersNamed,Tables.createUser,Ne.symm other]
  rcases usersNamed_unique db username with absent | ⟨user,known⟩
  · exact .absent absent (named.trans absent)
  · exact .known user user known (named.trans known) rfl
      ⟨rfl,fun _ => rfl,fun _ => rfl,rfl,rfl⟩

theorem noRows_of_fresh_id {id : Nat} (unused : id ∉ db.tables.userIds) :
    NoRows db.tables id := by
  have none_owned : ∀ {Row : Type} (owner : Row → Nat) (rows : List Row),
      (∀ row ∈ rows, owner row ∈ db.tables.userIds) →
      rows.filter (fun row => decide (owner row = id)) = [] := by
    intro Row owner rows owned
    simp only [List.filter_eq_nil_iff,decide_eq_true_eq]
    intro row member same
    exact unused (same ▸ owned row member)
  exact ⟨none_owned _ _ db.integrity.memberUsers.2.2,
    fun family => none_owned _ _ (db.integrity.userPermissions family).1.2.2,
    fun family => none_owned _ _ (db.integrity.userRegexPermissions family).2.2,
    none_owned _ _ db.integrity.workspacePermissions.2.2,
    none_owned _ _ db.integrity.workspaceRegexPermissions.2.2⟩

theorem createUser_new (integrity : Integrity
      (db.tables.createUser created displayName passwordHash isAdmin isServiceAccount)) :
    db.tables.usersNamed created = [] ∧ ∃ user,
      (db.tables.createUser created displayName passwordHash isAdmin
        isServiceAccount).usersNamed created = [user] ∧ NoRows db.tables user.id := by
  have unused : db.tables.usersNamed created = [] := by
    have names := integrity.usernames
    simp only [Tables.createUser,List.map_append,List.map_cons,List.map_nil,List.nodup_append] at names
    simp only [Tables.usersNamed,List.filter_eq_nil_iff,decide_eq_true_eq]
    intro user member named
    exact names.2.2 _ (List.mem_map.mpr ⟨user,member,rfl⟩) _ List.mem_cons_self named
  refine ⟨unused,⟨nextId db.tables.userIds,created,displayName,passwordHash,none,isAdmin,
    isServiceAccount⟩,?_,noRows_of_fresh_id (nextId_not_mem db.tables.userIds)⟩
  simp only [Tables.usersNamed,Tables.createUser,List.filter_append] at unused ⊢
  rw [unused]
  simp

end Create
end Accounts

section Memberships

/-- Only the memberships of one user may differ. -/
structure SameButMemberships (t t' : Tables) (userId : Nat) : Prop where
  written : t' = { t with userGroups := t'.userGroups }
  others : ∀ id, id ≠ userId → t'.userGroups.filter (fun row => decide (row.userId = id)) =
    t.userGroups.filter (fun row => decide (row.userId = id))

theorem SameButMemberships.trans {t t' t'' : Tables} {userId : Nat}
    (first : SameButMemberships t t' userId) (second : SameButMemberships t' t'' userId) :
    SameButMemberships t t'' userId := by
  refine ⟨?_,fun id other => (second.others id other).trans (first.others id other)⟩
  rw [second.written,first.written]

theorem addMember_memberships {t t' : Tables} {userId : Nat} {groupName : String}
    (ran : Tables.addMember userId t groupName = .ok t') : SameButMemberships t t' userId := by
  obtain ⟨group,_,written⟩ := bind_ok ran
  cases written
  refine ⟨rfl,fun id other => ?_⟩
  simp [Ne.symm other]

theorem addMembers_memberships {t t' : Tables} {userId : Nat} {groupNames : List String}
    (ran : groupNames.foldlM (Tables.addMember userId) t = .ok t') :
    SameButMemberships t t' userId := by
  induction groupNames generalizing t with
  | nil =>
    cases ran
    exact ⟨rfl,fun _ _ => rfl⟩
  | cons groupName rest ih =>
    rw [List.foldlM_cons] at ran
    obtain ⟨next,added,ran⟩ := bind_ok ran
    exact (addMember_memberships added).trans (ih ran)

variable {db : Database} {t' : Tables} {username : String}

theorem addUserToGroup_memberships {groupName : String}
    (ran : Tables.addUserToGroup username groupName db.tables = .ok t') :
    ∃ user, db.tables.usersNamed username = [user] ∧ SameButMemberships db.tables t' user.id := by
  obtain ⟨user,known,ran⟩ := bind_ok ran
  exact ⟨user,Tables.getUser_eq_ok.mp known,addMember_memberships ran⟩

theorem setGroupsForUser_memberships {groupNames : List String}
    (ran : Tables.setGroupsForUser username groupNames db.tables = .ok t') :
    ∃ user, db.tables.usersNamed username = [user] ∧ SameButMemberships db.tables t' user.id := by
  obtain ⟨user,known,ran⟩ := bind_ok ran
  refine ⟨user,Tables.getUser_eq_ok.mp known,?_⟩
  have left : SameButMemberships db.tables
      { db.tables with
        userGroups := db.tables.userGroups.filter (fun row => decide (row.userId ≠ user.id)) }
      user.id := by
    refine ⟨rfl,fun id other => ?_⟩
    rw [List.filter_filter]
    apply List.filter_congr
    intro row _
    by_cases owned : row.userId = id
    · simp [owned,other]
    · simp [owned]
  exact left.trans (addMembers_memberships ran)

theorem removeUserFromGroup_memberships {groupName : String}
    (ran : Tables.removeUserFromGroup username groupName db.tables = .ok t') :
    ∃ user, db.tables.usersNamed username = [user] ∧ SameButMemberships db.tables t' user.id := by
  obtain ⟨user,known,ran⟩ := bind_ok ran
  obtain ⟨group,_,ran⟩ := bind_ok ran
  obtain ⟨found,only,written⟩ := bind_ok ran
  have member : found ∈ db.tables.userGroups.filter (fun row =>
      decide (row.userId = user.id ∧ row.groupId = group.id)) := by
    rw [one_eq_ok.mp only]
    exact List.mem_singleton_self found
  simp only [List.mem_filter,decide_eq_true_eq] at member
  cases written
  refine ⟨user,Tables.getUser_eq_ok.mp known,rfl,fun id other => ?_⟩
  rw [List.filter_filter]
  apply List.filter_congr
  intro row listed
  by_cases owned : row.userId = id
  · have kept : row.id ≠ found.id := by
      intro same
      have isFound := List.inj_on_of_nodup_map db.integrity.memberUsers.1 listed member.1 same
      exact other (owned.symm.trans (isFound ▸ member.2.1))
    simp [owned,kept]
  · simp [owned]

end Memberships

section Groups

/-- Only groups were added, under ids and names that were free. -/
def GroupsAdded (t t' : Tables) : Prop :=
  ∃ added : List SqlGroup, t' = { t with groups := t.groups ++ added } ∧
    ∀ group ∈ added, group.id ∉ t.groupIds ∧ group.groupName ∉ t.groups.map SqlGroup.groupName

theorem groupsAdded_refl (t : Tables) : GroupsAdded t t := by
  refine ⟨[],?_,by simp⟩
  rw [List.append_nil]

theorem createGroup_added {t t' : Tables} (added : GroupsAdded t t') (groupName : String) :
    GroupsAdded t (t'.createGroup groupName) := by
  unfold Tables.createGroup
  split
  · next free =>
    obtain ⟨earlier,rfl,fresh⟩ := added
    refine ⟨earlier ++ [⟨nextId (Tables.groupIds { t with groups := t.groups ++ earlier }),
      groupName⟩],by simp,?_⟩
    intro group member
    rcases List.mem_append.mp member with before | last
    · exact fresh group before
    · rw [List.mem_singleton.mp last]
      have unused := nextId_not_mem (Tables.groupIds { t with groups := t.groups ++ earlier })
      simp only [Tables.groupIds,List.map_append,List.mem_append,not_or] at unused
      simp only [Tables.groupsNamed,List.filter_append,List.append_eq_nil_iff,
        List.filter_eq_nil_iff,decide_eq_true_eq] at free
      refine ⟨?_,?_⟩
      · simpa [Tables.groupIds] using unused.1
      · simpa using free.1
  · exact added

theorem createGroups_added (groupNames : List String) (t : Tables) :
    GroupsAdded t (t.createGroups groupNames) := by
  have folded : ∀ names : List String, ∀ t', GroupsAdded t t' →
      GroupsAdded t (names.foldl Tables.createGroup t') := by
    intro names
    induction names with
    | nil => exact fun _ added => added
    | cons groupName rest ih => exact fun t' added => ih _ (createGroup_added added groupName)
  exact folded groupNames.eraseDups t (groupsAdded_refl t)

variable {env : Env} {db : Database} {t' : Tables} {username : String}

theorem joined_append {Row Owner : Type} {rows : List Row} {owners others : List Owner}
    {on : Row → Owner → Bool} (apart : ∀ row ∈ rows, ∀ owner ∈ others, on row owner = false) :
    joined rows (owners ++ others) on = joined rows owners on := by
  apply List.flatMap_congr
  intro row member
  have none_joins : others.filter (on row) = [] := by
    rw [List.filter_eq_nil_iff]
    intro owner listed
    simp [apart row member owner listed]
  rw [List.filter_append,none_joins,List.append_nil]

theorem getGroupsForUser_groupsAdded (added : GroupsAdded db.tables t') :
    t'.getGroupsForUser username = db.tables.getGroupsForUser username := by
  obtain ⟨groups,rfl,fresh⟩ := added
  simp only [Tables.getGroupsForUser,List.filter_append]
  change (db.tables.getUser username >>= _) = (db.tables.getUser username >>= _)
  congr 1
  funext user
  have none_joined : groups.filter (fun group =>
      decide (group.id ∈ db.tables.groupIdsOf user)) = [] := by
    simp only [List.filter_eq_nil_iff,decide_eq_true_eq]
    intro group member held
    obtain ⟨row,listed,same⟩ := List.mem_map.mp held
    have owned := db.integrity.memberGroups row (List.mem_filter.mp listed).1
    exact (fresh group member).1 (same ▸ owned)
  change (pure (((db.tables.groups.filter _) ++ groups.filter (fun group =>
    decide (group.id ∈ db.tables.groupIdsOf user))).map _) : Except Failure _) = _
  rw [none_joined,List.append_nil]
  rfl

theorem sources_groupsAdded (added : GroupsAdded db.tables t') (shape : SourceShape) :
    shape.sources env t' username = shape.sources env db.tables username := by
  obtain ⟨groups,rfl,fresh⟩ := added
  have byName : ∀ family key, Tables.getGroupPermission { db.tables with
        groups := db.tables.groups ++ groups } family key username =
      db.tables.getGroupPermission family key username := by
    intro family key
    simp only [Tables.getGroupPermission,Tables.groupsNamed,List.filter_append]
    rw [joined_append]
    intro row member group listed
    have owned := (db.integrity.groupPermissions family).1.2.2 row (List.mem_filter.mp member).1
    have unused := (fresh group (List.mem_filter.mp listed).1).1
    simp only [decide_eq_false_iff_not]
    intro same
    exact unused (same ▸ owned)
  have names : Tables.getGroupsForUser { db.tables with groups := db.tables.groups ++ groups }
      username = db.tables.getGroupsForUser username :=
    getGroupsForUser_groupsAdded ⟨groups,rfl,fresh⟩
  have rows : ∀ family key, ∀ groupName ∈ db.tables.groups.map SqlGroup.groupName,
      Tables.getGroupPermissionOrNone { db.tables with groups := db.tables.groups ++ groups }
        family key groupName = db.tables.getGroupPermissionOrNone family key groupName := by
    intro family key groupName known
    have none_named : groups.filter (fun group => decide (group.groupName = groupName)) = [] := by
      simp only [List.filter_eq_nil_iff,decide_eq_true_eq]
      intro group member same
      exact (fresh group member).2 (same ▸ known)
    simp only [Tables.getGroupPermissionOrNone,Tables.groupsNamed,List.filter_append,none_named,
      List.append_nil]
    rfl
  have highest : ∀ family key, Tables.getUserGroupsPermission { db.tables with
        groups := db.tables.groups ++ groups } family key username =
      db.tables.getUserGroupsPermission family key username := by
    intro family key
    simp only [Tables.getUserGroupsPermission,names]
    cases listed : db.tables.getGroupsForUser username with
    | error failure => rfl
    | ok userGroups =>
      have known : ∀ groupName ∈ userGroups,
          groupName ∈ db.tables.groups.map SqlGroup.groupName := by
        intro groupName member
        obtain ⟨user,_,written⟩ := bind_ok listed
        cases written
        obtain ⟨group,listed,rfl⟩ := List.mem_map.mp member
        exact List.mem_map_of_mem (List.mem_filter.mp listed).1
      simp only [bind,Except.bind]
      have folded := foldlM_congr_of_mem
        (f := fun best groupName => do
          let perms ← Tables.getGroupPermissionOrNone
            { db.tables with groups := db.tables.groups ++ groups } family key groupName
          Tables.higherRow best perms)
        (g := fun best groupName => do
          let perms ← db.tables.getGroupPermissionOrNone family key groupName
          Tables.higherRow best perms)
        (fun groupName member best => by rw [rows family key groupName (known groupName member)])
        none
      simp only [bind,Except.bind] at folded
      rw [folded]
  funext source
  cases source with
  | user => rfl
  | group => simp only [SourceShape.sources,buildSources,SourceShape.groupRow,byName,highest]
  | regex => rfl
  | groupRegex => rfl

end Groups

theorem QuotaWrite.body_quotas {write : QuotaWrite} {username : String} {t t' : Tables}
    (ran : write.body username t = .ok t') : t' = { t with userQuotas := t'.userQuotas } := by
  have changed : ∀ {change : SqlUserQuota → SqlUserQuota},
      Tables.changeQuota change username t = .ok t' →
      t' = { t with userQuotas := t'.userQuotas } := by
    intro change ran
    obtain ⟨quota,_,ran⟩ := bind_ok ran
    cases quota <;> cases ran <;> rfl
  cases write with
  | set quotaBytes softCapFraction =>
    obtain ⟨user,_,ran⟩ := bind_ok ran
    obtain ⟨quota,_,ran⟩ := bind_ok ran
    cases quota <;> cases ran <;> rfl
  | email address =>
    obtain ⟨user,_,ran⟩ := bind_ok ran
    cases user with
    | none =>
      cases ran
      rfl
    | some user =>
      obtain ⟨quota,_,ran⟩ := bind_ok ran
      cases quota <;> cases ran <;> rfl
  | delete =>
    obtain ⟨user,_,ran⟩ := bind_ok ran
    cases user <;> cases ran <;> rfl
  | usedBytes now bytes => exact changed ran
  | increment delta => exact changed ran
  | hardBlocked blocked => exact changed ran
  | softNotifiedAt value => exact changed ran

section ResourceWrites

@[simp] theorem forWorkspaces_withDirect (t : Tables) (holder : Holder) (family : Family)
    (rows : List SqlPermission) : (t.withDirect holder family rows).forWorkspaces = t.forWorkspaces := by
  cases holder <;> rfl

@[simp] theorem forWorkspaces_withRegex (t : Tables) (holder : Holder) (family : Family)
    (rows : List SqlRegexPermission) :
    (t.withRegex holder family rows).forWorkspaces = t.forWorkspaces := by
  cases holder <;> rfl

/-- The writes of resource grants, of groups without members and of quotas. -/
def Operation.sparesWorkspaces : Operation → Bool
  | .setUserGroups .. | .addUserToGroup .. | .removeUserFromGroup .. | .createUser ..
  | .updateUser .. | .renameUser .. | .setUserDisplayname .. | .deleteUser .. => false
  | _ => true

theorem keeps_wipe (holder : Holder) (family : Family) (resourceId : String) :
    Keeps (fun db : Database => db.tables.forWorkspaces) (wipe holder family resourceId) := by
  apply keeps_session
  intro t written ran
  cases ran
  exact forWorkspaces_withDirect ..

theorem keeps_renameRows (holder : Holder) (family : Family) (oldName newName : String) :
    Keeps (fun db : Database => db.tables.forWorkspaces)
      (session rejected (fun t => .ok (t.renameRows holder family oldName newName))) := by
  apply keeps_session
  intro t written ran
  cases ran
  exact forWorkspaces_withDirect ..

theorem run_keeps_workspaces (env : StoreEnv) {operation : Operation}
    (spares : operation.sparesWorkspaces = true) :
    Keeps (fun db : Database => db.tables.forWorkspaces) (operation.run env) := by
  have granted : ∀ {holder family key owner permission prompt t written},
      Tables.grantPermission holder family key owner permission prompt t = .ok written →
      written.forWorkspaces = t.forWorkspaces := by
    intro holder family key owner permission prompt t written ran
    obtain ⟨_,_,ran⟩ := bind_ok ran
    obtain ⟨_,_,ran⟩ := bind_ok ran
    cases ran
    exact forWorkspaces_withDirect ..
  have updated : ∀ {holder family find permission t written},
      Tables.updatePermission holder family find permission t = .ok written →
      written.forWorkspaces = t.forWorkspaces := by
    intro holder family find permission t written ran
    obtain ⟨_,_,ran⟩ := bind_ok ran
    obtain ⟨_,_,ran⟩ := bind_ok ran
    cases ran
    exact forWorkspaces_withDirect ..
  have revoked : ∀ {holder family find t written},
      Tables.revokePermission holder family find t = .ok written →
      written.forWorkspaces = t.forWorkspaces := by
    intro holder family find t written ran
    obtain ⟨_,_,ran⟩ := bind_ok ran
    cases ran
    exact forWorkspaces_withDirect ..
  cases operation
  case grant => exact keeps_session (fun _ _ ran => granted ran)
  case update => exact keeps_session (fun _ _ ran => updated ran)
  case revoke => exact keeps_session (fun _ _ ran => revoked ran)
  case grantPrompt => exact keeps_session (fun _ _ ran => granted ran)
  case updatePrompt => exact keeps_session (fun _ _ ran => updated ran)
  case revokePrompt => exact keeps_session (fun _ _ ran => revoked ran)
  case grantRegex =>
    apply keeps_session
    intro t written ran
    obtain ⟨_,_,ran⟩ := bind_ok ran
    obtain ⟨_,_,ran⟩ := bind_ok ran
    cases ran
    exact forWorkspaces_withRegex ..
  case updateRegex =>
    apply keeps_session
    intro t written ran
    obtain ⟨_,_,ran⟩ := bind_ok ran
    obtain ⟨_,_,ran⟩ := bind_ok ran
    cases ran
    exact forWorkspaces_withRegex ..
  case revokeRegex =>
    apply keeps_session
    intro t written ran
    obtain ⟨_,_,ran⟩ := bind_ok ran
    cases ran
    exact forWorkspaces_withRegex ..
  case renameModel =>
    apply keeps_session
    intro t written ran
    unfold Tables.renameModelRows at ran
    split at ran <;> cases ran
    exact forWorkspaces_withDirect ..
  case renameEndpoint => exact (keeps_renameRows _ _ _ _).bind (fun _ => keeps_renameRows _ _ _ _)
  case wipe => exact keeps_wipe _ _ _
  case wipeBoth => exact (keeps_wipe _ _ _).bind (fun _ => keeps_wipe _ _ _)
  case deleteScorer =>
    apply keeps_session
    intro t written ran
    cases ran
    simp only [Tables.deleteScorerRows,forWorkspaces_withDirect]
  case populateGroups =>
    apply keeps_session
    intro t written ran
    cases ran
    obtain ⟨added,written,_⟩ := createGroups_added ‹List String› t
    rw [written]
    rfl
  case quota =>
    apply keeps_session
    intro t written ran
    rw [QuotaWrite.body_quotas ran]
    rfl
  all_goals cases spares

end ResourceWrites

section Wipe
variable {env : Env} {username : String}

/-- What the two wipes of an experiment leave of the tables. -/
def Tables.withoutExperiment (t : Tables) (experimentId : String) : Tables :=
  (t.wipe .user .experiment experimentId).wipe .group .experiment experimentId

theorem withoutExperiment_direct (t : Tables) (experimentId : String) (holder : Holder)
    (family : Family) :
    (t.withoutExperiment experimentId).direct holder family =
      if family = .experiment then
        (t.direct holder family).filter (fun row => decide (row.key.resourceId ≠ experimentId))
      else t.direct holder family := by
  by_cases wiped : family = .experiment
  · subst wiped
    cases holder <;> simp [Tables.withoutExperiment,Tables.wipe,Tables.direct_withDirect]
  · cases holder <;>
      simp [Tables.withoutExperiment,Tables.wipe,Tables.direct_withDirect,wiped]

theorem withoutExperiment_rows (t : Tables) (experimentId : String) (holder : Holder)
    {family : Family} {key : ResourceKey} (other : ¬ (family = .experiment ∧
      key.resourceId = experimentId)) :
    ((t.withoutExperiment experimentId).direct holder family).filter
        (fun row => decide (row.key = key)) =
      (t.direct holder family).filter (fun row => decide (row.key = key)) := by
  rw [withoutExperiment_direct]
  split
  · next wiped =>
    rw [List.filter_filter]
    apply List.filter_congr
    intro row _
    by_cases same : row.key = key
    · subst same
      simp only [wiped,true_and] at other
      simp [other]
    · simp [same]
  · rfl

theorem withoutExperiment_none (t : Tables) (experimentId : String) (holder : Holder)
    {key : ResourceKey} (wiped : key.resourceId = experimentId) :
    ((t.withoutExperiment experimentId).direct holder .experiment).filter
        (fun row => decide (row.key = key)) = [] := by
  rw [withoutExperiment_direct,if_pos rfl,List.filter_filter,List.filter_eq_nil_iff]
  intro row _
  simp only [Bool.and_eq_true,decide_eq_true_eq,not_and]
  intro same
  subst same
  exact fun kept => kept wiped

theorem groupRows_eq (t : Tables) (family : Family) (key : ResourceKey) (groupId : Nat) :
    t.groupRows family key groupId =
      ((t.direct .group family).filter (fun row => decide (row.key = key))).filter
        (fun row => decide (row.ownerId = groupId)) := by
  simp only [Tables.groupRows,Tables.direct,List.filter_filter]
  apply List.filter_congr
  intro row _
  simp [Bool.and_comm]

theorem sources_withoutExperiment (t : Tables) (experimentId : String) {shape : SourceShape}
    (other : ¬ (shape.family = .experiment ∧ shape.key.resourceId = experimentId)) :
    shape.sources env (t.withoutExperiment experimentId) username =
      shape.sources env t username := by
  have users := withoutExperiment_rows t experimentId .user other
  have groups := withoutExperiment_rows t experimentId .group other
  have ofGroup : ∀ groupId, (t.withoutExperiment experimentId).groupRows shape.family shape.key
      groupId = t.groupRows shape.family shape.key groupId := by
    intro groupId
    rw [groupRows_eq,groupRows_eq,groups]
  funext source
  cases source with
  | user =>
    change ((do
      let row ← one _ _ (joined (((t.withoutExperiment experimentId).direct .user
        shape.family).filter _) (t.usersNamed username) _)
      return row.permission) : Except Failure String) = _
    rw [users]
    rfl
  | group =>
    simp only [SourceShape.sources,buildSources,SourceShape.groupRow]
    split
    · change ((do
        let row ← one _ _ (joined (((t.withoutExperiment experimentId).direct .group
          shape.family).filter _) (t.groupsNamed username) _)
        return row.permission) : Except Failure String) = _
      rw [groups]
      rfl
    · simp only [Tables.getUserGroupsPermission,Tables.getGroupPermissionOrNone,ofGroup]
      rfl
  | regex => rfl
  | groupRegex => rfl

theorem source_withoutExperiment (db : Database) (experimentId : String) {shape : SourceShape}
    (isExperiment : shape.family = .experiment) (wiped : shape.key.resourceId = experimentId)
    (owned : shape.byGroupName = false) {source : Source}
    (direct : source = .user ∨ source = .group) :
    ∃ failure, shape.sources env (db.tables.withoutExperiment experimentId) username source =
      .error failure ∧ failure.isMissing = true := by
  have users := withoutExperiment_none db.tables experimentId .user wiped
  have groups := withoutExperiment_none db.tables experimentId .group wiped
  rcases direct with rfl | rfl
  · refine ⟨.mlflow .resourceDoesNotExist (shape.family.missingPermission shape.key username),?_,rfl⟩
    change ((do
      let row ← one _ _ (joined (((db.tables.withoutExperiment experimentId).direct .user
        shape.family).filter _) (db.tables.usersNamed username) _)
      return row.permission) : Except Failure String) = _
    rw [isExperiment,users]
    rfl
  · have ofGroup : ∀ groupId, (db.tables.withoutExperiment experimentId).groupRows shape.family
        shape.key groupId = [] := by
      intro groupId
      rw [groupRows_eq,isExperiment,groups]
      rfl
    have unheld : ∀ groupName, (db.tables.withoutExperiment experimentId).getGroupPermissionOrNone
        shape.family shape.key groupName = .ok none := by
      intro groupName
      simp only [Tables.getGroupPermissionOrNone]
      change (oneOrNone (db.tables.groupsNamed groupName) >>= _) = _
      rcases groupsNamed_unique db groupName with absent | ⟨group,known⟩
      · rw [absent]
        rfl
      · rw [known]
        simp only [oneOrNone,bind,Except.bind,ofGroup]
    have folded : ∀ names : List String, names.foldlM (fun best groupName => do
        let perms ← (db.tables.withoutExperiment experimentId).getGroupPermissionOrNone
          shape.family shape.key groupName
        Tables.higherRow best perms) none = .ok none := by
      intro names
      induction names with
      | nil => rfl
      | cons groupName rest ih =>
        rw [List.foldlM_cons,unheld]
        exact ih
    simp only [SourceShape.sources,buildSources,SourceShape.groupRow,owned,
      Tables.getUserGroupsPermission]
    change ∃ failure, ((db.tables.getGroupsForUser username >>= _) >>= _) = Except.error failure ∧ _
    rcases usersNamed_unique db username with absent | ⟨user,known⟩
    · simp only [Tables.getGroupsForUser,getUser_unknown absent,bind,Except.bind]
      exact ⟨_,rfl,rfl⟩
    · simp only [Tables.getGroupsForUser,Tables.getUser_eq_ok.mpr known,bind,Except.bind,pure,
        Except.pure]
      simp only [bind,Except.bind] at folded
      rw [folded]
      exact ⟨_,rfl,rfl⟩

end Wipe

section RenameEndpoint
variable {env : Env} {db : Database} {username oldName newName : String}

theorem filter_map_unmoved {Row : Type} {matching : Row → Bool} {move : Row → Row}
    {rows : List Row} (unmoved : ∀ row ∈ rows,
      move row = row ∨ matching row = false ∧ matching (move row) = false) :
    (rows.map move).filter matching = rows.filter matching := by
  induction rows with
  | nil => rfl
  | cons row rest ih =>
    have tail := ih (fun other member => unmoved other (List.mem_cons_of_mem _ member))
    rw [List.map_cons,List.filter_cons,List.filter_cons,tail]
    rcases unmoved row List.mem_cons_self with same | ⟨before,after⟩
    · rw [same]
    · simp only [before,after,Bool.false_eq_true,if_false]

theorem owns_no_row {user : SqlUser} (known : db.tables.usersNamed username = [user])
    (missing : ∀ row, db.tables.getUserPermission .gatewayEndpoint ⟨oldName,none⟩ username ≠ .ok row)
    {row : SqlPermission} (listed : row ∈ db.tables.userPermissions .gatewayEndpoint)
    (named : row.key.resourceId = oldName) : row.ownerId ≠ user.id := by
  intro owned
  have plain := (db.integrity.userPermissions .gatewayEndpoint).2 row listed
  have sameKey : row.key = ⟨oldName,none⟩ := by
    have unscored : row.key.scorerName = none := by simpa using plain
    rw [← named,← unscored]
  have member : row ∈ db.tables.userRows .gatewayEndpoint ⟨oldName,none⟩ user :=
    List.mem_filter.mpr ⟨listed,by simp [sameKey,owned]⟩
  rw [Tables.getUserPermission_of_user (Tables.getUser_eq_ok.mpr known)] at missing
  rcases userRows_unique db .gatewayEndpoint ⟨oldName,none⟩ user with empty | ⟨only,single⟩
  · rw [empty] at member
    cases member
  · rw [single] at missing
    exact missing only rfl

theorem sources_renameEndpoint {shape : SourceShape}
    (unmoved : shape.family = .gatewayEndpoint →
      shape.key.resourceId = oldName ∨ shape.key.resourceId = newName →
      ∀ row, db.tables.getUserPermission .gatewayEndpoint ⟨oldName,none⟩ username ≠ .ok row) :
    shape.sources env (db.tables.renameRows .user .gatewayEndpoint oldName newName) username =
      shape.sources env db.tables username := by
  have own : (db.tables.renameRows .user .gatewayEndpoint oldName newName).getUserPermission
      shape.family shape.key username =
      db.tables.getUserPermission shape.family shape.key username := by
    by_cases renamed : shape.family = .gatewayEndpoint
    · rcases usersNamed_unique db username with absent | ⟨user,known⟩
      · rw [getUserPermission_unknown absent,
          getUserPermission_unknown (t := db.tables.renameRows .user .gatewayEndpoint oldName
            newName) absent]
      · have found := Tables.getUser_eq_ok.mpr known
        have found' : (db.tables.renameRows .user .gatewayEndpoint oldName newName).getUser
            username = .ok user := found
        rw [Tables.getUserPermission_of_user found,Tables.getUserPermission_of_user found']
        have rows : (db.tables.renameRows .user .gatewayEndpoint oldName newName).userRows
            shape.family shape.key user = db.tables.userRows shape.family shape.key user := by
          simp only [Tables.userRows,Tables.renameRows,Tables.withDirect,Tables.direct,renamed,
            Function.update_self]
          apply filter_map_unmoved
          intro row listed
          by_cases moved : row.key.resourceId = oldName
          · right
            simp only [moved,if_true,decide_eq_false_iff_not,not_and]
            by_cases touched : shape.key.resourceId = oldName ∨ shape.key.resourceId = newName
            · have away := owns_no_row known (unmoved renamed touched) listed moved
              exact ⟨fun _ => away,fun _ => away⟩
            · rw [not_or] at touched
              refine ⟨fun same => absurd (same ▸ moved) touched.1,fun same => ?_⟩
              exact absurd (congrArg ResourceKey.resourceId same).symm touched.2
          · exact .inl (if_neg moved)
        rw [rows]
    · simp only [Tables.getUserPermission,Tables.renameRows,Tables.withDirect,
        Function.update_of_ne renamed]
      rfl
  funext source
  cases source with
  | user => simp only [SourceShape.sources,buildSources,own]
  | group => rfl
  | regex => rfl
  | groupRegex => rfl

end RenameEndpoint
end MlflowOidcAuth
