import MlflowOidcAuth.Store.Footprints

/-! The memberships that a login leaves: the groups it lists are created where they are
missing, and the rows of the user are replaced in one session. -/
namespace MlflowOidcAuth
open Effects

/-- The rows of the user are one for each listed group. -/
structure MemberOfExactly (t : Tables) (user : SqlUser) (groupNames : List String) : Prop where
  listed : ∀ groupName, (∃ group ∈ t.groups, group.groupName = groupName ∧
    group.id ∈ t.groupIdsOf user) ↔ groupName ∈ groupNames
  distinct : (t.groupIdsOf user).Nodup

section Creation

theorem TableIntegrity.moreOwners {Row Id Key : Type*} {id : Row → Id} {constraint : Row → Key}
    {owner : Row → Nat} {owners wider : List Nat} {rows : List Row}
    (valid : TableIntegrity id constraint owner owners rows) (sub : owners ⊆ wider) :
    TableIntegrity id constraint owner wider rows :=
  ⟨valid.1,valid.2.1,fun row member => sub (valid.2.2 row member)⟩

theorem integrity_createGroup {t : Tables} (integrity : Integrity t) (groupName : String) :
    Integrity (t.createGroup groupName) := by
  unfold Tables.createGroup
  split
  · next free =>
    have unused : groupName ∉ t.groups.map SqlGroup.groupName := by
      intro member
      obtain ⟨group,listed,named⟩ := List.mem_map.mp member
      have found : group ∈ t.groupsNamed groupName := List.mem_filter.mpr ⟨listed,by simp [named]⟩
      rw [free] at found
      cases found
    have sub : t.groupIds ⊆
        Tables.groupIds { t with groups := t.groups ++ [⟨nextId t.groupIds,groupName⟩] } := by
      simp [Tables.groupIds]
    exact { integrity with
      groupIds := (nodup_map_concat integrity.groupIds).mpr (nextId_not_mem t.groupIds)
      groupNames := (nodup_map_concat integrity.groupNames).mpr unused
      memberGroups := fun row member => sub (integrity.memberGroups row member)
      groupPermissions := fun family => ⟨(integrity.groupPermissions family).1.moreOwners sub,
        (integrity.groupPermissions family).2⟩
      groupRegexPermissions := fun family => (integrity.groupRegexPermissions family).moreOwners sub
      workspaceGroupPermissions := integrity.workspaceGroupPermissions.moreOwners sub
      workspaceGroupRegexPermissions := integrity.workspaceGroupRegexPermissions.moreOwners sub }
  · exact integrity

theorem groups_createGroup (t : Tables) (groupName : String) :
    t.groups ⊆ (t.createGroup groupName).groups ∧
      ∃ group ∈ (t.createGroup groupName).groups, group.groupName = groupName := by
  unfold Tables.createGroup
  split
  · exact ⟨List.subset_append_left _ _,⟨nextId t.groupIds,groupName⟩,by simp,rfl⟩
  · next known =>
    obtain ⟨group,found⟩ := List.exists_mem_of_ne_nil _ known
    obtain ⟨listed,named⟩ := List.mem_filter.mp found
    exact ⟨List.Subset.refl _,group,listed,by simpa using named⟩

/-- Creating groups commits, and afterwards there is a group of each name. -/
theorem createGroups_known (groupNames : List String) (db : Database) :
    Integrity (db.tables.createGroups groupNames) ∧ ∀ groupName ∈ groupNames,
      ∃ group ∈ (db.tables.createGroups groupNames).groups, group.groupName = groupName := by
  have folded : ∀ names : List String, ∀ t, Integrity t →
      Integrity (names.foldl Tables.createGroup t) ∧
      t.groups ⊆ (names.foldl Tables.createGroup t).groups ∧
      ∀ groupName ∈ names, ∃ group ∈ (names.foldl Tables.createGroup t).groups,
        group.groupName = groupName := by
    intro names
    induction names with
    | nil => exact fun t integrity => ⟨integrity,List.Subset.refl _,by simp⟩
    | cons first rest ih =>
      intro t integrity
      obtain ⟨committed,kept,known⟩ := ih _ (integrity_createGroup integrity first)
      obtain ⟨sub,group,created,named⟩ := groups_createGroup t first
      refine ⟨committed,fun _ listed => kept (sub listed),?_⟩
      intro groupName member
      rcases List.mem_cons.mp member with rfl | later
      · exact ⟨group,kept created,named⟩
      · exact known groupName later
  obtain ⟨committed,_,known⟩ := folded groupNames.eraseDups db.tables db.integrity
  exact ⟨committed,fun groupName member => known groupName (List.mem_eraseDups.mpr member)⟩

end Creation

section Replacement

theorem nodup_eraseDups (names : List String) : names.eraseDups.Nodup := by
  induction hn : names.length using Nat.strong_induction_on generalizing names with
  | _ n ih =>
    cases names with
    | nil => exact List.nodup_nil
    | cons first rest =>
      rw [List.eraseDups_cons]
      apply List.nodup_cons.mpr
      refine ⟨by simp [List.mem_eraseDups],?_⟩
      apply ih (rest.filter _).length _ _ rfl
      have shorter := List.length_filter_le (fun name => !name == first) rest
      rw [← hn,List.length_cons]
      omega

variable {t : Tables} {user : SqlUser}

theorem mem_of_getGroup {groupName : String} {group : SqlGroup}
    (known : t.getGroup groupName = .ok group) :
    group ∈ t.groups ∧ group.groupName = groupName := by
  have found : group ∈ t.groupsNamed groupName := by
    rw [one_eq_ok.mp known]
    exact List.mem_singleton_self group
  simpa [Tables.groupsNamed] using found

theorem groupIdsOf_nodup (integrity : Integrity t) (user : SqlUser) :
    (t.groupIdsOf user).Nodup := by
  have pairs : ((t.listUserGroups user).map (fun row => (row.userId,row.groupId))).Nodup :=
    integrity.memberUsers.2.1.sublist (List.filter_sublist.map _)
  rw [Tables.groupIdsOf]
  apply List.Nodup.of_map (fun groupId => (user.id,groupId))
  rw [List.map_map]
  have same : (t.listUserGroups user).map ((fun groupId => (user.id,groupId)) ∘ SqlUserGroup.groupId) =
      (t.listUserGroups user).map (fun row => (row.userId,row.groupId)) := by
    apply List.map_congr_left
    intro row member
    have own : row.userId = user.id := by simpa using (List.mem_filter.mp member).2
    simp [own]
  rw [same]
  exact pairs

/-- A new membership of a group the user is not in commits. -/
theorem addMember_ok (integrity : Integrity t) (account : user.id ∈ t.userIds) {groupName : String}
    {group : SqlGroup} (known : t.getGroup groupName = .ok group)
    (free : group.id ∉ t.groupIdsOf user) :
    ∃ t', t.addMember user.id groupName = .ok t' ∧ Integrity t' ∧ t'.groups = t.groups ∧
      t'.userIds = t.userIds ∧ t'.groupIdsOf user = t.groupIdsOf user ++ [group.id] := by
  refine ⟨{ t with userGroups := t.userGroups ++
    [⟨nextId (t.userGroups.map SqlUserGroup.id),user.id,group.id⟩] },?_,
    { integrity with memberUsers := ?_,memberGroups := ?_ },rfl,rfl,?_⟩
  · simp only [Tables.addMember,known]
    rfl
  · apply (tableIntegrity_concat integrity.memberUsers).mpr
    refine ⟨nextId_not_mem _,?_,account⟩
    intro member
    obtain ⟨row,listed,same⟩ := List.mem_map.mp member
    obtain ⟨own,sameGroup⟩ := Prod.mk.inj same
    exact free (List.mem_map.mpr ⟨row,List.mem_filter.mpr ⟨listed,by simpa using own⟩,sameGroup⟩)
  · intro row member
    rcases List.mem_append.mp member with old | new
    · exact integrity.memberGroups row old
    · rw [List.mem_singleton.mp new]
      exact List.mem_map_of_mem (mem_of_getGroup known).1
  · simp [Tables.groupIdsOf,Tables.listUserGroups]

/-- The insertions of the loop: each name is a known group and comes once. -/
theorem addMembers_ok {groupNames : List String} (integrity : Integrity t)
    (account : user.id ∈ t.userIds) (names : groupNames.Nodup)
    (known : ∀ groupName ∈ groupNames, ∃ group ∈ t.groups, group.groupName = groupName)
    (free : ∀ group ∈ t.groups, group.groupName ∈ groupNames → group.id ∉ t.groupIdsOf user) :
    ∃ t', groupNames.foldlM (Tables.addMember user.id) t = .ok t' ∧ Integrity t' ∧
      t'.groups = t.groups ∧ ∀ group ∈ t.groups, group.id ∈ t'.groupIdsOf user ↔
        group.id ∈ t.groupIdsOf user ∨ group.groupName ∈ groupNames := by
  induction groupNames generalizing t with
  | nil => exact ⟨t,rfl,integrity,rfl,by simp⟩
  | cons groupName rest ih =>
    obtain ⟨group,present,rfl⟩ := known _ List.mem_cons_self
    obtain ⟨once,restNames⟩ := List.nodup_cons.mp names
    obtain ⟨next,added,committed,groups,accounts,ids⟩ := addMember_ok integrity account
      (getGroup_of_member ⟨t,integrity⟩ present) (free group present List.mem_cons_self)
    obtain ⟨t',ran,committed',groups',members⟩ := ih committed (accounts ▸ account) restNames
      (fun name later => groups ▸ known name (List.mem_cons_of_mem _ later))
      (fun other listed later member => by
        rw [groups] at listed
        rw [ids,List.mem_append,List.mem_singleton] at member
        rcases member with before | same
        · exact free other listed (List.mem_cons_of_mem _ later) before
        · have isGroup := List.inj_on_of_nodup_map integrity.groupIds listed present same
          exact once (isGroup ▸ later))
    refine ⟨t',?_,committed',groups'.trans groups,?_⟩
    · rw [List.foldlM_cons,added]
      exact ran
    · intro other listed
      have sameId : other.id = group.id ↔ other.groupName = group.groupName := by
        constructor
        · intro same
          rw [List.inj_on_of_nodup_map integrity.groupIds listed present same]
        · intro same
          rw [List.inj_on_of_nodup_map integrity.groupNames listed present same]
      rw [members other (groups ▸ listed),ids,List.mem_append,List.mem_singleton,sameId,
        List.mem_cons,or_assoc]

theorem setGroupsForUser_ok (db : Database) {username : String} {groupNames : List String}
    (account : db.tables.getUser username = .ok user)
    (known : ∀ groupName ∈ groupNames, ∃ group ∈ db.tables.groups, group.groupName = groupName) :
    ∃ t', Tables.setGroupsForUser username groupNames db.tables = .ok t' ∧ Integrity t' ∧
      t'.groups = db.tables.groups ∧ MemberOfExactly t' user groupNames := by
  let left := { db.tables with userGroups :=
    db.tables.userGroups.filter (fun row => decide (row.userId ≠ user.id)) }
  have integrity : Integrity left :=
    { db.integrity with
      memberUsers := db.integrity.memberUsers.sublist List.filter_sublist
      memberGroups := fun row member =>
        db.integrity.memberGroups row (List.mem_of_mem_filter member) }
  have emptied : left.groupIdsOf user = [] := by
    simp [left,Tables.groupIdsOf,Tables.listUserGroups]
  have listed := mem_of_usersNamed (Tables.getUser_eq_ok.mp account)
  obtain ⟨t',ran,committed,groups,members⟩ := addMembers_ok integrity
    (List.mem_map_of_mem listed.1) (nodup_eraseDups groupNames)
    (fun groupName member => known groupName (List.mem_eraseDups.mp member))
    (fun group _ _ => by rw [emptied]; exact List.not_mem_nil)
  refine ⟨t',?_,committed,groups,?_,groupIdsOf_nodup committed user⟩
  · simp only [Tables.setGroupsForUser,account]
    exact ran
  · intro groupName
    constructor
    · rintro ⟨group,present,rfl,member⟩
      rw [groups] at present
      have added := (members group present).mp member
      rw [emptied] at added
      simpa using added
    · intro member
      obtain ⟨group,present,rfl⟩ := known groupName member
      exact ⟨group,groups ▸ present,rfl,
        (members group present).mpr (.inr (List.mem_eraseDups.mpr member))⟩

end Replacement

/-- What the loop leaves alone: other accounts' rows and the groups they were in. -/
theorem getGroupsForUser_setGroups {db : Database} {t' : Tables} {username other : String}
    {groupNames : List String} (apart : other ≠ username)
    (ran : Tables.setGroupsForUser username groupNames db.tables = .ok t') :
    t'.getGroupsForUser other = db.tables.getGroupsForUser other := by
  obtain ⟨user,known,written,others⟩ := setGroupsForUser_memberships ran
  have users : t'.getUser other = db.tables.getUser other := by
    rw [written]
    rfl
  simp only [Tables.getGroupsForUser,users]
  cases found : db.tables.getUser other with
  | error failure => rfl
  | ok account =>
    have distinct : account.id ≠ user.id := by
      intro same
      obtain ⟨listed,named⟩ := mem_of_usersNamed (Tables.getUser_eq_ok.mp found)
      obtain ⟨listed',named'⟩ := mem_of_usersNamed known
      rw [user_of_id listed listed' same,named'] at named
      exact apart named.symm
    have rows : t'.groupIdsOf account = db.tables.groupIdsOf account := by
      simp only [Tables.groupIdsOf,Tables.listUserGroups,others _ distinct]
    have groups : t'.groups = db.tables.groups := by rw [written]
    simp only [bind,Except.bind,pure,Except.pure,rows,groups]

/-- A name without a group stops the loop, wherever it stands in the list. -/
theorem addMembers_raises {t : Tables} {userId : Nat} {groupNames : List String} {unknown : String}
    (member : unknown ∈ groupNames) (missing : t.groupsNamed unknown = []) :
    ∃ failure, groupNames.foldlM (Tables.addMember userId) t = .error failure := by
  induction groupNames generalizing t with
  | nil => cases member
  | cons groupName rest ih =>
    rw [List.foldlM_cons]
    cases added : t.addMember userId groupName with
    | error failure => exact ⟨failure,rfl⟩
    | ok next =>
      obtain ⟨group,known,written⟩ := bind_ok added
      rcases List.mem_cons.mp member with rfl | later
      · rw [Tables.getGroup,missing] at known
        cases known
      · cases written
        exact ih later missing

/-- `populate_groups` and then `set_groups_for_user`, as a login runs them. -/
def syncGroups (env : StoreEnv) (username : String) (groupNames : List String) :
    EStateM Failure Database PUnit := do
  (Operation.populateGroups groupNames).run env
  (Operation.setUserGroups username groupNames).run env

theorem syncGroups_ok (env : StoreEnv) (db : Database) {username : String} {user : SqlUser}
    (account : db.tables.getUser username = .ok user) (groupNames : List String) :
    ∃ db', syncGroups env username groupNames db = .ok () db' ∧
      MemberOfExactly db'.tables user groupNames ∧
      (∀ other : SqlUser, other.id ≠ user.id →
        db'.tables.listUserGroups other = db.tables.listUserGroups other) ∧
      ∀ other ≠ username,
        db'.tables.getGroupsForUser other = db.tables.getGroupsForUser other := by
  obtain ⟨committed,known⟩ := createGroups_known groupNames db
  have added := createGroups_added groupNames db.tables
  let created : Database := ⟨db.tables.createGroups groupNames,committed⟩
  have account' : created.tables.getUser username = .ok user := by
    obtain ⟨groups,written,_⟩ := added
    change (db.tables.createGroups groupNames).getUser username = .ok user
    rw [written]
    exact account
  obtain ⟨t',ran,integrity,_,exactly⟩ := setGroupsForUser_ok created account' known
  have populated : (Operation.populateGroups groupNames).run env db = .ok () created := by
    apply session_commits
    rfl
  have replaced : (Operation.setUserGroups username groupNames).run env created =
      .ok () ⟨t',integrity⟩ := session_commits ran integrity
  refine ⟨⟨t',integrity⟩,(bind_of_ok populated).trans replaced,exactly,?_,?_⟩
  · intro other apart
    obtain ⟨found,only,_,others⟩ := setGroupsForUser_memberships ran
    rw [Tables.getUser_eq_ok.mp account',List.singleton_inj] at only
    have before : created.tables.listUserGroups other = db.tables.listUserGroups other := by
      obtain ⟨groups,written,_⟩ := added
      change (db.tables.createGroups groupNames).listUserGroups other = _
      rw [written]
      rfl
    rw [← before]
    exact others other.id (only ▸ apart)
  · intro other apart
    exact (getGroupsForUser_setGroups apart ran).trans (getGroupsForUser_groupsAdded added)

theorem setGroupsForUser_raises (env : StoreEnv) (db : Database) (username : String)
    {groupNames : List String} {unknown : String} (member : unknown ∈ groupNames)
    (missing : db.tables.groupsNamed unknown = []) :
    ∃ failure, (Operation.setUserGroups username groupNames).run env db = .error failure db := by
  cases account : db.tables.getUser username with
  | error failure =>
    refine ⟨failure,session_raises ?_⟩
    simp only [Tables.setGroupsForUser,account]
    rfl
  | ok user =>
    have left : ∃ failure, groupNames.eraseDups.foldlM (Tables.addMember user.id)
        { db.tables with userGroups :=
          db.tables.userGroups.filter (fun row => decide (row.userId ≠ user.id)) } =
        .error failure := addMembers_raises (List.mem_eraseDups.mpr member) missing
    obtain ⟨failure,raised⟩ := left
    refine ⟨failure,session_raises ?_⟩
    simp only [Tables.setGroupsForUser,account]
    exact raised

/-- A login sets the memberships of its user to the groups it lists; the replacement alone
needs every group to be known. -/
theorem login_memberships (env : StoreEnv) (db : Database) (username : String)
    (groupNames : List String) :
    (∀ user, db.tables.getUser username = .ok user →
      ∃ db', syncGroups env username groupNames db = .ok () db' ∧
        MemberOfExactly db'.tables user groupNames ∧
        (∀ other : SqlUser, other.id ≠ user.id →
          db'.tables.listUserGroups other = db.tables.listUserGroups other) ∧
        ∀ other ≠ username,
          db'.tables.getGroupsForUser other = db.tables.getGroupsForUser other) ∧
    ∀ unknown ∈ groupNames, db.tables.groupsNamed unknown = [] →
      ∃ failure, (Operation.setUserGroups username groupNames).run env db = .error failure db :=
  ⟨fun _ account => syncGroups_ok env db account groupNames,
    fun _ member missing => setGroupsForUser_raises env db username member missing⟩

def memberBefore : Database where
  tables := { Tables.empty with
    users := [⟨1,"alice","Alice","",none,false,false⟩]
    groups := [⟨1,"mlflow"⟩,⟨2,"team"⟩]
    userGroups := [⟨1,1,1⟩] }
  integrity := by decide

theorem login_memberships_alice :
    (∃ db', syncGroups .bare "alice" ["team","new","team"] memberBefore = .ok () db' ∧
      MemberOfExactly db'.tables ⟨1,"alice","Alice","",none,false,false⟩ ["team","new","team"]) ∧
    ∃ failure, (Operation.setUserGroups "alice" ["team","new","team"]).run .bare memberBefore =
      .error failure memberBefore := by
  have applied := login_memberships .bare memberBefore "alice" ["team","new","team"]
  obtain ⟨db',ran,exactly,_⟩ := applied.1 _ rfl
  exact ⟨⟨db',ran,exactly⟩,applied.2 "new" (by simp) rfl⟩

end MlflowOidcAuth
