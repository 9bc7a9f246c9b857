import MlflowOidcAuth.Store.Queries

/-! What the direct lookups return on a committed state: the user's own row, and the
highest of the rows of the user's groups. -/
namespace MlflowOidcAuth

theorem one_eq_ok {Row : Type*} {missing multiple : Failure} {rows : List Row} {row : Row} :
    one missing multiple rows = .ok row ↔ rows = [row] := by
  match rows with
  | [] => simp [one]
  | [other] => simp [one]
  | _ :: _ :: _ => simp [one]

theorem joined_singleton {Row Owner : Type*} (rows : List Row) (owner : Owner)
    (on : Row → Owner → Bool) :
    joined rows [owner] on = rows.filter (fun row => on row owner) := by
  induction rows with
  | nil => rfl
  | cons row rest ih =>
    simp only [joined,List.flatMap_cons] at ih ⊢
    rw [ih]
    cases matched : on row owner <;> simp [matched]

namespace Tables

/-- The rows a user holds directly for a resource. -/
def userRows (t : Tables) (family : Family) (key : ResourceKey) (user : SqlUser) :
    List SqlPermission :=
  (t.userPermissions family).filter (fun row => decide (row.key = key ∧ row.ownerId = user.id))

/-- The rows that the groups of a user hold for a resource. -/
def userGroupRows (t : Tables) (family : Family) (key : ResourceKey) (user : SqlUser) :
    List SqlPermission :=
  (t.groupPermissions family).filter (fun row =>
    decide (row.key = key ∧ row.ownerId ∈ t.groupIdsOf user))

theorem getUser_eq_ok {t : Tables} {username : String} {user : SqlUser} :
    t.getUser username = .ok user ↔ t.usersNamed username = [user] := one_eq_ok

theorem getUserPermission_of_user {t : Tables} {username : String} {user : SqlUser}
    (known : t.getUser username = .ok user) (family : Family) (key : ResourceKey) :
    t.getUserPermission family key username =
      one (.mlflow .resourceDoesNotExist (family.missingPermission key username))
        (.mlflow .invalidState (family.multiplePermissions key username))
        (t.userRows family key user) := by
  simp only [getUserPermission,getUser_eq_ok.mp known,joined_singleton,userRows,List.filter_filter]
  congr 2
  funext row
  simp only [Bool.decide_and,Bool.and_comm]

end Tables

section Committed
variable {db : Database} {username : String} {user : SqlUser}

theorem userRows_unique (db : Database) (family : Family) (key : ResourceKey) (user : SqlUser) :
    db.tables.userRows family key user = [] ∨
      ∃ row, db.tables.userRows family key user = [row] :=
  filter_unique (db.integrity.userPermissions family).1.2.1 (key,user.id)
    (fun row matched => by simpa using matched)

theorem usersNamed_unique (db : Database) (username : String) :
    db.tables.usersNamed username = [] ∨ ∃ user, db.tables.usersNamed username = [user] :=
  filter_unique db.integrity.usernames username (fun user matched => by simpa using matched)

theorem groupsNamed_unique (db : Database) (groupName : String) :
    db.tables.groupsNamed groupName = [] ∨
      ∃ group, db.tables.groupsNamed groupName = [group] :=
  filter_unique db.integrity.groupNames groupName
    (fun group matched => by simpa using matched)

theorem groupRows_unique (db : Database) (family : Family) (key : ResourceKey) (groupId : Nat) :
    db.tables.groupRows family key groupId = [] ∨
      ∃ row, db.tables.groupRows family key groupId = [row] :=
  filter_unique (db.integrity.groupPermissions family).1.2.1 (key,groupId)
    (fun row matched => by simpa using matched)

theorem groupsNamed_of_member (db : Database) {group : SqlGroup}
    (member : group ∈ db.tables.groups) : db.tables.groupsNamed group.groupName = [group] := by
  have found : group ∈ db.tables.groupsNamed group.groupName :=
    List.mem_filter.mpr ⟨member,by simp⟩
  rcases groupsNamed_unique db group.groupName with none_named | ⟨other,only⟩
  · rw [none_named] at found
    cases found
  · rw [only] at found ⊢
    rw [List.mem_singleton.mp found]

theorem getGroup_of_member (db : Database) {group : SqlGroup} (member : group ∈ db.tables.groups) :
    db.tables.getGroup group.groupName = .ok group :=
  one_eq_ok.mpr (groupsNamed_of_member db member)

theorem getGroupPermissionOrNone_of_group (db : Database) {group : SqlGroup}
    (member : group ∈ db.tables.groups) (family : Family) (key : ResourceKey) :
    db.tables.getGroupPermissionOrNone family key group.groupName =
      .ok (db.tables.groupRows family key group.id).head? := by
  simp only [Tables.getGroupPermissionOrNone,groupsNamed_of_member db member,oneOrNone,bind,
    Except.bind]
  rcases groupRows_unique db family key group.id with empty | ⟨row,only⟩
  · rw [empty]
    rfl
  · rw [only]
    rfl

theorem mem_userGroupRows (db : Database) (family : Family) (key : ResourceKey) (user : SqlUser)
    (row : SqlPermission) :
    row ∈ db.tables.userGroupRows family key user ↔
      ∃ group ∈ db.tables.groups, group.id ∈ db.tables.groupIdsOf user ∧
        (db.tables.groupRows family key group.id).head? = some row := by
  constructor
  · intro member
    simp only [Tables.userGroupRows,List.mem_filter,decide_eq_true_eq] at member
    obtain ⟨stored,sameKey,held⟩ := member
    obtain ⟨group,present,owns⟩ := List.mem_map.mp
      ((db.integrity.groupPermissions family).1.2.2 row stored)
    have found : row ∈ db.tables.groupRows family key group.id :=
      List.mem_filter.mpr ⟨stored,by simp [sameKey,owns]⟩
    refine ⟨group,present,owns ▸ held,?_⟩
    rcases groupRows_unique db family key group.id with empty | ⟨other,only⟩
    · rw [empty] at found
      cases found
    · rw [only] at found ⊢
      rw [List.mem_singleton.mp found]
      rfl
  · rintro ⟨group,_,held,first⟩
    have found := List.mem_of_mem_head? first
    simp only [Tables.groupRows,List.mem_filter,decide_eq_true_eq] at found
    refine List.mem_filter.mpr ⟨found.1,?_⟩
    simp [found.2.1,found.2.2,held]

end Committed

section Highest

/-- One row ranks at most as high as another, by the plugin's own comparison. -/
def RanksAtMost (low high : SqlPermission) : Prop :=
  comparePermissions low.permission high.permission = .ok true

theorem ranksAtMost_iff {low high : SqlPermission} : RanksAtMost low high ↔
    ∃ first second, getPermission low.permission = .ok first ∧
      getPermission high.permission = .ok second ∧ first.priority ≤ second.priority := by
  constructor
  · intro ranks
    obtain ⟨first,second,ok1,ok2,decided⟩ := comparePermissions_eq_ok ranks
    exact ⟨first,second,ok1,ok2,by simpa using decided⟩
  · rintro ⟨first,second,ok1,ok2,le⟩
    rw [RanksAtMost,comparePermissions_of_ok ok1 ok2]
    simp [le]

theorem RanksAtMost.trans {a b c : SqlPermission} (first : RanksAtMost a b)
    (second : RanksAtMost b c) : RanksAtMost a c := by
  obtain ⟨la,lb,okA,okB,ab⟩ := ranksAtMost_iff.mp first
  obtain ⟨lb',lc,okB',okC,bc⟩ := ranksAtMost_iff.mp second
  rw [okB] at okB'
  cases okB'
  exact ranksAtMost_iff.mpr ⟨la,lc,okA,okC,ab.trans bc⟩

/-- The later row is kept exactly when it ranks at least as high. -/
theorem higherRow_some {best perms kept : SqlPermission}
    (ok : Tables.higherRow (some best) (some perms) = .ok (some kept)) :
    (kept = perms ∧ RanksAtMost best perms) ∨ (kept = best ∧ RanksAtMost perms best) := by
  cases compared : comparePermissions best.permission perms.permission with
  | error failure => simp [Tables.higherRow,compared,bind,Except.bind] at ok
  | ok above =>
    obtain ⟨first,second,ok1,ok2,decided⟩ := comparePermissions_eq_ok compared
    cases above with
    | true =>
      simp only [Tables.higherRow,compared,bind,Except.bind,if_true] at ok
      cases ok
      exact .inl ⟨rfl,compared⟩
    | false =>
      simp only [Tables.higherRow,compared,bind,Except.bind] at ok
      cases ok
      refine .inr ⟨rfl,ranksAtMost_iff.mpr ⟨second,first,ok2,ok1,?_⟩⟩
      have above : ¬ first.priority ≤ second.priority := by simpa using decided.symm
      omega

/-- The best row so far of a fold over candidates: one of them, and none ranks
above it; without candidates there is none. -/
def BestOf (best : Option SqlPermission) (candidates : List SqlPermission) : Prop :=
  match best with
  | none => candidates = []
  | some best => best ∈ candidates ∧ ∀ row ∈ candidates, row = best ∨ RanksAtMost row best

theorem bestOf_step {best perms kept : Option SqlPermission} {candidates : List SqlPermission}
    (so_far : BestOf best candidates) (ok : Tables.higherRow best perms = .ok kept) :
    BestOf kept (candidates ++ perms.toList) := by
  cases perms with
  | none =>
    cases best <;> cases ok <;> simpa using so_far
  | some perms =>
    cases best with
    | none =>
      cases ok
      have empty : candidates = [] := so_far
      simp [BestOf,empty]
    | some best =>
      obtain ⟨member,above⟩ := so_far
      cases kept with
      | none =>
        simp only [Tables.higherRow,bind,Except.bind] at ok
        split at ok
        · cases ok
        · split at ok <;> cases ok
      | some kept =>
        rcases higherRow_some ok with ⟨rfl,ranks⟩ | ⟨rfl,ranks⟩
        · refine ⟨by simp,fun row listed => ?_⟩
          rcases List.mem_append.mp listed with earlier | last
          · rcases above row earlier with rfl | below
            · exact .inr ranks
            · exact .inr (below.trans ranks)
          · exact .inl (by simpa using last)
        · refine ⟨List.mem_append_left _ member,fun row listed => ?_⟩
          rcases List.mem_append.mp listed with earlier | last
          · exact above row earlier
          · have same : row = perms := by simpa using last
            exact .inr (same ▸ ranks)

theorem bestOf_fold {Group : Type*} (row : Group → Option SqlPermission) (groups : List Group)
    {best result : Option SqlPermission} {candidates : List SqlPermission}
    (so_far : BestOf best candidates)
    (ok : groups.foldlM (fun best group => Tables.higherRow best (row group)) best = .ok result) :
    BestOf result (candidates ++ groups.flatMap (fun group => (row group).toList)) := by
  induction groups generalizing best candidates with
  | nil =>
    cases ok
    simpa using so_far
  | cons group rest ih =>
    rw [List.foldlM_cons] at ok
    cases step : Tables.higherRow best (row group) with
    | error failure => simp [step,bind,Except.bind] at ok
    | ok next =>
      simp only [step,bind,Except.bind] at ok
      have tail := ih (bestOf_step so_far step) ok
      simpa [List.append_assoc] using tail

end Highest

/-- The groups whose rows the group source compares. -/
def Tables.memberGroups (t : Tables) (user : SqlUser) : List SqlGroup :=
  t.groups.filter (fun group => decide (group.id ∈ t.groupIdsOf user))

theorem foldlM_congr_of_mem {A B : Type} {f g : B → A → Except Failure B} {items : List A}
    (same : ∀ item ∈ items, ∀ acc, f acc item = g acc item) (start : B) :
    items.foldlM f start = items.foldlM g start := by
  induction items generalizing start with
  | nil => rfl
  | cons item rest ih =>
    rw [List.foldlM_cons,List.foldlM_cons,same item List.mem_cons_self]
    congr 1
    funext next
    exact ih (fun other member => same other (List.mem_cons_of_mem _ member)) next

theorem getUserGroupsPermission_of_user (db : Database) {username : String} {user : SqlUser}
    (known : db.tables.getUser username = .ok user) (family : Family) (key : ResourceKey) :
    db.tables.getUserGroupsPermission family key username = (do
      let best ← (db.tables.memberGroups user).foldlM (fun best group =>
        Tables.higherRow best (db.tables.groupRows family key group.id).head?) none
      match best with
      | some row => return row
      | none => .error (.mlflow .resourceDoesNotExist (family.missingGroupPermission key username))) := by
  simp only [Tables.getUserGroupsPermission,Tables.getGroupsForUser,known]
  change (((db.tables.memberGroups user).map SqlGroup.groupName).foldlM (fun best groupName => do
    let perms ← db.tables.getGroupPermissionOrNone family key groupName
    Tables.higherRow best perms) none >>= _) = _
  rw [List.foldlM_map]
  congr 1
  refine foldlM_congr_of_mem (fun group member best => ?_) none
  rw [getGroupPermissionOrNone_of_group db (List.mem_filter.mp member).1]
  rfl

theorem comparePermissions_not_missing {first second : String} {failure : Failure}
    (raised : comparePermissions first second = .error failure) : failure.isMissing = false := by
  cases valid1 : validatePermission first with
  | error other =>
    simp only [comparePermissions,valid1,bind,Except.bind] at raised
    cases raised
    unfold validatePermission at valid1
    split at valid1 <;> cases valid1
    rfl
  | ok _ =>
    cases valid2 : validatePermission second with
    | error other =>
      simp only [comparePermissions,valid1,valid2,bind,Except.bind] at raised
      cases raised
      unfold validatePermission at valid2
      split at valid2 <;> cases valid2
      rfl
    | ok _ =>
      obtain ⟨low,ok1⟩ := validatePermission_ok_iff.mp valid1
      obtain ⟨high,ok2⟩ := validatePermission_ok_iff.mp valid2
      rw [comparePermissions_of_ok ok1 ok2] at raised
      cases raised

theorem higherRow_not_missing {best perms : Option SqlPermission} {failure : Failure}
    (raised : Tables.higherRow best perms = .error failure) : failure.isMissing = false := by
  cases best with
  | none => cases perms <;> cases raised
  | some best =>
    cases perms with
    | none => cases raised
    | some perms =>
      cases compared : comparePermissions best.permission perms.permission with
      | error other =>
        simp only [Tables.higherRow,compared,bind,Except.bind] at raised
        cases raised
        exact comparePermissions_not_missing compared
      | ok above =>
        simp only [Tables.higherRow,compared,bind,Except.bind] at raised
        split at raised <;> cases raised

theorem fold_not_missing {Group : Type} (row : Group → Option SqlPermission)
    {groups : List Group} {best : Option SqlPermission} {failure : Failure}
    (raised : groups.foldlM (fun best group => Tables.higherRow best (row group)) best =
      .error failure) : failure.isMissing = false := by
  induction groups generalizing best with
  | nil => cases raised
  | cons group rest ih =>
    rw [List.foldlM_cons] at raised
    cases step : Tables.higherRow best (row group) with
    | error other =>
      simp only [step,bind,Except.bind] at raised
      cases raised
      exact higherRow_not_missing step
    | ok next =>
      simp only [step,bind,Except.bind] at raised
      exact ih raised

/-- What the group source reports about the rows of the user's groups: one above
which none ranks, absence when there are none, or another exception. -/
theorem getUserGroupsPermission_spec (db : Database) {username : String} {user : SqlUser}
    (known : db.tables.getUser username = .ok user) (family : Family) (key : ResourceKey) :
    (∃ best, db.tables.getUserGroupsPermission family key username = .ok best ∧
      best ∈ db.tables.userGroupRows family key user ∧
      ∀ row ∈ db.tables.userGroupRows family key user, row = best ∨ RanksAtMost row best) ∨
    (db.tables.userGroupRows family key user = [] ∧
      ∃ failure, db.tables.getUserGroupsPermission family key username = .error failure ∧
        failure.isMissing = true) ∨
    ∃ failure, db.tables.getUserGroupsPermission family key username = .error failure ∧
      failure.isMissing = false := by
  rw [getUserGroupsPermission_of_user db known]
  have candidates : ∀ row, row ∈ db.tables.userGroupRows family key user ↔
      row ∈ (db.tables.memberGroups user).flatMap (fun group =>
        (db.tables.groupRows family key group.id).head?.toList) := by
    intro row
    simp only [mem_userGroupRows,Tables.memberGroups,List.mem_flatMap,List.mem_filter,
      decide_eq_true_eq,Option.mem_toList,and_assoc]
  cases folded : (db.tables.memberGroups user).foldlM (fun best group =>
      Tables.higherRow best (db.tables.groupRows family key group.id).head?) none with
  | error failure =>
    exact .inr (.inr ⟨failure,rfl,fold_not_missing _ folded⟩)
  | ok best =>
    have start : BestOf none [] := rfl
    have chosen := bestOf_fold (fun group : SqlGroup =>
      (db.tables.groupRows family key group.id).head?) _ start folded
    rw [List.nil_append] at chosen
    cases best with
    | none =>
      refine .inr (.inl ⟨?_,_,rfl,rfl⟩)
      have empty : (db.tables.memberGroups user).flatMap (fun group =>
          (db.tables.groupRows family key group.id).head?.toList) = [] := chosen
      rw [List.eq_nil_iff_forall_not_mem]
      intro row member
      rw [candidates,empty] at member
      cases member
    | some best =>
      obtain ⟨member,above⟩ := chosen
      exact .inl ⟨best,rfl,(candidates best).mpr member,
        fun row listed => above row ((candidates row).mp listed)⟩

end MlflowOidcAuth
