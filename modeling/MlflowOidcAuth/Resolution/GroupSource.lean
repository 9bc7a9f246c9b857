import MlflowOidcAuth.Resolution.Sources
import MlflowOidcAuth.Store.Grants

/-! The group source of every resource type, against the highest of the rows that the user's
groups hold for the resource, in whatever order groups and rows are listed. -/
namespace MlflowOidcAuth

inductive GroupLookup
  | experiment (experimentId : String)
  | registeredModel (modelName : String)
  | prompt (modelName : String)
  | scorer (experimentId scorerName : String)
  | gatewayEndpoint (gatewayName : String)
  | gatewaySecret (gatewayName : String)
  | gatewayModelDefinition (gatewayName : String)
  | workspace (name : String)
deriving DecidableEq, Repr

/-- The groups of which the user of that name, if there is one, is a member. -/
def Tables.memberGroupIds (t : Tables) (username : String) : List Nat :=
  (t.usersNamed username).flatMap t.groupIdsOf

/-- A row of a workspace as a grant on the resource that the workspace is. -/
def SqlWorkspacePermission.grant (row : SqlWorkspacePermission) : SqlPermission :=
  ⟨0,⟨row.workspace,none⟩,row.ownerId,row.permission,false⟩

namespace GroupLookup

def source (env : Env) (t : Tables) (username : String) : GroupLookup → Except Failure String
  | .experiment experimentId => buildExperimentSources env t experimentId username .group
  | .registeredModel modelName => buildRegisteredModelSources env t modelName username .group
  | .prompt modelName => buildPromptSources env t modelName username .group
  | .scorer experimentId scorerName =>
    buildScorerSources env t experimentId username scorerName .group
  | .gatewayEndpoint gatewayName => buildGatewayEndpointSources env t gatewayName username .group
  | .gatewaySecret gatewayName => buildGatewaySecretSources env t gatewayName username .group
  | .gatewayModelDefinition gatewayName =>
    buildGatewayModelDefinitionSources env t gatewayName username .group
  | .workspace name => do
    let row ← t.getUserGroupsWorkspacePermission name username
    return row.permission

def key : GroupLookup → ResourceKey
  | .scorer experimentId scorerName => ⟨experimentId,some scorerName⟩
  | .experiment name | .registeredModel name | .prompt name | .gatewayEndpoint name
  | .gatewaySecret name | .gatewayModelDefinition name | .workspace name => ⟨name,none⟩

/-- The table in which groups hold their rows. -/
def table (t : Tables) : GroupLookup → List SqlPermission
  | .experiment _ => t.groupPermissions .experiment
  | .registeredModel _ | .prompt _ => t.groupPermissions .registeredModel
  | .scorer _ _ => t.groupPermissions .scorer
  | .gatewayEndpoint _ => t.groupPermissions .gatewayEndpoint
  | .gatewaySecret _ => t.groupPermissions .gatewaySecret
  | .gatewayModelDefinition _ => t.groupPermissions .gatewayModelDefinition
  | .workspace _ => t.workspaceGroupPermissions.map SqlWorkspacePermission.grant

def rowsOf (lookup : GroupLookup) (t : Tables) (groupIds : List Nat) : List SqlPermission :=
  (lookup.table t).filter (fun row => decide (row.key = lookup.key ∧ row.ownerId ∈ groupIds))

def heldRows (lookup : GroupLookup) (t : Tables) (username : String) : List SqlPermission :=
  lookup.rowsOf t (t.memberGroupIds username)

/-- The rows of the group that has the name of the user. -/
def namesakeRows (lookup : GroupLookup) (t : Tables) (username : String) : List SqlPermission :=
  lookup.rowsOf t ((t.groupsNamed username).map SqlGroup.id)

end GroupLookup

/-- The row is one of the rows, and none of them ranks above it. -/
def IsHighest (rows : List SqlPermission) (best : SqlPermission) : Prop :=
  best ∈ rows ∧ ∀ row ∈ rows, row = best ∨ RanksAtMost row best

/-- The answer is the permission of a highest row, and missing exactly without rows. -/
def AnswersHighest (rows : List SqlPermission) (answer : Except Failure String) : Prop :=
  (rows ≠ [] → ∃ best, IsHighest rows best ∧ answer = .ok best.permission) ∧
    ((∃ failure, answer = .error failure ∧ failure.isMissing = true) ↔ rows = [])

/-- The same rows, listed in another order. -/
structure Reordered (t t' : Tables) : Prop where
  users : t'.users.Perm t.users
  groups : t'.groups.Perm t.groups
  userGroups : t'.userGroups.Perm t.userGroups
  direct : ∀ family, (t'.groupPermissions family).Perm (t.groupPermissions family)
  workspaces : t'.workspaceGroupPermissions.Perm t.workspaceGroupPermissions

def GroupSourceHighest (env : Env) (db : Database) (username : String) (lookup : GroupLookup) :
    Prop :=
  AnswersHighest (lookup.heldRows db.tables username) (lookup.source env db.tables username) ∧
    ∀ db' : Database, Reordered db.tables db'.tables →
      (lookup.source env db'.tables username).toOption =
        (lookup.source env db.tables username).toOption

def KnownLevel (row : SqlPermission) : Prop := ∃ level, getPermission row.permission = .ok level

/-- No comparison of two of the rows raises. -/
def Comparable (rows : List SqlPermission) : Prop :=
  rows.length ≤ 1 ∨ ∀ row ∈ rows, KnownLevel row

/-- What must hold of the rows that a group source reads: the gateway types read those of the
group with the user's name. -/
def GroupLookup.ReadsHighest (lookup : GroupLookup) (t : Tables) (username : String) : Prop :=
  match lookup with
  | .gatewayEndpoint _ | .gatewaySecret _ | .gatewayModelDefinition _ =>
    (lookup.heldRows t username = [] ∧ lookup.namesakeRows t username = []) ∨
      ∃ best own, IsHighest (lookup.heldRows t username) best ∧
        own ∈ lookup.namesakeRows t username ∧ own.permission = best.permission
  | _ => Comparable (lookup.heldRows t username)

section Folds

/-- The best of the rows so far, folded over a list of rows. -/
def highestRow (rows : List SqlPermission) (best : Option SqlPermission) :
    Except Failure (Option SqlPermission) :=
  rows.foldlM (fun best row => Tables.higherRow best (some row)) best

theorem fold_flatten {Group : Type} (row : Group → Option SqlPermission) (groups : List Group)
    (best : Option SqlPermission) :
    groups.foldlM (fun best group => Tables.higherRow best (row group)) best =
      highestRow (groups.flatMap (fun group => (row group).toList)) best := by
  induction groups generalizing best with
  | nil => rfl
  | cons group rest ih =>
    rw [List.foldlM_cons,List.flatMap_cons,highestRow,List.foldlM_append]
    cases found : row group with
    | none =>
      have kept : Tables.higherRow best none = .ok best := by cases best <;> rfl
      rw [kept]
      exact ih best
    | some perms =>
      simp only [Option.toList_some,List.foldlM_cons,List.foldlM_nil,bind_pure]
      congr 1
      funext next
      exact ih next

theorem higherRow_known {best row : SqlPermission} (known : KnownLevel best)
    (known' : KnownLevel row) :
    ∃ kept, Tables.higherRow (some best) (some row) = .ok (some kept) ∧ KnownLevel kept := by
  obtain ⟨first,ok1⟩ := known
  obtain ⟨second,ok2⟩ := known'
  simp only [Tables.higherRow,comparePermissions_of_ok ok1 ok2,bind,Except.bind]
  split
  · exact ⟨row,rfl,second,ok2⟩
  · exact ⟨best,rfl,first,ok1⟩

theorem highestRow_known {rows : List SqlPermission} (known : ∀ row ∈ rows, KnownLevel row)
    {best : SqlPermission} (start : KnownLevel best) :
    ∃ result, highestRow rows (some best) = .ok (some result) := by
  induction rows generalizing best with
  | nil => exact ⟨best,rfl⟩
  | cons row rest ih =>
    obtain ⟨kept,ok,level⟩ := higherRow_known start (known row List.mem_cons_self)
    rw [highestRow,List.foldlM_cons,ok]
    exact ih (fun other member => known other (List.mem_cons_of_mem _ member)) level

theorem highestRow_comparable {rows : List SqlPermission} (comparable : Comparable rows) :
    ∃ result, highestRow rows none = .ok result := by
  cases rows with
  | nil => exact ⟨none,rfl⟩
  | cons first rest =>
    rcases comparable with short | known
    · have single : rest = [] := by simpa using short
      rw [single]
      exact ⟨some first,rfl⟩
    · obtain ⟨result,ok⟩ := highestRow_known
        (fun row member => known row (List.mem_cons_of_mem _ member)) (known first List.mem_cons_self)
      exact ⟨some result,ok⟩

theorem isHighest_comparable {rows : List SqlPermission} (nodup : rows.Nodup) {best : SqlPermission}
    (highest : IsHighest rows best) : Comparable rows := by
  obtain ⟨member,above⟩ := highest
  by_cases alone : ∀ row ∈ rows, row = best
  · left
    have replicated := List.eq_replicate_iff.mpr ⟨rfl,alone⟩
    rw [replicated,List.nodup_replicate] at nodup
    exact nodup
  · right
    push Not at alone
    obtain ⟨other,listed,distinct⟩ := alone
    have known : KnownLevel best := by
      obtain ⟨_,level,_,ok,_⟩ := ranksAtMost_iff.mp ((above other listed).resolve_left distinct)
      exact ⟨level,ok⟩
    intro row held
    rcases above row held with same | ranks
    · rw [same]
      exact known
    · obtain ⟨level,_,ok,_,_⟩ := ranksAtMost_iff.mp ranks
      exact ⟨level,ok⟩

theorem answersHighest_missing {failure : Failure} (missing : failure.isMissing = true) :
    AnswersHighest [] (.error failure) :=
  ⟨fun held => absurd rfl held,iff_of_true ⟨failure,rfl,missing⟩ rfl⟩

/-- A source that folds the rows, in some order, answers a highest one exactly when none of
its comparisons raises. -/
theorem answersHighest_of_fold {rows candidates : List SqlPermission}
    (same : candidates.Perm rows) (nodup : rows.Nodup) (missing : Failure)
    (isMissing : missing.isMissing = true) {answer : Except Failure String}
    (folds : answer = (highestRow candidates none >>= fun best =>
      match best with
      | some row => .ok row.permission
      | none => .error missing)) :
    AnswersHighest rows answer ↔ Comparable rows := by
  have comparable : Comparable rows ↔ Comparable candidates := by
    simp only [Comparable,same.length_eq,same.mem_iff]
  cases folded : highestRow candidates none with
  | error failure =>
    rw [folded] at folds
    have refused : ¬ Comparable rows := by
      intro holds
      obtain ⟨result,ok⟩ := highestRow_comparable (comparable.mp holds)
      rw [folded] at ok
      cases ok
    refine iff_of_false ?_ refused
    rintro ⟨found,absent⟩
    have raised : answer = .error failure := folds
    have unmissed : failure.isMissing = false := by
      have raises : candidates.foldlM (fun best row => Tables.higherRow best (some row)) none =
          .error failure := folded
      exact fold_not_missing (fun row => some row) raises
    have held : rows ≠ [] := by
      intro none_held
      obtain ⟨other,raised',missed⟩ := absent.mpr none_held
      rw [raised] at raised'
      cases raised'
      rw [unmissed] at missed
      cases missed
    obtain ⟨best,_,answered⟩ := found held
    rw [raised] at answered
    cases answered
  | ok best =>
    rw [folded] at folds
    have chosen : BestOf best candidates := by
      have start : BestOf none [] := rfl
      have ran := bestOf_fold (fun row : SqlPermission => some row) candidates start folded
      simpa using ran
    cases best with
    | none =>
      have none_held : rows = [] := by
        have empty : candidates = [] := chosen
        rw [empty] at same
        exact same.nil_eq.symm
      have answered : answer = .error missing := folds
      rw [answered,none_held]
      exact iff_of_true (answersHighest_missing isMissing) (.inl (Nat.zero_le _))
    | some best =>
      obtain ⟨member,above⟩ := chosen
      have highest : IsHighest rows best :=
        ⟨same.mem_iff.mp member,fun row held => above row (same.mem_iff.mpr held)⟩
      have answered : answer = .ok best.permission := folds
      rw [answered]
      refine iff_of_true ⟨fun _ => ⟨best,highest,rfl⟩,?_⟩ (isHighest_comparable nodup highest)
      refine iff_of_false ?_ (List.ne_nil_of_mem highest.1)
      rintro ⟨failure,⟨⟩,_⟩

theorem answersHighest_unique {rows rows' : List SqlPermission} (same : rows'.Perm rows)
    {answer answer' : Except Failure String} (highest : AnswersHighest rows answer)
    (highest' : AnswersHighest rows' answer') : answer'.toOption = answer.toOption := by
  by_cases held : rows = []
  · obtain ⟨_,raised,_⟩ := highest.2.mpr held
    obtain ⟨_,raised',_⟩ := highest'.2.mpr (by rw [held] at same; exact same.eq_nil)
    rw [raised,raised']
    rfl
  · obtain ⟨best,⟨member,above⟩,answered⟩ := highest.1 held
    obtain ⟨best',⟨member',above'⟩,answered'⟩ := highest'.1
      (fun none_held => held (by rw [none_held] at same; exact same.nil_eq.symm))
    rw [answered,answered']
    simp only [Except.toOption,Option.some.injEq]
    rcases above best' (same.mem_iff.mp member') with equal | below
    · rw [equal]
    · rcases above' best (same.mem_iff.mpr member) with equal | below'
      · rw [equal]
      · obtain ⟨low,high,ok1,ok2,le⟩ := ranksAtMost_iff.mp below
        obtain ⟨high',low',ok2',ok1',le'⟩ := ranksAtMost_iff.mp below'
        rw [ok1] at ok1'
        rw [ok2] at ok2'
        cases ok1'
        cases ok2'
        have level : low = high := permission_of_priority (getPermission_eq_ok.mp ok1).1
          (getPermission_eq_ok.mp ok2).1 (le_antisymm le le')
        rw [← getPermission_name ok1,← getPermission_name ok2,level]

end Folds

section Users
variable {db : Database} {username : String}

theorem memberGroupIds_of_user {t : Tables} {user : SqlUser} (known : t.usersNamed username = [user]) :
    t.memberGroupIds username = t.groupIdsOf user := by
  simp only [Tables.memberGroupIds,known,List.flatMap_cons,List.flatMap_nil,List.append_nil]

theorem heldRows_unknown {t : Tables} (unknown : t.usersNamed username = []) (lookup : GroupLookup) :
    lookup.heldRows t username = [] := by
  simp [GroupLookup.heldRows,GroupLookup.rowsOf,Tables.memberGroupIds,unknown]

theorem table_nodup (db : Database) (lookup : GroupLookup) : (lookup.table db.tables).Nodup := by
  have direct : ∀ family, (db.tables.groupPermissions family).Nodup :=
    fun family => (db.integrity.groupPermissions family).1.1.of_map
  cases lookup
  case workspace =>
    apply List.Nodup.map_on
    · intro row _ other _ same
      simp only [SqlWorkspacePermission.grant,SqlPermission.mk.injEq,ResourceKey.mk.injEq] at same
      cases row
      cases other
      simp only [SqlWorkspacePermission.mk.injEq]
      exact ⟨same.2.1.1,same.2.2.1,same.2.2.2.1⟩
    · exact db.integrity.workspaceGroupPermissions.1.of_map
  all_goals exact direct _

theorem heldRows_nodup (db : Database) (username : String) (lookup : GroupLookup) :
    (lookup.heldRows db.tables username).Nodup := (table_nodup db lookup).filter _

end Users

section Members
variable {db : Database} {username : String} {user : SqlUser}

/-- The rows that the groups of a user hold, group by group. -/
def groupwise (t : Tables) (family : Family) (key : ResourceKey) (user : SqlUser) :
    List SqlPermission :=
  (t.memberGroups user).flatMap (fun group => (t.groupRows family key group.id).head?.toList)

theorem groupwise_perm (db : Database) (family : Family) (key : ResourceKey) (user : SqlUser) :
    (groupwise db.tables family key user).Perm (db.tables.userGroupRows family key user) := by
  have owned : ∀ (group : SqlGroup) (row : SqlPermission),
      row ∈ (db.tables.groupRows family key group.id).head?.toList → row.ownerId = group.id := by
    intro group row first
    have found := List.mem_of_mem_head? (Option.mem_toList.mp first)
    simp only [Tables.groupRows,List.mem_filter,decide_eq_true_eq] at found
    exact found.2.2
  have distinct : (groupwise db.tables family key user).Nodup := by
    apply List.nodup_flatMap.mpr
    constructor
    · intro group _
      cases (db.tables.groupRows family key group.id).head? with
      | none => exact List.nodup_nil
      | some row => exact List.nodup_singleton row
    · have ids : db.tables.groups.Pairwise (fun first second => first.id ≠ second.id) :=
        List.pairwise_map.mp db.integrity.groupIds
      refine (ids.filter _).imp ?_
      intro first second different row inFirst inSecond
      exact different ((owned first row inFirst).symm.trans (owned second row inSecond))
  have stored : (db.tables.userGroupRows family key user).Nodup :=
    ((db.integrity.groupPermissions family).1.1.of_map).filter _
  rw [List.perm_ext_iff_of_nodup distinct stored]
  intro row
  simp only [groupwise,mem_userGroupRows,Tables.memberGroups,List.mem_flatMap,List.mem_filter,
    decide_eq_true_eq,Option.mem_toList,and_assoc]

theorem userGroups_highest (db : Database) (username : String) (family : Family) (key : ResourceKey)
    {rows : List SqlPermission} (held : rows = (db.tables.groupPermissions family).filter (fun row =>
      decide (row.key = key ∧ row.ownerId ∈ db.tables.memberGroupIds username))) :
    AnswersHighest rows (do
      let row ← db.tables.getUserGroupsPermission family key username
      return row.permission) ↔ Comparable rows := by
  rcases usersNamed_unique db username with unknown | ⟨user,known⟩
  · have empty : rows = [] := by simp [held,Tables.memberGroupIds,unknown]
    rw [empty]
    simp only [Tables.getUserGroupsPermission,Tables.getGroupsForUser,Tables.getUser,unknown,one]
    exact iff_of_true (answersHighest_missing rfl) (.inl (Nat.zero_le _))
  · rw [memberGroupIds_of_user known] at held
    have stored : rows = db.tables.userGroupRows family key user := held
    have nodup : rows.Nodup := by
      rw [held]
      exact ((db.integrity.groupPermissions family).1.1.of_map).filter _
    refine answersHighest_of_fold (stored ▸ groupwise_perm db family key user) nodup
      (.mlflow .resourceDoesNotExist (family.missingGroupPermission key username)) rfl ?_
    rw [getUserGroupsPermission_of_user db (Tables.getUser_eq_ok.mpr known),groupwise,
      ← fold_flatten (fun group : SqlGroup => (db.tables.groupRows family key group.id).head?),
      bind_assoc]
    congr 1
    funext best
    cases best <;> rfl

theorem joined_unique {Row Owner : Type*} (rows : List Row) (owners : List Owner)
    (on : Row → Owner → Bool)
    (unique : ∀ row ∈ rows, owners.filter (on row) = [] ∨
      ∃ owner, owners.filter (on row) = [owner]) :
    joined rows owners on = rows.filter (fun row => owners.any (on row)) := by
  induction rows with
  | nil => rfl
  | cons row rest ih =>
    have tail := ih (fun other member => unique other (List.mem_cons_of_mem _ member))
    simp only [joined,List.flatMap_cons] at tail ⊢
    rw [tail]
    rcases unique row List.mem_cons_self with none_on | ⟨owner,only⟩
    · have unowned : owners.any (on row) = false := by
        simpa [List.filter_eq_nil_iff] using none_on
      rw [none_on,List.filter_cons_of_neg (p := fun row => owners.any (on row)) (by simp [unowned])]
      rfl
    · have owned : owners.any (on row) = true := by
        have member : owner ∈ owners.filter (on row) := by rw [only]; exact List.mem_singleton_self _
        obtain ⟨listed,matched⟩ := List.mem_filter.mp member
        exact List.any_eq_true.mpr ⟨owner,listed,matched⟩
      rw [only,List.filter_cons_of_pos (p := fun row => owners.any (on row)) owned]
      rfl

theorem highestWorkspaceRow_grant (highest : SqlWorkspacePermission)
    (rest : List SqlWorkspacePermission) :
    (Tables.highestWorkspaceRow highest rest).map (fun row => some row.grant) =
      highestRow (rest.map SqlWorkspacePermission.grant) (some highest.grant) := by
  induction rest generalizing highest with
  | nil => rfl
  | cons row rest ih =>
    rw [List.map_cons,highestRow,List.foldlM_cons]
    have compared : Tables.higherRow (some highest.grant) (some row.grant) =
        (comparePermissions highest.permission row.permission).map (fun above =>
          if above then some row.grant else some highest.grant) := by
      cases compares : comparePermissions highest.permission row.permission with
      | error failure =>
        simp only [Tables.higherRow,SqlWorkspacePermission.grant,compares]
        rfl
      | ok above =>
        simp only [Tables.higherRow,SqlWorkspacePermission.grant,compares]
        cases above <;> rfl
    rw [compared]
    unfold Tables.highestWorkspaceRow
    cases comparePermissions highest.permission row.permission with
    | error failure => rfl
    | ok above =>
      cases above with
      | true => exact ih row
      | false => exact ih highest

theorem workspace_highest (db : Database) (username name : String) (env : Env) :
    AnswersHighest ((GroupLookup.workspace name).heldRows db.tables username)
        ((GroupLookup.workspace name).source env db.tables username) ↔
      Comparable ((GroupLookup.workspace name).heldRows db.tables username) := by
  rcases usersNamed_unique db username with unknown | ⟨user,known⟩
  · rw [heldRows_unknown unknown]
    simp only [GroupLookup.source,Tables.getUserGroupsWorkspacePermission,Tables.getUser,unknown,
      one]
    exact iff_of_true (answersHighest_missing rfl) (.inl (Nat.zero_le _))
  · have once : ∀ row ∈ db.tables.workspaceGroupPermissions.filter (fun row =>
        decide (row.workspace = name)), (db.tables.listUserGroups user).filter (fun member =>
          decide (row.ownerId = member.groupId)) = [] ∨ ∃ member,
            (db.tables.listUserGroups user).filter (fun member =>
              decide (row.ownerId = member.groupId)) = [member] := by
      intro row _
      simp only [Tables.listUserGroups,List.filter_filter]
      apply filter_unique db.integrity.memberUsers.2.1 (user.id,row.ownerId)
      intro member matched
      simp only [Bool.and_eq_true,decide_eq_true_eq] at matched
      rw [matched.1,matched.2]
    have members := joined_unique _ (db.tables.listUserGroups user)
      (fun (row : SqlWorkspacePermission) member => decide (row.ownerId = member.groupId)) once
    have held : (GroupLookup.workspace name).heldRows db.tables username =
        (joined (db.tables.workspaceGroupPermissions.filter (fun row =>
            decide (row.workspace = name))) (db.tables.listUserGroups user)
          (fun row member => decide (row.ownerId = member.groupId))).map
            SqlWorkspacePermission.grant := by
      rw [members,List.filter_filter]
      simp only [GroupLookup.heldRows,GroupLookup.rowsOf,GroupLookup.table,GroupLookup.key,
        List.filter_map]
      congr 1
      apply List.filter_congr
      intro row _
      rw [Bool.eq_iff_iff]
      simp only [Function.comp_apply,decide_eq_true_eq,Bool.and_eq_true,List.any_eq_true,
        memberGroupIds_of_user known,Tables.groupIdsOf,List.mem_map]
      simp only [SqlWorkspacePermission.grant,ResourceKey.mk.injEq,and_true]
      constructor
      · rintro ⟨named,member,listed,same⟩
        exact ⟨⟨member,listed,same.symm⟩,named⟩
      · rintro ⟨⟨member,listed,same⟩,named⟩
        exact ⟨named,member,listed,same.symm⟩
    refine answersHighest_of_fold (.of_eq held.symm) (heldRows_nodup db username _)
      (.mlflow .resourceDoesNotExist ("No workspace group permission found for workspace="
        ++ name ++ ", user_id=" ++ toString user.id)) rfl ?_
    simp only [GroupLookup.source,Tables.getUserGroupsWorkspacePermission,
      Tables.getUser_eq_ok.mpr known,bind,Except.bind]
    cases joined (db.tables.workspaceGroupPermissions.filter (fun row =>
        decide (row.workspace = name))) (db.tables.listUserGroups user)
        (fun row member => decide (row.ownerId = member.groupId)) with
    | nil => rfl
    | cons first rest =>
      have folded : highestRow ((first :: rest).map SqlWorkspacePermission.grant) none =
          (Tables.highestWorkspaceRow first rest).map (fun row => some row.grant) :=
        (highestWorkspaceRow_grant first rest).symm
      rw [folded]
      cases walked : Tables.highestWorkspaceRow first rest <;> simp only [walked] <;> rfl

theorem namesake_highest (db : Database) (username : String) (family : Family) (key : ResourceKey)
    {rows namesake : List SqlPermission}
    (read : namesake = (db.tables.groupPermissions family).filter (fun row =>
      decide (row.key = key ∧ row.ownerId ∈ (db.tables.groupsNamed username).map SqlGroup.id))) :
    AnswersHighest rows (do
      let row ← db.tables.getGroupPermission family key username
      return row.permission) ↔
    ((rows = [] ∧ namesake = []) ∨
      ∃ best own, IsHighest rows best ∧ own ∈ namesake ∧ own.permission = best.permission) := by
  have single : (namesake = [] ∧ ∃ failure,
      db.tables.getGroupPermission family key username = .error failure ∧
        failure.isMissing = true) ∨
      ∃ own, namesake = [own] ∧ db.tables.getGroupPermission family key username = .ok own := by
    rcases groupsNamed_unique db username with unnamed | ⟨group,named⟩
    · left
      refine ⟨by simp [read,unnamed],?_⟩
      have nobody : ∀ rows : List SqlPermission, joined rows [] (fun row (group : SqlGroup) =>
          decide (row.ownerId = group.id)) = [] := by
        intro rows
        simp [joined]
      rw [Tables.getGroupPermission,unnamed,nobody,one]
      exact ⟨_,rfl,rfl⟩
    · have rows : namesake = db.tables.groupRows family key group.id := by
        simp [read,named,Tables.groupRows]
      have looked : db.tables.getGroupPermission family key username =
          one (.mlflow .resourceDoesNotExist
              ("No group permission for " ++ family.describe key ++ ", group=" ++ username))
            (.mlflow .invalidState
              ("Multiple group perms for " ++ family.describe key ++ ", group=" ++ username))
            namesake := by
        simp only [Tables.getGroupPermission,named,joined_singleton,List.filter_filter,rows,
          Tables.groupRows,Bool.decide_and,Bool.and_comm]
      rcases groupRows_unique db family key group.id with empty | ⟨own,only⟩
      · left
        rw [looked,rows,empty]
        exact ⟨rfl,_,rfl,rfl⟩
      · right
        rw [looked,rows,only]
        exact ⟨own,rfl,rfl⟩
  rcases single with ⟨empty,failure,raised,missing⟩ | ⟨own,only,found⟩
  · rw [empty,raised]
    constructor
    · rintro ⟨_,absent⟩
      exact .inl ⟨absent.mp ⟨failure,rfl,missing⟩,rfl⟩
    · rintro (⟨none_held,_⟩ | ⟨_,_,_,⟨⟩,_⟩)
      exact ⟨fun held => absurd none_held held,iff_of_true ⟨failure,rfl,missing⟩ none_held⟩
  · rw [only,found]
    constructor
    · rintro ⟨answers,absent⟩
      have held : rows ≠ [] := by
        intro none_held
        obtain ⟨_,⟨⟩,_⟩ := absent.mpr none_held
      obtain ⟨best,highest,answered⟩ := answers held
      have same : own.permission = best.permission := Except.ok.inj answered
      exact .inr ⟨best,own,highest,List.mem_singleton_self own,same⟩
    · rintro (⟨_,⟨⟩⟩ | ⟨best,other,highest,listed,same⟩)
      rw [List.mem_singleton.mp listed] at same
      refine ⟨fun _ => ⟨best,highest,by rw [← same]; rfl⟩,iff_of_false ?_ ?_⟩
      · rintro ⟨_,⟨⟩,_⟩
      · exact List.ne_nil_of_mem highest.1

/-- One spec for each group source: what it answers is right exactly when it reads the rows
that decide. -/
theorem source_highest (env : Env) (db : Database) (username : String) (lookup : GroupLookup) :
    AnswersHighest (lookup.heldRows db.tables username) (lookup.source env db.tables username) ↔
      lookup.ReadsHighest db.tables username := by
  cases lookup with
  | experiment experimentId => exact userGroups_highest db username .experiment _ rfl
  | registeredModel modelName => exact userGroups_highest db username .registeredModel _ rfl
  | prompt modelName => exact userGroups_highest db username .registeredModel _ rfl
  | scorer experimentId scorerName => exact userGroups_highest db username .scorer _ rfl
  | gatewayEndpoint gatewayName => exact namesake_highest db username .gatewayEndpoint _ rfl
  | gatewaySecret gatewayName => exact namesake_highest db username .gatewaySecret _ rfl
  | gatewayModelDefinition gatewayName =>
    exact namesake_highest db username .gatewayModelDefinition _ rfl
  | workspace name => exact workspace_highest db username name env

end Members

section Order
variable {t t' : Tables} (reordered : Reordered t t')
include reordered

theorem Reordered.table (lookup : GroupLookup) : (lookup.table t').Perm (lookup.table t) := by
  cases lookup
  case workspace => exact reordered.workspaces.map _
  all_goals exact reordered.direct _

theorem Reordered.rowsOf (lookup : GroupLookup) {ids ids' : List Nat}
    (same : ∀ id, id ∈ ids' ↔ id ∈ ids) : (lookup.rowsOf t' ids').Perm (lookup.rowsOf t ids) := by
  simp only [GroupLookup.rowsOf,same]
  exact (reordered.table lookup).filter _

theorem Reordered.heldRows (lookup : GroupLookup) (username : String) :
    (lookup.heldRows t' username).Perm (lookup.heldRows t username) := by
  apply reordered.rowsOf
  intro id
  simp only [Tables.memberGroupIds,Tables.usersNamed,Tables.groupIdsOf,Tables.listUserGroups,
    List.mem_flatMap,List.mem_filter,List.mem_map,reordered.users.mem_iff,
    reordered.userGroups.mem_iff]

theorem Reordered.namesakeRows (lookup : GroupLookup) (username : String) :
    (lookup.namesakeRows t' username).Perm (lookup.namesakeRows t username) := by
  apply reordered.rowsOf
  intro id
  simp only [Tables.groupsNamed,List.mem_map,List.mem_filter,reordered.groups.mem_iff]

theorem Reordered.readsHighest {lookup : GroupLookup} {username : String}
    (reads : lookup.ReadsHighest t username) : lookup.ReadsHighest t' username := by
  have held := reordered.heldRows lookup username
  have namesake := reordered.namesakeRows lookup username
  have empty : ∀ {rows rows' : List SqlPermission}, rows'.Perm rows → (rows' = [] ↔ rows = []) := by
    intro rows rows' perm
    rw [← List.length_eq_zero_iff,← List.length_eq_zero_iff,perm.length_eq]
  cases lookup <;>
    simp only [GroupLookup.ReadsHighest,Comparable,IsHighest,held.mem_iff,held.length_eq,
      namesake.mem_iff,empty held,empty namesake] at reads ⊢ <;>
    exact reads

end Order

/-- A group source answers the highest row of the user's groups, whatever the order of groups
and rows, exactly when it reads the rows that decide. -/
theorem groupSource_highest_iff (env : Env) (db : Database) (username : String)
    (lookup : GroupLookup) :
    GroupSourceHighest env db username lookup ↔ lookup.ReadsHighest db.tables username := by
  constructor
  · intro highest
    exact (source_highest env db username lookup).mp highest.1
  · intro reads
    have highest := (source_highest env db username lookup).mpr reads
    refine ⟨highest,fun db' reordered => ?_⟩
    have highest' := (source_highest env db' username lookup).mpr (reordered.readsHighest reads)
    exact answersHighest_unique (reordered.heldRows lookup username) highest highest'

/-- Alice is in the group team, which manages the endpoint chat. -/
def chatDatabase : Database where
  tables := { Tables.empty with
    users := [⟨1,"alice","Alice","",none,false,false⟩]
    groups := [⟨1,"team"⟩]
    userGroups := [⟨1,1,1⟩]
    groupPermissions := fun
      | .gatewayEndpoint => [⟨1,⟨"chat",none⟩,1,"MANAGE",false⟩]
      | _ => [] }
  integrity := by decide

/-- The endpoint of the user's only group is not found: the name looked up is the user's. -/
theorem groupSource_misses_members : ¬ ∀ env db username lookup,
    GroupSourceHighest env db username lookup := by
  intro every
  have highest := every ⟨.default,.literal,fun _ => .ok ""⟩ chatDatabase "alice"
    (.gatewayEndpoint "chat")
  have held : (GroupLookup.gatewayEndpoint "chat").heldRows chatDatabase.tables "alice" ≠ [] := by
    decide
  have missed : ∃ failure, (GroupLookup.gatewayEndpoint "chat").source
      ⟨.default,.literal,fun _ => .ok ""⟩ chatDatabase.tables "alice" = .error failure ∧
        failure.isMissing = true := ⟨_,rfl,rfl⟩
  exact held (highest.1.2.mp missed)

end MlflowOidcAuth
