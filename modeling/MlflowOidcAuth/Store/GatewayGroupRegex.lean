import MlflowOidcAuth.Store.Memberships
import MlflowOidcAuth.Store.RegexUpdates

/-! The reads and deletions of a group's gateway regex grants by id. The store hands the id and
the group's name to a repository that takes them in the other order. -/
namespace MlflowOidcAuth
open Effects

inductive GatewayTable
  | secret
  | endpoint
  | modelDefinition
deriving DecidableEq, Repr

namespace GatewayTable

def family : GatewayTable → Family
  | secret => .gatewaySecret
  | endpoint => .gatewayEndpoint
  | modelDefinition => .gatewayModelDefinition

def deleteMethod : GatewayTable → StoreMethod
  | secret => .deleteGroupGatewaySecretRegexPermission
  | endpoint => .deleteGroupGatewayEndpointRegexPermission
  | modelDefinition => .deleteGroupGatewayModelDefinitionRegexPermission

end GatewayTable

/-- How the database compares an integer column with a text; on the decimal text of an
integer it compares the integers. -/
structure TextComparison where
  sameId : Nat → String → Bool
  decimal : ∀ id other, sameId id (toString other) = true ↔ id = other

/-- Only the decimal text of an integer compares equal to it. -/
def TextComparison.strict : TextComparison where
  sameId := fun id text => decide (toString id = text)
  decimal := by
    intro id other
    rw [decide_eq_true_eq]
    exact Nat.repr_inj

section Repository
variable (comparison : TextComparison) (family : Family)

/-- `_get_group_regex_permission` after `get_group`, in the base repository's order. -/
def getGroupRegexPermission (groupName id : String) (t : Tables) :
    Except Failure SqlRegexPermission := do
  let group ← t.getGroup groupName
  one (.mlflow .resourceDoesNotExist (Tables.missingRegex .group family false id group.id))
    (.mlflow .invalidState (Tables.multipleRegex .group family false id group.id))
    ((t.regex .group family).filter (fun row =>
      comparison.sameId row.id id && decide (row.ownerId = group.id)))

def deleteGroupRegexPermission (groupName id : String) (t : Tables) : Except Failure Tables := do
  let found ← getGroupRegexPermission comparison family groupName id t
  return t.withRegex .group family
    ((t.regex .group family).filter (fun row => decide (row.id ≠ found.id)))

end Repository

section Store
variable (comparison : TextComparison) (table : GatewayTable) (id : Nat) (groupName : String)

/-- `get_group_gateway_…_regex_permission(id, group_name)`: `repo.get(id, group_name)`. -/
def getGroupGatewayRegexPermission (t : Tables) : Except Failure SqlRegexPermission :=
  getGroupRegexPermission comparison table.family (toString id) groupName t

/-- `delete_group_gateway_…_regex_permission(id, group_name)`: `repo.revoke(id, group_name)`. -/
def deleteGroupGatewayRegexPermission : EStateM Failure Database PUnit :=
  session rejected (deleteGroupRegexPermission comparison table.family (toString id) groupName)

/-- Under the strict comparison this is the store's method. -/
theorem deleteMethod_run (env : StoreEnv) :
    (table.deleteMethod.operation { id := id, groupName := groupName }).run env =
      deleteGroupGatewayRegexPermission .strict table id groupName := by
  have same : Tables.revokeRegex .group table.family false groupName (toString id) =
      deleteGroupRegexPermission .strict table.family (toString id) groupName := by
    funext t
    simp only [Tables.revokeRegex,Tables.regexRow,Tables.ownerId,deleteGroupRegexPermission,
      getGroupRegexPermission]
    cases t.getGroup (toString id) with
    | error failure => rfl
    | ok group =>
      simp only [bind,Except.bind,pure,Except.pure,TextComparison.strict]
      have filtered : ((t.regex .group table.family).filter (fun row =>
          decide (toString row.id = groupName ∧ row.ownerId = group.id) &&
            Tables.promptMatches table.family false row)) =
          (t.regex .group table.family).filter (fun row =>
            decide (toString row.id = groupName) && decide (row.ownerId = group.id)) := by
        apply List.filter_congr
        intro row _
        cases table <;> simp [GatewayTable.family,Tables.promptMatches]
      rw [filtered]
  cases table <;> exact congrArg (session rejected) same

end Store

section Rows
variable (comparison : TextComparison) (table : GatewayTable) (db : Database) (group : SqlGroup)
  (id : Nat)

def HasRegexRow : Prop :=
  ∃ row ∈ db.tables.regex .group table.family, row.id = id ∧ row.ownerId = group.id

/-- The read and the deletion by id and name act on the group's row with that id. -/
structure ActsOnRow : Prop where
  get : ∀ row ∈ db.tables.regex .group table.family, row.id = id → row.ownerId = group.id →
    getGroupGatewayRegexPermission comparison table id group.groupName db.tables = .ok row
  delete : HasRegexRow table db group id →
    ∃ db', deleteGroupGatewayRegexPermission comparison table id group.groupName db = .ok () db' ∧
      db'.tables = db.tables.withRegex .group table.family
        ((db.tables.regex .group table.family).filter (fun row => decide (row.id ≠ id)))
  getMissing : (∃ message, getGroupGatewayRegexPermission comparison table id group.groupName
    db.tables = .error (.mlflow .resourceDoesNotExist message)) ↔ ¬ HasRegexRow table db group id
  deleteMissing : (∃ message, deleteGroupGatewayRegexPermission comparison table id
    group.groupName db = .error (.mlflow .resourceDoesNotExist message) db) ↔
      ¬ HasRegexRow table db group id

/-- The row that the swapped lookup finds: that of a group named like the id, whose own id
compares equal to the group's name. -/
def HasSwappedRow : Prop :=
  ∃ other ∈ db.tables.groups, other.groupName = toString id ∧
    ∃ row ∈ db.tables.regex .group table.family, row.ownerId = other.id ∧
      comparison.sameId row.id group.groupName = true

end Rows

section Lookup
variable {comparison : TextComparison} {db : Database} {table : GatewayTable} {group : SqlGroup}
  {id : Nat}

def matchingRows (comparison : TextComparison) (t : Tables) (family : Family) (group : SqlGroup)
    (text : String) : List SqlRegexPermission :=
  (t.regex .group family).filter (fun row =>
    comparison.sameId row.id text && decide (row.ownerId = group.id))

theorem mem_matchingRows {t : Tables} {family : Family} {text : String} {row : SqlRegexPermission} :
    row ∈ matchingRows comparison t family group text ↔ row ∈ t.regex .group family ∧
      comparison.sameId row.id text = true ∧ row.ownerId = group.id := by
  simp [matchingRows]

theorem getGroupRegexPermission_of_group {t : Tables} {family : Family} {groupName text : String}
    (known : t.getGroup groupName = .ok group) :
    getGroupRegexPermission comparison family groupName text t =
      one (.mlflow .resourceDoesNotExist (Tables.missingRegex .group family false text group.id))
        (.mlflow .invalidState (Tables.multipleRegex .group family false text group.id))
        (matchingRows comparison t family group text) := by
  simp only [getGroupRegexPermission,known]
  rfl

theorem getGroup_raises {groupName : String}
    (absent : ∀ other ∈ db.tables.groups, other.groupName ≠ groupName) :
    db.tables.getGroup groupName =
      .error (.mlflow .resourceDoesNotExist ("Group with name=" ++ groupName ++ " not found")) := by
  have none_named : db.tables.groupsNamed groupName = [] := by
    simp only [Tables.groupsNamed,List.filter_eq_nil_iff,decide_eq_true_eq]
    exact absent
  rw [Tables.getGroup,none_named]
  rfl

/-- The swapped lookup reports a missing row exactly when it finds none. -/
theorem get_missing_iff : (∃ message, getGroupGatewayRegexPermission comparison table id
    group.groupName db.tables = .error (.mlflow .resourceDoesNotExist message)) ↔
      ¬ HasSwappedRow comparison table db group id := by
  by_cases named : ∃ other ∈ db.tables.groups, other.groupName = toString id
  · obtain ⟨other,listed,sameName⟩ := named
    have known : db.tables.getGroup (toString id) = .ok other :=
      sameName ▸ getGroup_of_member db listed
    rw [getGroupGatewayRegexPermission,getGroupRegexPermission_of_group known]
    have swapped : HasSwappedRow comparison table db group id ↔
        ∃ row, row ∈ matchingRows comparison db.tables table.family other group.groupName := by
      constructor
      · intro has
        obtain ⟨holder,member,sameName',row,stored,owned,same⟩ := has
        have isOther := List.inj_on_of_nodup_map db.integrity.groupNames member listed
          (sameName'.trans sameName.symm)
        exact ⟨row,mem_matchingRows.mpr ⟨stored,same,isOther ▸ owned⟩⟩
      · intro has
        obtain ⟨row,member⟩ := has
        obtain ⟨stored,same,owned⟩ := mem_matchingRows.mp member
        exact ⟨other,listed,sameName,row,stored,owned,same⟩
    rw [swapped]
    cases found : matchingRows comparison db.tables table.family other group.groupName with
    | nil => simp [one]
    | cons first rest =>
      cases rest with
      | nil => simp [one]
      | cons second rest => simp [one]
  · have absent : ∀ other ∈ db.tables.groups, other.groupName ≠ toString id :=
      fun other listed same => named ⟨other,listed,same⟩
    simp only [getGroupGatewayRegexPermission,getGroupRegexPermission,getGroup_raises absent]
    constructor
    · intro _ has
      obtain ⟨other,listed,same,_⟩ := has
      exact named ⟨other,listed,same⟩
    · intro _
      exact ⟨_,rfl⟩

theorem integrity_filterRegex {t : Tables} (integrity : Integrity t) (holder : Holder)
    (family : Family) (kept : SqlRegexPermission → Bool) :
    Integrity (t.withRegex holder family ((t.regex holder family).filter kept)) := by
  cases holder with
  | user =>
    refine { integrity with userRegexPermissions := fun other => ?_ }
    change RegexIntegrity t.userIds (Function.update t.userRegexPermissions family _ other)
    rw [Function.update_apply]
    split
    · exact (integrity.userRegexPermissions family).sublist List.filter_sublist
    · exact integrity.userRegexPermissions other
  | group =>
    refine { integrity with groupRegexPermissions := fun other => ?_ }
    change RegexIntegrity t.groupIds (Function.update t.groupRegexPermissions family _ other)
    rw [Function.update_apply]
    split
    · exact (integrity.groupRegexPermissions family).sublist List.filter_sublist
    · exact integrity.groupRegexPermissions other

/-- A row that the read finds is deleted, and with it the rows of its id. -/
theorem delete_of_get {row : SqlRegexPermission} (found : getGroupGatewayRegexPermission comparison
      table id group.groupName db.tables = .ok row) :
    ∃ db', deleteGroupGatewayRegexPermission comparison table id group.groupName db = .ok () db' ∧
      db'.tables = db.tables.withRegex .group table.family
        ((db.tables.regex .group table.family).filter (fun other => decide (other.id ≠ row.id))) := by
  refine ⟨⟨_,integrity_filterRegex db.integrity .group table.family _⟩,session_commits ?_ _,rfl⟩
  rw [getGroupGatewayRegexPermission] at found
  simp only [deleteGroupRegexPermission,found]
  rfl

theorem delete_missing_iff : (∃ message, deleteGroupGatewayRegexPermission comparison table id
    group.groupName db = .error (.mlflow .resourceDoesNotExist message) db) ↔
    ∃ message, getGroupGatewayRegexPermission comparison table id group.groupName db.tables =
      .error (.mlflow .resourceDoesNotExist message) := by
  constructor
  · intro ⟨message,raised⟩
    refine ⟨message,?_⟩
    cases found : getGroupGatewayRegexPermission comparison table id group.groupName
        db.tables with
    | error failure =>
      rw [getGroupGatewayRegexPermission] at found
      have body : deleteGroupRegexPermission comparison table.family (toString id) group.groupName
          db.tables = .error failure := by
        simp only [deleteGroupRegexPermission,found]
        rfl
      rw [deleteGroupGatewayRegexPermission,session_raises body] at raised
      injection raised with raised _
      rw [raised]
    | ok row =>
      obtain ⟨db',deleted,_⟩ := delete_of_get found
      rw [deleted] at raised
      cases raised
  · intro ⟨message,raised⟩
    refine ⟨message,session_raises ?_⟩
    rw [getGroupGatewayRegexPermission] at raised
    simp only [deleteGroupRegexPermission,raised]
    rfl

variable (member : group ∈ db.tables.groups)
include member

/-- Under the name of the id, the swapped lookup is the one that was meant. -/
theorem get_of_decimalName (sameName : group.groupName = toString id) {row : SqlRegexPermission}
    (stored : row ∈ db.tables.regex .group table.family) (sameId : row.id = id)
    (owned : row.ownerId = group.id) :
    getGroupGatewayRegexPermission comparison table id group.groupName db.tables = .ok row := by
  have known : db.tables.getGroup (toString id) = .ok group :=
    sameName ▸ getGroup_of_member db member
  rw [getGroupGatewayRegexPermission,getGroupRegexPermission_of_group known]
  apply one_eq_ok.mpr
  have found : row ∈ matchingRows comparison db.tables table.family group group.groupName := by
    rw [sameName]
    exact mem_matchingRows.mpr ⟨stored,(comparison.decimal _ _).mpr sameId,owned⟩
  have unique : matchingRows comparison db.tables table.family group group.groupName = [] ∨
      ∃ other, matchingRows comparison db.tables table.family group group.groupName = [other] := by
    apply filter_unique (db.integrity.groupRegexPermissions table.family).1 id
    intro other matched
    rw [sameName,Bool.and_eq_true] at matched
    exact (comparison.decimal _ _).mp matched.1
  rcases unique with none_found | ⟨other,only⟩
  · rw [none_found] at found
    cases found
  · rw [only] at found ⊢
    rw [List.mem_singleton.mp found]

/-- Reads and deletions by id act on the group's row exactly when the group is named like the
id, or there is no such row and the swapped lookup finds none either. -/
theorem actsOnRow_iff : ActsOnRow comparison table db group id ↔
    group.groupName = toString id ∨
      (¬ HasRegexRow table db group id ∧ ¬ HasSwappedRow comparison table db group id) := by
  constructor
  · intro acts
    by_cases has : HasRegexRow table db group id
    · obtain ⟨row,stored,sameId,owned⟩ := has
      have found := acts.get row stored sameId owned
      obtain ⟨other,known,found⟩ := bind_ok found
      have matched : row ∈ matchingRows comparison db.tables table.family other group.groupName := by
        rw [matchingRows,one_eq_ok.mp found]
        exact List.mem_singleton_self row
      obtain ⟨_,_,owned'⟩ := mem_matchingRows.mp matched
      obtain ⟨listed,sameName⟩ := mem_of_getGroup known
      have isOther := List.inj_on_of_nodup_map db.integrity.groupIds member listed
        (owned.symm.trans owned')
      exact .inl (isOther ▸ sameName)
    · exact .inr ⟨has,get_missing_iff.mp (acts.getMissing.mpr has)⟩
  · intro condition
    have swapped : HasSwappedRow comparison table db group id ↔ HasRegexRow table db group id := by
      rcases condition with sameName | ⟨noRow,noSwapped⟩
      · constructor
        · intro ⟨other,listed,otherName,row,stored,owned,same⟩
          have isGroup := List.inj_on_of_nodup_map db.integrity.groupNames listed member
            (otherName.trans sameName.symm)
          rw [sameName] at same
          exact ⟨row,stored,(comparison.decimal _ _).mp same,isGroup ▸ owned⟩
        · intro ⟨row,stored,sameId,owned⟩
          refine ⟨group,member,sameName,row,stored,owned,?_⟩
          rw [sameName]
          exact (comparison.decimal _ _).mpr sameId
      · exact ⟨fun has => absurd has noSwapped,fun has => absurd has noRow⟩
    have get : ∀ row ∈ db.tables.regex .group table.family, row.id = id → row.ownerId = group.id →
        getGroupGatewayRegexPermission comparison table id group.groupName db.tables = .ok row := by
      intro row stored sameId owned
      rcases condition with sameName | ⟨noRow,_⟩
      · exact get_of_decimalName member sameName stored sameId owned
      · exact absurd ⟨row,stored,sameId,owned⟩ noRow
    refine ⟨get,?_,get_missing_iff.trans (not_congr swapped),
      delete_missing_iff.trans (get_missing_iff.trans (not_congr swapped))⟩
    intro ⟨row,stored,sameId,owned⟩
    obtain ⟨db',deleted,written⟩ := delete_of_get (get row stored sameId owned)
    exact ⟨db',deleted,sameId ▸ written⟩

end Lookup

section Team

def teamPattern (groupName : String) : Tables :=
  { Tables.empty with
    groups := [⟨1,groupName⟩]
    groupRegexPermissions := fun _ => [⟨7,".*",1,1,"MANAGE",false⟩] }

def patternedTeam : Database where
  tables := teamPattern "team"
  integrity := by decide

def numberedTeam : Database where
  tables := teamPattern "7"
  integrity := by decide

theorem team_row_unreachable : ¬ ActsOnRow .strict .endpoint patternedTeam ⟨1,"team"⟩ 7 := by
  intro acts
  have has : HasRegexRow .endpoint patternedTeam ⟨1,"team"⟩ 7 :=
    ⟨⟨7,".*",1,1,"MANAGE",false⟩,List.mem_singleton_self _,rfl,rfl⟩
  apply acts.getMissing.mp _ has
  apply get_missing_iff.mpr
  intro ⟨other,listed,sameName,_⟩
  rw [List.mem_singleton.mp listed] at sameName
  exact absurd sameName (by decide)

theorem numberedTeam_acts : ActsOnRow .strict .endpoint numberedTeam ⟨1,"7"⟩ 7 :=
  (actsOnRow_iff (List.mem_singleton_self _)).mpr (.inl (by decide))

end Team
end MlflowOidcAuth
