import Mathlib
import MlflowOidcAuth.Store.Grants
import MlflowOidcAuth.Store.Methods
import MlflowOidcAuth.Store.WorkspaceRegex

/-! The updates of regex grants by id, over all families and holders: the row that is read
back afterwards and the rows left alone. -/
namespace MlflowOidcAuth
open Effects

/-- The families of regex grants. Prompts share the tables of registered models. -/
inductive RegexFamily
  | resource (family : Family)
  | prompt
  | workspace
deriving DecidableEq, Repr

structure RegexUpdate where
  id : Nat
  regex : String
  priority : Int
  permission : String
  owner : String
  prompt : Bool := true

def RegexUpdate.arguments (given : RegexUpdate) : Arguments :=
  { id := given.id, regex := given.regex, priority := given.priority
    permission := given.permission, username := given.owner, groupName := given.owner
    prompt := given.prompt }

/-- What an update leaves of a row, with or without its pattern. -/
def RegexUpdate.overwrite (given : RegexUpdate) (assigns : Bool) (row : SqlRegexPermission) :
    SqlRegexPermission :=
  { row with
    regex := if assigns then given.regex else row.regex
    priority := given.priority
    permission := given.permission }

def updateRegexMethod : Holder → Family → StoreMethod
  | .user,.experiment => .updateExperimentRegexPermission
  | .user,.registeredModel => .updateRegisteredModelRegexPermission
  | .user,.scorer => .updateScorerRegexPermission
  | .user,.gatewayEndpoint => .updateGatewayEndpointRegexPermission
  | .user,.gatewaySecret => .updateGatewaySecretRegexPermission
  | .user,.gatewayModelDefinition => .updateGatewayModelDefinitionRegexPermission
  | .group,.experiment => .updateGroupExperimentRegexPermission
  | .group,.registeredModel => .updateGroupRegisteredModelRegexPermission
  | .group,.scorer => .updateGroupScorerRegexPermission
  | .group,.gatewayEndpoint => .updateGroupGatewayEndpointRegexPermission
  | .group,.gatewaySecret => .updateGroupGatewaySecretRegexPermission
  | .group,.gatewayModelDefinition => .updateGroupGatewayModelDefinitionRegexPermission

def updatePromptRegexMethod : Holder → StoreMethod
  | .user => .updatePromptRegexPermission
  | .group => .updateGroupPromptRegexPermission

namespace RegexFamily

/-- The update method of the store for a family and a holder. -/
def update (env : StoreEnv) (holder : Holder) (given : RegexUpdate) :
    RegexFamily → EStateM Failure Database PUnit
  | resource family => ((updateRegexMethod holder family).operation given.arguments).run env
  | prompt => ((updatePromptRegexMethod holder).operation given.arguments).run env
  | workspace => (WorkspaceWrite.updateRegex holder given.id given.regex given.priority
      given.permission given.owner).run env.resolution.regex

def rows (holder : Holder) (t : Tables) : RegexFamily → List SqlRegexPermission
  | resource family => t.regex holder family
  | prompt => t.regex holder .registeredModel
  | workspace => t.workspaceRegex holder

def withRows (holder : Holder) (t : Tables) (rows : List SqlRegexPermission) :
    RegexFamily → Tables
  | resource family => t.withRegex holder family rows
  | prompt => t.withRegex holder .registeredModel rows
  | workspace => t.withWorkspaceRegex holder rows

/-- The row that an update is about, as the repository of the family looks it up. -/
def row (holder : Holder) (given : RegexUpdate) (t : Tables) :
    RegexFamily → Except Failure SqlRegexPermission
  | resource family => t.regexRow holder family false (toString given.id) given.owner
  | prompt => t.regexRow holder .registeredModel given.prompt (toString given.id) given.owner
  | workspace => t.workspaceRegexRow holder given.id given.owner

/-- Whether the update of the family's repository assigns the pattern. -/
def assigns (holder : Holder) : RegexFamily → Bool
  | resource family => Tables.assignsRegex holder family
  | prompt => Tables.assignsRegex holder .registeredModel
  | workspace => true

/-- The row reads back as given, and no other row differs. -/
structure Applied (holder : Holder) (given : RegexUpdate) (family : RegexFamily)
    (t t' : Tables) : Prop where
  readBack : ∃ row, family.row holder given t' = .ok row ∧ row.id = given.id ∧
    row.regex = given.regex ∧ row.priority = given.priority ∧ row.permission = given.permission
  others : ∃ rows, t' = family.withRows holder t rows ∧
    rows.filter (fun row => decide (row.id ≠ given.id)) =
      (family.rows holder t).filter (fun row => decide (row.id ≠ given.id))

end RegexFamily

section Lookup
variable {t : Tables} {holder : Holder} {owner : String}

theorem ownerId_withRegex (family : Family) (rows : List SqlRegexPermission) :
    (t.withRegex holder family rows).ownerId holder owner = t.ownerId holder owner := by
  cases holder <;> rfl

theorem ownerId_withWorkspaceRegex (rows : List SqlRegexPermission) :
    (t.withWorkspaceRegex holder rows).ownerId holder owner = t.ownerId holder owner := by
  cases holder <;> rfl

theorem id_of_regexRow {family : Family} {prompt : Bool} {id : Nat} {found : SqlRegexPermission}
    (known : t.regexRow holder family prompt (toString id) owner = .ok found) : found.id = id := by
  obtain ⟨ownerId,_,known⟩ := bind_ok known
  have member : found ∈ (t.regex holder family).filter (fun row =>
      decide (toString row.id = toString id ∧ row.ownerId = ownerId) &&
        Tables.promptMatches family prompt row) := by
    rw [one_eq_ok.mp known]
    exact List.mem_singleton_self found
  simp only [List.mem_filter,Bool.and_eq_true,decide_eq_true_eq] at member
  exact Nat.repr_inj.mp member.2.1.1

theorem id_of_workspaceRegexRow {id : Nat} {found : SqlRegexPermission}
    (known : t.workspaceRegexRow holder id owner = .ok found) : found.id = id := by
  obtain ⟨ownerId,_,known⟩ := bind_ok known
  have member : found ∈ (t.workspaceRegex holder).filter (fun row =>
      decide (row.id = id ∧ row.ownerId = ownerId)) := by
    rw [one_eq_ok.mp known]
    exact List.mem_singleton_self found
  simp only [List.mem_filter,decide_eq_true_eq] at member
  exact member.2.1

end Lookup

section Rewriting
variable (given : RegexUpdate) (assigns : Bool) (found : SqlRegexPermission)

/-- The rewriting of one table: the row with the found id is overwritten. -/
def RegexUpdate.rewrite (row : SqlRegexPermission) : SqlRegexPermission :=
  if row.id = found.id then given.overwrite assigns row else row

theorem rewrite_keeps (row : SqlRegexPermission) :
    (given.rewrite assigns found row).id = row.id ∧
      (given.rewrite assigns found row).ownerId = row.ownerId ∧
      (given.rewrite assigns found row).prompt = row.prompt := by
  unfold RegexUpdate.rewrite
  split
  · exact ⟨rfl,rfl,rfl⟩
  · exact ⟨rfl,rfl,rfl⟩

variable {given assigns found}

theorem rewrite_found : given.rewrite assigns found found = given.overwrite assigns found :=
  if_pos rfl

theorem rewrite_others (rows : List SqlRegexPermission) :
    (rows.map (given.rewrite assigns found)).filter (fun row => decide (row.id ≠ found.id)) =
      rows.filter (fun row => decide (row.id ≠ found.id)) := by
  induction rows with
  | nil => rfl
  | cons row rest ih =>
    rw [List.map_cons]
    by_cases same : row.id = found.id
    · simpa [RegexUpdate.rewrite,RegexUpdate.overwrite,same] using ih
    · simpa [RegexUpdate.rewrite,same] using ih

theorem filter_rewrite {rows : List SqlRegexPermission} {matching : SqlRegexPermission → Bool}
    (only : rows.filter matching = [found])
    (kept : ∀ row, matching (given.rewrite assigns found row) = matching row) :
    (rows.map (given.rewrite assigns found)).filter matching = [given.overwrite assigns found] := by
  rw [List.filter_map]
  have same : matching ∘ given.rewrite assigns found = matching := funext kept
  rw [same,only,List.map_singleton,rewrite_found]

variable {t : Tables} {holder : Holder} {owner : String}

theorem regexRow_rewritten {family : Family} {prompt : Bool} {id : String}
    (known : t.regexRow holder family prompt id owner = .ok found) :
    (t.withRegex holder family ((t.regex holder family).map (given.rewrite assigns found))).regexRow
      holder family prompt id owner = .ok (given.overwrite assigns found) := by
  obtain ⟨ownerId,account,known⟩ := bind_ok known
  simp only [Tables.regexRow,ownerId_withRegex,account,bind,Except.bind,Tables.regex_withRegex,
    and_self,if_true]
  apply one_eq_ok.mpr
  apply filter_rewrite (one_eq_ok.mp known)
  intro row
  obtain ⟨ids,owners,prompts⟩ := rewrite_keeps given assigns found row
  cases family <;> simp only [ids,owners,Tables.promptMatches,prompts]

theorem workspaceRegexRow_rewritten {id : Nat}
    (known : t.workspaceRegexRow holder id owner = .ok found) :
    (t.withWorkspaceRegex holder ((t.workspaceRegex holder).map
      (given.rewrite assigns found))).workspaceRegexRow holder id owner =
        .ok (given.overwrite assigns found) := by
  obtain ⟨ownerId,account,known⟩ := bind_ok known
  simp only [Tables.workspaceRegexRow,ownerId_withWorkspaceRegex,account,bind,Except.bind,
    Tables.workspaceRegex_withWorkspaceRegex,if_true]
  apply one_eq_ok.mpr
  apply filter_rewrite (one_eq_ok.mp known)
  intro row
  obtain ⟨ids,owners,_⟩ := rewrite_keeps given assigns found row
  simp only [ids,owners]

end Rewriting

section Updates
variable {env : StoreEnv} {db db' : Database} {holder : Holder} {family : RegexFamily}
  {given : RegexUpdate}

/-- What a successful update did: the row it found is overwritten in its table. -/
theorem update_spec (ran : family.update env holder given db = .ok () db') :
    ∃ found, family.row holder given db.tables = .ok found ∧ found.id = given.id ∧
      family.row holder given db'.tables = .ok (given.overwrite (family.assigns holder) found) ∧
      db'.tables = family.withRows holder db.tables ((family.rows holder db.tables).map
        (given.rewrite (family.assigns holder) found)) := by
  have regexTable : ∀ table prompt,
      Tables.updateRegex env.resolution.regex holder table prompt given.id given.regex
        given.priority given.permission given.owner db.tables = .ok db'.tables →
      ∃ found, db.tables.regexRow holder table prompt (toString given.id) given.owner = .ok found ∧
        found.id = given.id ∧
        db'.tables.regexRow holder table prompt (toString given.id) given.owner =
          .ok (given.overwrite (Tables.assignsRegex holder table) found) ∧
        db'.tables = db.tables.withRegex holder table ((db.tables.regex holder table).map
          (given.rewrite (Tables.assignsRegex holder table) found)) := by
    intro table prompt ran
    obtain ⟨_,_,ran⟩ := bind_ok ran
    obtain ⟨found,known,written⟩ := bind_ok ran
    have table' : db'.tables = db.tables.withRegex holder table ((db.tables.regex holder table).map
        (given.rewrite (Tables.assignsRegex holder table) found)) :=
      (Except.ok.inj written).symm
    refine ⟨found,known,id_of_regexRow known,?_,table'⟩
    rw [table']
    exact regexRow_rewritten known
  cases family with
  | resource table =>
    apply regexTable table false
    cases holder <;> cases table <;> exact session_ok ran
  | prompt =>
    apply regexTable .registeredModel given.prompt
    cases holder <;> exact session_ok ran
  | workspace =>
    obtain ⟨_,_,ran⟩ := bind_ok (session_ok ran)
    obtain ⟨found,known,written⟩ := bind_ok ran
    have table : db'.tables = db.tables.withWorkspaceRegex holder
        ((db.tables.workspaceRegex holder).map (given.rewrite true found)) :=
      (Except.ok.inj written).symm
    refine ⟨found,known,id_of_workspaceRegexRow known,?_,table⟩
    rw [table]
    exact workspaceRegexRow_rewritten known

theorem assigns_iff : family.assigns holder = true ↔ holder = .group ∨
    family = .resource .experiment ∨ family = .resource .scorer ∨ family = .workspace := by
  cases holder with
  | user =>
    cases family with
    | resource table => cases table <;> simp [RegexFamily.assigns,Tables.assignsRegex]
    | prompt => simp [RegexFamily.assigns,Tables.assignsRegex]
    | workspace => simp [RegexFamily.assigns]
  | group =>
    cases family with
    | resource table => simp [RegexFamily.assigns,Tables.assignsRegex]
    | prompt => simp [RegexFamily.assigns,Tables.assignsRegex]
    | workspace => simp [RegexFamily.assigns]

/-- A successful update does what its arguments say exactly for the repositories that assign the
pattern, and for the others when the pattern is the stored one. -/
theorem update_applied_iff (ran : family.update env holder given db = .ok () db') :
    family.Applied holder given db.tables db'.tables ↔
      (holder = .group ∨ family = .resource .experiment ∨ family = .resource .scorer ∨
        family = .workspace) ∨
        ∃ row, family.row holder given db.tables = .ok row ∧ row.regex = given.regex := by
  rw [← assigns_iff]
  obtain ⟨found,known,sameId,known',written⟩ := update_spec ran
  constructor
  · intro applied
    obtain ⟨row,read,_,sameRegex,_⟩ := applied.readBack
    rw [known',Except.ok.injEq] at read
    rw [← read] at sameRegex
    by_cases assigned : family.assigns holder = true
    · exact .inl assigned
    · rw [RegexUpdate.overwrite,if_neg assigned] at sameRegex
      exact .inr ⟨found,known,sameRegex⟩
  · intro assigned
    refine ⟨⟨_,known',sameId,?_,rfl,rfl⟩,_,written,?_⟩
    · rcases assigned with always | ⟨row,read,stored⟩
      · exact if_pos always
      · rw [known,Except.ok.injEq] at read
        rw [RegexUpdate.overwrite]
        split
        · rfl
        · exact read ▸ stored
    · rw [← sameId]
      exact rewrite_others _

end Updates

section Alice

/-- Alice holds one pattern in every family. -/
def alicePatterns : Database where
  tables := { Tables.empty with
    users := [⟨1,"alice","Alice","",none,false,false⟩]
    userRegexPermissions := fun _ => [⟨1,"old",1,1,"MANAGE",false⟩]
    workspaceRegexPermissions := [⟨1,"old",1,1,"MANAGE",false⟩] }
  integrity := by decide

def newPattern : RegexUpdate where
  id := 1
  regex := "new"
  priority := 2
  permission := "READ"
  owner := "alice"

theorem registeredModel_kept : ¬ ∀ env (db db' : Database) holder (family : RegexFamily) given,
    family.update env holder given db = .ok () db' →
      family.Applied holder given db.tables db'.tables := by
  intro always
  have returns : returned ((RegexFamily.resource .registeredModel).update .bare .user newPattern
      alicePatterns) = some () := by decide +kernel
  cases ran : (RegexFamily.resource .registeredModel).update .bare .user newPattern
      alicePatterns with
  | error failure reached =>
    rw [ran] at returns
    cases returns
  | ok value db' =>
    obtain ⟨found,known,_,known',_⟩ := update_spec ran
    obtain ⟨row,read,_,sameRegex,_⟩ := (always _ _ _ _ _ _ ran).readBack
    rw [known',Except.ok.injEq] at read
    rw [← read] at sameRegex
    have stored : (RegexFamily.resource .registeredModel).row .user newPattern
        alicePatterns.tables = .ok ⟨1,"old",1,1,"MANAGE",false⟩ := by decide +kernel
    rw [stored,Except.ok.injEq] at known
    rw [← known] at sameRegex
    exact absurd sameRegex (by decide)

theorem experiment_applied : ∃ db',
    (RegexFamily.resource .experiment).update .bare .user newPattern alicePatterns = .ok () db' ∧
    (RegexFamily.resource .experiment).Applied .user newPattern alicePatterns.tables
      db'.tables := by
  have returns : returned ((RegexFamily.resource .experiment).update .bare .user newPattern
      alicePatterns) = some () := by decide +kernel
  cases ran : (RegexFamily.resource .experiment).update .bare .user newPattern alicePatterns with
  | error failure reached =>
    rw [ran] at returns
    cases returns
  | ok value db' => exact ⟨db',rfl,(update_applied_iff ran).mpr (.inl (.inr (.inl rfl)))⟩

end Alice
end MlflowOidcAuth
