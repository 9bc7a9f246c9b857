import MlflowOidcAuth.Hook.Gateway
import MlflowOidcAuth.Store.Footprints

/-! What the hook does after a rename: the rows of the old name, of users first and of groups
after them, are to carry the new one. Each table is a session of its own. -/
namespace MlflowOidcAuth
open Effects

/-- `_rename_registered_model_permission`. -/
def renameRegisteredModelPermission (env : StoreEnv) (request : FlaskRequest) :
    EStateM Failure Database PUnit :=
  match renamedModels request with
  | none => pure ()
  | some (name,newName) => do
    (Operation.renameModel .user name.text newName.text).run env
    (Operation.renameModel .group name.text newName.text).run env

def GatewayKind.family : GatewayKind → Family
  | endpoint => .gatewayEndpoint
  | secret => .gatewaySecret
  | modelDefinition => .gatewayModelDefinition

/-- The handlers of gateway resources; a failure is only logged. -/
def gatewayHandler (env : StoreEnv) (g : GatewayContext) (newName : String) (kind : GatewayKind)
    (operation : GatewayOperation) : EStateM Failure Database PUnit :=
  match cascade g newName kind operation with
  | none => pure ()
  | some (.rename oldName newName) =>
    quietly ((Operation.renameEndpoint oldName.text newName).run env)
  | some (.wipe kind name) => quietly ((Operation.wipeBoth kind.family name.text).run env)

/-- `_rename_gateway_endpoint_permission`. -/
def renameGatewayEndpointPermission (env : StoreEnv) (g : GatewayContext) (newName : String) :
    EStateM Failure Database PUnit :=
  gatewayHandler env g newName .endpoint .update

namespace Tables

/-- The rows of both tables under the new name. -/
def renamed (t : Tables) (family : Family) (oldName newName : String) : Tables :=
  (t.renameRows .user family oldName newName).renameRows .group family oldName newName

/-- Somebody has rows for both names. -/
def Collides (t : Tables) (holder : Holder) (family : Family) (oldName newName : String) : Prop :=
  oldName ≠ newName ∧ ∃ row ∈ t.direct holder family, ∃ other ∈ t.direct holder family,
    row.key.resourceId = oldName ∧ other.key.resourceId = newName ∧ row.ownerId = other.ownerId

def NoneNamed (t : Tables) (holder : Holder) (family : Family) (name : String) : Prop :=
  ∀ row ∈ t.direct holder family, row.key.resourceId ≠ name

end Tables

/-- The handler returns with all rows of the old name renamed, or raises with no row changed. -/
def RenamesAll (handler : EStateM Failure Database PUnit) (family : Family)
    (oldName newName : String) (db : Database) : Prop :=
  (∃ reached, handler db = .ok () reached ∧
    reached.tables = db.tables.renamed family oldName newName) ∨
    ∃ failure, handler db = .error failure db

section Outcome
variable {handler : EStateM Failure Database PUnit} {family : Family} {oldName newName : String}
  {db reached : Database}

theorem renamesAll_of_ok (returned : handler db = .ok () reached) :
    RenamesAll handler family oldName newName db ↔
      reached.tables = db.tables.renamed family oldName newName := by
  simp [RenamesAll,returned]

theorem renamesAll_of_error {failure : Failure} (raised : handler db = .error failure reached) :
    RenamesAll handler family oldName newName db ↔ reached = db := by
  simp [RenamesAll,raised]

theorem renamesAll_quietly :
    RenamesAll (quietly handler) family oldName newName db ↔
      (after handler db).tables = db.tables.renamed family oldName newName :=
  renamesAll_of_ok rfl

end Outcome

section Tables
variable {t : Tables} {holder : Holder} {family : Family} {oldName newName : String}

theorem resourceKey_eq {key other : ResourceKey} (sameId : key.resourceId = other.resourceId)
    (sameScorer : key.scorerName = other.scorerName) : key = other := by
  cases key
  cases other
  cases sameId
  cases sameScorer
  rfl

def movedRow (oldName newName : String) (row : SqlPermission) : SqlPermission :=
  if row.key.resourceId = oldName then { row with key := { row.key with resourceId := newName } }
  else row

theorem renameRows_eq : t.renameRows holder family oldName newName =
    t.withDirect holder family ((t.direct holder family).map (movedRow oldName newName)) := rfl

theorem movedRow_id (row : SqlPermission) : (movedRow oldName newName row).id = row.id := by
  unfold movedRow
  split <;> rfl

theorem movedRow_ownerId (row : SqlPermission) :
    (movedRow oldName newName row).ownerId = row.ownerId := by
  unfold movedRow
  split <;> rfl

theorem movedRow_scorerName (row : SqlPermission) :
    (movedRow oldName newName row).key.scorerName = row.key.scorerName := by
  unfold movedRow
  split <;> rfl

theorem movedRow_resourceId (row : SqlPermission) : (movedRow oldName newName row).key.resourceId =
    if row.key.resourceId = oldName then newName else row.key.resourceId := by
  unfold movedRow
  split <;> rfl

/-- Two rows that a rename makes alike belong to somebody with rows for both names. -/
theorem movedRow_inj (valid : DirectIntegrity family (t.owners holder) (t.direct holder family))
    (apart : ¬ t.Collides holder family oldName newName) {row other : SqlPermission}
    (stored : row ∈ t.direct holder family) (stored' : other ∈ t.direct holder family)
    (sameKey : (movedRow oldName newName row).key = (movedRow oldName newName other).key)
    (sameOwner : row.ownerId = other.ownerId) : row = other := by
  have unique : ∀ name, row.key.resourceId = name → other.key.resourceId = name → row = other := by
    intro name named named'
    apply List.inj_on_of_nodup_map valid.1.2.1 stored stored'
    have scorers := congrArg ResourceKey.scorerName sameKey
    rw [movedRow_scorerName,movedRow_scorerName] at scorers
    have keys : row.key = other.key := resourceKey_eq (named.trans named'.symm) scorers
    rw [keys,sameOwner]
  have names := congrArg ResourceKey.resourceId sameKey
  rw [movedRow_resourceId,movedRow_resourceId] at names
  by_cases moved : row.key.resourceId = oldName
  · by_cases moved' : other.key.resourceId = oldName
    · exact unique oldName moved moved'
    · rw [if_pos moved,if_neg moved'] at names
      exact absurd ⟨fun same => moved' (names.symm.trans same.symm),row,stored,other,stored',moved,
        names.symm,sameOwner⟩ apart
  · by_cases moved' : other.key.resourceId = oldName
    · rw [if_neg moved,if_pos moved'] at names
      exact absurd ⟨fun same => moved (names.trans same.symm),other,stored',row,stored,moved',
        names,sameOwner.symm⟩ apart
    · rw [if_neg moved,if_neg moved'] at names
      exact unique _ names rfl

theorem movedRows_integrity (valid : DirectIntegrity family (t.owners holder) (t.direct holder family))
    (apart : ¬ t.Collides holder family oldName newName) :
    DirectIntegrity family (t.owners holder)
      ((t.direct holder family).map (movedRow oldName newName)) := by
  refine ⟨⟨?_,?_,?_⟩,?_⟩
  · have same : SqlPermission.id ∘ movedRow oldName newName = SqlPermission.id := funext movedRow_id
    rw [List.map_map,same]
    exact valid.1.1
  · rw [List.map_map]
    apply List.Nodup.map_on
    · intro row stored other stored' same
      simp only [Function.comp_apply,Prod.mk.injEq,movedRow_ownerId] at same
      exact movedRow_inj valid apart stored stored' same.1 same.2
    · exact valid.1.1.of_map _
  · intro moved member
    obtain ⟨row,stored,rfl⟩ := List.mem_map.mp member
    rw [movedRow_ownerId]
    exact valid.1.2.2 row stored
  · intro moved member
    obtain ⟨row,stored,rfl⟩ := List.mem_map.mp member
    rw [movedRow_scorerName]
    exact valid.2 row stored

/-- The schema accepts a rename unless somebody has rows for both names. -/
theorem renameRows_integrity (holder : Holder) (oldName newName : String) (integrity : Integrity t)
    (plain : family ≠ .scorer) :
    Integrity (t.renameRows holder family oldName newName) ↔
      ¬ t.Collides holder family oldName newName := by
  have valid := integrity.direct holder family
  constructor
  · intro accepted ⟨distinct,row,stored,other,stored',named,named',sameOwner⟩
    have moved := (accepted.direct holder family).1.2.1
    rw [renameRows_eq,Tables.direct_withDirect,if_pos ⟨rfl,rfl⟩,List.map_map] at moved
    have unscored : ∀ row ∈ t.direct holder family, row.key.scorerName = none := by
      intro row stored
      simpa [plain] using valid.2 row stored
    have keys : (movedRow oldName newName row).key = (movedRow oldName newName other).key := by
      apply resourceKey_eq
      · rw [movedRow_resourceId,movedRow_resourceId,if_pos named,named']
        split <;> rfl
      · rw [movedRow_scorerName,movedRow_scorerName,unscored row stored,unscored other stored']
    have same := List.inj_on_of_nodup_map moved stored stored' (by
      simp only [Function.comp_apply,movedRow_ownerId,keys,sameOwner])
    rw [same,named'] at named
    exact distinct named.symm
  · intro apart
    exact integrity.withDirect (movedRows_integrity valid apart)

/-- A rename that moves no row leaves the tables as they are. -/
theorem renameRows_fixed (fixed : ∀ row ∈ t.direct holder family, movedRow oldName newName row = row) :
    t.renameRows holder family oldName newName = t := by
  have same : (t.direct holder family).map (movedRow oldName newName) = t.direct holder family := by
    conv_rhs => rw [← List.map_id (t.direct holder family)]
    exact List.map_congr_left fixed
  rw [renameRows_eq,same]
  cases holder <;> simp only [Tables.withDirect,Tables.direct,Function.update_eq_self]

theorem renameRows_none (unnamed : t.NoneNamed holder family oldName) :
    t.renameRows holder family oldName newName = t :=
  renameRows_fixed (fun row stored => if_neg (unnamed row stored))

theorem direct_renameRows (t : Tables) (holder : Holder) (family : Family)
    (oldName newName : String) : (t.renameRows holder family oldName newName).direct holder family =
    (t.direct holder family).map (movedRow oldName newName) := by
  rw [renameRows_eq,Tables.direct_withDirect,if_pos ⟨rfl,rfl⟩]

/-- A rename to another name changes the table that has rows to rename. -/
theorem moved_ne (distinct : oldName ≠ newName) {rows : List SqlPermission}
    (named : ∃ row ∈ rows, row.key.resourceId = oldName) :
    rows.map (movedRow oldName newName) ≠ rows := by
  intro same
  obtain ⟨row,stored,isOld⟩ := named
  have fixed : rows.map (movedRow oldName newName) = rows.map id := same.trans (List.map_id _).symm
  have unmoved := congrArg (fun row => row.key.resourceId) (List.map_inj_left.mp fixed row stored)
  simp only [movedRow_resourceId,isOld,if_true,id_eq] at unmoved
  exact distinct unmoved.symm

end Tables

section Sessions
variable {env : StoreEnv} {holder : Holder} {family : Family} {oldName newName : String}

theorem collides_named {t : Tables} (collides : t.Collides holder family oldName newName) :
    ¬ t.NoneNamed holder family oldName := by
  intro unnamed
  obtain ⟨_,row,stored,_,_,named,_⟩ := collides
  exact unnamed row stored named

/-- A session that renames rows commits, or somebody has rows for both names. -/
theorem renameRows_session (holder : Holder) (oldName newName : String) (plain : family ≠ .scorer)
    (db : Database) :
    (db.tables.Collides holder family oldName newName ∧
      session rejected (fun t => .ok (t.renameRows holder family oldName newName)) db =
        .error rejected db) ∨
    (¬ db.tables.Collides holder family oldName newName ∧ ∃ written,
      session rejected (fun t => .ok (t.renameRows holder family oldName newName)) db =
        .ok () written ∧ written.tables = db.tables.renameRows holder family oldName newName) := by
  have accepted := renameRows_integrity holder oldName newName db.integrity plain
  by_cases collides : db.tables.Collides holder family oldName newName
  · left
    refine ⟨collides,session_rejects rfl ?_⟩
    rw [accepted]
    exact not_not_intro collides
  · right
    refine ⟨collides,⟨_,accepted.mpr collides⟩,?_,rfl⟩
    apply session_commits
    rfl

/-- The rename of a registered-model repository raises in one more case: without rows. -/
theorem renameModel_cases (env : StoreEnv) (holder : Holder) (oldName newName : String)
    (db : Database) :
    ((db.tables.NoneNamed holder .registeredModel oldName ∨
        db.tables.Collides holder .registeredModel oldName newName) ∧
      ∃ failure, (Operation.renameModel holder oldName newName).run env db = .error failure db) ∨
    (¬ db.tables.NoneNamed holder .registeredModel oldName ∧
      ¬ db.tables.Collides holder .registeredModel oldName newName ∧
      ∃ written, (Operation.renameModel holder oldName newName).run env db = .ok () written ∧
        written.tables = db.tables.renameRows holder .registeredModel oldName newName) := by
  by_cases unnamed : db.tables.NoneNamed holder .registeredModel oldName
  · left
    refine ⟨.inl unnamed,_,session_raises (if_pos ?_)⟩
    simpa [Tables.NoneNamed] using unnamed
  · have body : ∀ t : Tables, ¬ t.NoneNamed holder .registeredModel oldName →
        t.renameModelRows holder oldName newName =
          .ok (t.renameRows holder .registeredModel oldName newName) := by
      intro t named
      apply if_neg
      simpa [Tables.NoneNamed] using named
    have plain : Family.registeredModel ≠ .scorer := by decide
    have accepted := renameRows_integrity holder oldName newName db.integrity plain
    by_cases collides : db.tables.Collides holder .registeredModel oldName newName
    · left
      refine ⟨.inr collides,_,session_rejects (body _ unnamed) ?_⟩
      rw [accepted]
      exact not_not_intro collides
    · right
      exact ⟨unnamed,collides,_,session_commits (body _ unnamed) (accepted.mpr collides),rfl⟩

end Sessions

theorem direct_renamed (t : Tables) (holder : Holder) (family : Family) (oldName newName : String) :
    (t.renamed family oldName newName).direct holder family =
      (t.direct holder family).map (movedRow oldName newName) := by
  cases holder with
  | user => exact direct_renameRows t .user family oldName newName
  | group =>
    exact direct_renameRows (t.renameRows .user family oldName newName) .group family oldName newName

theorem renamed_eq_iff {t : Tables} {family : Family} {oldName newName : String}
    (distinct : oldName ≠ newName) : t.renamed family oldName newName = t ↔
      t.NoneNamed .user family oldName ∧ t.NoneNamed .group family oldName := by
  constructor
  · intro same
    have rows := fun holder => direct_renamed t holder family oldName newName
    rw [same] at rows
    have unnamed : ∀ holder, t.NoneNamed holder family oldName :=
      fun holder row stored named => moved_ne distinct ⟨row,stored,named⟩ (rows holder).symm
    exact ⟨unnamed .user,unnamed .group⟩
  · intro ⟨unnamed,unnamed'⟩
    rw [Tables.renamed,renameRows_none unnamed,renameRows_none unnamed']

section Outcomes
variable {env : StoreEnv} {db : Database} {oldName newName : String}

theorem users_not_renamed {family : Family} {t t' : Tables}
    (users : t' = t.renameRows .user family oldName newName) (distinct : oldName ≠ newName)
    (named : ¬ t.NoneNamed .group family oldName) : t' ≠ t.renamed family oldName newName := by
  simp only [Tables.NoneNamed,not_forall,not_not,exists_prop] at named
  intro whole
  rw [users] at whole
  have groups := congrArg (fun t => t.direct .group family) whole
  rw [direct_renamed] at groups
  exact moved_ne distinct named groups.symm

theorem users_changed {family : Family} {t t' : Tables}
    (users : t' = t.renameRows .user family oldName newName) (distinct : oldName ≠ newName)
    (named : ¬ t.NoneNamed .user family oldName) : t' ≠ t := by
  simp only [Tables.NoneNamed,not_forall,not_not,exists_prop] at named
  intro same
  rw [users] at same
  have rows := congrArg (fun t => t.direct .user family) same
  rw [direct_renameRows] at rows
  exact moved_ne distinct named rows

theorem renameRows_same (t : Tables) (holder : Holder) (family : Family) (name : String) :
    t.renameRows holder family name name = t := by
  apply renameRows_fixed
  intro row _
  unfold movedRow
  split
  · next named =>
    subst named
    rfl
  · rfl

/-- Once the users' session has committed, all depends on the groups'. -/
theorem renamesModels_iff {request : FlaskRequest}
    (named : renamedModels request = some (.string oldName,.string newName)) :
    RenamesAll (renameRegisteredModelPermission env request) .registeredModel oldName newName db ↔
      oldName = newName ∨
        (db.tables.NoneNamed .user .registeredModel oldName ∨
          db.tables.Collides .user .registeredModel oldName newName) ∨
        (¬ db.tables.NoneNamed .group .registeredModel oldName ∧
          ¬ db.tables.Collides .group .registeredModel oldName newName) := by
  have handler : renameRegisteredModelPermission env request = (do
      (Operation.renameModel .user oldName newName).run env
      (Operation.renameModel .group oldName newName).run env) := by
    simp only [renameRegisteredModelPermission,named,JsonValue.text]
  rw [handler]
  rcases renameModel_cases env .user oldName newName db with
    ⟨refused,failure,raised⟩ | ⟨some_user,apart,written,ran,users⟩
  · exact iff_of_true (.inr ⟨failure,bind_of_error raised⟩) (.inr (.inl refused))
  · have first : ∀ rest : PUnit → EStateM Failure Database PUnit,
        ((Operation.renameModel .user oldName newName).run env >>= rest) db = rest () written :=
      fun rest => bind_of_ok ran
    have groupsSame : written.tables.direct .group .registeredModel =
        db.tables.direct .group .registeredModel := by
      rw [users]
      rfl
    rcases renameModel_cases env .group oldName newName written with
      ⟨refused,failure,raised⟩ | ⟨some_group,apart',written',ran',both⟩
    · rw [renamesAll_of_error ((first _).trans raised)]
      simp only [Tables.NoneNamed,Tables.Collides,groupsSame] at refused
      constructor
      · intro unchanged
        left
        by_contra distinct
        exact users_changed users distinct some_user (congrArg Database.tables unchanged)
      · rintro (same | (unnamed | collides) | ⟨named',apart'⟩)
        · subst same
          rw [renameRows_same] at users
          cases written
          cases db
          cases users
          rfl
        · exact absurd unnamed some_user
        · exact absurd collides apart
        · exact (refused.elim named' apart').elim
    · rw [renamesAll_of_ok ((first _).trans ran')]
      simp only [Tables.NoneNamed,Tables.Collides,groupsSame] at some_group apart'
      refine iff_of_true ?_ (.inr (.inr ⟨some_group,apart'⟩))
      rw [both,users,Tables.renamed]

theorem renameEndpoint_renamesAll (distinct : oldName ≠ newName) :
    RenamesAll (quietly ((Operation.renameEndpoint oldName newName).run env)) .gatewayEndpoint oldName
        newName db ↔
      ¬ db.tables.Collides .user .gatewayEndpoint oldName newName ∧
        ¬ db.tables.Collides .group .gatewayEndpoint oldName newName := by
  have plain : Family.gatewayEndpoint ≠ .scorer := by decide
  rw [renamesAll_quietly]
  rcases renameRows_session .user oldName newName plain db with
    ⟨collides,raised⟩ | ⟨apart,written,ran,users⟩
  · refine iff_of_false ?_ (fun spared => spared.1 collides)
    have ended : after ((Operation.renameEndpoint oldName newName).run env) db = db := by
      rw [after,Operation.run,bind_of_error raised]
      rfl
    rw [ended]
    intro whole
    exact collides_named collides ((renamed_eq_iff distinct).mp whole.symm).1
  · rcases renameRows_session .group oldName newName plain written with
      ⟨collides,raised⟩ | ⟨apart',written',ran',both⟩
    · rw [users] at collides
      refine iff_of_false ?_ (fun spared => spared.2 collides)
      have ended : after ((Operation.renameEndpoint oldName newName).run env) db = written := by
        rw [after,Operation.run,bind_of_ok ran,raised]
        rfl
      rw [ended]
      exact users_not_renamed users distinct (collides_named collides)
    · rw [users] at apart'
      refine iff_of_true ?_ ⟨apart,apart'⟩
      rw [after,Operation.run,bind_of_ok ran,ran',Tables.renamed,← users]
      exact both

section Endpoint
variable {nameOfId : NameOfId} {request : FlaskRequest}

/-- The hook before the request could look the old name up by the endpoint's id. -/
def FoundBefore (nameOfId : NameOfId) (request : FlaskRequest) (oldName : String) : Prop :=
  ∃ id, truthyField request "endpoint_id" = some id ∧ nameOfId .endpoint id = .ok oldName

theorem stashed_of_found (nonempty : oldName ≠ "") (found : FoundBefore nameOfId request oldName) :
    (stashGatewayContext nameOfId request .endpoint .update).updatingEndpointOldName =
      some (.string oldName) := by
  obtain ⟨id,field,resolved⟩ := found
  simp [stashGatewayContext,stashedFromId,GatewayKind.idField,field,resolveNameFromId,resolved,
    JsonValue.truthy,nonempty]

theorem stashed_of_lost (identified : ∀ id name, truthyField request "endpoint_id" = some id →
      nameOfId .endpoint id = .ok name → name = oldName)
    (lost : ¬ FoundBefore nameOfId request oldName) :
    (stashGatewayContext nameOfId request .endpoint .update).updatingEndpointOldName = none := by
  have unresolved : (truthyField request "endpoint_id").bind (resolveNameFromId nameOfId .endpoint) =
      none := by
    rw [Option.bind_eq_none_iff]
    intro id field
    unfold resolveNameFromId
    split
    · next name resolved =>
      rw [identified id name field resolved] at resolved
      exact absurd ⟨id,field,resolved⟩ lost
    · rfl
  simp only [stashGatewayContext,stashedFromId,GatewayKind.idField,unresolved,Option.filter_none]

theorem renamesEndpoints_iff (identified : ∀ id name, truthyField request "endpoint_id" = some id →
      nameOfId .endpoint id = .ok name → name = oldName)
    (nonempty : oldName ≠ "") (nonempty' : newName ≠ "") (distinct : oldName ≠ newName) :
    RenamesAll (renameGatewayEndpointPermission env
        (stashGatewayContext nameOfId request .endpoint .update) newName) .gatewayEndpoint oldName
        newName db ↔
      (FoundBefore nameOfId request oldName ∧
        ¬ db.tables.Collides .user .gatewayEndpoint oldName newName ∧
        ¬ db.tables.Collides .group .gatewayEndpoint oldName newName) ∨
      (db.tables.NoneNamed .user .gatewayEndpoint oldName ∧
        db.tables.NoneNamed .group .gatewayEndpoint oldName) := by
  by_cases found : FoundBefore nameOfId request oldName
  · have called : cascade (stashGatewayContext nameOfId request .endpoint .update) newName .endpoint
        .update = some (.rename (.string oldName) newName) := by
      simp [cascade,stashed_of_found nonempty found,nonempty',distinct.symm]
    simp only [renameGatewayEndpointPermission,gatewayHandler,called,JsonValue.text]
    rw [renameEndpoint_renamesAll distinct]
    constructor
    · exact fun spared => .inl ⟨found,spared⟩
    · rintro (⟨_,spared⟩ | ⟨unnamed,unnamed'⟩)
      · exact spared
      · exact ⟨fun collides => collides_named collides unnamed,
          fun collides => collides_named collides unnamed'⟩
  · have silent : cascade (stashGatewayContext nameOfId request .endpoint .update) newName .endpoint
        .update = none := by
      simp only [cascade,stashed_of_lost identified found]
    simp only [renameGatewayEndpointPermission,gatewayHandler,silent]
    have idle : RenamesAll (pure ()) .gatewayEndpoint oldName newName db ↔ _ :=
      renamesAll_of_ok rfl
    rw [idle,← renamed_eq_iff distinct]
    constructor
    · exact fun whole => .inr whole.symm
    · rintro (⟨claimed,_⟩ | whole)
      · exact absurd claimed found
      · exact whole.symm

end Endpoint
end Outcomes

/-- After a rename from `oldName` to `newName` the rows are renamed as a whole or not at all: a
registered model's when the users' session already fails or the groups' does not, an endpoint's
when its old name was found and nobody has rows for both names. -/
theorem renamesAll_iff (env : StoreEnv) (oldName newName : String) (db : Database) :
    (∀ request, renamedModels request = some (.string oldName,.string newName) →
      (RenamesAll (renameRegisteredModelPermission env request) .registeredModel oldName newName db ↔
        oldName = newName ∨
          (db.tables.NoneNamed .user .registeredModel oldName ∨
            db.tables.Collides .user .registeredModel oldName newName) ∨
          (¬ db.tables.NoneNamed .group .registeredModel oldName ∧
            ¬ db.tables.Collides .group .registeredModel oldName newName))) ∧
    (∀ nameOfId request, (∀ id name, truthyField request "endpoint_id" = some id →
        nameOfId .endpoint id = .ok name → name = oldName) →
      oldName ≠ "" → newName ≠ "" → oldName ≠ newName →
      (RenamesAll (renameGatewayEndpointPermission env
          (stashGatewayContext nameOfId request .endpoint .update) newName) .gatewayEndpoint oldName
          newName db ↔
        (FoundBefore nameOfId request oldName ∧
          ¬ db.tables.Collides .user .gatewayEndpoint oldName newName ∧
          ¬ db.tables.Collides .group .gatewayEndpoint oldName newName) ∨
        (db.tables.NoneNamed .user .gatewayEndpoint oldName ∧
          db.tables.NoneNamed .group .gatewayEndpoint oldName))) :=
  ⟨fun _ named => renamesModels_iff named,
    fun _ _ identified nonempty nonempty' distinct =>
      renamesEndpoints_iff identified nonempty nonempty' distinct⟩

section Shared

def renameRequest : FlaskRequest where
  path := "/api/2.0/mlflow/registered-models/rename"
  method := .post
  viewArgs := none
  args := []
  form := []
  isJson := true
  body := some [("name",.string "churn"),("new_name",.string "attrition")]

/-- Alice reads the model churn, and no group has a row for it. -/
def usersOnlyDatabase : Database where
  tables := { Tables.empty with
    users := [⟨1,"alice","Alice","",none,false,false⟩]
    groups := [⟨1,"team"⟩]
    userPermissions := fun
      | .registeredModel => [⟨1,⟨"churn",none⟩,1,"READ",false⟩]
      | _ => [] }
  integrity := by decide

theorem renames_users_only : ¬ ∀ env request oldName newName db,
    renamedModels request = some (.string oldName,.string newName) →
    RenamesAll (renameRegisteredModelPermission env request) .registeredModel oldName newName db := by
  intro renames
  have whole := renames .bare renameRequest "churn" "attrition" usersOnlyDatabase rfl
  rcases (renamesModels_iff rfl).mp whole with
    same | (unnamed | ⟨_,_,_,other,stored,_,named,_⟩) | ⟨named,_⟩
  · exact absurd same (by decide)
  · exact unnamed _ List.mem_cons_self rfl
  · rw [List.mem_singleton.mp stored] at named
    exact absurd named (by decide)
  · exact named (fun _ stored => absurd stored List.not_mem_nil)

def updateEndpointRequest : FlaskRequest :=
  { renameRequest with
    path := "/api/3.0/mlflow/gateway/endpoints/update"
    body := some [("endpoint_id",.string "e-1"),("name",.string "attrition")] }

/-- Alice and the team read the model and the endpoint churn. -/
def sharedDatabase : Database where
  tables := { usersOnlyDatabase.tables with
    userPermissions := fun
      | .registeredModel | .gatewayEndpoint => [⟨1,⟨"churn",none⟩,1,"READ",false⟩]
      | _ => []
    groupPermissions := fun
      | .registeredModel | .gatewayEndpoint => [⟨1,⟨"churn",none⟩,1,"READ",false⟩]
      | _ => [] }
  integrity := by decide

theorem renamesAll_iff_shared :
    RenamesAll (renameRegisteredModelPermission .bare renameRequest) .registeredModel "churn"
      "attrition" sharedDatabase ∧
    RenamesAll (renameGatewayEndpointPermission .bare
        (stashGatewayContext (fun _ _ => .ok "churn") updateEndpointRequest .endpoint .update)
        "attrition") .gatewayEndpoint "churn" "attrition" sharedDatabase := by
  have apart : ∀ holder family, family = .registeredModel ∨ family = .gatewayEndpoint →
      ¬ sharedDatabase.tables.Collides holder family "churn" "attrition" := by
    intro holder family renamed ⟨_,_,_,other,stored,_,named,_⟩
    have only : sharedDatabase.tables.direct holder family = [⟨1,⟨"churn",none⟩,1,"READ",false⟩] := by
      rcases renamed with rfl | rfl <;> cases holder <;> rfl
    rw [only] at stored
    rw [List.mem_singleton.mp stored] at named
    exact absurd named (by decide)
  obtain ⟨models,endpoints⟩ := renamesAll_iff .bare "churn" "attrition" sharedDatabase
  constructor
  · refine (models renameRequest rfl).mpr (.inr (.inr ⟨?_,apart .group .registeredModel (.inl rfl)⟩))
    exact fun unnamed => unnamed _ List.mem_cons_self rfl
  · refine (endpoints _ updateEndpointRequest ?_ (by decide) (by decide) (by decide)).mpr
      (.inl ⟨⟨.string "e-1",rfl,rfl⟩,apart .user _ (.inr rfl),apart .group _ (.inr rfl)⟩)
    intro id name _ resolved
    cases resolved
    rfl

end Shared
end MlflowOidcAuth
