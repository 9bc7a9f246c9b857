import MlflowOidcAuth.Hook.Request
import MlflowOidcAuth.Store.Footprints

/-! What the hook does after a scorer was deleted. MLflow deletes one version or all of
them; the handler wipes the permissions of the scorer either way. -/
namespace MlflowOidcAuth
open Effects

/-- What MLflow reads of a DeleteScorer request. -/
structure ScorerDeletion where
  experimentId : String
  name : String
  version : Option Int
deriving DecidableEq, Repr

def ScorerDeletion.key (deletion : ScorerDeletion) : ResourceKey :=
  ⟨deletion.experimentId,some deletion.name⟩

/-- The request asks for the deletion; MLflow requires both names and refuses empty ones.
It takes `str(experiment_id)`, a version also as a text, and a `null` version as none. -/
structure Asks (request : FlaskRequest) (deletion : ScorerDeletion) : Prop where
  experimentId : ∃ value, request.forcedField "experiment_id" = some value ∧ value ≠ .null ∧
    value.text = deletion.experimentId
  name : request.forcedField "name" = some (.string deletion.name)
  named : deletion.experimentId ≠ "" ∧ deletion.name ≠ ""
  version : match deletion.version with
    | none => request.forcedField "version" = none ∨ request.forcedField "version" = some .null
    | some version => ∃ value, request.forcedField "version" = some value ∧
        value.text = toString version

/-- The versions of each scorer. -/
abbrev ScorerVersions := ResourceKey → List Int

/-- MLflow's deletion: of the given version, else of every version. -/
def ScorerDeletion.remaining (deletion : ScorerDeletion) (versions : ScorerVersions) :
    ScorerVersions :=
  Function.update versions deletion.key (match deletion.version with
    | some version => (versions deletion.key).filter (fun other => decide (other ≠ version))
    | none => [])

/-- A field of the body, `if` it is truthy. -/
def FlaskRequest.truthyField (request : FlaskRequest) (param : String) : Option JsonValue :=
  (request.forcedField param).filter JsonValue.truthy

/-- `_delete_scorer_permissions_cascade`. -/
def deleteScorerPermissionsCascade (env : StoreEnv) (request : FlaskRequest) :
    EStateM Failure Database PUnit :=
  match request.truthyField "experiment_id",request.truthyField "name" with
  | some experimentId,some scorerName =>
    (Operation.deleteScorer experimentId.text scorerName.text).run env
  | _,_ => pure ()

def Tables.scorerRows (t : Tables) (holder : Holder) (key : ResourceKey) : List SqlPermission :=
  (t.direct holder .scorer).filter (fun row => decide (row.key = key))

/-- The rows of the scorer go with its last version, and not before; those of the other
scorers stay. -/
structure ProtectsRemaining (env : StoreEnv) (request : FlaskRequest) (deletion : ScorerDeletion)
    (versions : ScorerVersions) (db : Database) : Prop where
  gone : deletion.remaining versions deletion.key = [] → ∀ holder,
    (after (deleteScorerPermissionsCascade env request) db).tables.scorerRows holder
      deletion.key = []
  kept : deletion.remaining versions deletion.key ≠ [] → ∀ holder,
    (after (deleteScorerPermissionsCascade env request) db).tables.scorerRows holder
      deletion.key = db.tables.scorerRows holder deletion.key
  others : ∀ holder key, key ≠ deletion.key →
    (after (deleteScorerPermissionsCascade env request) db).tables.scorerRows holder key =
      db.tables.scorerRows holder key

section Rows
variable {t : Tables} {experimentId scorerName : String} {holder : Holder} {key : ResourceKey}

theorem direct_deleteScorerRows (holder : Holder) :
    (t.deleteScorerRows experimentId scorerName).direct holder .scorer =
      (t.direct holder .scorer).filter
        (fun row => decide (row.key ≠ ⟨experimentId,some scorerName⟩)) := by
  unfold Tables.deleteScorerRows
  cases holder <;> simp [Tables.direct_withDirect]

theorem deleteScorerRows_integrity (integrity : Integrity t) :
    Integrity (t.deleteScorerRows experimentId scorerName) := by
  have kept : ∀ holder, DirectIntegrity .scorer (t.owners holder)
      ((t.direct holder .scorer).filter
        (fun row => decide (row.key ≠ ⟨experimentId,some scorerName⟩))) :=
    fun holder => (integrity.direct holder .scorer).sublist List.filter_sublist
  have users := integrity.withDirect (kept .user)
  have groups := kept .group
  rw [← Tables.owners_withDirect t .user .group .scorer] at groups
  exact users.withDirect groups

theorem scorerRows_deleted :
    (t.deleteScorerRows experimentId scorerName).scorerRows holder
      ⟨experimentId,some scorerName⟩ = [] := by
  rw [Tables.scorerRows,direct_deleteScorerRows,List.filter_filter,List.filter_eq_nil_iff]
  intro row _
  simp

theorem scorerRows_of_other (other : key ≠ ⟨experimentId,some scorerName⟩) :
    (t.deleteScorerRows experimentId scorerName).scorerRows holder key =
      t.scorerRows holder key := by
  rw [Tables.scorerRows,direct_deleteScorerRows,List.filter_filter]
  apply List.filter_congr
  intro row _
  by_cases same : row.key = key
  · simp [same,other]
  · simp [same]

end Rows

section Handler
variable {env : StoreEnv} {request : FlaskRequest} {deletion : ScorerDeletion}
  {versions : ScorerVersions} {db : Database}

/-- The handler wipes both tables, whatever the request says of a version, if the
experiment id is truthy. -/
theorem cascade_wipes (asks : Asks request deletion)
    (seen : (request.truthyField "experiment_id").isSome = true) :
    (after (deleteScorerPermissionsCascade env request) db).tables =
      db.tables.deleteScorerRows deletion.experimentId deletion.name := by
  obtain ⟨value,field,_,reads⟩ := asks.experimentId
  have truthy : value.truthy = true := by
    simpa [FlaskRequest.truthyField,field,Option.filter] using seen
  have experimentId : request.truthyField "experiment_id" = some value := by
    simp [FlaskRequest.truthyField,field,truthy]
  have name : request.truthyField "name" = some (.string deletion.name) := by
    simp [FlaskRequest.truthyField,asks.name,JsonValue.truthy,asks.named.2]
  have committed : deleteScorerPermissionsCascade env request db = .ok ()
      ⟨db.tables.deleteScorerRows deletion.experimentId deletion.name,
        deleteScorerRows_integrity db.integrity⟩ := by
    simp only [deleteScorerPermissionsCascade,experimentId,name,reads]
    apply session_commits
    rfl
  rw [after,committed]
  rfl

theorem cascade_skips (unseen : request.truthyField "experiment_id" = none) :
    after (deleteScorerPermissionsCascade env request) db = db := by
  simp only [after,deleteScorerPermissionsCascade,unseen]
  rfl

/-- The wipe is right exactly where it is made for a scorer without versions, left out
for one with some, or nothing was granted. -/
theorem protectsRemaining_iff (env : StoreEnv) (request : FlaskRequest)
    (deletion : ScorerDeletion) (versions : ScorerVersions) (db : Database)
    (asks : Asks request deletion) :
    ProtectsRemaining env request deletion versions db ↔
      ((request.truthyField "experiment_id").isSome = true ↔
        deletion.remaining versions deletion.key = []) ∨
        ∀ holder, db.tables.scorerRows holder deletion.key = [] := by
  cases seen : request.truthyField "experiment_id" with
  | none =>
    have skipped : after (deleteScorerPermissionsCascade env request) db = db :=
      cascade_skips seen
    simp only [Option.isSome_none,Bool.false_eq_true,false_iff]
    constructor
    · intro protects
      by_cases last : deletion.remaining versions deletion.key = []
      · right
        intro holder
        rw [← protects.gone last holder,skipped]
      · exact .inl last
    · intro safe
      refine ⟨fun last holder => ?_,fun _ holder => by rw [skipped],
        fun holder key _ => by rw [skipped]⟩
      rw [skipped]
      exact safe.resolve_left (not_not.mpr last) holder
  | some value =>
    have given : (request.truthyField "experiment_id").isSome = true := by rw [seen]; rfl
    have wiped : ∀ holder, (after (deleteScorerPermissionsCascade env request) db).tables.scorerRows
        holder deletion.key = [] := by
      intro holder
      rw [cascade_wipes asks given]
      exact scorerRows_deleted
    simp only [Option.isSome_some,true_iff]
    constructor
    · intro protects
      by_cases last : deletion.remaining versions deletion.key = []
      · exact .inl last
      · right
        intro holder
        rw [← protects.kept last holder]
        exact wiped holder
    · intro safe
      refine ⟨fun _ => wiped,?_,?_⟩
      · intro remains holder
        rw [wiped holder,(safe.resolve_left remains) holder]
      · intro holder key other
        rw [cascade_wipes asks given]
        exact scorerRows_of_other other

end Handler

section Bob

def bobDenied : SqlPermission := ⟨1,⟨"1",some "quality"⟩,1,"NO_PERMISSIONS",false⟩

/-- Bob is denied the scorer. -/
def scorerDenied : Database where
  tables := { Tables.empty with
    users := [⟨1,"bob","Bob","",none,false,false⟩]
    userPermissions := fun
      | .scorer => [bobDenied]
      | _ => [] }
  integrity := by decide

def deleteQuality (version : Option Int) : ScorerDeletion := ⟨"1","quality",version⟩

def qualityBody (version : List (String × JsonValue)) : FlaskRequest where
  path := "/api/3.0/mlflow/scorers/delete"
  method := .delete
  viewArgs := none
  args := []
  form := []
  isJson := true
  body := some ([("experiment_id",.string "1"),("name",.string "quality")] ++ version)

def twoVersions : ScorerVersions := fun key =>
  if key = ⟨"1",some "quality"⟩ then [1,2] else []

theorem wholeScorer_protected :
    ProtectsRemaining .bare (qualityBody []) (deleteQuality none) twoVersions scorerDenied :=
  (protectsRemaining_iff .bare _ _ _ _
    ⟨⟨.string "1",rfl,by decide,rfl⟩,rfl,by decide,Or.inl rfl⟩).mpr (.inl (by decide))

theorem firstVersion_unprotects : ¬ ∀ (env : StoreEnv) (request : FlaskRequest)
    (deletion : ScorerDeletion) (versions : ScorerVersions) (db : Database),
    Asks request deletion → ProtectsRemaining env request deletion versions db := by
  intro law
  have asks : Asks (qualityBody [("version",.integer 1)]) (deleteQuality (some 1)) :=
    ⟨⟨.string "1",rfl,by decide,rfl⟩,rfl,by decide,.integer 1,rfl,rfl⟩
  have protects := law .bare _ _ twoVersions scorerDenied asks
  have unchanged := protects.kept (by decide) .user
  rw [cascade_wipes asks (by decide)] at unchanged
  exact absurd unchanged (by decide)

end Bob

end MlflowOidcAuth
