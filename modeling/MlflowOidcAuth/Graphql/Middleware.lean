import MlflowOidcAuth.Graphql.FilterText
import MlflowOidcAuth.Resolution.Workspace

/-! The GraphQL authorization middleware. A search of model versions goes through on the
strength of one model or run that its filter names, and then answers the whole filter. -/
namespace MlflowOidcAuth
open TextSearch

/-- The protected fields, and the others. -/
inductive GraphqlField
  | mlflowGetExperiment
  | mlflowGetRun
  | mlflowListArtifacts
  | mlflowGetMetricHistoryBulkInterval
  | mlflowSearchRuns
  | mlflowSearchDatasets
  | mlflowSearchModelVersions
  | modelVersions
  | other
deriving DecidableEq, Repr

/-- The attributes of an `input` argument that the middleware reads. -/
structure GraphqlInput where
  experimentId : Option String := none
  runId : Option String := none
  runUuid : Option String := none
  runIds : List String := []
  experimentIds : List String := []
  filter : Option String := none
  filterString : Option String := none
deriving DecidableEq, Repr

/-- `_AuthContext`. -/
structure GraphqlAuth where
  username : Option String
  isAdmin : Bool
deriving DecidableEq, Repr

structure GraphqlServices where
  effectiveExperimentPermission : String → String → Except Failure Permission
  effectiveRegisteredModelPermission : String → String → Except Failure Permission
  experimentOfRun : String → Except Failure String

namespace GraphqlServices
variable (services : GraphqlServices)

def canReadExperiment (experimentId username : String) : Except Failure Bool := do
  return (← services.effectiveExperimentPermission experimentId username).canRead

def canReadRun (runId username : String) : Except Failure Bool := do
  services.canReadExperiment (← services.experimentOfRun runId) username

def canReadModel (modelName username : String) : Except Failure Bool := do
  return (← services.effectiveRegisteredModelPermission modelName username).canRead

def canReadRuns (username : String) : List String → Except Failure Bool
  | [] => .ok true
  | runId :: runIds => do
    if ← services.canReadRun runId username then canReadRuns username runIds else return false

end GraphqlServices

section Middleware
variable (chars : FilterChars) (services : GraphqlServices)

/-- The answer for `mlflowSearchModelVersions`: the model that the filter names, else the run. -/
def checkSearchModelVersions (input : GraphqlInput) (username : String) : Except Failure Bool :=
  match (truthy input.filter).orElse (fun _ => truthy input.filterString) with
  | none => .ok false
  | some filterStr =>
    match truthy (extractFirstFilterValue chars filterStr "name".toList) with
    | some modelName => services.canReadModel modelName username
    | none =>
      match (truthy (extractFirstFilterValue chars filterStr "run_id".toList)).orElse
        (fun _ => truthy (extractFirstFilterValue chars filterStr "run_uuid".toList)) with
      | some runId => services.canReadRun runId username
      | none => .ok false

/-- The answer, and the input that the resolver goes on with. -/
def checkAuthorization (field : GraphqlField) (rootExperimentId : Option String)
    (input : Option GraphqlInput) (username : String) :
    Except Failure (Bool × Option GraphqlInput) :=
  match input with
  | none => .ok (true,none)
  | some given =>
    match field with
    | .mlflowGetExperiment => do
      match given.experimentId with
      | none => return (true,input)
      | some experimentId => return (← services.canReadExperiment experimentId username,input)
    | .mlflowGetRun | .mlflowListArtifacts => do
      match (truthy given.runId).orElse (fun _ => given.runUuid) with
      | none => return (true,input)
      | some runId => return (← services.canReadRun runId username,input)
    | .mlflowGetMetricHistoryBulkInterval => do
      return (← services.canReadRuns username given.runIds,input)
    | .mlflowSearchRuns | .mlflowSearchDatasets => do
      let readableIds ← given.experimentIds.filterM (services.canReadExperiment · username)
      if readableIds.isEmpty then return (false,input)
      else return (true,some { given with experimentIds := readableIds })
    | .modelVersions => do
      match rootExperimentId with
      | none => return (true,input)
      | some experimentId => return (← services.canReadExperiment experimentId username,input)
    | .mlflowSearchModelVersions => do
      return (← checkSearchModelVersions chars services given username,input)
    | .other => .ok (true,input)

/-- What the next resolver is called with, if it is called; an exception is a denial. -/
def resolveField (auth : GraphqlAuth) (field : GraphqlField) (rootExperimentId : Option String)
    (input : Option GraphqlInput) : Option (Option GraphqlInput) :=
  if field = .other then some input
  else match auth.username with
    | none => none
    | some username =>
      if auth.isAdmin then some input
      else match checkAuthorization chars services field rootExperimentId input username with
        | .ok (true,input) => some input
        | _ => none

end Middleware

/-- A registered version: its model, the run it comes from and what else a filter may ask for. -/
structure VersionRecord (Body : Type*) where
  name : String
  runId : Option String
  body : Body
deriving DecidableEq

/-- The version belongs to a model, or comes from a run, that the user can read. -/
def GraphqlServices.CanSee {Body : Type*} (services : GraphqlServices) (username : String)
    (version : VersionRecord Body) : Prop :=
  services.canReadModel version.name username = .ok true ∨
    ∃ runId, version.runId = some runId ∧ services.canReadRun runId username = .ok true

/-- Whoever gets a search with this filter through can see all that it finds, in any store. -/
def SearchSound {Body : Type*} (chars : FilterChars)
    (matchesFilter : String → VersionRecord Body → Bool) (filter : String) : Prop :=
  ∀ (services : GraphqlServices) (username : String) (versions : List (VersionRecord Body)),
    (resolveField chars services ⟨some username,false⟩ .mlflowSearchModelVersions none
      (some { filter := some filter })).isSome = true →
    ∀ version ∈ versions, matchesFilter filter version = true → services.CanSee username version

inductive FilterSubject
  | model (name : String)
  | run (runId : String)
deriving DecidableEq, Repr

def FilterSubject.Covers {Body : Type*} (version : VersionRecord Body) : FilterSubject → Prop
  | .model name => version.name = name
  | .run runId => version.runId = some runId

/-- The model that the text of a filter names first, else the run. -/
inductive Names (chars : FilterChars) (filter : String) : FilterSubject → Prop
  | model {name : String} (nonempty : name ≠ "")
      (named : NamesFirst chars filter "name".toList name.toList) : Names chars filter (.model name)
  | runId {runId : String}
      (noModel : ∀ name, name ≠ "" → ¬ NamesFirst chars filter "name".toList name.toList)
      (nonempty : runId ≠ "") (named : NamesFirst chars filter "run_id".toList runId.toList) :
      Names chars filter (.run runId)
  | runUuid {runId : String}
      (noModel : ∀ name, name ≠ "" → ¬ NamesFirst chars filter "name".toList name.toList)
      (noRunId : ∀ name, name ≠ "" → ¬ NamesFirst chars filter "run_id".toList name.toList)
      (nonempty : runId ≠ "") (named : NamesFirst chars filter "run_uuid".toList runId.toList) :
      Names chars filter (.run runId)

section Search
variable {chars : FilterChars} {services : GraphqlServices} {username filter : String}
  {subject : FilterSubject}

/-- The user can read what the filter names. -/
def GraphqlServices.CanReadSubject (services : GraphqlServices) (username : String) :
    FilterSubject → Prop
  | .model name => services.canReadModel name username = .ok true
  | .run runId => services.canReadRun runId username = .ok true

theorem extracted_eq_some {key : List Char} {value : String} :
    truthy (extractFirstFilterValue chars filter key) = some value ↔
      value ≠ "" ∧ NamesFirst chars filter key value.toList := by
  rw [truthy_eq_some,extractFirstFilterValue_eq_some,and_comm]

theorem extracted_eq_none {key : List Char} :
    truthy (extractFirstFilterValue chars filter key) = none ↔
      ∀ value, value ≠ "" → ¬ NamesFirst chars filter key value.toList := by
  simp only [Option.eq_none_iff_forall_ne_some,ne_eq,extracted_eq_some,not_and]

/-- The subject that the middleware takes a filter to be about. -/
def namedSubject (chars : FilterChars) (filter : String) : Option FilterSubject :=
  match truthy (extractFirstFilterValue chars filter "name".toList) with
  | some name => some (.model name)
  | none => ((truthy (extractFirstFilterValue chars filter "run_id".toList)).orElse
      (fun _ => truthy (extractFirstFilterValue chars filter "run_uuid".toList))).map .run

theorem namedSubject_eq_some : namedSubject chars filter = some subject ↔
    Names chars filter subject := by
  unfold namedSubject
  constructor
  · intro found
    cases model : truthy (extractFirstFilterValue chars filter "name".toList) with
    | some name =>
      simp only [model,Option.some.injEq] at found
      subst found
      obtain ⟨nonempty,named⟩ := extracted_eq_some.mp model
      exact .model nonempty named
    | none =>
      simp only [model] at found
      have noModel := extracted_eq_none.mp model
      cases run : truthy (extractFirstFilterValue chars filter "run_id".toList) with
      | some runId =>
        simp only [run,Option.orElse_some,Option.map_some,Option.some.injEq] at found
        subst found
        obtain ⟨nonempty,named⟩ := extracted_eq_some.mp run
        exact .runId noModel nonempty named
      | none =>
        simp only [run,Option.orElse_none,Option.map_eq_some_iff] at found
        obtain ⟨runId,uuid,rfl⟩ := found
        obtain ⟨nonempty,named⟩ := extracted_eq_some.mp uuid
        exact .runUuid noModel (extracted_eq_none.mp run) nonempty named
  · intro names
    cases names with
    | model nonempty named => simp only [extracted_eq_some.mpr ⟨nonempty,named⟩]
    | runId noModel nonempty named =>
      simp only [extracted_eq_none.mpr noModel,extracted_eq_some.mpr ⟨nonempty,named⟩,
        Option.orElse_some,Option.map_some]
    | runUuid noModel noRunId nonempty named =>
      simp only [extracted_eq_none.mpr noModel,extracted_eq_none.mpr noRunId,
        extracted_eq_some.mpr ⟨nonempty,named⟩,Option.orElse_none,Option.map_some]

theorem checkSearchModelVersions_eq_true :
    checkSearchModelVersions chars services { filter := some filter } username = .ok true ↔
      ∃ subject, Names chars filter subject ∧ services.CanReadSubject username subject := by
  simp only [← namedSubject_eq_some]
  by_cases empty : filter = ""
  · subst empty
    have none' : namedSubject chars "" = none := rfl
    have refused : checkSearchModelVersions chars services { filter := some "" } username =
        .ok false := rfl
    simp [none',refused]
  · have text : truthy (some filter) = some filter := truthy_eq_some.mpr ⟨rfl,empty⟩
    simp only [checkSearchModelVersions,namedSubject,text,Option.orElse_some]
    cases truthy (extractFirstFilterValue chars filter "name".toList) with
    | some name => simp [GraphqlServices.CanReadSubject]
    | none =>
      cases (truthy (extractFirstFilterValue chars filter "run_id".toList)).orElse
        (fun _ => truthy (extractFirstFilterValue chars filter "run_uuid".toList)) with
      | some runId => simp [GraphqlServices.CanReadSubject]
      | none => simp

/-- A search goes through exactly for those who can read what the filter names. -/
theorem search_passes_iff :
    (resolveField chars services ⟨some username,false⟩ .mlflowSearchModelVersions none
      (some { filter := some filter })).isSome = true ↔
      ∃ subject, Names chars filter subject ∧ services.CanReadSubject username subject := by
  rw [← checkSearchModelVersions_eq_true]
  unfold resolveField checkAuthorization
  cases answer : checkSearchModelVersions chars services { filter := some filter } username with
  | error failure => simp [answer,bind,Except.bind]
  | ok allowed => cases allowed <;> simp [answer,bind,Except.bind,pure,Except.pure]

/-- Services on which only the subject can be read. -/
def FilterSubject.only : FilterSubject → GraphqlServices
  | .model name =>
    { effectiveExperimentPermission := fun _ _ => .ok .noPermissions
      effectiveRegisteredModelPermission := fun asked _ =>
        .ok (if asked = name then .read else .noPermissions)
      experimentOfRun := fun _ => .ok "" }
  | .run runId =>
    { effectiveExperimentPermission := fun asked _ =>
        .ok (if asked = "open" then .read else .noPermissions)
      effectiveRegisteredModelPermission := fun _ _ => .ok .noPermissions
      experimentOfRun := fun asked => .ok (if asked = runId then "open" else "closed") }

theorem only_reads (subject : FilterSubject) : subject.only.CanReadSubject username subject := by
  cases subject with
  | model name =>
    simp [FilterSubject.only,GraphqlServices.CanReadSubject,GraphqlServices.canReadModel,
      Permission.read,bind,Except.bind,pure,Except.pure]
  | run runId =>
    simp [FilterSubject.only,GraphqlServices.CanReadSubject,GraphqlServices.canReadRun,
      GraphqlServices.canReadExperiment,Permission.read,bind,Except.bind,pure,Except.pure]

theorem only_sees {Body : Type*} {version : VersionRecord Body}
    (sees : subject.only.CanSee username version) : subject.Covers version := by
  cases subject with
  | model name =>
    obtain reads | ⟨runId,_,reads⟩ := sees
    · have answer : (if version.name = name then Permission.read else .noPermissions).canRead = true :=
        Except.ok.inj reads
      split at answer
      · next same => exact same
      · cases answer
    · cases reads
  | run runId =>
    obtain reads | ⟨other,fromRun,reads⟩ := sees
    · cases reads
    · have answer : (if (if other = runId then "open" else "closed") = "open" then Permission.read
          else .noPermissions).canRead = true := Except.ok.inj reads
      by_cases same : other = runId
      · subst same
        exact fromRun
      · simp [same,Permission.noPermissions] at answer

theorem covers_of_sound {Body : Type*} {matchesFilter : String → VersionRecord Body → Bool}
    (sound : SearchSound chars matchesFilter filter) (names : Names chars filter subject)
    {version : VersionRecord Body} (matched : matchesFilter filter version = true) :
    subject.Covers version := by
  have reads : subject.only.CanReadSubject "user" subject := only_reads subject
  have passes := search_passes_iff.mpr ⟨subject,names,reads⟩
  exact only_sees (sound subject.only "user" [version] passes version List.mem_cons_self matched)

end Search

/-- A filter is safe exactly when it finds only versions of the model, or of the run, that its
text names first. -/
theorem searchSound_iff {Body : Type*} (chars : FilterChars)
    (matchesFilter : String → VersionRecord Body → Bool) (filter : String) :
    SearchSound chars matchesFilter filter ↔ ∀ subject, Names chars filter subject →
      ∀ version, matchesFilter filter version = true → subject.Covers version := by
  constructor
  · intro sound subject names version matched
    exact covers_of_sound sound names matched
  · intro covers services username versions passes version _ matched
    obtain ⟨subject,names,reads⟩ := search_passes_iff.mp passes
    have covered := covers subject names version matched
    cases subject with
    | model name =>
      subst covered
      exact .inl reads
    | run runId => exact .inr ⟨runId,covered,reads⟩

section Filters

/-- What MLflow finds for two filters, over versions with their tags. -/
def finds (filter : String) (version : VersionRecord (List (String × String))) : Bool :=
  if filter = "run_id IN ('r1', 'r2')" then
    decide (version.runId = some "r1") || decide (version.runId = some "r2")
  else if filter = "tags.name = 'mine'" then
    decide (version.body.lookup "name" = some "mine")
  else false

/-- The second run of a list is not checked, and a tag called name counts as the model. -/
theorem search_leaks : ¬ SearchSound .plain finds "run_id IN ('r1', 'r2')" ∧
    ¬ SearchSound .plain finds "tags.name = 'mine'" := by
  constructor
  · intro sound
    have names : Names .plain "run_id IN ('r1', 'r2')" (.run "r1") :=
      namedSubject_eq_some.mp (by decide)
    have found : finds "run_id IN ('r1', 'r2')" ⟨"theirs",some "r2",[]⟩ = true := by decide
    have covered : some "r2" = some "r1" := covers_of_sound sound names found
    exact absurd covered (by decide)
  · intro sound
    have names : Names .plain "tags.name = 'mine'" (.model "mine") :=
      namedSubject_eq_some.mp (by decide)
    have found : finds "tags.name = 'mine'" ⟨"theirs",none,[("name","mine")]⟩ = true := by decide
    have covered : "theirs" = "mine" := covers_of_sound sound names found
    exact absurd covered (by decide)

end Filters
end MlflowOidcAuth
