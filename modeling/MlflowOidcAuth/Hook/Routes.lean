import MlflowOidcAuth.Library.OrderedDict
import MlflowOidcAuth.Library.PathPatterns
import MlflowOidcAuth.Hook.Request

/-! The routes that MLflow serves, the validators registered for their classes and the
tables the hook looks them up in. -/
namespace MlflowOidcAuth
open OrderedDict PathPatterns

inductive Validator
  | validateCanReadExperiment
  | validateCanReadExperimentByName
  | validateCanDeleteExperiment
  | validateCanUpdateExperiment
  | validateCanReadRun
  | validateCanDeleteRun
  | validateCanUpdateRun
  | validateCanReadRegisteredModel
  | validateCanDeleteRegisteredModel
  | validateCanUpdateRegisteredModel
  | validateCanReadScorer
  | validateCanDeleteScorer
  | validateCanReadPromptOptimizationJob
  | validateCanDeletePromptOptimizationJob
  | validateCanUpdatePromptOptimizationJob
  | validateCanCreateGateway
  | validateCanReadGatewayEndpoint
  | validateCanUpdateGatewayEndpoint
  | validateCanDeleteGatewayEndpoint
  | validateCanReadGatewaySecret
  | validateCanUpdateGatewaySecret
  | validateCanDeleteGatewaySecret
  | validateCanReadGatewayModelDefinition
  | validateCanUpdateGatewayModelDefinition
  | validateCanDeleteGatewayModelDefinition
  | denyNonAdmin
  | validateCanReadLoggedModel
  | validateCanDeleteLoggedModel
  | validateCanUpdateLoggedModel
  | validateCanCreateWorkspace
  | validateCanReadWorkspace
  | validateCanListWorkspaces
  | validateCanUpdateWorkspace
  | validateCanDeleteWorkspace
  | validateCanReadRunArtifact
  | validateCanUpdateRunArtifact
  | validateCanReadModelVersionArtifact
  | validateCanReadTraceArtifact
  | validateCanReadMetricHistoryBulk
  | validateCanReadMetricHistoryBulkInterval
  | validateCanSearchDatasets
  | validateCanCreatePromptlabRun
  | validateGatewayProxy
  | validateCanReadExperimentArtifactProxy
  | validateCanUpdateExperimentArtifactProxy
  | validateCanDeleteExperimentArtifactProxy
deriving DecidableEq, Repr

/-- The protobuf classes that the hook names, the operations on proxied artifacts, and the
rest of the classes that MLflow serves. -/
inductive RequestClass
  | getExperiment | getExperimentByName | deleteExperiment | restoreExperiment
  | updateExperiment | setExperimentTag | deleteExperimentTag | createRun | getRun | deleteRun
  | restoreRun | updateRun | logMetric | logBatch | logModel | setTag | deleteTag | logParam
  | getMetricHistory | listArtifacts | getRegisteredModel | deleteRegisteredModel
  | updateRegisteredModel | renameRegisteredModel | getLatestVersions | createModelVersion
  | getModelVersion | deleteModelVersion | updateModelVersion | transitionModelVersionStage
  | getModelVersionDownloadUri | setRegisteredModelTag | deleteRegisteredModelTag
  | setModelVersionTag | deleteModelVersionTag | setRegisteredModelAlias
  | deleteRegisteredModelAlias | getModelVersionByAlias | registerScorer | listScorers
  | getScorer | deleteScorer | listScorerVersions | createPromptOptimizationJob
  | getPromptOptimizationJob | searchPromptOptimizationJobs | deletePromptOptimizationJob
  | cancelPromptOptimizationJob | createGatewayEndpoint | getGatewayEndpoint
  | updateGatewayEndpoint | deleteGatewayEndpoint | createGatewaySecret | getGatewaySecretInfo
  | updateGatewaySecret | deleteGatewaySecret | createGatewayModelDefinition
  | getGatewayModelDefinition | updateGatewayModelDefinition | deleteGatewayModelDefinition
  | attachModelToGatewayEndpoint | detachModelFromGatewayEndpoint | createGatewayEndpointBinding
  | deleteGatewayEndpointBinding | listGatewayEndpointBindings | setGatewayEndpointTag
  | deleteGatewayEndpointTag | createGatewayBudgetPolicy | updateGatewayBudgetPolicy
  | deleteGatewayBudgetPolicy | createLoggedModel | getLoggedModel | deleteLoggedModel
  | finalizeLoggedModel | deleteLoggedModelTag | setLoggedModelTags
  | logLoggedModelParamsRequest | createWorkspace | getWorkspace | listWorkspaces
  | updateWorkspace | deleteWorkspace | proxyList | proxyDownload | proxyUpload | proxyDelete
  | createExperiment | createRegisteredModel | other
deriving DecidableEq, Repr

inductive Registry
  | beforeRequest
  | loggedModel
  | workspace
  | proxyArtifact
deriving DecidableEq, Repr

/-- `BEFORE_REQUEST_HANDLERS` with the budget policies, `LOGGED_MODEL_BEFORE_REQUEST_HANDLERS`,
`WORKSPACE_BEFORE_REQUEST_HANDLERS` and the operations of `_get_proxy_artifact_validator`. -/
def RequestClass.registered : RequestClass → Option (Registry × Validator)
  | .getExperiment | .listScorers | .searchPromptOptimizationJobs =>
    some (.beforeRequest,.validateCanReadExperiment)
  | .getExperimentByName =>
    some (.beforeRequest,.validateCanReadExperimentByName)
  | .deleteExperiment | .restoreExperiment =>
    some (.beforeRequest,.validateCanDeleteExperiment)
  | .updateExperiment | .setExperimentTag | .deleteExperimentTag | .createRun | .registerScorer
  | .createPromptOptimizationJob =>
    some (.beforeRequest,.validateCanUpdateExperiment)
  | .getRun | .getMetricHistory | .listArtifacts =>
    some (.beforeRequest,.validateCanReadRun)
  | .deleteRun | .restoreRun =>
    some (.beforeRequest,.validateCanDeleteRun)
  | .updateRun | .logMetric | .logBatch | .logModel | .setTag | .deleteTag | .logParam =>
    some (.beforeRequest,.validateCanUpdateRun)
  | .getRegisteredModel | .getLatestVersions | .getModelVersion | .getModelVersionDownloadUri
  | .getModelVersionByAlias =>
    some (.beforeRequest,.validateCanReadRegisteredModel)
  | .deleteRegisteredModel | .deleteModelVersion | .deleteModelVersionTag
  | .deleteRegisteredModelAlias =>
    some (.beforeRequest,.validateCanDeleteRegisteredModel)
  | .updateRegisteredModel | .renameRegisteredModel | .createModelVersion | .updateModelVersion
  | .transitionModelVersionStage | .setRegisteredModelTag | .deleteRegisteredModelTag
  | .setModelVersionTag | .setRegisteredModelAlias =>
    some (.beforeRequest,.validateCanUpdateRegisteredModel)
  | .getScorer | .listScorerVersions =>
    some (.beforeRequest,.validateCanReadScorer)
  | .deleteScorer =>
    some (.beforeRequest,.validateCanDeleteScorer)
  | .getPromptOptimizationJob =>
    some (.beforeRequest,.validateCanReadPromptOptimizationJob)
  | .deletePromptOptimizationJob =>
    some (.beforeRequest,.validateCanDeletePromptOptimizationJob)
  | .cancelPromptOptimizationJob =>
    some (.beforeRequest,.validateCanUpdatePromptOptimizationJob)
  | .createGatewayEndpoint | .createGatewaySecret | .createGatewayModelDefinition =>
    some (.beforeRequest,.validateCanCreateGateway)
  | .getGatewayEndpoint | .listGatewayEndpointBindings =>
    some (.beforeRequest,.validateCanReadGatewayEndpoint)
  | .updateGatewayEndpoint | .attachModelToGatewayEndpoint | .detachModelFromGatewayEndpoint
  | .createGatewayEndpointBinding | .deleteGatewayEndpointBinding | .setGatewayEndpointTag
  | .deleteGatewayEndpointTag =>
    some (.beforeRequest,.validateCanUpdateGatewayEndpoint)
  | .deleteGatewayEndpoint =>
    some (.beforeRequest,.validateCanDeleteGatewayEndpoint)
  | .getGatewaySecretInfo =>
    some (.beforeRequest,.validateCanReadGatewaySecret)
  | .updateGatewaySecret =>
    some (.beforeRequest,.validateCanUpdateGatewaySecret)
  | .deleteGatewaySecret =>
    some (.beforeRequest,.validateCanDeleteGatewaySecret)
  | .getGatewayModelDefinition =>
    some (.beforeRequest,.validateCanReadGatewayModelDefinition)
  | .updateGatewayModelDefinition =>
    some (.beforeRequest,.validateCanUpdateGatewayModelDefinition)
  | .deleteGatewayModelDefinition =>
    some (.beforeRequest,.validateCanDeleteGatewayModelDefinition)
  | .createGatewayBudgetPolicy | .updateGatewayBudgetPolicy | .deleteGatewayBudgetPolicy =>
    some (.beforeRequest,.denyNonAdmin)
  | .createLoggedModel =>
    some (.loggedModel,.validateCanUpdateExperiment)
  | .getLoggedModel =>
    some (.loggedModel,.validateCanReadLoggedModel)
  | .deleteLoggedModel | .deleteLoggedModelTag =>
    some (.loggedModel,.validateCanDeleteLoggedModel)
  | .finalizeLoggedModel | .setLoggedModelTags | .logLoggedModelParamsRequest =>
    some (.loggedModel,.validateCanUpdateLoggedModel)
  | .createWorkspace =>
    some (.workspace,.validateCanCreateWorkspace)
  | .getWorkspace =>
    some (.workspace,.validateCanReadWorkspace)
  | .listWorkspaces =>
    some (.workspace,.validateCanListWorkspaces)
  | .updateWorkspace =>
    some (.workspace,.validateCanUpdateWorkspace)
  | .deleteWorkspace =>
    some (.workspace,.validateCanDeleteWorkspace)
  | .proxyList | .proxyDownload => some (.proxyArtifact,.validateCanReadExperimentArtifactProxy)
  | .proxyUpload => some (.proxyArtifact,.validateCanUpdateExperimentArtifactProxy)
  | .proxyDelete => some (.proxyArtifact,.validateCanDeleteExperimentArtifactProxy)
  | .createExperiment | .createRegisteredModel | .other => none

namespace RequestClass

def handlerIn (registry : Registry) (requestClass : RequestClass) : Option Validator :=
  match requestClass.registered with
  | some (home,validator) => if home = registry then some validator else none
  | none => none

/-- The method of each operation on proxied artifacts. -/
def proxyMethod : RequestClass → Option Method
  | .proxyList | .proxyDownload => some .get
  | .proxyUpload => some .put
  | .proxyDelete => some .delete
  | _ => none

/-- `gated_creation_handlers`. -/
def isGatedCreation : RequestClass → Bool
  | .createExperiment | .createRegisteredModel | .createGatewayEndpoint | .createGatewaySecret
  | .createGatewayModelDefinition => true
  | _ => false

variable {requestClass : RequestClass} {registry home : Registry} {validator : Validator}

theorem handlerIn_iff :
    requestClass.handlerIn registry = some validator ↔
      requestClass.registered = some (registry,validator) := by
  unfold handlerIn
  cases requestClass.registered with
  | none => simp
  | some entry =>
    obtain ⟨home,validator'⟩ := entry
    by_cases same : home = registry <;> simp [same]

end RequestClass

/-- A piece of a route template: a character, `<name>` or `<path:name>`. -/
inductive Piece
  | text (c : Char)
  | param (name : List Char)
  | pathParam (name : List Char)
deriving DecidableEq, Repr

namespace Piece

def source : Piece → List Char
  | text c => [c]
  | param name => '<' :: name ++ ['>']
  | pathParam name => "<path:".toList ++ name ++ ['>']

/-- What the router takes in its place. -/
def routed : Piece → Token
  | text c => .char c
  | param _ => .segment
  | pathParam _ => .path

/-- What `_re_compile_path` makes of it; in a regular expression a dot is a wildcard. -/
def compiled : Piece → Token
  | text c => if c = '.' then .anyChar else .char c
  | param _ => .segment
  | pathParam _ => .segment

/-- Neither a bracket nor a character, dots excepted, that a regular expression treats
specially; a name ends at its bracket. -/
def plain : Piece → Bool
  | text c => decide (c ∉ "<>\\^$*+?\x7b\x7d[]|()".toList)
  | param name => decide (name ≠ [] ∧ '>' ∉ name)
  | pathParam name => decide ('>' ∉ name)

end Piece

structure Template where
  pieces : List Piece
  plain : pieces.all Piece.plain = true
deriving DecidableEq

namespace Template
variable (template : Template)

def httpPath : String := String.ofList (template.pieces.flatMap Piece.source)

def routed : List Token := template.pieces.map Piece.routed

/-- `_re_compile_path`. -/
def reCompilePath : List Token := template.pieces.map Piece.compiled

theorem compiled_of_routed {path : List Char}
    (segments : ∀ name, Piece.pathParam name ∉ template.pieces)
    (accepted : fits path template.routed = true) :
    fits path template.reCompilePath = true := by
  apply fits_weaker _ accepted
  simp only [routed,reCompilePath,List.forall₂_map_left_iff,List.forall₂_map_right_iff,
    List.forall₂_same]
  intro piece member
  cases piece with
  | text c =>
    by_cases dot : c = '.'
    · subst dot
      exact .anyChar _ (by decide)
    · simp only [Piece.routed,Piece.compiled,dot,if_false]
      exact .same _
  | param name => exact .same _
  | pathParam name => exact absurd member (segments name)

end Template

/-- An entry of `get_endpoints`, for one method. -/
structure Route where
  template : Template
  method : Method
  requestClass : RequestClass
  declared : method ≠ .head
  proxied : ∀ proxyMethod, requestClass.proxyMethod = some proxyMethod → method = proxyMethod
deriving DecidableEq

namespace Route
variable (route : Route)

/-- Flask adds `HEAD` to the routes that serve `GET`. -/
def serves (method : Method) : Prop :=
  method = route.method ∨ method = .head ∧ route.method = .get

instance (method : Method) : Decidable (route.serves method) :=
  inferInstanceAs (Decidable (_ ∨ _))

def httpPath : String := route.template.httpPath

/-- The class is looked up by a compiled pattern. -/
def byPattern : Bool :=
  (route.requestClass.handlerIn .loggedModel).isSome ||
    (route.requestClass.handlerIn .workspace).isSome

end Route

/-- `get_endpoints` for one lookup of handlers. -/
def getEndpoints {Handler : Type*} (getHandler : RequestClass → Option Handler)
    (routes : List Route) : List (Template × Option Handler × Method) :=
  routes.map (fun route => (route.template,getHandler route.requestClass,route.method))

/-- The routes of Flask without a protobuf class. -/
def fixedValidators (staticPrefix : String) : List ((String × Method) × Validator) :=
  let addStaticPrefix := fun path => staticPrefix ++ path
  let getAjaxPath := fun path => addStaticPrefix ("/ajax-api/2.0" ++ path)
  [((addStaticPrefix "/get-artifact",.get),.validateCanReadRunArtifact),
    ((getAjaxPath "/mlflow/upload-artifact",.post),.validateCanUpdateRunArtifact),
    ((addStaticPrefix "/model-versions/get-artifact",.get),.validateCanReadModelVersionArtifact),
    ((getAjaxPath "/mlflow/get-trace-artifact",.get),.validateCanReadTraceArtifact),
    ((getAjaxPath "/mlflow/metrics/get-history-bulk",.get),.validateCanReadMetricHistoryBulk),
    ((getAjaxPath "/mlflow/metrics/get-history-bulk-interval",.get),
      .validateCanReadMetricHistoryBulkInterval),
    ((getAjaxPath "/mlflow/experiments/search-datasets",.post),.validateCanSearchDatasets),
    ((getAjaxPath "/mlflow/runs/create-promptlab-run",.post),.validateCanCreatePromptlabRun),
    ((getAjaxPath "/mlflow/gateway-proxy",.get),.validateGatewayProxy),
    ((getAjaxPath "/mlflow/gateway-proxy",.post),.validateGatewayProxy),
    ((getAjaxPath "/mlflow/invocations/scorer",.get),.validateGatewayProxy),
    ((getAjaxPath "/mlflow/invocations/scorer",.post),.validateGatewayProxy),
    ((getAjaxPath "/mlflow/gateway/supported-providers",.get),.validateGatewayProxy),
    ((getAjaxPath "/mlflow/gateway/supported-models",.get),.validateGatewayProxy),
    ((getAjaxPath "/mlflow/gateway/provider-config",.get),.denyNonAdmin),
    ((getAjaxPath "/mlflow/gateway/secrets-config",.get),.denyNonAdmin)]

/-- The entries of the classes that have a validator in a registry. -/
def validatorEntries {Key : Type*} (key : Template → Key) (registry : Registry)
    (routes : List Route) : List ((Key × Method) × Validator) :=
  (getEndpoints (RequestClass.handlerIn registry) routes).filterMap
    (fun (template,handler,method) => handler.map (fun validator => ((key template,method),validator)))

/-- `BEFORE_REQUEST_VALIDATORS`. -/
def beforeRequestValidators (staticPrefix : String) (routes : List Route) :
    List ((String × Method) × Validator) :=
  update (ofPairs (validatorEntries Template.httpPath .beforeRequest routes))
    (fixedValidators staticPrefix)

/-- `LOGGED_MODEL_BEFORE_REQUEST_VALIDATORS`, which keeps the classes without a validator. -/
def loggedModelBeforeRequestValidators (routes : List Route) :
    List ((List Token × Method) × Option Validator) :=
  ofPairs ((getEndpoints (RequestClass.handlerIn .loggedModel) routes).map
    (fun (template,handler,method) => ((template.reCompilePath,method),handler)))

/-- `WORKSPACE_BEFORE_REQUEST_VALIDATORS`. -/
def workspaceBeforeRequestValidators (routes : List Route) :
    List ((List Token × Method) × Validator) :=
  ofPairs (validatorEntries Template.reCompilePath .workspace routes)

def workspaceGatedCreationPaths (routes : List Route) : List (String × Method) :=
  (routes.filter (fun route => route.requestClass.isGatedCreation)).map
    (fun route => (route.httpPath,route.method))

section Tables
variable {routes : List Route} {registry : Registry} {route : Route} {validator : Validator}

theorem mem_validatorEntries {Key : Type*} {key : Template → Key} {entry : Key × Method} :
    (entry,validator) ∈ validatorEntries key registry routes ↔ ∃ route ∈ routes,
      (key route.template,route.method) = entry ∧
        route.requestClass.handlerIn registry = some validator := by
  simp only [validatorEntries,getEndpoints,List.mem_filterMap,List.mem_map,
    Option.map_eq_some_iff,Prod.mk.injEq]
  constructor
  · rintro ⟨_,⟨route,member,rfl⟩,found,handled,rfl,rfl⟩
    exact ⟨route,member,rfl,handled⟩
  · rintro ⟨route,member,rfl,handled⟩
    exact ⟨_,⟨route,member,rfl⟩,validator,handled,rfl,rfl⟩

/-- Where a test singles out one route, the table answers with that route's validator. -/
theorem firstWhere_validators {Key : Type*} [DecidableEq Key] {key : Template → Key}
    {test : Key × Method → Bool} (fixed : List ((Key × Method) × Validator))
    (member : route ∈ routes)
    (only : ∀ other ∈ routes, (other.requestClass.handlerIn registry).isSome = true →
      test (key other.template,other.method) = true → other = route)
    (elsewhere : ∀ entry ∈ fixed, test entry.1 = false) :
    firstWhere test (update (ofPairs (validatorEntries key registry routes)) fixed) = some validator ↔
      route.requestClass.handlerIn registry = some validator ∧
        test (key route.template,route.method) = true := by
  have own : ∀ entry ∈ update (ofPairs (validatorEntries key registry routes)) fixed,
      test entry.1 = true → route.requestClass.handlerIn registry = some entry.2 ∧
        (key route.template,route.method) = entry.1 := by
    intro entry listed passes
    obtain built | given := mem_update listed
    · obtain none' | built := mem_update built
      · cases none'
      · obtain ⟨other,member',keyed,handled⟩ := mem_validatorEntries.mp built
        have same : other = route := by
          apply only other member'
          · simp only [handled,Option.isSome_some]
          · simpa only [keyed] using passes
        subst same
        exact ⟨handled,keyed⟩
    · simp [elsewhere entry given] at passes
  constructor
  · intro found
    obtain ⟨entry,passes,listed⟩ := firstWhere_some found
    obtain ⟨handled,keyed⟩ := own (entry,validator) listed passes
    exact ⟨handled,by simpa only [keyed] using passes⟩
  · rintro ⟨handled,passes⟩
    apply firstWhere_of_agree _ passes
    · intro entry listed passes'
      obtain ⟨handled',_⟩ := own entry listed passes'
      simpa only [handled,Option.some.injEq] using handled'.symm
    · apply keys_update
      apply Or.inl
      apply keys_update
      apply Or.inr
      exact List.mem_map.mpr ⟨(_,validator),mem_validatorEntries.mpr ⟨route,member,rfl,handled⟩,rfl⟩

/-- The logged-model table holds every route, so the test must single out one among all. -/
theorem firstWhere_loggedModels {test : List Token × Method → Bool} (member : route ∈ routes)
    (only : ∀ other ∈ routes, ((route.requestClass.handlerIn .loggedModel).isSome = true ∨
        (other.requestClass.handlerIn .loggedModel).isSome = true) →
      test (other.template.reCompilePath,other.method) = true → other = route) :
    (firstWhere test (loggedModelBeforeRequestValidators routes)).join = some validator ↔
      route.requestClass.handlerIn .loggedModel = some validator ∧
        test (route.template.reCompilePath,route.method) = true := by
  have origin : ∀ entry ∈ loggedModelBeforeRequestValidators routes, ∃ other ∈ routes,
      entry = ((other.template.reCompilePath,other.method),
        other.requestClass.handlerIn .loggedModel) := by
    intro entry listed
    obtain none' | built := mem_update listed
    · cases none'
    · simp only [getEndpoints,List.map_map,List.mem_map] at built
      obtain ⟨other,member',rfl⟩ := built
      exact ⟨other,member',rfl⟩
  constructor
  · intro found
    obtain ⟨entry,passes,listed⟩ := firstWhere_some (Option.join_eq_some_iff.mp found)
    obtain ⟨other,member',same⟩ := origin _ listed
    obtain ⟨rfl,handled⟩ := Prod.mk.inj same
    have isRoute := only other member' (.inr (by simp only [← handled,Option.isSome_some])) passes
    subst isRoute
    exact ⟨handled.symm,passes⟩
  · rintro ⟨handled,passes⟩
    apply Option.join_eq_some_iff.mpr
    apply firstWhere_of_agree _ passes
    · intro entry listed passes'
      obtain ⟨other,member',rfl⟩ := origin entry listed
      have isRoute := only other member' (.inl (by simp only [handled,Option.isSome_some])) passes'
      subst isRoute
      exact handled
    · apply keys_update
      apply Or.inr
      simp only [getEndpoints,List.map_map,List.mem_map]
      exact ⟨route,member,rfl⟩

end Tables

/-- The Flask application around `get_endpoints`: what it dispatches a path and a method to.
A path that spells a route's template belongs to that route, the patterns of logged models
and workspaces overlap no other route's, and no registered class sits on a fixed route. -/
structure FlaskApplication where
  staticPrefix : String
  routes : List Route
  dispatch : String → Method → Option Route
  dispatched : ∀ path method route, dispatch path method = some route → route ∈ routes ∧
    fits path.toList route.template.routed = true ∧ route.serves method
  ownPath : ∀ path method route, dispatch path method = some route → ∀ other ∈ routes,
    other.method = method → other.httpPath = path → other = route
  apart : ∀ path method route, dispatch path method = some route → ∀ other ∈ routes,
    other.method = method → fits path.toList other.template.reCompilePath = true →
    (route.byPattern = true ∨ other.byPattern = true) → other = route
  fixedApart : ∀ path method route, dispatch path method = some route →
    route.requestClass.registered.isSome = true →
    (path,method) ∉ (fixedValidators staticPrefix).map Prod.fst

end MlflowOidcAuth
