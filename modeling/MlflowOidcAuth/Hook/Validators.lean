import Mathlib.Data.List.DropRight
import MlflowOidcAuth.Hook.ArtifactPaths

/-! What each validator asks of a request, down to the flag of the permission that it reads. Runs,
traces, logged models and jobs have the permission of their experiment. -/
namespace MlflowOidcAuth

/-- What the validators ask of MLflow's stores and of the permission resolver, for the requesting
user. A run, a trace and a logged model count by their experiment, a job by its parameters.
`iterate` is a `for` loop over a JSON value; what is truthy has something to go through. -/
structure ValidatorLookups extends Lookups where
  classes : CharClasses
  getRun : JsonValue → Except Failure String
  getTraceInfo : JsonValue → Except Failure String
  getLoggedModel : JsonValue → Except Failure String
  getJobParams : JsonValue → Except Failure (List (String × JsonValue))
  effectiveScorerPermission : JsonValue → JsonValue → Except Failure Permission
  effectiveGatewayPermission : GatewayKind → JsonValue → Except Failure Permission
  listGatewayEndpointPermissions : Except Failure (List String)
  iterate : JsonValue → Except Failure (List JsonValue)
  iterate_truthy : ∀ value, value.truthy = true → iterate value ≠ .ok []

section Validators
variable (services : HookServices) (lookups : ValidatorLookups) (request : FlaskRequest)

/-- `request.args.getlist`. -/
def FlaskRequest.argValues (param : String) : List JsonValue :=
  (request.args.filter (fun arg => decide (arg.1 = param))).map (fun arg => .string arg.2)

def getModelId : Except Failure JsonValue :=
  match request.extracted "model_id" with
  | some modelId => .ok modelId
  | none => .error (.mlflow .invalidParameterValue "Model ID must be provided in the request data.")

/-- The permission on the experiment of what the request names. -/
def inheritedPermission (named : Except Failure JsonValue)
    (experimentOf : JsonValue → Except Failure JsonValue) : Except Failure Permission := do
  let resource ← named
  let experimentId ← experimentOf resource
  lookups.effectiveExperimentPermission experimentId

def ValidatorLookups.runExperiment (runId : JsonValue) : Except Failure JsonValue :=
  (lookups.getRun runId).map .string

def getPermissionFromRunId : Except Failure Permission :=
  inheritedPermission lookups (request.getRequestParam "run_id") lookups.runExperiment

def getPermissionFromTraceRequestId : Except Failure Permission :=
  inheritedPermission lookups (request.getRequestParam "request_id")
    (fun traceId => (lookups.getTraceInfo traceId).map .string)

def getPermissionFromModelId : Except Failure Permission :=
  inheritedPermission lookups (getModelId request)
    (fun modelId => (lookups.getLoggedModel modelId).map .string)

def getPermissionFromPromptOptimizationJobId : Except Failure Permission :=
  inheritedPermission lookups (request.getRequestParam "job_id")
    (fun jobId => (lookups.getJobParams jobId).map
      (fun params => (params.lookup "experiment_id").getD .null))

def getPermissionFromScorerName : Except Failure Permission := do
  let experimentId ← request.getRequestParam "experiment_id"
  let name ← request.getRequestParam "name"
  lookups.effectiveScorerPermission experimentId name

/-- One after the other, until one may not be read. -/
def allReadable (experimentOf : JsonValue → Except Failure JsonValue) :
    List JsonValue → Except Failure Bool
  | [] => .ok true
  | resource :: rest => do
    let experimentId ← experimentOf resource
    let permission ← lookups.effectiveExperimentPermission experimentId
    if permission.canRead then allReadable experimentOf rest else .ok false

def validateCanReadMetricHistoryBulk : Except Failure Bool :=
  let runIds := request.argValues "run_id"
  if runIds = [] then .error (.mlflow .invalidParameterValue
    "GetMetricHistoryBulk request must specify at least one run_id.")
  else allReadable lookups lookups.runExperiment runIds

def validateCanReadMetricHistoryBulkInterval : Except Failure Bool :=
  let runIds := request.argValues "run_ids"
  allReadable lookups lookups.runExperiment
    (if runIds = [] then request.argValues "run_id" else runIds)

def validateCanSearchDatasets : Except Failure Bool :=
  let unspecified := Failure.mlflow .invalidParameterValue
    "SearchDatasets request must specify at least one experiment_id."
  if request.method = .post ∧ request.isJson = true then
    match (request.jsonField "experiment_ids").filter JsonValue.truthy with
    | none => .error unspecified
    | some experimentIds => do allReadable lookups .ok (← lookups.iterate experimentIds)
  else
    let experimentIds := request.argValues "experiment_ids"
    if experimentIds = [] then .error unspecified else allReadable lookups .ok experimentIds

def validateCanCreatePromptlabRun : Except Failure Bool :=
  match request.getRequestParam "experiment_id" with
  | .ok experimentId =>
    (lookups.effectiveExperimentPermission experimentId).map Permission.canUpdate
  | .error failure =>
    if failure.isMlflow then .error (.mlflow .invalidParameterValue
      "CreatePromptlabRun request must specify experiment_id.")
    else .error failure

def gatewayNameKeys : List String := ["gateway_name","gateway","name","target"]

def extractGatewayName : Option JsonValue :=
  match gatewayNameKeys.findSome? (fun key => request.args.lookup key) with
  | some name => some (.string name)
  | none => gatewayNameKeys.findSome? request.jsonField

/-- `any` over stored permissions. -/
def anyAllows (allows : Permission → Bool) : List String → Except Failure Bool
  | [] => .ok false
  | name :: rest => do
    let permission ← getPermission name
    if allows permission then .ok true else anyAllows allows rest

/-- What the proxy asks for, by the method. -/
def proxyRight (method : Method) : Permission → Bool :=
  if method = .get then Permission.canUse else Permission.canUpdate

/-- Without a name any endpoint of the user's own rows will do. -/
def validateGatewayProxy : Except Failure Bool :=
  match (extractGatewayName request).filter JsonValue.truthy with
  | some name => (lookups.effectiveGatewayPermission .endpoint (.string name.text)).map
      (proxyRight request.method)
  | none => do anyAllows (proxyRight request.method) (← lookups.listGatewayEndpointPermissions)

/-- The validators that read a gateway resource. -/
def validateCanReadGateway (kind : GatewayKind) : Except Failure Bool :=
  match (nameParamOrId services.nameOfId request kind).filter JsonValue.truthy with
  | none => .ok false
  | some name => (lookups.effectiveGatewayPermission kind name).map Permission.canRead

def validateGatewayWrite (kind : GatewayKind) (operation : GatewayOperation) : Except Failure Bool :=
  validateGateway services.nameOfId request (lookups.effectiveGatewayPermission kind) kind operation

def extractWorkspaceNameFromPath : Option String :=
  match request.path.splitOn "/mlflow/workspaces/" with
  | [_,rest] =>
    if rest = "" then none
    else
      let stripped := rest.toList.rdropWhile (fun c => decide (c = '/'))
      some (String.ofList (stripped.takeWhile (fun c => decide (c ≠ '/'))))
  | _ => none

def validateCanCreateWorkspace : Except Failure Bool :=
  if services.config.mlflowEnableWorkspaces then
    (getAuthContext services.context).map AuthContext.isAdmin
  else .ok false

/-- The validators of one workspace. -/
def validateWorkspace (allows : Permission → Bool) : Except Failure Bool := do
  if services.config.mlflowEnableWorkspaces then
    let auth ← getAuthContext services.context
    if auth.isAdmin then return true
    match extractWorkspaceNameFromPath request with
    | none => return false
    | some workspace =>
      match ← services.workspacePermission auth.username workspace with
      | none => return false
      | some permission => return allows permission
  else return false

def validateArtifactProxy (allows : Permission → Bool) : Except Failure Bool :=
  (getPermissionFromExperimentIdArtifactProxy lookups.classes request services.config
    (fun experimentId _ => lookups.effectiveExperimentPermission (.string experimentId)) "").map allows

/-- The call of each validator. -/
def callValidator : Validator → Except Failure Bool
  | .validateCanReadExperiment =>
    Guard.experiment.validate lookups.toLookups request Permission.canRead
  | .validateCanReadExperimentByName =>
    Guard.experimentByName.validate lookups.toLookups request Permission.canRead
  | .validateCanDeleteExperiment =>
    Guard.experiment.validate lookups.toLookups request Permission.canDelete
  | .validateCanUpdateExperiment =>
    Guard.experiment.validate lookups.toLookups request Permission.canUpdate
  | .validateCanReadRun | .validateCanReadRunArtifact =>
    (getPermissionFromRunId lookups request).map Permission.canRead
  | .validateCanDeleteRun => (getPermissionFromRunId lookups request).map Permission.canDelete
  | .validateCanUpdateRun | .validateCanUpdateRunArtifact =>
    (getPermissionFromRunId lookups request).map Permission.canUpdate
  | .validateCanReadRegisteredModel | .validateCanReadModelVersionArtifact =>
    Guard.registeredModel.validate lookups.toLookups request Permission.canRead
  | .validateCanDeleteRegisteredModel =>
    Guard.registeredModel.validate lookups.toLookups request Permission.canDelete
  | .validateCanUpdateRegisteredModel =>
    Guard.registeredModel.validate lookups.toLookups request Permission.canUpdate
  | .validateCanReadScorer => (getPermissionFromScorerName lookups request).map Permission.canRead
  | .validateCanDeleteScorer =>
    (getPermissionFromScorerName lookups request).map Permission.canDelete
  | .validateCanReadPromptOptimizationJob =>
    (getPermissionFromPromptOptimizationJobId lookups request).map Permission.canRead
  | .validateCanDeletePromptOptimizationJob =>
    (getPermissionFromPromptOptimizationJobId lookups request).map Permission.canDelete
  | .validateCanUpdatePromptOptimizationJob =>
    (getPermissionFromPromptOptimizationJobId lookups request).map Permission.canUpdate
  | .validateCanCreateGateway => .ok true
  | .validateCanReadGatewayEndpoint => validateCanReadGateway services lookups request .endpoint
  | .validateCanUpdateGatewayEndpoint =>
    validateGatewayWrite services lookups request .endpoint .update
  | .validateCanDeleteGatewayEndpoint =>
    validateGatewayWrite services lookups request .endpoint .delete
  | .validateCanReadGatewaySecret => validateCanReadGateway services lookups request .secret
  | .validateCanUpdateGatewaySecret =>
    validateGatewayWrite services lookups request .secret .update
  | .validateCanDeleteGatewaySecret =>
    validateGatewayWrite services lookups request .secret .delete
  | .validateCanReadGatewayModelDefinition =>
    validateCanReadGateway services lookups request .modelDefinition
  | .validateCanUpdateGatewayModelDefinition =>
    validateGatewayWrite services lookups request .modelDefinition .update
  | .validateCanDeleteGatewayModelDefinition =>
    validateGatewayWrite services lookups request .modelDefinition .delete
  | .denyNonAdmin => .ok false
  | .validateCanReadLoggedModel => (getPermissionFromModelId lookups request).map Permission.canRead
  | .validateCanDeleteLoggedModel =>
    (getPermissionFromModelId lookups request).map Permission.canDelete
  | .validateCanUpdateLoggedModel =>
    (getPermissionFromModelId lookups request).map Permission.canUpdate
  | .validateCanCreateWorkspace => validateCanCreateWorkspace services
  | .validateCanReadWorkspace => validateWorkspace services request Permission.canRead
  | .validateCanListWorkspaces => .ok services.config.mlflowEnableWorkspaces
  | .validateCanUpdateWorkspace | .validateCanDeleteWorkspace =>
    validateWorkspace services request Permission.canManage
  | .validateCanReadTraceArtifact =>
    (getPermissionFromTraceRequestId lookups request).map Permission.canRead
  | .validateCanReadMetricHistoryBulk => validateCanReadMetricHistoryBulk lookups request
  | .validateCanReadMetricHistoryBulkInterval =>
    validateCanReadMetricHistoryBulkInterval lookups request
  | .validateCanSearchDatasets => validateCanSearchDatasets lookups request
  | .validateCanCreatePromptlabRun => validateCanCreatePromptlabRun lookups request
  | .validateGatewayProxy => validateGatewayProxy lookups request
  | .validateCanReadExperimentArtifactProxy =>
    validateArtifactProxy services lookups request Permission.canRead
  | .validateCanUpdateExperimentArtifactProxy =>
    validateArtifactProxy services lookups request Permission.canUpdate
  | .validateCanDeleteExperimentArtifactProxy =>
    validateArtifactProxy services lookups request Permission.canDelete

end Validators

/-- The services of one request, whose validators are these, with the lookups for each user. -/
def HookServices.validating (services : HookServices) (lookups : String → ValidatorLookups)
    (request : FlaskRequest) : HookServices :=
  { services with
    validate := fun validator username => callValidator services (lookups username) request validator }

end MlflowOidcAuth
