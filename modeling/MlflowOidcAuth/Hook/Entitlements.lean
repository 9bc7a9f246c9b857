import MlflowOidcAuth.Hook.Validators
import MlflowOidcAuth.Library.Effects

/-! What a request that the hook lets through rests on. Apart from a few requests that anyone may
make, some permission of the user carries the flag that the validator reads. -/
namespace MlflowOidcAuth
open Effects

/-- The flag that a validator reads, which for the gateway proxy depends on the method. -/
def Validator.right (method : Method) : Validator → Permission → Bool
  | .validateCanReadExperiment | .validateCanReadExperimentByName | .validateCanReadRun
  | .validateCanReadRegisteredModel | .validateCanReadScorer
  | .validateCanReadPromptOptimizationJob | .validateCanReadGatewayEndpoint
  | .validateCanReadGatewaySecret | .validateCanReadGatewayModelDefinition
  | .validateCanReadLoggedModel | .validateCanReadWorkspace | .validateCanReadRunArtifact
  | .validateCanReadModelVersionArtifact | .validateCanReadTraceArtifact
  | .validateCanReadMetricHistoryBulk | .validateCanReadMetricHistoryBulkInterval
  | .validateCanSearchDatasets | .validateCanReadExperimentArtifactProxy => Permission.canRead
  | .validateCanUpdateExperiment | .validateCanUpdateRun | .validateCanUpdateRegisteredModel
  | .validateCanUpdatePromptOptimizationJob | .validateCanUpdateGatewayEndpoint
  | .validateCanUpdateGatewaySecret | .validateCanUpdateGatewayModelDefinition
  | .validateCanUpdateLoggedModel | .validateCanUpdateRunArtifact | .validateCanCreatePromptlabRun
  | .validateCanUpdateExperimentArtifactProxy => Permission.canUpdate
  | .validateCanDeleteExperiment | .validateCanDeleteRun | .validateCanDeleteRegisteredModel
  | .validateCanDeleteScorer | .validateCanDeletePromptOptimizationJob
  | .validateCanDeleteLoggedModel | .validateCanDeleteExperimentArtifactProxy =>
    Permission.canDelete
  | .validateCanDeleteGatewayEndpoint | .validateCanDeleteGatewaySecret
  | .validateCanDeleteGatewayModelDefinition | .validateCanUpdateWorkspace
  | .validateCanDeleteWorkspace => Permission.canManage
  | .validateGatewayProxy => proxyRight method
  | .validateCanCreateGateway | .validateCanCreateWorkspace | .validateCanListWorkspaces
  | .denyNonAdmin => fun _ => false

/-- The classes of which no operation changes what MLflow stores; the unlisted ones do both. -/
def RequestClass.reads : RequestClass → Bool
  | .getExperiment | .getExperimentByName | .getRun | .getMetricHistory | .listArtifacts
  | .getRegisteredModel | .getLatestVersions | .getModelVersion | .getModelVersionDownloadUri
  | .getModelVersionByAlias | .listScorers | .getScorer | .listScorerVersions
  | .getPromptOptimizationJob | .searchPromptOptimizationJobs | .getGatewayEndpoint
  | .getGatewaySecretInfo | .getGatewayModelDefinition | .listGatewayEndpointBindings
  | .getLoggedModel | .getWorkspace | .listWorkspaces | .proxyList | .proxyDownload => true
  | _ => false

section Grounds
variable (services : HookServices) (lookups : ValidatorLookups) (request : FlaskRequest)

/-- A permission that the user has on something. -/
inductive HoldsPermission (permission : Permission) : Prop
  | experiment {experimentId : JsonValue}
      (resolved : lookups.effectiveExperimentPermission experimentId = .ok permission)
  | registeredModel {name : JsonValue}
      (resolved : lookups.effectiveRegisteredModelPermission name = .ok permission)
  | scorer {experimentId name : JsonValue}
      (resolved : lookups.effectiveScorerPermission experimentId name = .ok permission)
  | gateway {kind : GatewayKind} {name : JsonValue}
      (resolved : lookups.effectiveGatewayPermission kind name = .ok permission)
  | row {names : List String} {name : String}
      (listed : lookups.listGatewayEndpointPermissions = .ok names) (member : name ∈ names)
      (stored : getPermission name = .ok permission)
  | workspace {auth : AuthContext} {workspace : String}
      (known : getAuthContext services.context = .ok auth)
      (assigned : services.workspacePermission auth.username workspace = .ok (some permission))

/-- The requests that a validator lets pass whatever permissions the user has. -/
inductive Exempt : Validator → Prop
  | creation : Exempt .validateCanCreateGateway
  | listing (enabled : services.config.mlflowEnableWorkspaces = true) :
      Exempt .validateCanListWorkspaces
  | unknownName {name : JsonValue} (named : request.getRequestParam "experiment_name" = .ok name)
      (absent : lookups.getExperimentByName name = .ok none) :
      Exempt .validateCanReadExperimentByName
  | noRuns (absent : request.argValues "run_ids" = []) (absent' : request.argValues "run_id" = []) :
      Exempt .validateCanReadMetricHistoryBulkInterval
  | outside {validator : Validator} {permission : Permission} (proxies : validator.forProxy = true)
      (unnamed : getExperimentIdFromViewArgs lookups.classes request = none)
      (default : getPermission services.config.defaultMlflowPermission = .ok permission)
      (allowed : validator.right request.method permission = true) : Exempt validator

/-- The user has a permission with the flag that the validator reads. -/
def Backed (validator : Validator) : Prop :=
  ∃ permission, HoldsPermission services lookups permission ∧
    validator.right request.method permission = true

end Grounds

section Soundness
variable {services : HookServices} {lookups : ValidatorLookups} {request : FlaskRequest}
  {allows : Permission → Bool} {permission : Permission}

theorem permission_allows {found : Except Failure Permission} :
    found.map allows = .ok true ↔ ∃ permission, found = .ok permission ∧ allows permission = true := by
  cases found <;> simp [Except.map]

theorem inherited_resolved {named : Except Failure JsonValue}
    {experimentOf : JsonValue → Except Failure JsonValue}
    (ok : inheritedPermission lookups named experimentOf = .ok permission) :
    HoldsPermission services lookups permission := by
  obtain ⟨resource,_,ok⟩ := bind_ok ok
  obtain ⟨experimentId,_,ok⟩ := bind_ok ok
  exact .experiment ok

variable (services) in
theorem guard_resolved {guard : Guard}
    (passed : guard.validate lookups.toLookups request allows = .ok true) :
    (∃ permission, HoldsPermission services lookups permission ∧ allows permission = true) ∨
      guard = .experimentByName ∧ ∃ name, request.getRequestParam "experiment_name" = .ok name ∧
        lookups.getExperimentByName name = .ok none := by
  obtain ⟨resource,checked,passed⟩ := bind_ok passed
  obtain ⟨permission,resolved,passed⟩ := bind_ok passed
  have allowed : allows permission = true := Except.ok.inj passed
  cases guard with
  | experiment => exact .inl ⟨permission,.experiment resolved,allowed⟩
  | registeredModel => exact .inl ⟨permission,.registeredModel resolved,allowed⟩
  | experimentByName =>
    obtain ⟨found,byName,resolved⟩ := bind_ok resolved
    cases found with
    | none => exact .inr ⟨rfl,resource,checked,byName⟩
    | some experiment => exact .inl ⟨permission,.experiment resolved,allowed⟩

theorem scorer_resolved (ok : getPermissionFromScorerName lookups request = .ok permission) :
    HoldsPermission services lookups permission := by
  obtain ⟨experimentId,_,ok⟩ := bind_ok ok
  obtain ⟨name,_,ok⟩ := bind_ok ok
  exact .scorer ok

theorem allReadable_resolved {experimentOf : JsonValue → Except Failure JsonValue}
    {resource : JsonValue} {rest : List JsonValue}
    (passed : allReadable lookups experimentOf (resource :: rest) = .ok true) :
    ∃ permission, HoldsPermission services lookups permission ∧ permission.canRead = true := by
  obtain ⟨experimentId,_,passed⟩ := bind_ok passed
  obtain ⟨permission,resolved,passed⟩ := bind_ok passed
  split at passed
  · next readable => exact ⟨permission,.experiment resolved,readable⟩
  · cases passed

theorem anyAllows_some {names : List String} (passed : anyAllows allows names = .ok true) :
    ∃ name ∈ names, ∃ permission, getPermission name = .ok permission ∧
      allows permission = true := by
  induction names with
  | nil => cases passed
  | cons name rest ih =>
    obtain ⟨permission,stored,passed⟩ := bind_ok passed
    split at passed
    · next allowed => exact ⟨name,List.mem_cons_self,permission,stored,allowed⟩
    · obtain ⟨other,member,grounds⟩ := ih passed
      exact ⟨other,List.mem_cons_of_mem _ member,grounds⟩

theorem bulk_resolved (passed : validateCanReadMetricHistoryBulk lookups request = .ok true) :
    ∃ permission, HoldsPermission services lookups permission ∧ permission.canRead = true := by
  simp only [validateCanReadMetricHistoryBulk] at passed
  split at passed
  · cases passed
  · next present =>
    obtain ⟨resource,rest,listed⟩ := List.exists_cons_of_ne_nil present
    rw [listed] at passed
    exact allReadable_resolved passed

variable (services) in
theorem interval_resolved
    (passed : validateCanReadMetricHistoryBulkInterval lookups request = .ok true) :
    (request.argValues "run_ids" = [] ∧ request.argValues "run_id" = []) ∨
      ∃ permission, HoldsPermission services lookups permission ∧ permission.canRead = true := by
  simp only [validateCanReadMetricHistoryBulkInterval] at passed
  cases runIds : request.argValues "run_ids" with
  | cons resource rest =>
    simp only [runIds,reduceCtorEq,if_false] at passed
    exact .inr (allReadable_resolved passed)
  | nil =>
    simp only [runIds,if_true] at passed
    cases runId : request.argValues "run_id" with
    | nil => exact .inl ⟨rfl,rfl⟩
    | cons resource rest =>
      rw [runId] at passed
      exact .inr (allReadable_resolved passed)

theorem datasets_resolved (passed : validateCanSearchDatasets lookups request = .ok true) :
    ∃ permission, HoldsPermission services lookups permission ∧ permission.canRead = true := by
  simp only [validateCanSearchDatasets] at passed
  split at passed
  · split at passed
    · cases passed
    · next value sent =>
      obtain ⟨elements,iterated,passed⟩ := bind_ok passed
      have truthful := (Option.filter_eq_some_iff.mp sent).2
      cases elements with
      | nil => exact absurd iterated (lookups.iterate_truthy value truthful)
      | cons resource rest => exact allReadable_resolved passed
  · split at passed
    · cases passed
    · next present =>
      obtain ⟨resource,rest,listed⟩ := List.exists_cons_of_ne_nil present
      rw [listed] at passed
      exact allReadable_resolved passed

theorem promptlab_resolved (passed : validateCanCreatePromptlabRun lookups request = .ok true) :
    ∃ permission, HoldsPermission services lookups permission ∧ permission.canUpdate = true := by
  unfold validateCanCreatePromptlabRun at passed
  split at passed
  · obtain ⟨permission,resolved,allowed⟩ := permission_allows.mp passed
    exact ⟨permission,.experiment resolved,allowed⟩
  · split at passed <;> cases passed

theorem proxy_resolved (passed : validateGatewayProxy lookups request = .ok true) :
    ∃ permission, HoldsPermission services lookups permission ∧
      proxyRight request.method permission = true := by
  unfold validateGatewayProxy at passed
  split at passed
  · obtain ⟨permission,resolved,allowed⟩ := permission_allows.mp passed
    exact ⟨permission,.gateway resolved,allowed⟩
  · obtain ⟨names,listed,passed⟩ := bind_ok passed
    obtain ⟨name,member,permission,stored,allowed⟩ := anyAllows_some passed
    exact ⟨permission,.row listed member stored,allowed⟩

theorem gatewayRead_resolved {kind : GatewayKind}
    (passed : validateCanReadGateway services lookups request kind = .ok true) :
    ∃ permission, HoldsPermission services lookups permission ∧ permission.canRead = true := by
  unfold validateCanReadGateway at passed
  split at passed
  · cases passed
  · obtain ⟨permission,resolved,allowed⟩ := permission_allows.mp passed
    exact ⟨permission,.gateway resolved,allowed⟩

def GatewayOperation.right : GatewayOperation → Permission → Bool
  | .update => Permission.canUpdate
  | .delete => Permission.canManage

theorem gatewayWrite_resolved {kind : GatewayKind} {operation : GatewayOperation}
    (passed : validateGatewayWrite services lookups request kind operation = .ok true) :
    ∃ permission, HoldsPermission services lookups permission ∧
      operation.right permission = true := by
  unfold validateGatewayWrite validateGateway at passed
  split at passed
  · cases passed
  · obtain ⟨permission,resolved,passed⟩ := bind_ok passed
    cases operation with
    | update => exact ⟨permission,.gateway resolved,Except.ok.inj passed⟩
    | delete => exact ⟨permission,.gateway resolved,Except.ok.inj passed⟩

theorem workspace_resolved {auth : AuthContext} (known : getAuthContext services.context = .ok auth)
    (plain : auth.isAdmin = false)
    (passed : validateWorkspace services request allows = .ok true) :
    ∃ permission, HoldsPermission services lookups permission ∧ allows permission = true := by
  unfold validateWorkspace at passed
  split at passed
  · obtain ⟨found,got,passed⟩ := bind_ok passed
    rw [known,Except.ok.injEq] at got
    subst got
    simp only [plain,Bool.false_eq_true,if_false] at passed
    split at passed
    · cases passed
    · next workspace named =>
      obtain ⟨assigned,asked,passed⟩ := bind_ok passed
      cases assigned with
      | none => cases passed
      | some permission =>
        exact ⟨permission,.workspace known asked,Except.ok.inj passed⟩
  · cases passed

theorem artifact_resolved
    (passed : validateArtifactProxy services lookups request allows = .ok true) :
    (∃ permission, HoldsPermission services lookups permission ∧ allows permission = true) ∨
      getExperimentIdFromViewArgs lookups.classes request = none ∧ ∃ permission,
        getPermission services.config.defaultMlflowPermission = .ok permission ∧
          allows permission = true := by
  obtain ⟨permission,found,allowed⟩ := permission_allows.mp passed
  unfold getPermissionFromExperimentIdArtifactProxy at found
  cases named : getExperimentIdFromViewArgs lookups.classes request with
  | some experimentId =>
    rw [named] at found
    exact .inl ⟨permission,.experiment found,allowed⟩
  | none =>
    rw [named] at found
    exact .inr ⟨rfl,permission,found,allowed⟩

/-- No validator consents without a permission to point to, but for the exempt requests. -/
theorem passed_backed {auth : AuthContext} (known : getAuthContext services.context = .ok auth)
    (plain : auth.isAdmin = false) {validator : Validator}
    (passed : callValidator services lookups request validator = .ok true) :
    Exempt services lookups request validator ∨ Backed services lookups request validator := by
  have guarded : ∀ {guard : Guard} {allows : Permission → Bool}, guard ≠ .experimentByName →
      guard.validate lookups.toLookups request allows = .ok true →
      ∃ permission, HoldsPermission services lookups permission ∧ allows permission = true := by
    intro guard allows other passed
    exact (guard_resolved services passed).resolve_right (fun byName => other byName.1)
  have resolves : ∀ {found : Except Failure Permission} {allows : Permission → Bool},
      (∀ permission, found = .ok permission → HoldsPermission services lookups permission) →
      found.map allows = .ok true →
      ∃ permission, HoldsPermission services lookups permission ∧ allows permission = true := by
    intro found allows holds passed
    obtain ⟨permission,resolved,allowed⟩ := permission_allows.mp passed
    exact ⟨permission,holds permission resolved,allowed⟩
  cases validator with
  | validateCanReadExperiment | validateCanDeleteExperiment | validateCanUpdateExperiment
  | validateCanReadRegisteredModel | validateCanDeleteRegisteredModel
  | validateCanUpdateRegisteredModel | validateCanReadModelVersionArtifact =>
    exact .inr (guarded (by decide) passed)
  | validateCanReadExperimentByName =>
    rcases guard_resolved services passed with grounds | ⟨_,name,named,absent⟩
    · exact .inr grounds
    · exact .inl (.unknownName named absent)
  | validateCanReadRun | validateCanDeleteRun | validateCanUpdateRun | validateCanReadRunArtifact
  | validateCanUpdateRunArtifact | validateCanReadPromptOptimizationJob
  | validateCanDeletePromptOptimizationJob | validateCanUpdatePromptOptimizationJob
  | validateCanReadLoggedModel | validateCanDeleteLoggedModel | validateCanUpdateLoggedModel
  | validateCanReadTraceArtifact =>
    exact .inr (resolves (fun _ => inherited_resolved) passed)
  | validateCanReadScorer | validateCanDeleteScorer =>
    exact .inr (resolves (fun _ => scorer_resolved) passed)
  | validateCanCreateGateway => exact .inl .creation
  | validateCanReadGatewayEndpoint | validateCanReadGatewaySecret
  | validateCanReadGatewayModelDefinition => exact .inr (gatewayRead_resolved passed)
  | validateCanUpdateGatewayEndpoint | validateCanDeleteGatewayEndpoint
  | validateCanUpdateGatewaySecret | validateCanDeleteGatewaySecret
  | validateCanUpdateGatewayModelDefinition | validateCanDeleteGatewayModelDefinition =>
    exact .inr (gatewayWrite_resolved passed)
  | denyNonAdmin => cases passed
  | validateCanCreateWorkspace =>
    simp only [callValidator,validateCanCreateWorkspace,known,Except.map,plain,ite_self,
      Except.ok.injEq,Bool.false_eq_true] at passed
  | validateCanReadWorkspace | validateCanUpdateWorkspace | validateCanDeleteWorkspace =>
    exact .inr (workspace_resolved known plain passed)
  | validateCanListWorkspaces => exact .inl (.listing (Except.ok.inj passed))
  | validateCanReadMetricHistoryBulk => exact .inr (bulk_resolved passed)
  | validateCanReadMetricHistoryBulkInterval =>
    rcases interval_resolved services passed with ⟨absent,absent'⟩ | grounds
    · exact .inl (.noRuns absent absent')
    · exact .inr grounds
  | validateCanSearchDatasets => exact .inr (datasets_resolved passed)
  | validateCanCreatePromptlabRun => exact .inr (promptlab_resolved passed)
  | validateGatewayProxy => exact .inr (proxy_resolved passed)
  | validateCanReadExperimentArtifactProxy | validateCanUpdateExperimentArtifactProxy
  | validateCanDeleteExperimentArtifactProxy =>
    rcases artifact_resolved passed with grounds | ⟨unnamed,permission,default,allowed⟩
    · exact .inr grounds
    · exact .inl (.outside rfl unnamed default allowed)

theorem exempt_passes {validator : Validator} (exempt : Exempt services lookups request validator) :
    callValidator services lookups request validator = .ok true := by
  cases exempt with
  | creation => rfl
  | listing enabled => exact congrArg Except.ok enabled
  | unknownName named absent =>
    simp only [callValidator,Guard.validate,Guard.checked,Guard.permissionOn,named,bind,Except.bind,
      absent,pure,Except.pure,Permission.manage]
  | noRuns absent absent' =>
    simp only [callValidator,validateCanReadMetricHistoryBulkInterval,absent,absent',if_true]
    rfl
  | @outside _ permission proxies unnamed default allowed =>
    have passed : ∀ allows : Permission → Bool, allows permission = true →
        validateArtifactProxy services lookups request allows = .ok true := by
      intro allows allowed
      apply permission_allows.mpr
      refine ⟨_,?_,allowed⟩
      unfold getPermissionFromExperimentIdArtifactProxy
      rw [unnamed]
      exact default
    cases validator with
    | validateCanReadExperimentArtifactProxy | validateCanUpdateExperimentArtifactProxy
    | validateCanDeleteExperimentArtifactProxy => exact passed _ allowed
    | _ => cases proxies

end Soundness

section Hook
variable {app : FlaskApplication} {services : HookServices}
  {lookups : String → ValidatorLookups} {request : FlaskRequest} {auth : AuthContext}

/-- The validator that the hook calls for a request, if it calls one. -/
def calledValidator (app : FlaskApplication) (request : FlaskRequest) : Option Validator :=
  match findValidator app request with
  | some validator => some validator
  | none =>
    if isProxyArtifactPath request.path then
      getProxyArtifactValidator request.method request.viewArgs
    else none

theorem run_validating {validator : Validator} {username : String} :
    (services.validating lookups request).run validator username =
      callValidator services (lookups username) request validator := by
  unfold HookServices.run
  split
  · next sentinel =>
    subst sentinel
    rfl
  · rfl

theorem authorize_iff {username : String} :
    authorize app (services.validating lookups request) request username = .ok true ↔
      ∀ validator, calledValidator app request = some validator →
        callValidator services (lookups username) request validator = .ok true := by
  unfold authorize calledValidator
  cases findValidator app request with
  | some validator => simp [run_validating]
  | none =>
    simp only
    split
    · cases getProxyArtifactValidator request.method request.viewArgs with
      | some validator => simp [run_validating]
      | none => simp
    · simp

/-- A creation in a workspace that the request names. -/
def createsInWorkspace (app : FlaskApplication) (services : HookServices) (request : FlaskRequest) :
    Bool :=
  services.config.mlflowEnableWorkspaces && isWorkspaceGatedCreation app request &&
    (truthy (getRequestWorkspace services.context)).isSome

theorem gate_iff_unmanaged (known : getAuthContext services.context = .ok auth)
    (unmanaged : ∀ permission, HoldsPermission services (lookups auth.username) permission →
      permission.canManage = false) :
    workspaceGate app (services.validating lookups request) request auth.username = .ok true ↔
      createsInWorkspace app services request = false := by
  have same : workspaceGate app (services.validating lookups request) request auth.username =
      workspaceGate app services request auth.username := rfl
  rw [same,workspaceGate,createsInWorkspace]
  by_cases gated :
      (services.config.mlflowEnableWorkspaces && isWorkspaceGatedCreation app request) = true
  · rw [if_pos gated]
    cases named : truthy (getRequestWorkspace services.context) with
    | none => simp
    | some workspace =>
      simp only [gated,Option.isSome_some,Bool.and_self,Bool.true_eq_false,iff_false]
      intro passed
      obtain ⟨assigned,asked,passed⟩ := bind_ok passed
      cases assigned with
      | none => cases passed
      | some permission =>
        have refused := unmanaged permission (.workspace known asked)
        rw [Except.ok.inj passed] at refused
        cases refused
  · rw [if_neg gated]
    simp [Bool.eq_false_of_not_eq_true gated]

theorem hook_iff (known : getAuthContext services.context = .ok auth) (solid : auth.username ≠ "")
    (plain : auth.isAdmin = false) :
    (beforeRequestHook app (services.validating lookups request) request).2 = none ↔
      isUnprotectedRoute request.path = true ∨
        workspaceGate app (services.validating lookups request) request auth.username = .ok true ∧
        (∀ validator, calledValidator app request = some validator →
          callValidator services (lookups auth.username) request validator = .ok true) ∧
        checkQuota services request auth.username = none := by
  have named : (services.validating lookups request).username = some auth.username := by
    simp [HookServices.username,HookServices.validating,known,truthy,solid]
  have notAdmin : (services.validating lookups request).isAdmin = false := by
    simp [HookServices.isAdmin,HookServices.validating,known,plain]
  cases protect : isUnprotectedRoute request.path with
  | true => simp [beforeRequestHook,protect]
  | false =>
    rw [passed_iff protect named notAdmin,letsIn_iff,authorize_iff,and_assoc]
    simp only [Bool.false_eq_true,false_or]
    rfl

end Hook

section Alice

theorem post_declared : Method.post ≠ .head := by decide

theorem deletion_unproxied (proxyMethod : Method)
    (named : RequestClass.deleteExperiment.proxyMethod = some proxyMethod) :
    Method.post = proxyMethod := by
  cases named

def deleteExperimentRoute : Route where
  template := ⟨literalTemplate "/api/2.0/mlflow/experiments/delete" [],by decide⟩
  method := .post
  requestClass := .deleteExperiment
  declared := post_declared
  proxied := deletion_unproxied

def deletionApplication : FlaskApplication where
  staticPrefix := ""
  routes := [deleteExperimentRoute]
  dispatch := fun path method =>
    if path = deleteExperimentRoute.httpPath ∧ method = .post then some deleteExperimentRoute
    else none
  dispatched := by
    intro path method route found
    obtain ⟨⟨rfl,rfl⟩,same⟩ := Option.ite_none_right_eq_some.mp found
    obtain rfl := Option.some.inj same
    decide
  ownPath := by
    intro path method route found other member _ _
    obtain ⟨_,same⟩ := Option.ite_none_right_eq_some.mp found
    rw [List.mem_singleton.mp member,Option.some.inj same]
  apart := by
    intro path method route found other member _ _ _
    obtain ⟨_,same⟩ := Option.ite_none_right_eq_some.mp found
    rw [List.mem_singleton.mp member,Option.some.inj same]
  fixedApart := by
    intro path method route found _
    obtain ⟨⟨rfl,rfl⟩,_⟩ := Option.ite_none_right_eq_some.mp found
    decide

def deleteExperimentRequest : FlaskRequest := requestTo .post "/api/2.0/mlflow/experiments/delete" []

/-- Alice is no administrator, and what is not granted is denied. -/
def closedServices : HookServices :=
  { HookServices.allBut .denyNonAdmin with
    config := { AppConfig.default with defaultMlflowPermission := "NO_PERMISSIONS" }
    context := ⟨some ⟨"alice",false,none⟩,none⟩ }

/-- A user with one permission on everything, in a server that stores nothing. -/
def uniformLookups (permission : Permission) : ValidatorLookups where
  getExperimentByName := fun _ => .ok none
  effectiveExperimentPermission := fun _ => .ok permission
  effectiveRegisteredModelPermission := fun _ => .ok permission
  classes := .ascii
  getRun := fun _ => .error (.mlflow .resourceDoesNotExist "Run not found")
  getTraceInfo := fun _ => .error (.mlflow .resourceDoesNotExist "Trace not found")
  getLoggedModel := fun _ => .error (.mlflow .resourceDoesNotExist "Logged model not found")
  getJobParams := fun _ => .error (.mlflow .resourceDoesNotExist "Job not found")
  effectiveScorerPermission := fun _ _ => .ok permission
  effectiveGatewayPermission := fun _ _ => .ok permission
  listGatewayEndpointPermissions := .ok []
  iterate := fun value => .error (.other (value.text ++ " is not iterable"))
  iterate_truthy := fun _ _ iterated => nomatch iterated

theorem uniformLookups_holds {permission held : Permission}
    (holds : HoldsPermission closedServices (uniformLookups permission) held) :
    held = permission := by
  cases holds with
  | experiment resolved | registeredModel resolved | scorer resolved | gateway resolved =>
    exact (Except.ok.inj resolved).symm
  | row listed member _ =>
    rw [← Except.ok.inj listed] at member
    cases member
  | workspace _ assigned => cases assigned

end Alice

section Surface
variable {services : HookServices} {request : FlaskRequest}

/-- What is left to a user that is denied everything: the open routes, the requests that no
validator is called for, and the exempt ones. -/
theorem denied_passes_iff (app : FlaskApplication) (services : HookServices)
    (lookups : String → ValidatorLookups) (request : FlaskRequest) (auth : AuthContext)
    (known : getAuthContext services.context = .ok auth) (solid : auth.username ≠ "")
    (plain : auth.isAdmin = false)
    (denied : ∀ permission, HoldsPermission services (lookups auth.username) permission →
      permission = .noPermissions) :
    (beforeRequestHook app (services.validating lookups request) request).2 = none ↔
      isUnprotectedRoute request.path = true ∨
        createsInWorkspace app services request = false ∧
        (∀ validator, calledValidator app request = some validator →
          Exempt services (lookups auth.username) request validator) ∧
        checkQuota services request auth.username = none := by
  have unmanaged : ∀ permission, HoldsPermission services (lookups auth.username) permission →
      permission.canManage = false := by
    intro permission holds
    rw [denied permission holds]
    rfl
  have unbacked : ∀ validator,
      ¬ Backed services (lookups auth.username) request validator := by
    rintro validator ⟨permission,holds,allowed⟩
    rw [denied permission holds] at allowed
    cases validator <;> first | cases allowed | skip
    · simp only [Validator.right,proxyRight] at allowed
      split at allowed <;> cases allowed
  rw [hook_iff known solid plain,gate_iff_unmanaged known unmanaged]
  apply or_congr_right
  apply and_congr_right
  intro _
  apply and_congr_left
  intro _
  apply forall₂_congr
  intro validator _
  constructor
  · intro passed
    exact (passed_backed known plain passed).resolve_right (unbacked validator)
  · intro exempt
    exact exempt_passes exempt

theorem denied_passes_alice :
    (beforeRequestHook deletionApplication
      (closedServices.validating (fun _ => uniformLookups .noPermissions) deleteExperimentRequest)
      deleteExperimentRequest).2 ≠ none := by
  intro passed
  have grounds := (denied_passes_iff deletionApplication closedServices
    (fun _ => uniformLookups .noPermissions) deleteExperimentRequest ⟨"alice",false,none⟩ rfl
    (by decide) rfl (fun _ => uniformLookups_holds)).mp passed
  rcases grounds with unprotected | ⟨_,exempt,_⟩
  · exact absurd unprotected (by decide)
  · have called : calledValidator deletionApplication deleteExperimentRequest =
        some .validateCanDeleteExperiment := by decide
    cases exempt _ called with
    | outside proxies _ _ _ => cases proxies

/-- A validator of a class that writes reads one of three flags. -/
theorem writing_right {requestClass : RequestClass} {registry : Registry} {validator : Validator}
    (registered : requestClass.registered = some (registry,validator))
    (writes : requestClass.reads = false) {permission : Permission}
    (noUpdate : permission.canUpdate = false) (noDelete : permission.canDelete = false)
    (noManage : permission.canManage = false) : validator.right request.method permission = false := by
  cases requestClass <;> cases registered <;>
    first | exact noUpdate | exact noDelete | exact noManage | rfl | cases writes

theorem writing_exempt {requestClass : RequestClass} {registry : Registry} {validator : Validator}
    (registered : requestClass.registered = some (registry,validator))
    (writes : requestClass.reads = false) {lookups : ValidatorLookups}
    (exempt : Exempt services lookups request validator) :
    validator = .validateCanCreateGateway ∨ ∃ permission,
      getPermission services.config.defaultMlflowPermission = .ok permission ∧
        validator.right request.method permission = true := by
  cases exempt with
  | creation => exact .inl rfl
  | outside proxies unnamed default allowed => exact .inr ⟨_,default,allowed⟩
  | listing | unknownName | noRuns =>
    cases requestClass <;> cases registered <;> cases writes

/-- Whoever may only read changes nothing: no covered route of a class that writes and has a
validator lets the user pass, except that anyone may create gateway resources. -/
theorem reader_writes_nothing (app : FlaskApplication) (services : HookServices)
    (lookups : String → ValidatorLookups) (request : FlaskRequest) (auth : AuthContext)
    (known : getAuthContext services.context = .ok auth) (solid : auth.username ≠ "")
    (plain : auth.isAdmin = false)
    (reads : ∀ permission, HoldsPermission services (lookups auth.username) permission ∨
      getPermission services.config.defaultMlflowPermission = .ok permission →
        permission.canUpdate = false ∧ permission.canDelete = false ∧ permission.canManage = false)
    {route : Route} {registry : Registry} {validator : Validator}
    (dispatches : app.Dispatches request route)
    (registered : route.requestClass.registered = some (registry,validator))
    (covers : route.Covers registry request) (writes : route.requestClass.reads = false)
    (noCreation : validator ≠ .validateCanCreateGateway) :
    (beforeRequestHook app (services.validating lookups request) request).2 ≠ none := by
  intro passed
  have harmless : ∀ permission, HoldsPermission services (lookups auth.username) permission ∨
      getPermission services.config.defaultMlflowPermission = .ok permission →
      validator.right request.method permission = false := by
    intro permission holds
    obtain ⟨noUpdate,noDelete,noManage⟩ := reads permission holds
    exact writing_right registered writes noUpdate noDelete noManage
  rw [hook_iff known solid plain,covers.protect] at passed
  obtain ⟨_,consents,_⟩ := passed.resolve_left Bool.false_ne_true
  have consent := authorize_iff.mpr consents
  rw [authorize_of_covers dispatches registered covers,run_validating] at consent
  rcases passed_backed known plain consent with exempt | ⟨permission,holds,allowed⟩
  · rcases writing_exempt registered writes exempt with creation | ⟨permission,default,allowed⟩
    · exact noCreation creation
    · rw [harmless permission (.inr default)] at allowed
      cases allowed
  · rw [harmless permission (.inl holds)] at allowed
    cases allowed

theorem reader_deletes_nothing :
    (beforeRequestHook deletionApplication
      (closedServices.validating (fun _ => uniformLookups .read) deleteExperimentRequest)
      deleteExperimentRequest).2 ≠ none := by
  have reads : ∀ permission, HoldsPermission closedServices (uniformLookups .read) permission ∨
      getPermission closedServices.config.defaultMlflowPermission = .ok permission →
        permission.canUpdate = false ∧ permission.canDelete = false ∧
          permission.canManage = false := by
    intro permission held
    rcases held with holds | default
    · rw [uniformLookups_holds holds]
      decide
    · rw [← Except.ok.inj default]
      decide
  have dispatches : deletionApplication.Dispatches deleteExperimentRequest deleteExperimentRoute :=
    ⟨by decide,rfl⟩
  exact reader_writes_nothing deletionApplication closedServices (fun _ => uniformLookups .read)
    deleteExperimentRequest ⟨"alice",false,none⟩ rfl (by decide) rfl reads dispatches rfl
    ⟨by decide,rfl,by decide,by decide,by decide⟩ rfl (by decide)

end Surface
end MlflowOidcAuth
