import MlflowOidcAuth.Hook.Gateway
import MlflowOidcAuth.Hook.Routes
import MlflowOidcAuth.Resolution.Workspace

/-! The before-request hook: which validator it finds for a request, and which requests
of the routes that have one get past it unchecked. -/
namespace MlflowOidcAuth
open OrderedDict PathPatterns

def containsText (text path : String) : Bool :=
  path.toList.tails.any text.toList.isPrefixOf

def startsWith (start path : String) : Bool := start.toList.isPrefixOf path.toList

def endsWith (ending path : String) : Bool := ending.toList.isSuffixOf path.toList

def isUnprotectedRoute (path : String) : Bool :=
  ["/static","/favicon.ico","/health","/metrics","/docs","/redoc","/openapi.json"].any
    (startsWith · path)

def proxyArtifactPrefix : String := "/api/2.0/mlflow-artifacts/artifacts/"

def isProxyArtifactPath (path : String) : Bool := startsWith proxyArtifactPrefix path

def getProxyArtifactValidator (method : Method) (viewArgs : Option (List (String × String))) :
    Option Validator :=
  match viewArgs with
  | none => some .validateCanReadExperimentArtifactProxy
  | some _ =>
    match method with
    | .get => some .validateCanReadExperimentArtifactProxy
    | .put => some .validateCanUpdateExperimentArtifactProxy
    | .delete => some .validateCanDeleteExperimentArtifactProxy
    | _ => none

/-- The validators of `_get_proxy_artifact_validator`. -/
def Validator.forProxy : Validator → Bool
  | .validateCanReadExperimentArtifactProxy | .validateCanUpdateExperimentArtifactProxy
  | .validateCanDeleteExperimentArtifactProxy => true
  | _ => false

/-- What the hook asks of the plugin and its store. -/
structure HookServices where
  config : AppConfig
  context : RequestContext
  nameOfId : NameOfId
  validate : Validator → String → Except Failure Bool
  workspacePermission : String → String → Except Failure (Option Permission)
  enforceQuota : String → Except Failure Unit
  experimentOwner : String → Except Failure (Option String)
  incrementUsedBytes : String → Nat → Except Failure Unit

namespace HookServices
variable (services : HookServices)

/-- `get_fastapi_username`, an exception being no name. -/
def username : Option String :=
  match getAuthContext services.context with
  | .ok auth => truthy (some auth.username)
  | .error _ => none

def isAdmin : Bool :=
  match getAuthContext services.context with
  | .ok auth => auth.isAdmin
  | .error _ => false

/-- A call of the validator; the sentinel denies whoever asks. -/
def run (validator : Validator) (username : String) : Except Failure Bool :=
  if validator = .denyNonAdmin then .ok false else services.validate validator username

end HookServices

inductive HookResponse
  | authRequired
  | forbidden
  | failed (failure : Failure)
deriving DecidableEq, Repr

section Hook
variable (app : FlaskApplication) (services : HookServices) (request : FlaskRequest)

/-- A table keyed by compiled patterns: the first that matches the path, of this method. -/
def matching (key : List Token × Method) : Bool :=
  fits request.path.toList key.1 && decide (key.2 = request.method)

def findValidator : Option Validator :=
  if containsText "/mlflow/workspaces" request.path then
    firstWhere (matching request) (workspaceBeforeRequestValidators app.routes)
  else if containsText "/mlflow/logged-models" request.path then
    (firstWhere (matching request) (loggedModelBeforeRequestValidators app.routes)).join
  else
    get (beforeRequestValidators app.staticPrefix app.routes) (request.path,request.method)

def isWorkspaceGatedCreation : Bool :=
  decide ((request.path,request.method) ∈ workspaceGatedCreationPaths app.routes)

/-- Creations ask for `MANAGE` on the workspace they go to. -/
def workspaceGate (username : String) : Except Failure Bool :=
  if services.config.mlflowEnableWorkspaces && isWorkspaceGatedCreation app request then
    match truthy (getRequestWorkspace services.context) with
    | none => .ok true
    | some workspace => do
      match ← services.workspacePermission username workspace with
      | none => return false
      | some permission => return permission.canManage
  else .ok true

def authorize (username : String) : Except Failure Bool :=
  match findValidator app request with
  | some validator => services.run validator username
  | none =>
    if isProxyArtifactPath request.path then
      match getProxyArtifactValidator request.method request.viewArgs with
      | some validator => services.run validator username
      | none => .ok true
    else .ok true

/-- The account an operation is charged to, if it is charged. -/
def chargeOwner (experimentId : String) (bytes : Option Nat) : Except Failure Unit := do
  match truthy (← services.experimentOwner experimentId) with
  | none => return ()
  | some owner =>
    services.enforceQuota owner
    match bytes with
    | some (size + 1) => services.incrementUsedBytes owner (size + 1)
    | _ => return ()

def quotaCharge (username : String) : Except Failure Unit :=
  if request.method = .post ∧ endsWith "/experiments/create" request.path = true then
    services.enforceQuota username
  else if request.method = .post ∧ endsWith "/runs/create" request.path = true then
    match truthyField request "experiment_id" with
    | some experimentId => chargeOwner services experimentId.text none
    | none => .ok ()
  else if isProxyArtifactPath request.path = true ∧ request.method = .put then
    let remainder := request.path.toList.drop proxyArtifactPrefix.toList.length
    let experimentId := String.ofList (remainder.takeWhile (fun c => decide (c ≠ '/')))
    if experimentId ≠ "" then chargeOwner services experimentId request.contentLength else .ok ()
  else .ok ()

/-- `_check_quota`: an error other than MLflow's own lets the request go on. -/
def checkQuota (username : String) : Option HookResponse :=
  match quotaCharge services request username with
  | .ok () => none
  | .error failure => if failure.isMlflow then some .forbidden else none

/-- The names that `_stash_gateway_context` keeps for the validator found. -/
def stashFor : Option Validator → GatewayContext
  | some .validateCanUpdateGatewayEndpoint =>
    stashGatewayContext services.nameOfId request .endpoint .update
  | some .validateCanDeleteGatewayEndpoint =>
    stashGatewayContext services.nameOfId request .endpoint .delete
  | some .validateCanDeleteGatewaySecret =>
    stashGatewayContext services.nameOfId request .secret .delete
  | some .validateCanDeleteGatewayModelDefinition =>
    stashGatewayContext services.nameOfId request .modelDefinition .delete
  | _ => .empty

def letsIn (username : String) : Except Failure Bool := do
  if ← workspaceGate app services request username then authorize app services request username
  else return false

/-- The stashed names and the response; without a response the view is called. -/
def beforeRequestHook : GatewayContext × Option HookResponse :=
  if isUnprotectedRoute request.path then (.empty,none)
  else match services.username with
    | none => (.empty,some .authRequired)
    | some username =>
      let stashed := stashFor services request (findValidator app request)
      if services.isAdmin then (stashed,none)
      else match letsIn app services request username with
        | .error failure => (stashed,some (.failed failure))
        | .ok false => (stashed,some .forbidden)
        | .ok true => (stashed,checkQuota services request username)

end Hook

/-- Flask hands the request to the view of the route. -/
def FlaskApplication.Dispatches (app : FlaskApplication) (request : FlaskRequest)
    (route : Route) : Prop :=
  app.dispatch request.path request.method = some route ∧ request.viewArgs.isSome = true

/-- A non-admin gets past the hook to a registered view only with its validator's consent. -/
def ChecksRegistered (app : FlaskApplication) (request : FlaskRequest) : Prop :=
  ∀ route registry validator, app.Dispatches request route →
    route.requestClass.registered = some (registry,validator) →
    ∀ (services : HookServices) username, services.username = some username →
      services.isAdmin = false → (beforeRequestHook app services request).2 = none →
      services.run validator username = .ok true

/-- The path is one that the table of the registry is consulted for, and finds. -/
def Route.Located (route : Route) (request : FlaskRequest) : Registry → Prop
  | .beforeRequest => containsText "/mlflow/workspaces" request.path = false ∧
      containsText "/mlflow/logged-models" request.path = false ∧ request.path = route.httpPath
  | .loggedModel => containsText "/mlflow/workspaces" request.path = false ∧
      containsText "/mlflow/logged-models" request.path = true ∧
      fits request.path.toList route.template.reCompilePath = true
  | .workspace => containsText "/mlflow/workspaces" request.path = true ∧
      fits request.path.toList route.template.reCompilePath = true
  | .proxyArtifact => isProxyArtifactPath request.path = true

/-- The requests to a route of a registry that its validator is called for. -/
structure Route.Covers (route : Route) (registry : Registry) (request : FlaskRequest) : Prop where
  protect : isUnprotectedRoute request.path = false
  declared : request.method = route.method
  located : route.Located request registry

section Lookup
variable {app : FlaskApplication} {request : FlaskRequest} {route : Route}
  {registry : Registry} {validator : Validator}

theorem matching_iff {tokens : List Token} {method : Method} :
    matching request (tokens,method) = true ↔
      request.method = method ∧ fits request.path.toList tokens = true := by
  simp only [matching,Bool.and_eq_true,decide_eq_true_eq]
  constructor
  · rintro ⟨fit,rfl⟩
    exact ⟨rfl,fit⟩
  · rintro ⟨rfl,fit⟩
    exact ⟨fit,rfl⟩

section Tables
variable (dispatches : app.Dispatches request route)
include dispatches

theorem pattern_only {other : Route} (member : other ∈ app.routes)
    (byPattern : route.byPattern = true ∨ other.byPattern = true)
    (matched : matching request (other.template.reCompilePath,other.method) = true) :
    other = route := by
  obtain ⟨sameMethod,fit⟩ := matching_iff.mp matched
  exact app.apart _ _ _ dispatches.1 other member sameMethod.symm fit byPattern

theorem workspace_found :
    firstWhere (matching request) (workspaceBeforeRequestValidators app.routes) = some validator ↔
      route.requestClass.registered = some (.workspace,validator) ∧
        request.method = route.method ∧
          fits request.path.toList route.template.reCompilePath = true := by
  obtain ⟨member,_,_⟩ := app.dispatched _ _ _ dispatches.1
  rw [← RequestClass.handlerIn_iff,← matching_iff]
  apply firstWhere_validators [] member
  · intro other member' handled matched
    apply pattern_only dispatches member' _ matched
    exact .inr (by simp only [Route.byPattern,handled,Bool.or_true])
  · intro entry listed
    cases listed

theorem loggedModel_found :
    (firstWhere (matching request) (loggedModelBeforeRequestValidators app.routes)).join =
        some validator ↔
      route.requestClass.registered = some (.loggedModel,validator) ∧
        request.method = route.method ∧
          fits request.path.toList route.template.reCompilePath = true := by
  obtain ⟨member,_,_⟩ := app.dispatched _ _ _ dispatches.1
  rw [← RequestClass.handlerIn_iff,← matching_iff]
  apply firstWhere_loggedModels member
  intro other member' handled matched
  apply pattern_only dispatches member' _ matched
  exact handled.imp (fun handled => by simp only [Route.byPattern,handled,Bool.true_or])
    (fun handled => by simp only [Route.byPattern,handled,Bool.true_or])

theorem path_found (registered : route.requestClass.registered.isSome = true) :
    get (beforeRequestValidators app.staticPrefix app.routes) (request.path,request.method) =
        some validator ↔
      route.requestClass.registered = some (.beforeRequest,validator) ∧
        request.method = route.method ∧ request.path = route.httpPath := by
  obtain ⟨member,_,_⟩ := app.dispatched _ _ _ dispatches.1
  have tested : decide ((route.httpPath,route.method) = (request.path,request.method)) = true ↔
      request.method = route.method ∧ request.path = route.httpPath := by
    rw [decide_eq_true_eq,Prod.mk.injEq,and_comm,eq_comm,@eq_comm _ route.httpPath]
  rw [← RequestClass.handlerIn_iff,← tested]
  apply firstWhere_validators (fixedValidators app.staticPrefix) member
  · intro other member' _ same
    obtain ⟨samePath,sameMethod⟩ := Prod.mk.inj (of_decide_eq_true same)
    exact app.ownPath _ _ _ dispatches.1 other member' sameMethod samePath
  · intro entry listed
    apply decide_eq_false
    rintro same
    apply app.fixedApart _ _ _ dispatches.1 registered
    exact List.mem_map.mpr ⟨entry,listed,same⟩

/-- On a registered route the tables find the route's own validator or nothing. -/
theorem findValidator_iff (registered : route.requestClass.registered.isSome = true) :
    findValidator app request = some validator ↔ ∃ registry, registry ≠ .proxyArtifact ∧
      route.requestClass.registered = some (registry,validator) ∧
      request.method = route.method ∧ route.Located request registry := by
  unfold findValidator
  cases workspaces : containsText "/mlflow/workspaces" request.path with
  | true =>
    rw [if_pos rfl,workspace_found dispatches]
    constructor
    · rintro ⟨home,method,fit⟩
      exact ⟨.workspace,by decide,home,method,workspaces,fit⟩
    · rintro ⟨registry,notProxy,home,method,located⟩
      cases registry <;> simp only [Route.Located,workspaces] at located
      case workspace => exact ⟨home,method,located.2⟩
      case proxyArtifact => exact absurd rfl notProxy
      all_goals cases located.1
  | false =>
    rw [if_neg Bool.false_ne_true]
    cases loggedModels : containsText "/mlflow/logged-models" request.path with
    | true =>
      rw [if_pos rfl,loggedModel_found dispatches]
      constructor
      · rintro ⟨home,method,fit⟩
        exact ⟨.loggedModel,by decide,home,method,workspaces,loggedModels,fit⟩
      · rintro ⟨registry,notProxy,home,method,located⟩
        cases registry <;> simp only [Route.Located,workspaces,loggedModels] at located
        case loggedModel => exact ⟨home,method,located.2.2⟩
        case proxyArtifact => exact absurd rfl notProxy
        case workspace => cases located.1
        case beforeRequest => cases located.2.1
    | false =>
      rw [if_neg Bool.false_ne_true,path_found dispatches registered]
      constructor
      · rintro ⟨home,method,same⟩
        exact ⟨.beforeRequest,by decide,home,method,workspaces,loggedModels,same⟩
      · rintro ⟨registry,notProxy,home,method,located⟩
        cases registry <;> simp only [Route.Located,workspaces,loggedModels] at located
        case beforeRequest => exact ⟨home,method,located.2.2⟩
        case proxyArtifact => exact absurd rfl notProxy
        case workspace => cases located.1
        case loggedModel => cases located.2.1

end Tables

theorem proxy_registered {requestClass : RequestClass}
    (home : requestClass.registered = some (.proxyArtifact,validator)) :
    ∃ method, requestClass.proxyMethod = some method ∧
      ∀ args, getProxyArtifactValidator method (some args) = some validator := by
  cases requestClass <;> cases home <;> exact ⟨_,rfl,fun _ => rfl⟩

theorem forProxy_registered {requestClass : RequestClass}
    (home : requestClass.registered = some (registry,validator)) :
    validator.forProxy = true ↔ registry = .proxyArtifact := by
  cases requestClass <;> cases home <;> decide

theorem getProxyArtifactValidator_forProxy {method : Method}
    {viewArgs : Option (List (String × String))}
    (found : getProxyArtifactValidator method viewArgs = some validator) :
    validator.forProxy = true := by
  unfold getProxyArtifactValidator at found
  split at found
  · cases found
    rfl
  · split at found <;> cases found <;> rfl

section Cases
variable (dispatches : app.Dispatches request route)
  (home : route.requestClass.registered = some (registry,validator))
include dispatches home

theorem findValidator_of_covers (covers : route.Covers registry request) :
    findValidator app request = if registry = .proxyArtifact then none else some validator := by
  have found : ∀ other : Validator, findValidator app request = some other ↔
      ∃ registry, registry ≠ .proxyArtifact ∧
        route.requestClass.registered = some (registry,other) ∧
        request.method = route.method ∧ route.Located request registry :=
    fun other => findValidator_iff dispatches (by simp only [home,Option.isSome_some])
  split
  · next proxy =>
    cases search : findValidator app request with
    | none => rfl
    | some other =>
      obtain ⟨registry',notProxy,home',_⟩ := (found other).mp search
      simp only [home,Option.some.injEq,Prod.mk.injEq] at home'
      exact absurd (home'.1.symm.trans proxy) notProxy
  · next notProxy => exact (found validator).mpr ⟨registry,notProxy,home,covers.declared,covers.located⟩

theorem authorize_of_covers {services : HookServices} {username : String}
    (covers : route.Covers registry request) :
    authorize app services request username = services.run validator username := by
  obtain ⟨_,viewArgs⟩ := dispatches
  obtain ⟨args,viewArgs⟩ := Option.isSome_iff_exists.mp viewArgs
  have search := findValidator_of_covers ⟨‹_›,‹_›⟩ home covers
  unfold authorize
  by_cases proxy : registry = .proxyArtifact
  · subst proxy
    obtain ⟨method,declared,found⟩ := proxy_registered home
    have path : isProxyArtifactPath request.path = true := covers.located
    have sameMethod : request.method = method :=
      covers.declared.trans (route.proxied method declared)
    simp only [search,if_true,path,viewArgs,sameMethod,found]
  · simp only [search,proxy,if_false]

theorem authorize_of_not_covers {services : HookServices} {username : String}
    (protect : isUnprotectedRoute request.path = false) (missed : ¬ route.Covers registry request)
    (others : ∀ other, other.forProxy = true → other ≠ validator →
      services.run other username = .ok true) :
    authorize app services request username = .ok true := by
  have search : findValidator app request = none := by
    cases search : findValidator app request with
    | none => rfl
    | some other =>
      have registered : route.requestClass.registered.isSome = true := by
        simp only [home,Option.isSome_some]
      obtain ⟨registry',_,home',declared,located⟩ :=
        (findValidator_iff dispatches registered).mp search
      simp only [home,Option.some.injEq,Prod.mk.injEq] at home'
      obtain ⟨rfl,rfl⟩ := home'
      exact absurd ⟨protect,declared,located⟩ missed
  simp only [authorize,search]
  split
  · next path =>
    split
    · next other found =>
      have proxies := getProxyArtifactValidator_forProxy found
      apply others other proxies
      rintro rfl
      have proxy := (forProxy_registered home).mp proxies
      subst proxy
      obtain ⟨_,_,serves⟩ := app.dispatched _ _ _ dispatches.1
      obtain declared | ⟨head,_⟩ := serves
      · exact missed ⟨protect,declared,path⟩
      · obtain ⟨args,viewArgs⟩ := Option.isSome_iff_exists.mp dispatches.2
        simp [getProxyArtifactValidator,viewArgs,head] at found
    · rfl
  · rfl

end Cases

end Lookup

/-- Every check but the given validator's goes well for this user. -/
def HookServices.allBut (validator : Validator) : HookServices where
  config := AppConfig.default
  context := ⟨some ⟨"user",false,none⟩,none⟩
  nameOfId := fun _ _ => .error (.other "")
  validate := fun other _ => .ok (decide (other ≠ validator))
  workspacePermission := fun _ _ => .ok none
  enforceQuota := fun _ => .ok ()
  experimentOwner := fun _ => .ok none
  incrementUsedBytes := fun _ _ => .ok ()

theorem checkQuota_allBut {validator : Validator} {request : FlaskRequest} {username : String} :
    checkQuota (.allBut validator) request username = none := by
  have charge : quotaCharge (.allBut validator) request username = .ok () := by
    unfold quotaCharge
    split
    · rfl
    · split
      · split <;> rfl
      · split
        · simp only
          split <;> rfl
        · rfl
  simp only [checkQuota,charge]

theorem run_allBut {validator other : Validator} {username : String} :
    (HookServices.allBut validator).run other username = .ok true ↔
      other ≠ .denyNonAdmin ∧ other ≠ validator := by
  by_cases sentinel : other = .denyNonAdmin <;>
    simp [HookServices.run,HookServices.allBut,sentinel]

theorem username_allBut {validator : Validator} :
    (HookServices.allBut validator).username = some "user" := by
  simp [HookServices.username,HookServices.allBut,getAuthContext,truthy]

section Response
variable {app : FlaskApplication} {services : HookServices} {request : FlaskRequest}
  {username : String}

theorem letsIn_iff : letsIn app services request username = .ok true ↔
    workspaceGate app services request username = .ok true ∧
      authorize app services request username = .ok true := by
  unfold letsIn
  cases gate : workspaceGate app services request username with
  | error failure => simp [bind,Except.bind]
  | ok open' => cases open' <;> simp [bind,Except.bind,pure,Except.pure]

theorem passed_iff (protect : isUnprotectedRoute request.path = false)
    (known : services.username = some username) (plain : services.isAdmin = false) :
    (beforeRequestHook app services request).2 = none ↔
      letsIn app services request username = .ok true ∧
        checkQuota services request username = none := by
  simp only [beforeRequestHook,protect,known,plain,Bool.false_eq_true,if_false]
  cases answer : letsIn app services request username with
  | error failure => simp
  | ok admitted => cases admitted <;> simp

theorem hook_allBut {validator : Validator}
    (passes : isUnprotectedRoute request.path = true ∨
      authorize app (.allBut validator) request "user" = .ok true) :
    (beforeRequestHook app (.allBut validator) request).2 = none := by
  have plain : (HookServices.allBut validator).isAdmin = false := rfl
  have gate : workspaceGate app (.allBut validator) request "user" = .ok true := rfl
  cases protect : isUnprotectedRoute request.path with
  | true => simp only [beforeRequestHook,protect,if_true]
  | false =>
    have authorized := passes.resolve_left (by simp only [protect,Bool.false_eq_true,not_false_iff])
    exact (passed_iff protect username_allBut plain).mpr
      ⟨letsIn_iff.mpr ⟨gate,authorized⟩,checkQuota_allBut⟩

end Response

/-- The hook checks a request exactly when all that it can be dispatched to covers it. -/
theorem checksRegistered_iff (app : FlaskApplication) (request : FlaskRequest) :
    ChecksRegistered app request ↔ ∀ route registry validator, app.Dispatches request route →
      route.requestClass.registered = some (registry,validator) → route.Covers registry request := by
  constructor
  · intro checks route registry validator dispatches home
    by_contra missed
    have passes : isUnprotectedRoute request.path = true ∨
        authorize app (.allBut validator) request "user" = .ok true := by
      cases protect : isUnprotectedRoute request.path with
      | true => exact .inl rfl
      | false =>
        apply Or.inr
        apply authorize_of_not_covers dispatches home protect missed
        intro other proxies different
        apply run_allBut.mpr
        refine ⟨?_,different⟩
        rintro rfl
        cases proxies
    have consent := checks route registry validator dispatches home (.allBut validator) "user"
      username_allBut rfl (hook_allBut passes)
    exact (run_allBut.mp consent).2 rfl
  · intro covered route registry validator dispatches home services username known plain passed
    have covers := covered route registry validator dispatches home
    have authorized := (letsIn_iff.mp ((passed_iff covers.protect known plain).mp passed).1).2
    rwa [authorize_of_covers dispatches home covers] at authorized

theorem covers_of_segments {app : FlaskApplication} {request : FlaskRequest} {route : Route}
    (dispatches : app.Dispatches request route) (notHead : request.method ≠ .head)
    (protect : isUnprotectedRoute request.path = false)
    (segments : ∀ name, Piece.pathParam name ∉ route.template.pieces) :
    (containsText "/mlflow/workspaces" request.path = true → route.Covers .workspace request) ∧
      (containsText "/mlflow/workspaces" request.path = false →
        containsText "/mlflow/logged-models" request.path = true →
          route.Covers .loggedModel request) := by
  obtain ⟨_,accepted,serves⟩ := app.dispatched _ _ _ dispatches.1
  have fit := route.template.compiled_of_routed segments accepted
  have declared : request.method = route.method := by
    obtain same | ⟨head,_⟩ := serves
    · exact same
    · exact absurd head notHead
  exact ⟨fun workspaces => ⟨protect,declared,workspaces,fit⟩,
    fun workspaces loggedModels => ⟨protect,declared,workspaces,loggedModels,fit⟩⟩

section Sample

def literalTemplate (path : String) (rest : List Piece) : List Piece :=
  path.toList.map Piece.text ++ rest

def getExperimentRoute : Route where
  template := ⟨literalTemplate "/api/2.0/mlflow/experiments/get" [],by decide⟩
  method := .get
  requestClass := .getExperiment
  declared := by decide
  proxied := by simp [RequestClass.proxyMethod]

def getPromptOptimizationJobRoute : Route where
  template := ⟨literalTemplate "/api/3.0/mlflow/prompt-optimization/jobs/" [.param "job_id".toList],
    by decide⟩
  method := .get
  requestClass := .getPromptOptimizationJob
  declared := by decide
  proxied := by simp [RequestClass.proxyMethod]

def uploadArtifactRoute : Route where
  template := ⟨literalTemplate "/ajax-api/2.0/mlflow-artifacts/artifacts/"
    [.pathParam "artifact_path".toList],by decide⟩
  method := .put
  requestClass := .proxyUpload
  declared := by decide
  proxied := by simp [RequestClass.proxyMethod]

def sampleRoutes : List Route :=
  [getExperimentRoute,getPromptOptimizationJobRoute,uploadArtifactRoute]

/-- The first route that accepts the path and serves the method, off the fixed routes. -/
def sampleDispatch (path : String) (method : Method) : Option Route :=
  if (path,method) ∈ (fixedValidators "").map Prod.fst then none
  else sampleRoutes.find? (fun route =>
    fits path.toList route.template.routed && decide (route.serves method))

def sampleApplication : FlaskApplication where
  staticPrefix := ""
  routes := sampleRoutes
  dispatch := sampleDispatch
  dispatched := by
    intro path method route found
    unfold sampleDispatch at found
    split at found
    · cases found
    · have accepted := List.find?_some found
      rw [Bool.and_eq_true,decide_eq_true_eq] at accepted
      exact ⟨List.mem_of_find?_eq_some found,accepted⟩
  ownPath := by
    rintro path method route found other member rfl rfl
    have own : ∀ other ∈ sampleRoutes, sampleDispatch other.httpPath other.method = some other := by
      decide +kernel
    simpa only [own other member,Option.some.injEq] using found
  apart := by
    intro path method route found other member _ _ byPattern
    have none' : ∀ route ∈ sampleRoutes, route.byPattern = false := by decide
    unfold sampleDispatch at found
    split at found
    · cases found
    · simp [none' other member,none' route (List.mem_of_find?_eq_some found)] at byPattern
  fixedApart := by
    intro path method route found _
    unfold sampleDispatch at found
    split at found
    · cases found
    · assumption

def requestTo (method : Method) (path : String) (viewArgs : List (String × String)) :
    FlaskRequest where
  path := path
  method := method
  viewArgs := some viewArgs
  args := [("experiment_id","5")]
  form := []
  isJson := false
  body := none

/-- `HEAD` of an experiment, a job by its id and an upload under the ajax prefix all pass
without their validators. -/
theorem passes_unchecked :
    ¬ ChecksRegistered sampleApplication
        (requestTo .head "/api/2.0/mlflow/experiments/get" []) ∧
      ¬ ChecksRegistered sampleApplication
        (requestTo .get "/api/3.0/mlflow/prompt-optimization/jobs/7" [("job_id","7")]) ∧
      ¬ ChecksRegistered sampleApplication
        (requestTo .put "/ajax-api/2.0/mlflow-artifacts/artifacts/5/model.pkl"
          [("artifact_path","5/model.pkl")]) := by
  have escapes : ∀ (request : FlaskRequest) (route : Route) (registry : Registry)
      (validator : Validator), sampleApplication.Dispatches request route →
      route.requestClass.registered = some (registry,validator) →
      authorize sampleApplication (.allBut validator) request "user" = .ok true →
      ¬ ChecksRegistered sampleApplication request := by
    intro request route registry validator dispatches home authorized checks
    have consent := checks route registry validator dispatches home (.allBut validator) "user"
      username_allBut rfl (hook_allBut (.inr authorized))
    exact (run_allBut.mp consent).2 rfl
  refine ⟨?_,?_,?_⟩
  · exact escapes _ getExperimentRoute .beforeRequest .validateCanReadExperiment
      ⟨by decide,rfl⟩ rfl (by decide)
  · exact escapes _ getPromptOptimizationJobRoute .beforeRequest
      .validateCanReadPromptOptimizationJob ⟨by decide,rfl⟩ rfl (by decide)
  · exact escapes _ uploadArtifactRoute .proxyArtifact
      .validateCanUpdateExperimentArtifactProxy ⟨by decide,rfl⟩ rfl (by decide)

end Sample
end MlflowOidcAuth
