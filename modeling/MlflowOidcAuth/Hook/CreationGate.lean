import MlflowOidcAuth.Hook.Dispatch
import MlflowOidcAuth.Resolution.ContextRuns
import MlflowOidcAuth.Resolution.Fallback

/-! Creations with workspaces enabled: whom the before-request hook lets create where. The
workspace that is checked comes from the header alone, the one that is used from MLflow. -/
namespace MlflowOidcAuth
open OrderedDict PathPatterns KeyedCache

/-- MLflow's own resolution of the workspace header. -/
structure WorkspaceResolver where
  defaultWorkspace : String
  resolve : Option String → String
  missing : resolve none = defaultWorkspace
  named : ∀ workspace, workspace ≠ "" → resolve (some workspace) = workspace

/-- The route of a creation has one path, to which it is posted. -/
structure FlaskApplication.DispatchesCreation (app : FlaskApplication) (request : FlaskRequest)
    (route : Route) : Prop where
  dispatches : app.Dispatches request route
  gated : route.requestClass.isGatedCreation = true
  posted : route.method = .post
  literal : ∀ piece ∈ route.template.pieces, ∃ c, piece = .text c

section State
variable (env : Env) (t : Tables) (cache : Cache String Permission)

/-- The services on a state of the store and of the workspace cache. -/
def HookServices.onState (services : HookServices) (context : RequestContext) : HookServices :=
  { services with
    config := env.config
    context := context
    workspacePermission := fun username workspace =>
      .ok (getWorkspacePermissionCached env t username workspace cache).1 }

def ManagesWorkspace (username workspace : String) : Prop :=
  ∃ permission, lookupWorkspacePermission env t username workspace = some permission ∧
    permission.canManage = true

def CachedManage (username workspace : String) : Prop :=
  ∃ permission, cache.get (workspaceCacheKey username workspace) = some permission ∧
    permission.canManage = true

/-- Whatever the other services answer, a user whose request gets past the hook has `MANAGE` on
the workspace that MLflow creates in. -/
def CreationGated (app : FlaskApplication) (request : FlaskRequest) (resolver : WorkspaceResolver)
    (username : String) (header : Option String) : Prop :=
  ∀ services : HookServices, (beforeRequestHook app (services.onState env t cache
      (dispatchContext env.config .flaskHook username false header (some (resolver.resolve header))))
      request).2 = none →
    ManagesWorkspace env t username (resolver.resolve header)

end State

section Lookup
variable {app : FlaskApplication} {request : FlaskRequest} {route : Route}

theorem fits_literal {pieces : List Piece} {path : List Char}
    (literal : ∀ piece ∈ pieces, ∃ c, piece = .text c)
    (fit : fits path (pieces.map Piece.routed) = true) : path = pieces.flatMap Piece.source := by
  induction pieces generalizing path with
  | nil =>
    cases path with
    | nil => rfl
    | cons c path => cases fit
  | cons piece pieces ih =>
    obtain ⟨d,rfl⟩ := literal _ List.mem_cons_self
    cases path with
    | nil => cases fit
    | cons c path =>
      simp only [List.map_cons,Piece.routed,fits,Bool.and_eq_true,decide_eq_true_eq] at fit
      obtain ⟨rfl,fit⟩ := fit
      rw [List.flatMap_cons,← ih (fun piece member => literal piece (List.mem_cons_of_mem _ member)) fit]
      rfl

theorem registered_denyNonAdmin {requestClass : RequestClass} {registry : Registry}
    (home : requestClass.registered = some (registry,.denyNonAdmin)) :
    registry = .beforeRequest ∧ requestClass.isGatedCreation = false := by
  cases requestClass <;> cases home <;> exact ⟨rfl,rfl⟩

theorem fixed_denyNonAdmin {staticPrefix : String} {entry : (String × Method) × Validator}
    (listed : entry ∈ fixedValidators staticPrefix) (denies : entry.2 = .denyNonAdmin) :
    entry.1.2 = .get := by
  simp only [fixedValidators,List.mem_cons,List.not_mem_nil,or_false] at listed
  obtain rfl | rfl | rfl | rfl | rfl | rfl | rfl | rfl | rfl | rfl | rfl | rfl | rfl | rfl | rfl |
    rfl := listed <;> first | rfl | cases denies

theorem found_registered {Key : Type*} [DecidableEq Key] {key : Template → Key}
    {registry : Registry} {test : Key × Method → Bool} {validator : Validator}
    {fixed : List ((Key × Method) × Validator)}
    (found : firstWhere test (update (ofPairs (validatorEntries key registry app.routes)) fixed) =
      some validator) :
    (∃ other ∈ app.routes, test (key other.template,other.method) = true ∧
      other.requestClass.registered = some (registry,validator)) ∨
        ∃ entry, test entry = true ∧ (entry,validator) ∈ fixed := by
  obtain ⟨entry,passes,listed⟩ := firstWhere_some found
  obtain built | given := mem_update listed
  · obtain none' | built := mem_update built
    · cases none'
    · obtain ⟨other,member,keyed,handled⟩ := mem_validatorEntries.mp built
      refine .inl ⟨other,member,?_,RequestClass.handlerIn_iff.mp handled⟩
      rw [keyed]
      exact passes
  · exact .inr ⟨entry,passes,given⟩

namespace FlaskApplication.DispatchesCreation
variable (creation : app.DispatchesCreation request route)
include creation

theorem method_eq : request.method = .post := by
  obtain ⟨_,_,serves⟩ := app.dispatched _ _ _ creation.dispatches.1
  obtain same | ⟨_,get⟩ := serves
  · exact same.trans creation.posted
  · rw [creation.posted] at get
    cases get

theorem path_eq : request.path = route.httpPath := by
  obtain ⟨_,fit,_⟩ := app.dispatched _ _ _ creation.dispatches.1
  rw [Route.httpPath,Template.httpPath,← fits_literal creation.literal fit,String.ofList_toList]

theorem isWorkspaceGatedCreation : isWorkspaceGatedCreation app request = true := by
  obtain ⟨member,_,_⟩ := app.dispatched _ _ _ creation.dispatches.1
  apply decide_eq_true
  apply List.mem_map.mpr
  refine ⟨route,List.mem_filter.mpr ⟨member,creation.gated⟩,?_⟩
  rw [creation.path_eq,creation.method_eq,creation.posted]

theorem findValidator_ne : findValidator app request ≠ some .denyNonAdmin := by
  intro found
  unfold findValidator at found
  split at found
  · have built : firstWhere (matching request)
        (update (workspaceBeforeRequestValidators app.routes) []) = some .denyNonAdmin := found
    obtain ⟨other,_,_,home⟩ | ⟨_,_,none'⟩ := found_registered built
    · cases (registered_denyNonAdmin home).1
    · cases none'
  · split at found
    · obtain ⟨entry,_,listed⟩ := firstWhere_some (Option.join_eq_some_iff.mp found)
      obtain none' | built := mem_update listed
      · cases none'
      · simp only [getEndpoints,List.map_map,List.mem_map] at built
        obtain ⟨other,_,same⟩ := built
        have home := RequestClass.handlerIn_iff.mp (Prod.mk.inj same).2
        cases (registered_denyNonAdmin home).1
    · obtain ⟨other,member,same,home⟩ | ⟨entry,same,listed⟩ := found_registered found
      · obtain ⟨path,method⟩ := Prod.mk.inj (of_decide_eq_true same)
        obtain rfl : other = route :=
          app.ownPath _ _ _ creation.dispatches.1 other member method path
        have open' := (registered_denyNonAdmin home).2
        rw [creation.gated] at open'
        cases open'
      · have get := fixed_denyNonAdmin listed rfl
        rw [of_decide_eq_true same,creation.method_eq] at get
        cases get

end FlaskApplication.DispatchesCreation
end Lookup

section Gate
variable {app : FlaskApplication} {request : FlaskRequest} {route : Route} {env : Env} {t : Tables}
  {cache : Cache String Permission} {services : HookServices} {username workspace : String}
  {header mlflowWorkspace : Option String}

/-- A workspace that the header names is open to those with `MANAGE` in the cache, or in the
store where the cache has nothing. -/
theorem cached_manage_iff (enabled : env.config.mlflowEnableWorkspaces = true) :
    (∃ permission, (getWorkspacePermissionCached env t username workspace cache).1 =
        some permission ∧ permission.canManage = true) ↔
      CachedManage cache username workspace ∨
        cache.get (workspaceCacheKey username workspace) = none ∧
          ManagesWorkspace env t username workspace := by
  unfold CachedManage ManagesWorkspace
  simp only [getWorkspacePermissionCached,enabled,if_true]
  cases hit : cache.get (workspaceCacheKey username workspace) with
  | some permission => simp
  | none =>
    cases looked : lookupWorkspacePermission env t username workspace <;> simp

theorem gate_iff (enabled : env.config.mlflowEnableWorkspaces = true)
    (gated : isWorkspaceGatedCreation app request = true) :
    workspaceGate app (services.onState env t cache
        (dispatchContext env.config .flaskHook username false header mlflowWorkspace))
        request username = .ok true ↔
      ∀ workspace, truthy header = some workspace →
        ∃ permission, (getWorkspacePermissionCached env t username workspace cache).1 =
          some permission ∧ permission.canManage = true := by
  have asked := dispatch_workspace enabled .flaskHook username false header mlflowWorkspace
  unfold workspaceGate
  rw [if_pos (by simp only [HookServices.onState,enabled,gated,Bool.and_self])]
  simp only [HookServices.onState,asked,if_true]
  cases named : truthy header with
  | none => simp
  | some workspace =>
    cases found : (getWorkspacePermissionCached env t username workspace cache).1 with
    | none => simp [found,bind,Except.bind,pure,Except.pure]
    | some permission => simp [found,bind,Except.bind,pure,Except.pure]

theorem username_onState (known : username ≠ "") :
    (services.onState env t cache (dispatchContext env.config .flaskHook username false header
      mlflowWorkspace)).username = some username := if_pos (decide_eq_true known)

theorem authorize_creation (creation : app.DispatchesCreation request route) {asked : String}
    (runs : ∀ validator, validator ≠ .denyNonAdmin → services.run validator asked = .ok true) :
    authorize app services request asked = .ok true := by
  unfold authorize
  cases found : findValidator app request with
  | some validator =>
    apply runs
    rintro rfl
    exact creation.findValidator_ne found
  | none =>
    simp only
    split
    · cases proxy : getProxyArtifactValidator request.method request.viewArgs with
      | some validator =>
        apply runs
        rintro rfl
        cases getProxyArtifactValidator_forProxy proxy
      | none => rfl
    · rfl

/-- Where nothing is checked the creation goes through, if no other check stops it. -/
theorem passes_unguarded (enabled : env.config.mlflowEnableWorkspaces = true)
    (known : username ≠ "") (creation : app.DispatchesCreation request route)
    (unguarded : ¬ (isUnprotectedRoute request.path = false ∧ ∃ workspace, header = some workspace ∧
      workspace ≠ "" ∧ ¬ CachedManage cache username workspace)) :
    (beforeRequestHook app ((HookServices.allBut .denyNonAdmin).onState env t cache
      (dispatchContext env.config .flaskHook username false header mlflowWorkspace)) request).2 =
        none := by
  cases protect : isUnprotectedRoute request.path with
  | true => simp only [beforeRequestHook,protect,if_true]
  | false =>
    have free : checkQuota (.allBut .denyNonAdmin) request username = none := checkQuota_allBut
    apply (passed_iff protect (username_onState known) rfl).mpr
    refine ⟨letsIn_iff.mpr ⟨(gate_iff enabled creation.isWorkspaceGatedCreation).mpr ?_,?_⟩,free⟩
    · intro workspace named
      obtain ⟨given,nonempty⟩ := truthy_eq_some.mp named
      apply (cached_manage_iff enabled).mpr
      by_contra missing
      exact unguarded ⟨protect,workspace,given,nonempty,fun hit => missing (.inl hit)⟩
    · apply authorize_creation creation
      intro validator other
      have consent : (HookServices.allBut .denyNonAdmin).run validator username = .ok true :=
        run_allBut.mpr ⟨other,other⟩
      exact consent

end Gate

/-- A creation by a user without `MANAGE` where MLflow creates is stopped exactly when the
path is protected, a header names the workspace and the cache has no `MANAGE` there. -/
theorem creationGated_iff (env : Env) (t : Tables) (cache : Cache String Permission)
    (app : FlaskApplication) (request : FlaskRequest) (route : Route) (resolver : WorkspaceResolver)
    (username : String) (header : Option String)
    (enabled : env.config.mlflowEnableWorkspaces = true) (known : username ≠ "")
    (creation : app.DispatchesCreation request route) :
    CreationGated env t cache app request resolver username header ↔
      ManagesWorkspace env t username (resolver.resolve header) ∨
        (isUnprotectedRoute request.path = false ∧ ∃ workspace, header = some workspace ∧
          workspace ≠ "" ∧ ¬ CachedManage cache username workspace) := by
  constructor
  · intro safe
    by_contra neither
    obtain ⟨lacks,unguarded⟩ := not_or.mp neither
    apply lacks
    exact safe _ (passes_unguarded enabled known creation unguarded)
  · intro checked services passed
    obtain manages | ⟨protect,workspace,rfl,nonempty,uncached⟩ := checked
    · exact manages
    · have admitted := ((passed_iff protect (username_onState known) rfl).mp passed).1
      have openGate := (gate_iff enabled creation.isWorkspaceGatedCreation).mp
        (letsIn_iff.mp admitted).1
      have allowed := openGate workspace (truthy_eq_some.mpr ⟨rfl,nonempty⟩)
      obtain hit | ⟨_,manages⟩ := (cached_manage_iff enabled).mp allowed
      · exact absurd hit uncached
      · rw [resolver.named workspace nonempty]
        exact manages

section Creation

def createExperimentRoute : Route where
  template := ⟨literalTemplate "/api/2.0/mlflow/experiments/create" [],by decide⟩
  method := .post
  requestClass := .createExperiment
  declared := by decide
  proxied := by simp [RequestClass.proxyMethod]

def creationApplication : FlaskApplication where
  staticPrefix := ""
  routes := [createExperimentRoute]
  dispatch := fun path method =>
    if path = createExperimentRoute.httpPath ∧ method = .post then some createExperimentRoute
    else none
  dispatched := by
    intro path method route found
    obtain ⟨⟨rfl,rfl⟩,same⟩ := Option.ite_none_right_eq_some.mp found
    obtain rfl := Option.some.inj same
    decide
  ownPath := by
    intro path method route found other member _ _
    obtain ⟨_,same⟩ := Option.ite_none_right_eq_some.mp found
    rw [List.mem_singleton.mp member,Option.some.inj same]
  apart := by
    intro path method route found other member _ _ _
    obtain ⟨_,same⟩ := Option.ite_none_right_eq_some.mp found
    rw [List.mem_singleton.mp member,Option.some.inj same]
  fixedApart := by
    intro path method route found registered
    obtain ⟨_,same⟩ := Option.ite_none_right_eq_some.mp found
    obtain rfl := Option.some.inj same
    cases registered

def createExperimentRequest : FlaskRequest := requestTo .post "/api/2.0/mlflow/experiments/create" []

theorem literalTemplate_literal (path : String) :
    ∀ piece ∈ literalTemplate path [], ∃ c, piece = .text c := by
  intro piece member
  rw [literalTemplate,List.append_nil] at member
  obtain ⟨c,_,same⟩ := List.mem_map.mp member
  exact ⟨c,same.symm⟩

theorem createExperiment_dispatches :
    creationApplication.DispatchesCreation createExperimentRequest createExperimentRoute where
  dispatches := ⟨by decide,rfl⟩
  gated := rfl
  posted := rfl
  literal := literalTemplate_literal _

/-- MLflow takes a missing or empty header for its default workspace. -/
def headerOrDefault : WorkspaceResolver where
  defaultWorkspace := "default"
  resolve := fun header => (truthy header).getD "default"
  missing := rfl
  named := by
    intro workspace nonempty
    rw [truthy_eq_some.mpr ⟨rfl,nonempty⟩]
    rfl

theorem creationGated_iff_named : CreationGated workspacesEnv teamDatabase.tables .empty
    creationApplication createExperimentRequest headerOrDefault "alice" (some "team-b") :=
  (creationGated_iff _ _ _ _ _ _ _ _ _ rfl (by decide) createExperiment_dispatches).mpr
    (.inr ⟨by decide,"team-b",rfl,by decide,by rintro ⟨_,⟨⟩,_⟩⟩)

/-- Without a header Alice, who manages team-a only, creates an experiment in the default
workspace. -/
theorem creation_without_header : ¬ CreationGated workspacesEnv teamDatabase.tables .empty
    creationApplication createExperimentRequest headerOrDefault "alice" none := by
  intro safe
  have lacks : ¬ ManagesWorkspace workspacesEnv teamDatabase.tables "alice" "default" := by
    rintro ⟨permission,found,_⟩
    have none' : lookupWorkspacePermission workspacesEnv teamDatabase.tables "alice" "default" =
        none := by decide
    rw [none'] at found
    cases found
  apply lacks
  apply safe (.allBut .denyNonAdmin)
  apply passes_unguarded rfl (by decide) createExperiment_dispatches
  rintro ⟨_,_,⟨⟩,_⟩

end Creation
end MlflowOidcAuth
