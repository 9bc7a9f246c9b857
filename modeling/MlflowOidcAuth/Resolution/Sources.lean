import MlflowOidcAuth.Library.OrderedSources
import MlflowOidcAuth.Regex
import MlflowOidcAuth.Store.Queries

/-! The permission registry: for every resource type the four sources a permission
is looked up in, and the walk over them in the configured order. -/
namespace MlflowOidcAuth
open OrderedSources

structure AppConfig where
  permissionSourceOrder : List String
  defaultMlflowPermission : String
  mlflowEnableWorkspaces : Bool

/-- The configuration of an installation that sets nothing. -/
def AppConfig.default : AppConfig where
  permissionSourceOrder := ["user","group","regex","group-regex"]
  defaultMlflowPermission := "MANAGE"
  mlflowEnableWorkspaces := false

/-- What a resolution depends on besides the database: the configuration, the
regex engine and the tracking store's `get_experiment(id).name`. -/
structure Env where
  config : AppConfig
  regex : RegexEngine
  experimentName : String → Except Failure String

inductive Source
  | user
  | group
  | regex
  | groupRegex
deriving DecidableEq, Repr

def Source.ofName? : String → Option Source
  | "user" => some .user
  | "group" => some .group
  | "regex" => some .regex
  | "group-regex" => some .groupRegex
  | _ => none

/-- The name under which the configuration lists a source. -/
def Source.name : Source → String
  | .user => "user"
  | .group => "group"
  | .regex => "regex"
  | .groupRegex => "group-regex"

theorem Source.ofName?_name {name : String} {source : Source}
    (listed : Source.ofName? name = some source) : name = source.name := by
  unfold Source.ofName? at listed
  split at listed <;> cases listed <;> rfl

/-- Where a resolved permission came from. -/
inductive ResultKind
  | source (source : Source)
  | fallback
  | workspace
  | workspaceDeny
deriving DecidableEq, Repr

structure PermissionResult where
  permission : Permission
  kind : ResultKind
deriving DecidableEq, Repr

inductive ResourceType
  | experiment
  | registeredModel
  | prompt
  | scorer
  | gatewayEndpoint
  | gatewaySecret
  | gatewayModelDefinition
deriving DecidableEq, Repr

namespace ResourceType

/-- The resource type constants. -/
def value : ResourceType → String
  | .experiment => "experiment"
  | .registeredModel => "registered_model"
  | .prompt => "prompt"
  | .scorer => "scorer"
  | .gatewayEndpoint => "gateway_endpoint"
  | .gatewaySecret => "gateway_secret"
  | .gatewayModelDefinition => "gateway_model_definition"

def all : List ResourceType :=
  [.experiment,.registeredModel,.prompt,.scorer,.gatewayEndpoint,.gatewaySecret,
    .gatewayModelDefinition]

theorem mem_all (resourceType : ResourceType) : resourceType ∈ all := by
  cases resourceType <;> decide

/-- The tables that hold the type's direct rows. -/
def family : ResourceType → Family
  | .experiment => .experiment
  | .registeredModel => .registeredModel
  | .prompt => .registeredModel
  | .scorer => .scorer
  | .gatewayEndpoint => .gatewayEndpoint
  | .gatewaySecret => .gatewaySecret
  | .gatewayModelDefinition => .gatewayModelDefinition

/-- Prompts keep their regex rows in the tables of registered models. -/
def isPrompt : ResourceType → Bool
  | .prompt => true
  | _ => false

end ResourceType

def matchRegexPermission (engine : RegexEngine) (name label : String) :
    List SqlRegexPermission → Except Failure String
  | [] => .error (.mlflow .resourceDoesNotExist (label ++ " " ++ name))
  | regex :: rest => do
    if ← reMatch engine regex.regex name then
      return regex.permission
    else
      matchRegexPermission engine name label rest

/-- The first row whose pattern matches the name; none before it does, or fails to compile. -/
def FirstMatch (engine : RegexEngine) (name : String) (rows : List SqlRegexPermission)
    (row : SqlRegexPermission) : Prop :=
  ∃ before after, rows = before ++ row :: after ∧
    (∀ earlier ∈ before, reMatch engine earlier.regex name = .ok false) ∧
    reMatch engine row.regex name = .ok true

section Matching
variable {engine : RegexEngine} {name label : String} {rows : List SqlRegexPermission}

theorem firstMatch_cons {row other : SqlRegexPermission} :
    FirstMatch engine name (row :: rows) other ↔
      (row = other ∧ reMatch engine row.regex name = .ok true) ∨
        (reMatch engine row.regex name = .ok false ∧ FirstMatch engine name rows other) := by
  constructor
  · intro ⟨before,after,split,silent,found⟩
    cases before with
    | nil =>
      cases split
      exact .inl ⟨rfl,found⟩
    | cons first before =>
      cases split
      exact .inr ⟨silent row List.mem_cons_self,before,after,rfl,
        fun earlier member => silent earlier (List.mem_cons_of_mem _ member),found⟩
  · intro matched
    rcases matched with ⟨rfl,found⟩ | ⟨missed,before,after,rfl,silent,found⟩
    · exact ⟨[],rows,rfl,by simp,found⟩
    · refine ⟨row :: before,after,rfl,?_,found⟩
      intro earlier member
      rcases List.mem_cons.mp member with rfl | later
      · exact missed
      · exact silent earlier later

theorem matchRegexPermission_eq_ok {permission : String} :
    matchRegexPermission engine name label rows = .ok permission ↔
      ∃ row, FirstMatch engine name rows row ∧ row.permission = permission := by
  induction rows with
  | nil => simp [matchRegexPermission,FirstMatch]
  | cons row rest ih =>
    simp only [matchRegexPermission,firstMatch_cons]
    cases matched : reMatch engine row.regex name with
    | error failure => simp [bind,Except.bind]
    | ok hit =>
      cases hit with
      | true => simp [bind,Except.bind,pure,Except.pure]
      | false => simpa [bind,Except.bind] using ih

theorem reMatch_not_missing {pattern : String} {failure : Failure}
    (raised : reMatch engine pattern name = .error failure) : failure.isMissing = false := by
  unfold reMatch at raised
  split at raised <;> cases raised
  rfl

theorem matchRegexPermission_missing :
    (∃ failure, matchRegexPermission engine name label rows = .error failure ∧
        failure.isMissing = true) ↔
      ∀ row ∈ rows, reMatch engine row.regex name = .ok false := by
  induction rows with
  | nil => simp [matchRegexPermission,Failure.isMissing]
  | cons row rest ih =>
    simp only [matchRegexPermission,List.forall_mem_cons]
    cases matched : reMatch engine row.regex name with
    | error failure =>
      have raised := reMatch_not_missing matched
      simp [bind,Except.bind,raised]
    | ok hit =>
      cases hit with
      | true => simp [bind,Except.bind,pure,Except.pure]
      | false => simpa [bind,Except.bind] using ih

end Matching

abbrev SourcesConfig := Source → Except Failure String

section Builders
variable (env : Env) (t : Tables)

/-- The four sources of a resource type, given how its group row is found and what
its regexes are matched against. -/
def buildSources (family : Family) (prompt : Bool) (key : ResourceKey) (username label : String)
    (groupRow : Except Failure SqlPermission) (subject : Except Failure String) : SourcesConfig
  | .user => do
    let row ← t.getUserPermission family key username
    return row.permission
  | .group => do
    let row ← groupRow
    return row.permission
  | .regex => do
    let regexes ← t.listRegexPermissions family prompt username
    let name ← subject
    matchRegexPermission env.regex name label regexes
  | .groupRegex => do
    let ids ← t.getGroupsIdsForUser username
    let name ← subject
    matchRegexPermission env.regex name label
      (t.listGroupRegexPermissionsForGroupsIds family prompt ids)

def buildExperimentSources (experimentId username : String) : SourcesConfig :=
  buildSources env t .experiment false ⟨experimentId,none⟩ username "experiment"
    (t.getUserGroupsPermission .experiment ⟨experimentId,none⟩ username)
    (env.experimentName experimentId)

def buildRegisteredModelSources (modelName username : String) : SourcesConfig :=
  buildSources env t .registeredModel false ⟨modelName,none⟩ username "model name"
    (t.getUserGroupsPermission .registeredModel ⟨modelName,none⟩ username) (.ok modelName)

/-- Direct rows are those of registered models; only the regex rows are prompts' own. -/
def buildPromptSources (modelName username : String) : SourcesConfig :=
  buildSources env t .registeredModel true ⟨modelName,none⟩ username "model name"
    (t.getUserGroupsPermission .registeredModel ⟨modelName,none⟩ username) (.ok modelName)

def buildScorerSources (experimentId username scorerName : String) : SourcesConfig :=
  buildSources env t .scorer false ⟨experimentId,some scorerName⟩ username "scorer name"
    (t.getUserGroupsPermission .scorer ⟨experimentId,some scorerName⟩ username) (.ok scorerName)

/-- The gateway types look the group row up by group name and pass it the username. -/
def buildGatewaySources (family : Family) (gatewayName username : String) : SourcesConfig :=
  buildSources env t family false ⟨gatewayName,none⟩ username "gateway name"
    (t.getGroupPermission family ⟨gatewayName,none⟩ username) (.ok gatewayName)

def buildGatewayEndpointSources (gatewayName username : String) : SourcesConfig :=
  buildGatewaySources env t .gatewayEndpoint gatewayName username

def buildGatewaySecretSources (gatewayName username : String) : SourcesConfig :=
  buildGatewaySources env t .gatewaySecret gatewayName username

def buildGatewayModelDefinitionSources (gatewayName username : String) : SourcesConfig :=
  buildGatewaySources env t .gatewayModelDefinition gatewayName username

/-- A call of `resolve_permission`, with its `scorer_name` keyword when it has one. -/
structure ResourceRequest where
  resourceType : ResourceType
  resourceId : String
  username : String
  scorerName : Option String := none
deriving DecidableEq, Repr

/-- The builder of the registry, applied; the scorer builder requires its keyword. -/
def permissionRegistry (request : ResourceRequest) : Except Failure SourcesConfig :=
  match request.resourceType with
  | .experiment => .ok (buildExperimentSources env t request.resourceId request.username)
  | .registeredModel => .ok (buildRegisteredModelSources env t request.resourceId request.username)
  | .prompt => .ok (buildPromptSources env t request.resourceId request.username)
  | .scorer =>
    match request.scorerName with
    | some scorerName =>
      .ok (buildScorerSources env t request.resourceId request.username scorerName)
    | none => .error (.keyError "scorer_name")
  | .gatewayEndpoint => .ok (buildGatewayEndpointSources env t request.resourceId request.username)
  | .gatewaySecret => .ok (buildGatewaySecretSources env t request.resourceId request.username)
  | .gatewayModelDefinition =>
    .ok (buildGatewayModelDefinitionSources env t request.resourceId request.username)

end Builders

/-- One source of the walk: a missing row is skipped, any other exception is raised. -/
def askSource (sources : SourcesConfig) (name : String) : Outcome Failure PermissionResult :=
  match Source.ofName? name with
  | none => .absent
  | some source =>
    match sources source with
    | .ok perm =>
      match getPermission perm with
      | .ok permission => .granted ⟨permission,.source source⟩
      | .error failure => .failed failure
    | .error failure => if failure.isMissing then .absent else .failed failure

theorem askSource_unlisted {sources : SourcesConfig} {name : String}
    (unlisted : Source.ofName? name = none) : askSource sources name = .absent := by
  simp only [askSource,unlisted]

theorem kind_of_granted {sources : SourcesConfig} {name : String} {result : PermissionResult}
    (granted : askSource sources name = .granted result) :
    ∃ source, Source.ofName? name = some source ∧ result.kind = .source source := by
  cases listed : Source.ofName? name with
  | none => simp [askSource_unlisted listed] at granted
  | some source =>
    refine ⟨source,rfl,?_⟩
    simp only [askSource,listed] at granted
    split at granted
    · split at granted <;> cases granted
      rfl
    · split at granted <;> cases granted

theorem askSource_of_missing {sources : SourcesConfig} {name : String} {source : Source}
    (listed : Source.ofName? name = some source) {failure : Failure}
    (raised : sources source = .error failure) (missing : failure.isMissing = true) :
    askSource sources name = .absent := by
  simp only [askSource,listed,raised,missing,if_true]

theorem askSource_congr {sources sources' : SourcesConfig} {name : String} {source : Source}
    (listed : Source.ofName? name = some source) (same : sources' source = sources source) :
    askSource sources' name = askSource sources name := by
  simp only [askSource,listed,same]

section Asking
variable {sources : SourcesConfig} {source : Source} {result : PermissionResult}

theorem askSource_granted_iff : askSource sources source.name = .granted result ↔
    ∃ perm, sources source = .ok perm ∧ getPermission perm = .ok result.permission ∧
      result.kind = .source source := by
  have listed : Source.ofName? source.name = some source := by cases source <;> rfl
  obtain ⟨permission,kind⟩ := result
  simp only [askSource,listed]
  cases sources source with
  | error failure => cases missing : failure.isMissing <;> simp [missing]
  | ok perm =>
    cases known : getPermission perm with
    | error failure => simp [known]
    | ok level => simp [known,eq_comm]

theorem askSource_absent_iff : askSource sources source.name = .absent ↔
    ∃ failure, sources source = .error failure ∧ failure.isMissing = true := by
  have listed : Source.ofName? source.name = some source := by cases source <;> rfl
  simp only [askSource,listed]
  cases sources source with
  | error failure => cases missing : failure.isMissing <;> simp [missing]
  | ok perm => cases known : getPermission perm <;> simp [known]

end Asking

def defaultResult (config : AppConfig) : Except Failure PermissionResult := do
  let permission ← getPermission config.defaultMlflowPermission
  return ⟨permission,.fallback⟩

def getPermissionFromStoreOrDefault (config : AppConfig) (sources : SourcesConfig) :
    Except Failure PermissionResult :=
  match firstGrant (askSource sources) config.permissionSourceOrder with
  | .granted (_,result) => .ok result
  | .failed failure => .error failure
  | .absent => defaultResult config

end MlflowOidcAuth
