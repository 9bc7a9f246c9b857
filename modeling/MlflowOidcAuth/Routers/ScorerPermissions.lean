import MlflowOidcAuth.Batch.Context
import MlflowOidcAuth.Hook.PromptAccess
import MlflowOidcAuth.Resolution.ScorerRuns

/-! Who may see a scorer's grants. The dependency takes the scorer from the query before
the path, and the endpoints behind it from the path alone. -/
namespace MlflowOidcAuth
open KeyedCache

/-- A request to a route below a scorer. The body is the JSON object it parses to, if it
does. -/
structure ScorerRequest where
  method : Method
  experimentId : String
  scorerName : String
  query : List (String × String)
  body : Option (List (String × JsonValue))

namespace ScorerRequest
variable (request : ScorerRequest)

/-- `query_params.get(name) or path_params.get(name)`; the last value of a name counts. -/
def queryOrPath (name path : String) : String :=
  match dictGet request.query name with
  | some value => if value ≠ "" then value else path
  | none => path

/-- The parameter as the check takes it, unless it is falsy. -/
def checkedParam (name path : String) : Option JsonValue :=
  let value := JsonValue.string (request.queryOrPath name path)
  let merged := match request.method,request.body with
    | .post,some body | .patch,some body | .delete,some body =>
      if value.truthy then value else (body.lookup name).getD .null
    | _,_ => value
  if merged.truthy then some merged else none

/-- The scorer whose permission the check asks for. -/
def checkedScorer : Option (String × String) :=
  match request.checkedParam "experiment_id" request.experimentId,
      request.checkedParam "scorer_name" request.scorerName with
  | some experimentId,some scorerName => some (experimentId.text,scorerName.text)
  | _,_ => none

/-- The scorer whose grants the endpoint reads. -/
def readScorer : String × String := (request.experimentId,request.scorerName)

/-- A value of the query that is not empty is the one of the path. -/
def QueryAgrees : Prop :=
  (∀ value, dictGet request.query "experiment_id" = some value → value ≠ "" →
    value = request.experimentId) ∧
  ∀ value, dictGet request.query "scorer_name" = some value → value ≠ "" →
    value = request.scorerName

end ScorerRequest

structure UserPermission where
  name : String
  displayName : String
  permission : String
  kind : String
deriving DecidableEq, Repr

structure GroupPermissionEntry where
  name : String
  permission : String
deriving DecidableEq, Repr

namespace Tables

/-- What `get_scorer_users` lists: the users with a row of their own for the scorer. -/
def scorerUsers (t : Tables) (scorer : String × String) : List UserPermission :=
  t.users.filterMap (fun user =>
    let rows := (t.userPermissions .scorer).filter (fun row => decide (row.ownerId = user.id))
    (dictGet (rows.map (fun row => (row.key,row.permission))) ⟨scorer.1,some scorer.2⟩).map
      (fun permission => ⟨user.username,user.displayName,permission,
        if user.isServiceAccount then "service-account" else "user"⟩))

/-- `list_groups_for_scorer`. -/
def scorerGroups (t : Tables) (scorer : String × String) : List GroupPermissionEntry :=
  ((t.groupPermissions .scorer).filter (fun row =>
    decide (row.key = ⟨scorer.1,some scorer.2⟩))).flatMap (fun row =>
      (t.groups.filter (fun group => decide (group.id = row.ownerId))).map
        (fun group => ⟨group.groupName,row.permission⟩))

end Tables

section Routes
variable (env : Env) (t : Tables) (context : RequestContext) (username : String)

def canManageScorer (scorer : String × String) (caches : Caches) :
    Except Failure Bool × Caches :=
  let (result,caches) :=
    resolvePermission env t context ⟨.scorer,scorer.1,username,some scorer.2⟩ caches
  (result.map (fun result => result.permission.canManage),caches)

def checkScorerManagePermission (request : ScorerRequest) (isAdmin : Bool) (caches : Caches) :
    Except Refusal Unit × Caches :=
  match request.checkedScorer with
  | none =>
    (.error (.http 400 "Missing required parameters: experiment_id and scorer_name"),caches)
  | some scorer =>
    if isAdmin then (.ok (),caches)
    else
      match canManageScorer env t context username scorer caches with
      | (.error failure,caches) => (.error (.raised failure),caches)
      | (.ok true,caches) => (.ok (),caches)
      | (.ok false,caches) =>
        (.error (.http 403 ("Insufficient permissions to manage scorer " ++ scorer.2)),caches)

/-- A route with the dependency; both are declared for GET alone. -/
def scorerRoute {Answer : Type} (read : String × String → Answer) (request : ScorerRequest)
    (isAdmin : Bool) (caches : Caches) : Except Refusal Answer × Caches :=
  if request.method = .get then
    match checkScorerManagePermission env t context username request isAdmin caches with
    | (.ok _,caches) => (.ok (read request.readScorer),caches)
    | (.error refusal,caches) => (.error refusal,caches)
  else (.error (.http 405 "Method Not Allowed"),caches)

def getScorerUsers :
    ScorerRequest → Bool → Caches → Except Refusal (List UserPermission) × Caches :=
  scorerRoute env t context username t.scorerUsers

def getScorerGroups :
    ScorerRequest → Bool → Caches → Except Refusal (List GroupPermissionEntry) × Caches :=
  scorerRoute env t context username t.scorerGroups

/-- The non-admin may manage the scorer that the check asks for. -/
def Authorised (request : ScorerRequest) (caches : Caches) : Prop :=
  ∃ scorer, request.checkedScorer = some scorer ∧
    (canManageScorer env t context username scorer caches).1 = .ok true

/-- A non-admin who is answered was authorised for the very scorer the answer is about. -/
structure ReadsAuthorised (request : ScorerRequest) (caches : Caches) : Prop where
  users : ∀ answer, (getScorerUsers env t context username request false caches).1 = .ok answer →
    request.checkedScorer = some request.readScorer
  groups : ∀ answer, (getScorerGroups env t context username request false caches).1 = .ok answer →
    request.checkedScorer = some request.readScorer

end Routes

section Params
variable {request : ScorerRequest} {name path : String}

theorem checkedParam_get (isGet : request.method = .get) : request.checkedParam name path =
    if request.queryOrPath name path = "" then none
    else some (.string (request.queryOrPath name path)) := by
  simp [ScorerRequest.checkedParam,isGet,JsonValue.truthy,ite_not]

theorem queryOrPath_of_agrees (agrees : ∀ value, dictGet request.query name = some value →
    value ≠ "" → value = path) : request.queryOrPath name path = path := by
  unfold ScorerRequest.queryOrPath
  cases found : dictGet request.query name with
  | none => rfl
  | some value =>
    by_cases given : value = ""
    · simp [given]
    · simp [agrees value found given]

theorem queryOrPath_of_given {value : String} (found : dictGet request.query name = some value)
    (given : value ≠ "") : request.queryOrPath name path = value := by
  simp [ScorerRequest.queryOrPath,found,given]

theorem checkedScorer_get (isGet : request.method = .get) {scorer : String × String} :
    request.checkedScorer = some scorer ↔
      request.queryOrPath "experiment_id" request.experimentId = scorer.1 ∧
      request.queryOrPath "scorer_name" request.scorerName = scorer.2 ∧
      scorer.1 ≠ "" ∧ scorer.2 ≠ "" := by
  obtain ⟨experimentId,scorerName⟩ := scorer
  simp only [ScorerRequest.checkedScorer,checkedParam_get isGet]
  by_cases noExperiment : request.queryOrPath "experiment_id" request.experimentId = ""
  · simp only [noExperiment,if_true]
    constructor
    · intro none
      cases none
    · rintro ⟨rfl,_,given,_⟩
      exact absurd rfl given
  · by_cases noName : request.queryOrPath "scorer_name" request.scorerName = ""
    · simp only [noExperiment,noName,if_true,if_false]
      constructor
      · intro none
        cases none
      · rintro ⟨_,rfl,_,given⟩
        exact absurd rfl given
    · simp only [noExperiment,noName,if_false,JsonValue.text,Option.some.injEq,Prod.mk.injEq]
      constructor
      · rintro ⟨rfl,rfl⟩
        exact ⟨rfl,rfl,noExperiment,noName⟩
      · rintro ⟨rfl,rfl,_,_⟩
        exact ⟨rfl,rfl⟩

/-- The check asks for the scorer of the path where the query does not say otherwise. -/
theorem checked_is_read_iff (isGet : request.method = .get) {scorer : String × String}
    (checked : request.checkedScorer = some scorer) :
    scorer = request.readScorer ↔ request.QueryAgrees := by
  obtain ⟨experiment,name,_,_⟩ := (checkedScorer_get isGet).mp checked
  constructor
  · rintro rfl
    refine ⟨?_,?_⟩
    · intro value found given
      rw [queryOrPath_of_given found given] at experiment
      exact experiment
    · intro value found given
      rw [queryOrPath_of_given found given] at name
      exact name
  · intro ⟨agrees,agrees'⟩
    rw [queryOrPath_of_agrees agrees] at experiment
    rw [queryOrPath_of_agrees agrees'] at name
    exact (Prod.ext experiment name).symm

end Params

section Check
variable {env : Env} {t : Tables} {context : RequestContext} {username : String}
  {request : ScorerRequest} {caches : Caches}

theorem check_ok_iff : (∃ done, (checkScorerManagePermission env t context username request false
    caches).1 = .ok done) ↔ Authorised env t context username request caches := by
  unfold checkScorerManagePermission Authorised
  cases checked : request.checkedScorer with
  | none => simp
  | some scorer =>
    simp only [Bool.false_eq_true,if_false]
    cases managed : canManageScorer env t context username scorer caches with
    | mk result after =>
      cases result with
      | error failure => simp [managed]
      | ok manages => cases manages <;> simp [managed]

theorem scorerRoute_answers_iff {Answer : Type} {read : String × String → Answer} :
    (∃ answer, (scorerRoute env t context username read request false caches).1 = .ok answer) ↔
      request.method = .get ∧ Authorised env t context username request caches := by
  rw [← check_ok_iff]
  unfold scorerRoute
  by_cases isGet : request.method = .get
  · simp only [isGet,true_and]
    cases checkScorerManagePermission env t context username request false caches with
    | mk result after => cases result <;> simp
  · simp [isGet]

end Check

/-- The endpoints disclose what was authorised exactly where the request is refused or its
query agrees with its path. -/
theorem readsAuthorised_iff (env : Env) (t : Tables) (context : RequestContext)
    (username : String) (request : ScorerRequest) (caches : Caches) :
    ReadsAuthorised env t context username request caches ↔
      request.method ≠ .get ∨ ¬Authorised env t context username request caches ∨
        request.QueryAgrees := by
  constructor
  · intro reads
    by_cases answered : request.method = .get ∧ Authorised env t context username request caches
    · obtain ⟨isGet,authorised⟩ := answered
      obtain ⟨answer,listed⟩ := scorerRoute_answers_iff.mpr ⟨isGet,authorised⟩
      obtain ⟨scorer,checked,_⟩ := authorised
      have same := reads.users answer listed
      exact .inr (.inr ((checked_is_read_iff isGet same).mp rfl))
    · rw [not_and_or] at answered
      exact answered.imp id .inl
  · intro safe
    have settled : request.method = .get ∧ Authorised env t context username request caches →
        request.checkedScorer = some request.readScorer := by
      intro ⟨isGet,authorised⟩
      have agrees := (safe.resolve_left (not_not_intro isGet)).resolve_left
        (not_not_intro authorised)
      obtain ⟨scorer,checked,_⟩ := authorised
      rw [checked,(checked_is_read_iff isGet checked).mpr agrees]
    exact ⟨fun answer listed => settled (scorerRoute_answers_iff.mp ⟨answer,listed⟩),
      fun answer listed => settled (scorerRoute_answers_iff.mp ⟨answer,listed⟩)⟩

/-- Alice asks for the grants of a scorer she is denied, and names another one she manages. -/
def payrollRequest : ScorerRequest where
  method := .get
  experimentId := "1"
  scorerName := "payroll"
  query := [("scorer_name","toxicity")]
  body := none

theorem payroll_disclosed : ¬ ∀ (env : Env) (db : Database) (context : RequestContext)
    (username : String) (request : ScorerRequest) (caches : Caches),
    ReadsAuthorised env db.tables context username request caches := by
  intro law
  have reads := law scorerEnv scorerDatabase outsideFlask "alice" payrollRequest ⟨.empty,.empty⟩
  have listed : (getScorerUsers scorerEnv scorerDatabase.tables outsideFlask "alice" payrollRequest
      false ⟨.empty,.empty⟩).1 = .ok [⟨"alice","Alice","NO_PERMISSIONS","user"⟩] := by decide
  exact absurd (reads.users _ listed) (by decide)

end MlflowOidcAuth
