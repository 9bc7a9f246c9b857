import Mathlib.Data.List.Dedup
import MlflowOidcAuth.Tracking

/-! Permanent deletion of trashed runs and experiments: the two target lists are
built separately, each taking everything in the trash when its own parameter is
absent. -/
namespace MlflowOidcAuth

/-- The tracking store as the cleanup calls it, over its states. -/
structure TrackingStore (State : Type) where
  hasHardDeleteRun : Bool
  hasHardDeleteExperiment : Bool
  getDeletedRuns : State → Int → Except Failure (List String)
  getRun : State → String → Except Failure RunInfo
  getExperiment : State → String → Except Failure Experiment
  /-- One page of the deleted experiments that pass a filter, and the next token. -/
  searchExperiments : State → Option String → Option String →
    Except Failure (List Experiment × Option String)
  /-- The deleted runs of an experiment, as far as the first page goes. -/
  searchRuns : State → String → Except Failure (List RunInfo)
  hardDeleteRun : State → String → Except Failure State
  hardDeleteExperiment : State → String → Except Failure State

/-- The query parameters, with what the clock and the duration parser make of them. -/
structure CleanupRequest where
  olderThan : Option String
  runIds : Option String
  experimentIds : Option String
  parseTimeDelta : String → Except Failure Int
  currentTimeMillis : Int
  recursionLimit : Nat

/-- An id that was not deleted, and why. -/
structure FailedEntity where
  id : String
  error : String
deriving DecidableEq, Repr

structure CleanupReport where
  deletedRuns : List String
  failedRuns : List FailedEntity
  deletedExperiments : List String
  failedExperiments : List FailedEntity
deriving DecidableEq, Repr

inductive CleanupResponse
  | refused (status : Nat) (error : String)
  | done (report : CleanupReport)
deriving DecidableEq, Repr

def Failure.text : Failure → String
  | .mlflow _ message => message
  | .keyError key => "'" ++ key ++ "'"
  | .reError pattern => pattern
  | .other message => message

def splitCsv (raw : Option String) : List String :=
  match raw with
  | none => []
  | some raw => ((raw.toList.splitOn ',').map strip).filter (fun value => decide (value ≠ ""))

def quotedIds (ids : List String) : String :=
  "[" ++ String.intercalate ", " (ids.map (fun id => "'" ++ id ++ "'")) ++ "]"

section Cleanup
variable {State : Type} (store : TrackingStore State)

namespace CleanupRequest
variable (request : CleanupRequest)

def timeDelta : Except Failure Int :=
  match request.olderThan with
  | none => .ok 0
  | some olderThan => request.parseTimeDelta olderThan

/-- A failed query counts as no deleted runs. -/
def deletedRunIdsOlderThan (delta : Int) (state : State) : List String :=
  match store.getDeletedRuns state delta with
  | .ok ids => ids
  | .error _ => []

def targetRunIds (delta : Int) (state : State) : List String :=
  if given request.runIds then splitCsv request.runIds
  else deletedRunIdsOlderThan store delta state

def filterString (delta : Int) : Option String :=
  if given request.olderThan then
    some ("last_update_time < " ++ toString (request.currentTimeMillis - delta))
  else none

/-- Page after page of the deleted experiments; a page that raises ends the list. -/
def fetchExperiments (filter : Option String) (state : State) :
    Nat → Option String → List Experiment
  | 0, _ => []
  | depth + 1, token =>
    match store.searchExperiments state filter token with
    | .error _ => []
    | .ok (page,next) =>
      if given next then page ++ fetchExperiments filter state depth next else page

def trashedExperimentIds (delta : Int) (state : State) : List String :=
  (fetchExperiments store (request.filterString delta) state request.recursionLimit none).map
    Experiment.experimentId

/-- Fetch the named experiments; the first that cannot be fetched is not found. -/
def namedExperiments (state : State) : List String → Except String (List Experiment)
  | [] => .ok []
  | id :: rest =>
    match store.getExperiment state id with
    | .error _ => .error id
    | .ok experiment => do
      let others ← namedExperiments state rest
      return experiment :: others

def tooYoung (delta : Int) (experiment : Experiment) : Bool :=
  match experiment.lastUpdateTime with
  | none => true
  | some updated => decide (request.currentTimeMillis - delta ≤ updated)

def activeExperiments (experiments : List Experiment) : List Experiment :=
  experiments.filter (fun experiment => decide (experiment.lifecycleStage ≠ .deleted))

def nonOldExperiments (delta : Int) (experiments : List Experiment) : List Experiment :=
  experiments.filter (request.tooYoung delta)

/-- The experiments to delete, or the refusal of the request. -/
def targetExperimentIds (delta : Int) (state : State) : Except CleanupResponse (List String) :=
  if !store.hasHardDeleteExperiment then .ok []
  else if given request.experimentIds then
    match namedExperiments store state (splitCsv request.experimentIds) with
    | .error id => .error (.refused 404 ("Experiment " ++ id ++ " not found"))
    | .ok experiments =>
      if activeExperiments experiments ≠ [] then
        .error (.refused 400 ("Experiments " ++
          quotedIds ((activeExperiments experiments).map Experiment.experimentId) ++
          " are not in deleted lifecycle stage"))
      else if given request.olderThan ∧ request.nonOldExperiments delta experiments ≠ [] then
        .error (.refused 400 ("Experiments " ++
          quotedIds ((request.nonOldExperiments delta experiments).map Experiment.experimentId) ++
          " are not older than " ++ request.olderThan.getD ""))
      else .ok (splitCsv request.experimentIds)
  else .ok (request.trashedExperimentIds store delta state)

end CleanupRequest

/-- One pass of the loop over the runs. -/
def cleanupRun (request : CleanupRequest) (olderRuns : List String)
    (progress : CleanupReport × State) (runId : String) : CleanupReport × State :=
  let (report,state) := progress
  let failed := fun error =>
    ({ report with failedRuns := report.failedRuns ++ [⟨runId,error⟩] },state)
  match store.getRun state runId with
  | .error failure => failed failure.text
  | .ok run =>
    if run.lifecycleStage ≠ .deleted then failed "Run is not in deleted lifecycle stage"
    else if given request.olderThan ∧ runId ∉ olderRuns then
      failed ("Run is not older than " ++ request.olderThan.getD "")
    else match store.hardDeleteRun state runId with
      | .error failure => failed failure.text
      | .ok after => ({ report with deletedRuns := report.deletedRuns ++ [runId] },after)

/-- The runs of an experiment are deleted one by one until one raises. -/
def hardDeleteRuns (state : State) : List RunInfo → Option Failure × State
  | [] => (none,state)
  | run :: rest =>
    match store.hardDeleteRun state run.runId with
    | .error failure => (some failure,state)
    | .ok after => hardDeleteRuns after rest

def hardDeleteExperimentWithRuns (experimentId : String) (state : State) : Option Failure × State :=
  match store.searchRuns state experimentId with
  | .error failure => (some failure,state)
  | .ok deletedRuns =>
    match hardDeleteRuns store state deletedRuns with
    | (some failure,after) => (some failure,after)
    | (none,after) =>
      match store.hardDeleteExperiment after experimentId with
      | .error failure => (some failure,after)
      | .ok done => (none,done)

def cleanupExperiment (progress : CleanupReport × State) (experimentId : String) :
    CleanupReport × State :=
  let (report,state) := progress
  match hardDeleteExperimentWithRuns store experimentId state with
  | (some failure,after) =>
    ({ report with failedExperiments :=
        report.failedExperiments ++ [⟨experimentId,failure.text⟩] },after)
  | (none,after) =>
    ({ report with deletedExperiments := report.deletedExperiments ++ [experimentId] },after)

/-- What the handler does once the duration is parsed. -/
def cleanupTargets (request : CleanupRequest) (delta : Int) (state : State) :
    CleanupResponse × State :=
  match request.targetExperimentIds store delta state with
  | .error refusal => (refusal,state)
  | .ok experimentIds =>
    let olderRuns := CleanupRequest.deletedRunIdsOlderThan store delta state
    let runs := (request.targetRunIds store delta state).dedup.foldl
      (cleanupRun store request olderRuns) (⟨[],[],[],[]⟩,state)
    let cleaned := experimentIds.foldl (cleanupExperiment store) runs
    (.done cleaned.1,cleaned.2)

def permanentlyDeleteAllTrashedEntities (request : CleanupRequest) (state : State) :
    CleanupResponse × State :=
  if !store.hasHardDeleteRun then
    (.refused 400 "Backend store does not support permanent deletion of runs",state)
  else match request.timeDelta with
    | .error failure =>
      if failure.isMlflow then (.refused 400 "Invalid time format",state)
      else (.refused 500 "Cleanup operation failed",state)
    | .ok delta => cleanupTargets store request delta state

end Cleanup
end MlflowOidcAuth
