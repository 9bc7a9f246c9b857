import MlflowOidcAuth.Permissions

/-! What the plugin reads of MLflow's entities. -/
namespace MlflowOidcAuth

inductive LifecycleStage
  | active
  | deleted
deriving DecidableEq, Repr

structure Experiment where
  experimentId : String
  artifactLocation : Option String
  lifecycleStage : LifecycleStage
  lastUpdateTime : Option Int
  creationTime : Option Int
deriving DecidableEq, Repr

/-- The part of a run's `info` that the plugin reads. -/
structure RunInfo where
  runId : String
  experimentId : String
  lifecycleStage : LifecycleStage
deriving DecidableEq, Repr

def Failure.isMlflow : Failure → Bool
  | .mlflow _ _ => true
  | _ => false

/-- Python's truth value of an optional string: neither `None` nor empty. -/
def given : Option String → Bool
  | none => false
  | some text => decide (text ≠ "")

/-- The code points that `str.strip` removes. -/
def isPythonSpace (c : Char) : Bool :=
  let n := c.toNat
  decide ((9 ≤ n ∧ n ≤ 13) ∨ (28 ≤ n ∧ n ≤ 32) ∨ (8192 ≤ n ∧ n ≤ 8202)) ||
    n ∈ [133,160,5760,8232,8233,8239,8287,12288]

def strip (text : List Char) : String :=
  String.ofList ((text.dropWhile isPythonSpace).reverse.dropWhile isPythonSpace).reverse

end MlflowOidcAuth
