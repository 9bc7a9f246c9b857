import Mathlib.Data.List.Basic

/-! Permission levels, their lookup by name and their comparison, together with
the exceptions the plugin and its store raise. -/
namespace MlflowOidcAuth

/-- Error codes of `MlflowException` that the plugin raises or inspects. -/
inductive ErrorCode
  | resourceDoesNotExist
  | resourceAlreadyExists
  | invalidState
  | invalidParameterValue
  | badRequest
  | internalError
  | temporarilyUnavailable
deriving DecidableEq, Repr

/-- A raised exception: an `MlflowException`, a dictionary lookup that failed, a
pattern that does not compile, or any other exception. -/
inductive Failure
  | mlflow (code : ErrorCode) (message : String)
  | keyError (key : String)
  | reError (pattern : String)
  | other (message : String)
deriving DecidableEq, Repr

def Failure.isMissing : Failure → Bool
  | .mlflow .resourceDoesNotExist _ => true
  | _ => false

instance exceptDecidableEq {ε α : Type*} [DecidableEq ε] [DecidableEq α] : DecidableEq (Except ε α)
  | .ok a, .ok b => decidable_of_iff (a = b) (by simp)
  | .error a, .error b => decidable_of_iff (a = b) (by simp)
  | .ok _, .error _ => isFalse (by simp)
  | .error _, .ok _ => isFalse (by simp)

structure Permission where
  name : String
  priority : Nat
  canRead : Bool
  canUse : Bool
  canUpdate : Bool
  canDelete : Bool
  canManage : Bool
deriving DecidableEq, Repr

namespace Permission

def read : Permission := ⟨"READ",1,true,false,false,false,false⟩
def use : Permission := ⟨"USE",2,true,true,false,false,false⟩
def edit : Permission := ⟨"EDIT",3,true,true,true,false,false⟩
def manage : Permission := ⟨"MANAGE",4,true,true,true,true,true⟩
def noPermissions : Permission := ⟨"NO_PERMISSIONS",100,false,false,false,false,false⟩

end Permission

/-- `ALL_PERMISSIONS`, keyed by name. -/
def allPermissions : List Permission :=
  [.read,.use,.edit,.manage,.noPermissions]

def getPermission (permission : String) : Except Failure Permission :=
  match allPermissions.find? (fun known => decide (known.name = permission)) with
  | some known => .ok known
  | none => .error (.keyError permission)

def validatePermission (permission : String) : Except Failure Unit :=
  if permission ∈ allPermissions.map Permission.name then .ok ()
  else .error (.mlflow .invalidParameterValue
    ("Invalid permission '" ++ permission ++ "'. Valid permissions are: " ++
      "('READ', 'USE', 'EDIT', 'MANAGE', 'NO_PERMISSIONS')"))

/-- Whether the first permission has at most the priority of the second. -/
def comparePermissions (permission1 permission2 : String) : Except Failure Bool := do
  validatePermission permission1
  validatePermission permission2
  let first ← getPermission permission1
  let second ← getPermission permission2
  return decide (first.priority ≤ second.priority)

theorem getPermission_eq_ok {permission : String} {known : Permission} :
    getPermission permission = .ok known ↔ known ∈ allPermissions ∧ known.name = permission := by
  constructor
  · intro ok
    unfold getPermission at ok
    split at ok
    · next found =>
      cases ok
      exact ⟨List.mem_of_find?_eq_some found,by simpa using List.find?_some found⟩
    · cases ok
  · rintro ⟨member,rfl⟩
    have keyed : ∀ known ∈ allPermissions,
        allPermissions.find? (fun other => decide (other.name = known.name)) = some known := by decide
    simp only [getPermission,keyed known member]

theorem getPermission_name {permission : String} {known : Permission}
    (ok : getPermission permission = .ok known) : known.name = permission :=
  (getPermission_eq_ok.mp ok).2

theorem getPermission_ok_iff {permission : String} :
    (∃ known, getPermission permission = .ok known) ↔
      permission ∈ allPermissions.map Permission.name := by
  simp only [getPermission_eq_ok,List.mem_map]

theorem validatePermission_ok_iff {permission : String} :
    validatePermission permission = .ok () ↔ ∃ known, getPermission permission = .ok known := by
  rw [getPermission_ok_iff]
  unfold validatePermission
  split <;> simp_all

theorem permission_of_priority {first second : Permission} (known : first ∈ allPermissions)
    (known' : second ∈ allPermissions) (same : first.priority = second.priority) :
    first = second := by
  have injective : ∀ a ∈ allPermissions, ∀ b ∈ allPermissions, a.priority = b.priority → a = b := by
    decide
  exact injective first known second known' same

theorem comparePermissions_of_ok {permission1 permission2 : String} {first second : Permission}
    (ok1 : getPermission permission1 = .ok first) (ok2 : getPermission permission2 = .ok second) :
    comparePermissions permission1 permission2 = .ok (decide (first.priority ≤ second.priority)) := by
  have valid1 := validatePermission_ok_iff.mpr ⟨first,ok1⟩
  have valid2 := validatePermission_ok_iff.mpr ⟨second,ok2⟩
  simp only [comparePermissions,valid1,valid2,ok1,ok2]
  rfl

theorem comparePermissions_eq_ok {permission1 permission2 : String} {result : Bool}
    (ok : comparePermissions permission1 permission2 = .ok result) :
    ∃ first second, getPermission permission1 = .ok first ∧
      getPermission permission2 = .ok second ∧
      result = decide (first.priority ≤ second.priority) := by
  cases valid1 : validatePermission permission1 with
  | error failure => simp [comparePermissions,valid1,bind,Except.bind] at ok
  | ok _ =>
    cases valid2 : validatePermission permission2 with
    | error failure => simp [comparePermissions,valid1,valid2,bind,Except.bind] at ok
    | ok _ =>
      obtain ⟨first,ok1⟩ := validatePermission_ok_iff.mp valid1
      obtain ⟨second,ok2⟩ := validatePermission_ok_iff.mp valid2
      rw [comparePermissions_of_ok ok1 ok2] at ok
      cases ok
      exact ⟨first,second,ok1,ok2,rfl⟩

end MlflowOidcAuth
