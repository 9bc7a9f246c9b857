import Mathlib.Algebra.BigOperators.Ring.Finset
import Mathlib.Algebra.Order.BigOperators.Group.Finset
import Mathlib.Data.PNat.Basic

/-! A counter that clients raise by a read followed by a write, and that recounts of what
it stands for overwrite: when no raise is lost. -/
namespace SharedCounter

inductive Phase
  | waiting
  | holding (value : Int)
  | charged
deriving DecidableEq, Repr

/-- What a recount found, and whose amounts it came upon. -/
structure Count (Client : Type) where
  found : Int
  includes : Client → Bool

structure State (Client Recount : Type) where
  total : Int
  phase : Client → Phase
  pending : Recount → Option (Count Client)
  /-- The recount that was the last to overwrite the counter. -/
  base : Count Client

inductive Event (Client Recount : Type)
  | read (client : Client)
  | write (client : Client)
  | scan (recount : Recount) (count : Count Client)
  | overwrite (recount : Recount)

section Steps
variable {Client Recount : Type} [DecidableEq Client] [DecidableEq Recount]
  (amount : Client → ℕ+)

def step (state : State Client Recount) : Event Client Recount → State Client Recount
  | .read client =>
    match state.phase client with
    | .waiting =>
      { state with phase := Function.update state.phase client (.holding state.total) }
    | _ => state
  | .write client =>
    match state.phase client with
    | .holding value =>
      { state with
        total := max 0 (value + (amount client : Nat))
        phase := Function.update state.phase client .charged }
    | _ => state
  | .scan recount count =>
    { state with pending := Function.update state.pending recount (some count) }
  | .overwrite recount =>
    match state.pending recount with
    | some count =>
      { state with
        total := count.found
        pending := Function.update state.pending recount none
        base := count }
    | none => state

/-- What the counter must hold for a client beyond the last recount. -/
def State.owed (state : State Client Recount) (client : Client) : Int :=
  if state.phase client = .charged ∧ state.base.includes client = false then (amount client : Nat)
  else 0

def State.Accounted [Fintype Client] (state : State Client Recount) : Prop :=
  state.base.found + ∑ client, state.owed amount client ≤ state.total

/-- A write finds the counter no higher than it read it, and an overwriting recount has come
upon every amount that is already charged. -/
def Harmless (state : State Client Recount) : Event Client Recount → Prop
  | .write client =>
    match state.phase client with
    | .holding value => state.total ≤ value
    | _ => True
  | .overwrite recount =>
    match state.pending recount with
    | some count => ∀ client, state.phase client = .charged → count.includes client = true
    | none => True
  | _ => True

instance [Fintype Client] (state : State Client Recount) (event : Event Client Recount) :
    Decidable (Harmless state event) := by
  cases event with
  | read client => exact isTrue trivial
  | scan recount count => exact isTrue trivial
  | write client =>
    simp only [Harmless]
    split <;> infer_instance
  | overwrite recount =>
    simp only [Harmless]
    split <;> infer_instance

variable {amount}

omit [DecidableEq Client] [DecidableEq Recount] in
theorem owed_of_not_charged {state : State Client Recount} {client : Client}
    (waits : state.phase client ≠ .charged) : state.owed amount client = 0 :=
  if_neg (fun owes => waits owes.1)

omit [DecidableEq Recount] in
/-- A charge adds at most the amount of its client to what is owed. -/
theorem owed_charged (amount : Client → ℕ+) {state : State Client Recount} {client : Client}
    (waits : state.phase client ≠ .charged) (total : Int) (other : Client) :
    State.owed amount
        { state with total := total, phase := Function.update state.phase client .charged } other ≤
      state.owed amount other + if other = client then ((amount client : Nat) : Int) else 0 := by
  by_cases same : other = client
  · subst same
    rw [owed_of_not_charged waits,if_pos rfl,zero_add]
    unfold State.owed
    split
    · exact le_refl _
    · exact Int.natCast_nonneg _
  · rw [if_neg same,add_zero]
    simp only [State.owed,Function.update_of_ne same,le_refl]

variable [Fintype Client]

theorem accounted_write {state : State Client Recount} {client : Client} {value : Int}
    (accounted : state.Accounted amount) (holding : state.phase client = .holding value)
    (harmless : state.total ≤ value) : (step amount state (.write client)).Accounted amount := by
  have waits : state.phase client ≠ .charged := by simp [holding]
  have owed := Finset.sum_le_sum (fun other (_ : other ∈ Finset.univ) =>
    owed_charged amount waits (max 0 (value + (amount client : Nat))) other)
  rw [Finset.sum_add_distrib,Finset.sum_ite_eq' Finset.univ client,if_pos (Finset.mem_univ _)] at owed
  unfold State.Accounted at accounted ⊢
  simp only [step,holding]
  have raised := le_max_right 0 (value + ((amount client : Nat) : Int))
  omega

theorem accounted_overwrite {state : State Client Recount} {recount : Recount} {count : Count Client}
    (scanned : state.pending recount = some count)
    (harmless : ∀ client, state.phase client = .charged → count.includes client = true) :
    (step amount state (.overwrite recount)).Accounted amount := by
  have settled : ∀ client, (step amount state (.overwrite recount)).owed amount client = 0 := by
    intro client
    simp only [State.owed,step,scanned]
    apply if_neg
    rintro ⟨charged,missed⟩
    rw [harmless client charged] at missed
    cases missed
  unfold State.Accounted
  rw [Finset.sum_eq_zero (fun client _ => settled client)]
  simp only [step,scanned,add_zero,le_refl]

/-- The step rule: a harmless step loses no amount. -/
theorem step_accounted {state : State Client Recount} {event : Event Client Recount}
    (accounted : state.Accounted amount) (harmless : Harmless state event) :
    (step amount state event).Accounted amount := by
  cases event with
  | read client =>
    cases phase : state.phase client with
    | waiting =>
      have same : ∀ other, (step amount state (.read client)).owed amount other =
          state.owed amount other := by
        intro other
        simp only [State.owed,step,phase]
        by_cases here : other = client
        · subst here
          simp [phase]
        · rw [Function.update_of_ne here]
      unfold State.Accounted at accounted ⊢
      simp only [same]
      simpa only [step,phase] using accounted
    | holding value => simpa only [step,phase] using accounted
    | charged => simpa only [step,phase] using accounted
  | scan recount count => exact accounted
  | write client =>
    cases phase : state.phase client with
    | waiting => simpa only [step,phase] using accounted
    | charged => simpa only [step,phase] using accounted
    | holding value =>
      simp only [Harmless,phase] at harmless
      exact accounted_write accounted phase harmless
  | overwrite recount =>
    cases pending : state.pending recount with
    | none => simpa only [step,pending] using accounted
    | some count =>
      simp only [Harmless,pending] at harmless
      exact accounted_overwrite pending harmless

end Steps
end SharedCounter
