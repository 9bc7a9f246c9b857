import Mathlib.Data.Nat.Basic

/-! Loops that may raise, run on a fuel: a step goes on in a new state or leaves with a
result. The rules carry an invariant, and a measure where the loop must end. -/
namespace Loop

variable {State Result Error : Type*}

inductive Next (State Result : Type*)
  | goOn (state : State)
  | leave (result : Result)

/-- Run steps until one leaves; a run that outlasts its fuel ends with `exhausted`. -/
def iterate (exhausted : Error) (step : State → Except Error (Next State Result)) :
    Nat → State → Except Error Result
  | 0,_ => .error exhausted
  | fuel + 1,state =>
    match step state with
    | .error error => .error error
    | .ok (.goOn next) => iterate exhausted step fuel next
    | .ok (.leave result) => .ok result

section
variable {exhausted : Error} {step : State → Except Error (Next State Result)}
  {Post : Result → Prop}

/-- What a step may do from a state: keep the invariant and come closer, or leave. -/
def Advances (Inv : State → Prop) (Post : Result → Prop) (measure : State → Nat) (state : State) :
    Next State Result → Prop
  | .goOn next => Inv next ∧ measure next < measure state
  | .leave result => Post result

/-- The total rule: a loop whose steps advance ends within its measure. -/
theorem iterate_ends (Inv : State → Prop) (measure : State → Nat)
    (advances : ∀ state, Inv state → ∃ next, step state = .ok next ∧
      Advances Inv Post measure state next)
    {fuel : Nat} {state : State} (held : Inv state) (enough : measure state < fuel) :
    ∃ result, iterate exhausted step fuel state = .ok result ∧ Post result := by
  induction fuel generalizing state with
  | zero => omega
  | succ fuel ih =>
    obtain ⟨next,stepped,advance⟩ := advances state held
    cases next with
    | leave result =>
      have left : iterate exhausted step (fuel + 1) state = .ok result := by
        simp only [iterate,stepped]
      exact ⟨result,left,advance⟩
    | goOn next =>
      have closer : measure next < fuel := by
        have := advance.2
        omega
      obtain ⟨result,ended,post⟩ := ih advance.1 closer
      have went : iterate exhausted step (fuel + 1) state = .ok result := by
        simp only [iterate,stepped,ended]
      exact ⟨result,went,post⟩

/-- The partial rule: a result that is reached at all satisfies the postcondition. -/
theorem iterate_sound (Inv : State → Prop) (Post : Result → Prop)
    (keeps : ∀ state next, Inv state → step state = .ok (.goOn next) → Inv next)
    (leaves : ∀ state result, Inv state → step state = .ok (.leave result) → Post result)
    {fuel : Nat} {state : State} {result : Result} (held : Inv state)
    (ran : iterate exhausted step fuel state = .ok result) : Post result := by
  induction fuel generalizing state with
  | zero => simp [iterate] at ran
  | succ fuel ih =>
    cases stepped : step state with
    | error error => simp [iterate,stepped] at ran
    | ok next =>
      cases next with
      | leave other =>
        simp only [iterate,stepped,Except.ok.injEq] at ran
        rw [← ran]
        exact leaves state other held stepped
      | goOn next =>
        simp only [iterate,stepped] at ran
        exact ih (keeps state next held stepped) ran

/-- More fuel changes no result. -/
theorem iterate_more {fuel fuel' : Nat} {state : State} {result : Result}
    (ran : iterate exhausted step fuel state = .ok result) (more : fuel ≤ fuel') :
    iterate exhausted step fuel' state = .ok result := by
  induction fuel generalizing fuel' state with
  | zero => simp [iterate] at ran
  | succ fuel ih =>
    cases fuel' with
    | zero => omega
    | succ fuel' =>
      cases stepped : step state with
      | error error => simp [iterate,stepped] at ran
      | ok next =>
        cases next with
        | leave other =>
          simp only [iterate,stepped] at ran ⊢
          exact ran
        | goOn next =>
          simp only [iterate,stepped] at ran ⊢
          exact ih ran (Nat.le_of_succ_le_succ more)

end
end Loop
