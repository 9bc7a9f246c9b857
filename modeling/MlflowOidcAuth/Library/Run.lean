import Mathlib.Data.List.Basic

/-! Runs of a deterministic system that answers every event it handles. A run is
kept as its moments: the state before an event, the event and the answer, so a
property of a whole run is a property of each of its moments. -/
namespace Run

variable {State Event Answer : Type*}

/-- One step of a run, with the state it started from. -/
structure Moment (State Event Answer : Type*) where
  before : State
  event : Event
  answer : Answer

def moments (step : State → Event → Answer × State) :
    State → List Event → List (Moment State Event Answer)
  | _, [] => []
  | state, event :: rest =>
    ⟨state, event, (step state event).1⟩ :: moments step (step state event).2 rest

def final (step : State → Event → Answer × State) (start : State) (events : List Event) : State :=
  events.foldl (fun state event => (step state event).2) start

section
variable (step : State → Event → Answer × State)

@[simp] theorem moments_nil (start : State) : moments step start [] = [] := rfl

@[simp] theorem moments_cons (start : State) (event : Event) (rest : List Event) :
    moments step start (event :: rest) =
      ⟨start, event, (step start event).1⟩ :: moments step (step start event).2 rest := rfl

@[simp] theorem final_nil (start : State) : final step start [] = start := rfl

@[simp] theorem final_cons (start : State) (event : Event) (rest : List Event) :
    final step start (event :: rest) = final step (step start event).2 rest := rfl

theorem final_append (start : State) (first second : List Event) :
    final step start (first ++ second) = final step (final step start first) second :=
  List.foldl_append

theorem moments_append (start : State) (first second : List Event) :
    moments step start (first ++ second) =
      moments step start first ++ moments step (final step start first) second := by
  induction first generalizing start with
  | nil => rfl
  | cons event rest ih => simp [ih]

theorem event_of_moment {start : State} {events : List Event}
    {moment : Moment State Event Answer} (member : moment ∈ moments step start events) :
    moment.event ∈ events := by
  induction events generalizing start with
  | nil => simp at member
  | cons event rest ih =>
    rcases List.mem_cons.mp member with rfl | later
    · exact List.mem_cons_self
    · exact List.mem_cons_of_mem _ (ih later)

theorem answer_of_moment {start : State} {events : List Event}
    {moment : Moment State Event Answer} (member : moment ∈ moments step start events) :
    moment.answer = (step moment.before moment.event).1 := by
  induction events generalizing start with
  | nil => simp at member
  | cons event rest ih =>
    rcases List.mem_cons.mp member with rfl | later
    · rfl
    · exact ih later

variable {step}

/-- The run rule: what every allowed step preserves holds before each moment of
a run whose moments are all allowed, and at its end. -/
theorem invariant_of_moments {Inv : State → Prop} {Allowed : State → Event → Prop}
    (keeps : ∀ state event, Inv state → Allowed state event → Inv (step state event).2)
    {start : State} {events : List Event} (initial : Inv start)
    (allowed : ∀ moment ∈ moments step start events, Allowed moment.before moment.event) :
    (∀ moment ∈ moments step start events, Inv moment.before) ∧ Inv (final step start events) := by
  induction events generalizing start with
  | nil => exact ⟨by simp, initial⟩
  | cons event rest ih =>
    have first : Allowed start event := allowed ⟨start, event, _⟩ List.mem_cons_self
    have tail := ih (keeps start event initial first)
      (fun moment member => allowed moment (List.mem_cons_of_mem _ member))
    refine ⟨fun moment member => ?_,tail.2⟩
    rcases List.mem_cons.mp member with rfl | later
    · exact initial
    · exact tail.1 moment later

theorem invariant_until {Inv : State → Prop} {Kept : State → Event → Prop}
    (keeps : ∀ state event, Inv state → Kept state event → Inv (step state event).2)
    {start : State} {events : List Event} {between later : List (Moment State Event Answer)}
    {second : Moment State Event Answer}
    (split : moments step start events = between ++ second :: later) (initial : Inv start)
    (kept : ∀ moment ∈ between, Kept moment.before moment.event) : Inv second.before := by
  induction between generalizing start events with
  | nil =>
    cases events with
    | nil => cases split
    | cons event rest =>
      cases split
      exact initial
  | cons moment between ih =>
    cases events with
    | nil => cases split
    | cons event rest =>
      injection split with head tail
      subst head
      apply ih tail
      · exact keeps start event initial (kept _ List.mem_cons_self)
      · exact fun moment member => kept moment (List.mem_cons_of_mem _ member)

/-- What one moment establishes and those after it keep, a later moment starts from. -/
theorem invariant_between {Inv : State → Prop} {Kept : State → Event → Prop}
    (keeps : ∀ state event, Inv state → Kept state event → Inv (step state event).2)
    {start : State} {events : List Event} {earlier between later : List (Moment State Event Answer)}
    {first second : Moment State Event Answer}
    (split : moments step start events = earlier ++ first :: (between ++ second :: later))
    (established : Inv (step first.before first.event).2)
    (kept : ∀ moment ∈ between, Kept moment.before moment.event) : Inv second.before := by
  induction earlier generalizing start events with
  | nil =>
    cases events with
    | nil => cases split
    | cons event rest =>
      injection split with head tail
      subst head
      exact invariant_until keeps tail established kept
  | cons moment earlier ih =>
    cases events with
    | nil => cases split
    | cons event rest =>
      injection split with _ tail
      exact ih tail

/-- With an invariant in hand, a property of single steps is one of every moment. -/
theorem moments_satisfy (Inv : State → Prop) (Allowed : State → Event → Prop)
    (Good : State → Event → Answer → Prop)
    (keeps : ∀ state event, Inv state → Allowed state event →
      Good state event (step state event).1 ∧ Inv (step state event).2)
    {start : State} {events : List Event} (initial : Inv start)
    (allowed : ∀ moment ∈ moments step start events, Allowed moment.before moment.event) :
    ∀ moment ∈ moments step start events, Good moment.before moment.event moment.answer := by
  intro moment member
  have preserved := fun state event held permitted => (keeps state event held permitted).2
  have held := (invariant_of_moments preserved initial allowed).1 moment member
  rw [answer_of_moment step member]
  exact (keeps _ _ held (allowed moment member)).1

/-- Whoever takes no notice of the other events sees the same answers in a run without them. -/
theorem purged_answers {own : Event → Bool} {Related : State → State → Prop}
    {Allowed : State → Event → Prop}
    (foreign : ∀ full purged event, Related full purged → Allowed full event →
      own event = false → Related (step full event).2 purged)
    (shared : ∀ full purged event, Related full purged → Allowed full event → own event = true →
      (step full event).1 = (step purged event).1 ∧
        Related (step full event).2 (step purged event).2)
    {full purged : State} {events : List Event} (related : Related full purged)
    (allowed : ∀ moment ∈ moments step full events, Allowed moment.before moment.event) :
    ((moments step full events).filter (fun moment => own moment.event)).map Moment.answer =
      (moments step purged (events.filter own)).map Moment.answer := by
  induction events generalizing full purged with
  | nil => rfl
  | cons event rest ih =>
    have first : Allowed full event := allowed ⟨full, event, _⟩ List.mem_cons_self
    have later := fun moment member => allowed moment (List.mem_cons_of_mem _ member)
    cases mine : own event with
    | false => simpa [mine] using ih (foreign full purged event related first mine) later
    | true =>
      obtain ⟨same,related'⟩ := shared full purged event related first mine
      simpa [mine,same] using ih related' later

end
end Run
