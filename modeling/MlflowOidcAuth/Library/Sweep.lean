import MlflowOidcAuth.Library.Effects

/-! Sweeps: items are looked for in one place after another, those found are struck
off, and a visit may raise and end the sweep. What remains at the end is what no
place located. -/
namespace Sweep
open Effects

variable {Place Item ε σ : Type}

/-- What looking for an item in a place comes to. -/
inductive Probe
  | located
  | elsewhere
  | raised
deriving DecidableEq, Repr

def Unlocated (probe : Place → Item → Probe) (places : List Place) (item : Item) : Prop :=
  ∀ place ∈ places, probe place item ≠ .located

instance (probe : Place → Item → Probe) (places : List Place) (item : Item) :
    Decidable (Unlocated probe places item) :=
  inferInstanceAs (Decidable (∀ place ∈ places, probe place item ≠ .located))

/-- Some place is reached with an item still unlocated whose visit raises. -/
def Interrupted (probe : Place → Item → Probe) : List Place → List Item → Prop
  | [], _ => False
  | place :: rest, items =>
    (∃ item ∈ items, probe place item = .raised) ∨
      Interrupted probe rest (items.filter (fun item => decide (probe place item ≠ .located)))

instance (probe : Place → Item → Probe) (places : List Place) (items : List Item) :
    Decidable (Interrupted probe places items) := by
  induction places generalizing items with
  | nil => exact isFalse id
  | cons place rest ih => exact instDecidableOr

/-- A pass over some items raised, or returned with exactly `left` remaining. -/
def Passed (remaining : σ → List Item) (result : EStateM.Result ε σ PUnit) (raises : Prop)
    (left : List Item) : Prop :=
  (raises ∧ ∃ failure reached, result = .error failure reached) ∨
    (¬ raises ∧ ∃ reached, result = .ok () reached ∧ remaining reached = left)

theorem not_interrupted_nil (probe : Place → Item → Probe) (places : List Place) :
    ¬ Interrupted probe places [] := by
  induction places with
  | nil => exact id
  | cons place rest ih => simpa [Interrupted] using ih

section Loop
variable [DecidableEq Item] {remaining : σ → List Item} {probe : Item → Probe}
  {visit : Item → EStateM ε σ PUnit}

/-- A visit strikes off the item it locates and keeps the others. -/
def Visits (visit : Item → EStateM ε σ PUnit) (remaining : σ → List Item) (probe : Item → Probe) :
    Prop :=
  ∀ item state, Passed remaining (visit item state) (probe item = .raised)
    ((remaining state).filter (fun other => decide (¬ (other = item ∧ probe item = .located))))

/-- The loop rule: a loop of visits strikes off the items it locates. -/
theorem Visits.forM (visits : Visits visit remaining probe) (items : List Item) (state : σ) :
    Passed remaining (items.forM visit state) (∃ item ∈ items, probe item = .raised)
      ((remaining state).filter (fun other => decide (¬ (other ∈ items ∧ probe other = .located)))) := by
  induction items generalizing state with
  | nil => exact .inr ⟨by simp,state,rfl,by simp⟩
  | cons item rest ih =>
    change Passed remaining ((visit item >>= fun _ => rest.forM visit) state) _ _
    rcases visits item state with ⟨raises,failure,reached,ran⟩ | ⟨returns,reached,ran,left⟩
    · rw [bind_of_error ran]
      exact .inl ⟨⟨item,List.mem_cons_self,raises⟩,failure,reached,rfl⟩
    · rw [bind_of_ok ran]
      have both : (remaining reached).filter
            (fun other => decide (¬ (other ∈ rest ∧ probe other = .located))) =
          (remaining state).filter
            (fun other => decide (¬ (other ∈ item :: rest ∧ probe other = .located))) := by
        rw [left,List.filter_filter]
        refine List.filter_congr fun other _ => ?_
        by_cases same : other = item
        · subst same
          by_cases located : probe other = .located
          · simp [located]
          · simp [located]
        · simp [same]
      rcases ih reached with ⟨⟨later,member,raises⟩,stopped⟩ | ⟨none,done,ended,rest⟩
      · exact .inl ⟨⟨later,List.mem_cons_of_mem _ member,raises⟩,stopped⟩
      · refine .inr ⟨?_,done,ended,rest.trans both⟩
        rintro ⟨found,member,raises⟩
        rcases List.mem_cons.mp member with rfl | later
        · exact returns raises
        · exact none ⟨found,later,raises⟩

end Loop

section Places
variable {remaining : σ → List Item} {probe : Place → Item → Probe}
  {round : Place → EStateM ε σ PUnit}

/-- Visit the places in order while something remains. -/
def sweep (round : Place → EStateM ε σ PUnit) (remaining : σ → List Item) :
    List Place → EStateM ε σ PUnit
  | [] => pure ()
  | place :: rest => do
    let state ← get
    if (remaining state).isEmpty then pure ()
    else
      round place
      sweep round remaining rest

theorem sweep_cons (place : Place) (rest : List Place) (state : σ) :
    sweep round remaining (place :: rest) state =
      if (remaining state).isEmpty then .ok () state
      else (round place >>= fun _ => sweep round remaining rest) state := by
  change (if (remaining state).isEmpty = true then (pure () : EStateM ε σ PUnit)
    else (round place >>= fun _ => sweep round remaining rest)) state = _
  split <;> rfl

theorem keeps_sweep {View : Type*} {view : σ → View} (rounds : ∀ place, Keeps view (round place))
    (places : List Place) : Keeps view (sweep round remaining places) := by
  induction places with
  | nil => exact keeps_pure _
  | cons place rest ih =>
    refine keeps_get.bind fun state => ?_
    exact (keeps_pure ()).ite ((rounds place).bind fun _ => ih)

/-- The sweep rule: what remains is what no place located. -/
theorem sweep_passed
    (rounds : ∀ place state, Passed remaining (round place state)
      (∃ item ∈ remaining state, probe place item = .raised)
      ((remaining state).filter (fun item => decide (probe place item ≠ .located))))
    (places : List Place) (state : σ) :
    Passed remaining (sweep round remaining places state)
      (Interrupted probe places (remaining state))
      ((remaining state).filter (fun item => decide (Unlocated probe places item))) := by
  induction places generalizing state with
  | nil => exact .inr ⟨id,state,rfl,by simp [Unlocated]⟩
  | cons place rest ih =>
    rw [sweep_cons]
    by_cases empty : (remaining state).isEmpty = true
    · have nothing : remaining state = [] := List.isEmpty_iff.mp empty
      rw [if_pos empty,nothing]
      exact .inr ⟨not_interrupted_nil _ _,state,rfl,nothing⟩
    rw [if_neg empty]
    rcases rounds place state with ⟨raises,failure,reached,ran⟩ | ⟨returns,reached,ran,left⟩
    · rw [bind_of_error ran]
      exact .inl ⟨.inl raises,failure,reached,rfl⟩
    · rw [bind_of_ok ran]
      have both : (remaining reached).filter (fun item => decide (Unlocated probe rest item)) =
          (remaining state).filter (fun item => decide (Unlocated probe (place :: rest) item)) := by
        rw [left,List.filter_filter]
        refine List.filter_congr fun item _ => ?_
        rw [Bool.eq_iff_iff]
        simp only [Bool.and_eq_true,decide_eq_true_eq]
        simp [Unlocated,and_comm]
      have later := ih reached
      rw [both,left] at later
      rcases later with ⟨stopped,ended⟩ | ⟨none,ended⟩
      · exact .inl ⟨.inr stopped,ended⟩
      · exact .inr ⟨fun stopped => stopped.elim returns none,ended⟩

/-- The rule for sweeps that return: what each round relates, composed over the places, relates
start and end. A place that is no longer visited has nothing to do. -/
theorem sweep_relates (Related : List Place → σ → σ → Prop) (refl : ∀ state, Related [] state state)
    (idle : ∀ places state, remaining state = [] → Related places state state)
    (rounds : ∀ place rest state middle reached, round place state = .ok () middle →
      Related rest middle reached → Related (place :: rest) state reached)
    {places : List Place} {state reached : σ}
    (ran : sweep round remaining places state = .ok () reached) : Related places state reached := by
  induction places generalizing state with
  | nil =>
    cases ran
    exact refl _
  | cons place rest ih =>
    rw [sweep_cons] at ran
    by_cases empty : (remaining state).isEmpty = true
    · rw [if_pos empty] at ran
      cases ran
      exact idle _ _ (List.isEmpty_iff.mp empty)
    · rw [if_neg empty] at ran
      obtain ⟨_,middle,first,later⟩ := bind_eq_ok ran
      exact rounds place rest state middle reached first (ih later)

end Places
end Sweep
