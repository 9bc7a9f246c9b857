import Mathlib.Data.List.Forall2

/-! Programs that raise and keep the state they reached when they do. Frame rules
say which part of the state a program leaves alone, whether it returns or raises. -/
namespace Effects

variable {ε σ α β : Type}

def finish : EStateM.Result ε σ α → σ
  | .ok _ state => state
  | .error _ state => state

def returned : EStateM.Result ε σ α → Option α
  | .ok value _ => some value
  | .error _ _ => none

/-- The state a program ends in. -/
def after (program : EStateM ε σ α) (state : σ) : σ := finish (program state)

theorem bind_of_ok {program : EStateM ε σ α} {next : α → EStateM ε σ β} {state reached : σ}
    {value : α} (ran : program state = .ok value reached) :
    (program >>= next) state = next value reached := by
  change EStateM.bind program next state = _
  simp only [EStateM.bind,ran]

theorem bind_of_error {program : EStateM ε σ α} {next : α → EStateM ε σ β} {state reached : σ}
    {failure : ε} (raised : program state = .error failure reached) :
    (program >>= next) state = .error failure reached := by
  change EStateM.bind program next state = _
  simp only [EStateM.bind,raised]

/-- A traversal returns exactly where every item does. -/
theorem mapM_eq_ok {f : α → Except ε β} {items : List α} {results : List β} :
    items.mapM f = .ok results ↔ List.Forall₂ (fun item result => f item = .ok result) items results := by
  induction items generalizing results with
  | nil => simp [pure,Except.pure,eq_comm]
  | cons item rest ih =>
    rw [List.mapM_cons,List.forall₂_cons_left_iff]
    cases first : f item with
    | error failure => simp [bind,Except.bind]
    | ok result =>
      cases later : rest.mapM f with
      | error failure =>
        have none' : ∀ others, ¬ List.Forall₂ (fun item result => f item = .ok result) rest others := by
          intro others all
          rw [ih.mpr all] at later
          cases later
        simp [bind,Except.bind,none']
      | ok others =>
        have all := ih.mp later
        simp only [bind,Except.bind,pure,Except.pure,Except.ok.injEq]
        constructor
        · rintro rfl
          exact ⟨result,others,rfl,all,rfl⟩
        · rintro ⟨_,others',rfl,all',rfl⟩
          have same := ih.mpr all'
          rw [later] at same
          cases same
          rfl

section Frame
variable {View : Type*} {view : σ → View}

/-- Every run of the program leaves the view as it was. -/
def Keeps (view : σ → View) (program : EStateM ε σ α) : Prop :=
  ∀ state, view (after program state) = view state

theorem keeps_pure (value : α) : Keeps view (pure value : EStateM ε σ α) := fun _ => rfl

theorem keeps_throw (failure : ε) : Keeps view (throw failure : EStateM ε σ α) := fun _ => rfl

theorem keeps_get : Keeps view (get : EStateM ε σ σ) := fun _ => rfl

theorem Keeps.bind {program : EStateM ε σ α} {next : α → EStateM ε σ β}
    (first : Keeps view program) (second : ∀ value, Keeps view (next value)) :
    Keeps view (program >>= next) := by
  intro state
  have kept := first state
  cases ran : program state with
  | ok value reached =>
    have reachedView : view reached = view state := by simpa [after,finish,ran] using kept
    rw [after,bind_of_ok ran,← reachedView]
    exact second value reached
  | error failure reached =>
    rw [after,bind_of_error ran]
    simpa [after,finish,ran] using kept

theorem Keeps.ite {condition : Prop} [Decidable condition] {yes no : EStateM ε σ α}
    (first : Keeps view yes) (second : Keeps view no) :
    Keeps view (if condition then yes else no) := by
  split
  · exact first
  · exact second

theorem Keeps.forM {Item : Type} {items : List Item} {visit : Item → EStateM ε σ PUnit}
    (each : ∀ item, Keeps view (visit item)) : Keeps view (items.forM visit) := by
  induction items with
  | nil => exact keeps_pure _
  | cons item rest ih => exact (each item).bind (fun _ => ih)

theorem Keeps.of_ok {program : EStateM ε σ α} (kept : Keeps view program) {state reached : σ}
    {value : α} (ran : program state = .ok value reached) : view reached = view state := by
  simpa [after,finish,ran] using kept state

theorem Keeps.of_error {program : EStateM ε σ α} (kept : Keeps view program) {state reached : σ}
    {failure : ε} (raised : program state = .error failure reached) : view reached = view state := by
  simpa [after,finish,raised] using kept state

/-- What follows a program only matters as far as it touches the view. -/
theorem after_bind {program : EStateM ε σ α} {next : α → EStateM ε σ β}
    (rest : ∀ value, Keeps view (next value)) (state : σ) :
    view (after (program >>= next) state) = view (after program state) := by
  cases ran : program state with
  | ok value reached =>
    rw [after,bind_of_ok ran]
    simpa [after,finish,ran] using rest value reached
  | error failure reached =>
    rw [after,bind_of_error ran]
    simp only [after,finish,ran]

end Frame

section Simulation
variable {τ : Type} {view : σ → τ}

/-- How a run looks to one who sees only a part of the state. -/
def seen (view : σ → τ) : EStateM.Result ε σ α → EStateM.Result ε τ α
  | .ok value state => .ok value (view state)
  | .error failure state => .error failure (view state)

/-- Seen through the view, the program runs as the plain one. -/
def Simulates (view : σ → τ) (program : EStateM ε σ α) (plain : EStateM ε τ α) : Prop :=
  ∀ state, seen view (program state) = plain (view state)

theorem simulates_pure (value : α) :
    Simulates view (pure value : EStateM ε σ α) (pure value) := fun _ => rfl

theorem simulates_throw (failure : ε) :
    Simulates view (throw failure : EStateM ε σ α) (throw failure) := fun _ => rfl

theorem Simulates.bind {program : EStateM ε σ α} {plain : EStateM ε τ α}
    {next : α → EStateM ε σ β} {plainNext : α → EStateM ε τ β}
    (first : Simulates view program plain)
    (second : ∀ value, Simulates view (next value) (plainNext value)) :
    Simulates view (program >>= next) (plain >>= plainNext) := by
  intro state
  have same := first state
  cases ran : program state with
  | ok value reached =>
    rw [ran] at same
    rw [bind_of_ok ran,bind_of_ok same.symm]
    exact second value reached
  | error failure reached =>
    rw [ran] at same
    rw [bind_of_error ran,bind_of_error same.symm]
    rfl

theorem Simulates.ite {condition : Prop} [Decidable condition] {yes no : EStateM ε σ α}
    {plainYes plainNo : EStateM ε τ α} (first : Simulates view yes plainYes)
    (second : Simulates view no plainNo) :
    Simulates view (if condition then yes else no) (if condition then plainYes else plainNo) := by
  split
  · exact first
  · exact second

theorem Simulates.returns_iff {program : EStateM ε σ α} {plain : EStateM ε τ α}
    (simulates : Simulates view program plain) (state : σ) :
    (∃ value reached, plain (view state) = .ok value reached) ↔
      ∃ value reached, program state = .ok value reached := by
  rw [← simulates state]
  cases program state <;> simp [seen]

end Simulation

section Returns
variable {pre : σ → Prop} {post : α → σ → Prop}

/-- A run that starts in `pre` and returns ends in `post`. -/
def Ensures (pre : σ → Prop) (program : EStateM ε σ α) (post : α → σ → Prop) : Prop :=
  ∀ state value reached, pre state → program state = .ok value reached → post value reached

theorem bind_eq_ok {program : EStateM ε σ α} {next : α → EStateM ε σ β} {state reached : σ}
    {value : β} (ran : (program >>= next) state = .ok value reached) :
    ∃ middle between, program state = .ok middle between ∧ next middle between = .ok value reached := by
  cases first : program state with
  | ok middle between =>
    rw [bind_of_ok first] at ran
    exact ⟨middle,between,rfl,ran⟩
  | error failure between =>
    rw [bind_of_error first] at ran
    cases ran

/-- The rule for loops that return: what each visit relates, composed over the items, relates
start and end. -/
theorem forM_relates {Item : Type} {visit : Item → EStateM ε σ PUnit}
    (Related : List Item → σ → σ → Prop) (refl : ∀ state, Related [] state state)
    (visits : ∀ item rest state middle reached, visit item state = .ok () middle →
      Related rest middle reached → Related (item :: rest) state reached)
    {items : List Item} {state reached : σ} (ran : items.forM visit state = .ok () reached) :
    Related items state reached := by
  induction items generalizing state with
  | nil =>
    cases ran
    exact refl _
  | cons item rest ih =>
    obtain ⟨_,middle,first,later⟩ := bind_eq_ok ran
    exact visits item rest state middle reached first (ih later)

theorem ensures_pure {value : α} (held : ∀ state, pre state → post value state) :
    Ensures pre (pure value : EStateM ε σ α) post := by
  intro state result reached start ran
  cases ran
  exact held state start

theorem ensures_throw {failure : ε} : Ensures pre (throw failure : EStateM ε σ α) post := by
  intro state result reached start ran
  cases ran

theorem Ensures.bind {program : EStateM ε σ α} {next : α → EStateM ε σ β} {last : β → σ → Prop}
    (first : Ensures pre program post) (second : ∀ value, Ensures (post value) (next value) last) :
    Ensures pre (program >>= next) last := by
  intro state value reached start ran
  obtain ⟨middle,between,ran,rest⟩ := bind_eq_ok ran
  exact second middle between value reached (first state middle between start ran) rest

theorem Ensures.ite {condition : Prop} [Decidable condition] {yes no : EStateM ε σ α}
    (first : condition → Ensures pre yes post) (second : ¬ condition → Ensures pre no post) :
    Ensures pre (if condition then yes else no) post := by
  split
  · next holds => exact first holds
  · next fails => exact second fails

theorem Ensures.weaken {program : EStateM ε σ α} {weaker : α → σ → Prop}
    (ensured : Ensures pre program post) (implied : ∀ value state, post value state → weaker value state) :
    Ensures pre program weaker :=
  fun state value reached start ran => implied value reached (ensured state value reached start ran)

end Returns

section Invariants
variable {inv : σ → Prop}

/-- Whether it returns or raises, a program keeps an invariant. -/
def Preserves (inv : σ → Prop) (program : EStateM ε σ α) : Prop :=
  ∀ state, inv state → inv (after program state)

/-- `try: … except Exception:`, when the exception is only logged. -/
def quietly (program : EStateM ε σ α) : EStateM ε σ PUnit := fun state =>
  .ok () (after program state)

theorem preserves_pure (value : α) : Preserves inv (pure value : EStateM ε σ α) :=
  fun _ held => held

theorem Preserves.bind {program : EStateM ε σ α} {next : α → EStateM ε σ β}
    (first : Preserves inv program) (second : ∀ value, Preserves inv (next value)) :
    Preserves inv (program >>= next) := by
  intro state held
  have reachedInv := first state held
  cases ran : program state with
  | ok value reached =>
    rw [after,ran] at reachedInv
    rw [after,bind_of_ok ran]
    exact second value reached reachedInv
  | error failure reached =>
    rw [after,ran] at reachedInv
    rw [after,bind_of_error ran]
    exact reachedInv

theorem Preserves.ite {condition : Prop} [Decidable condition] {yes no : EStateM ε σ α}
    (first : condition → Preserves inv yes) (second : ¬ condition → Preserves inv no) :
    Preserves inv (if condition then yes else no) := by
  split
  · next holds => exact first holds
  · next fails => exact second fails

theorem Preserves.forM {Item : Type} {items : List Item} {visit : Item → EStateM ε σ PUnit}
    (each : ∀ item ∈ items, Preserves inv (visit item)) : Preserves inv (items.forM visit) := by
  induction items with
  | nil => exact preserves_pure _
  | cons item rest ih =>
    apply (each item List.mem_cons_self).bind
    intro _
    exact ih (fun other member => each other (List.mem_cons_of_mem _ member))

theorem Preserves.quietly {program : EStateM ε σ α} (kept : Preserves inv program) :
    Preserves inv (quietly program) := kept

end Invariants

section Failures
variable {allowed : ε → Prop}

theorem bind_ok {first : Except ε α} {next : α → Except ε β} {value : β}
    (ok : (first >>= next) = .ok value) : ∃ read, first = .ok read ∧ next read = .ok value := by
  cases first with
  | error failure => cases ok
  | ok read => exact ⟨read,rfl,ok⟩

/-- Whatever a result raises is an allowed failure. -/
def RaisesOnly (allowed : ε → Prop) (result : Except ε α) : Prop :=
  ∀ failure, result = .error failure → allowed failure

theorem raisesOnly_ok (value : α) : RaisesOnly allowed (.ok value : Except ε α) := by
  intro failure raised
  cases raised

theorem raisesOnly_error {failure : ε} (fine : allowed failure) :
    RaisesOnly allowed (.error failure : Except ε α) := by
  intro other raised
  cases raised
  exact fine

theorem RaisesOnly.bind {result : Except ε α} {next : α → Except ε β}
    (first : RaisesOnly allowed result)
    (second : ∀ value, result = .ok value → RaisesOnly allowed (next value)) :
    RaisesOnly allowed (result >>= next) := by
  cases computed : result with
  | ok value => exact second value computed
  | error failure => exact raisesOnly_error (first failure computed)

theorem RaisesOnly.ite {condition : Prop} [Decidable condition] {yes no : Except ε α}
    (first : RaisesOnly allowed yes) (second : RaisesOnly allowed no) :
    RaisesOnly allowed (if condition then yes else no) := by
  split
  · exact first
  · exact second

theorem raisesOnly_mapM {Item : Type} {items : List Item} {f : Item → Except ε α}
    (each : ∀ item ∈ items, RaisesOnly allowed (f item)) : RaisesOnly allowed (items.mapM f) := by
  induction items with
  | nil => exact raisesOnly_ok []
  | cons item rest ih =>
    rw [List.mapM_cons]
    apply (each item List.mem_cons_self).bind
    intro result _
    apply (ih (fun other member => each other (List.mem_cons_of_mem _ member))).bind
    intro results _
    exact raisesOnly_ok _

theorem raisesOnly_foldlM {Item : Type} {items : List Item} {visit : α → Item → Except ε α}
    (each : ∀ value, ∀ item ∈ items, RaisesOnly allowed (visit value item)) (start : α) :
    RaisesOnly allowed (items.foldlM visit start) := by
  induction items generalizing start with
  | nil => exact raisesOnly_ok start
  | cons item rest ih =>
    rw [List.foldlM_cons]
    apply (each start item List.mem_cons_self).bind
    intro value _
    exact ih (fun value other member => each value other (List.mem_cons_of_mem _ member)) value

end Failures
end Effects
