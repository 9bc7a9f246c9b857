import Mathlib.Data.List.Basic

/-! Ordered sources: ask each source of a list in turn, stop at the first that
grants, skip the ones that report absence, and give up on a failure. -/
namespace OrderedSources

/-- What one source reports. -/
inductive Outcome (E A : Type*)
  | granted (value : A)
  | absent
  | failed (error : E)
deriving DecidableEq, Repr

variable {Source E A : Type*}

def firstGrant (ask : Source → Outcome E A) : List Source → Outcome E (Source × A)
  | [] => .absent
  | source :: rest =>
    match ask source with
    | .granted value => .granted (source,value)
    | .absent => firstGrant ask rest
    | .failed error => .failed error

/-- A source is reached when every source listed before it reports absence. -/
def Reaches (ask : Source → Outcome E A) (order : List Source) (source : Source) : Prop :=
  ∃ before after, order = before ++ source :: after ∧ ∀ earlier ∈ before, ask earlier = .absent

section
variable {ask ask' : Source → Outcome E A}

theorem firstGrant_of_absent {source : Source} (silent : ask source = .absent)
    (rest : List Source) : firstGrant ask (source :: rest) = firstGrant ask rest := by
  simp only [firstGrant,silent]

theorem firstGrant_append_of_absent {before : List Source}
    (silent : ∀ source ∈ before, ask source = .absent) (rest : List Source) :
    firstGrant ask (before ++ rest) = firstGrant ask rest := by
  induction before with
  | nil => rfl
  | cons source before ih =>
    rw [List.cons_append,firstGrant_of_absent (silent source List.mem_cons_self)]
    exact ih (fun later member => silent later (List.mem_cons_of_mem _ member))

theorem firstGrant_absent_iff {order : List Source} :
    firstGrant ask order = .absent ↔ ∀ source ∈ order, ask source = .absent := by
  induction order with
  | nil => simp [firstGrant]
  | cons source rest ih => cases asked : ask source <;> simp [firstGrant,asked,ih]

theorem firstGrant_congr {order : List Source}
    (same : ∀ source ∈ order, ask source = ask' source) :
    firstGrant ask order = firstGrant ask' order := by
  induction order with
  | nil => rfl
  | cons source rest ih =>
    have head := same source List.mem_cons_self
    have tail := ih (fun later member => same later (List.mem_cons_of_mem _ member))
    simp only [firstGrant,head,tail]

theorem reaches_of_failed {order : List Source} {error : E}
    (failed : firstGrant ask order = .failed error) :
    ∃ source, Reaches ask order source ∧ ask source = .failed error := by
  induction order with
  | nil => simp [firstGrant] at failed
  | cons first rest ih =>
    cases asked : ask first with
    | granted value => simp [firstGrant,asked] at failed
    | absent =>
      rw [firstGrant_of_absent asked] at failed
      obtain ⟨source,⟨before,after,rfl,silent⟩,said⟩ := ih failed
      exact ⟨source,⟨first :: before,after,rfl,by simpa [asked] using silent⟩,said⟩
    | failed error =>
      simp only [firstGrant,asked,Outcome.failed.injEq] at failed
      exact ⟨first,⟨[],rest,rfl,by simp⟩,failed ▸ asked⟩

theorem reaches_of_granted {order : List Source} {source : Source} {value : A}
    (granted : firstGrant ask order = .granted (source,value)) :
    Reaches ask order source ∧ ask source = .granted value := by
  induction order with
  | nil => simp [firstGrant] at granted
  | cons first rest ih =>
    cases asked : ask first with
    | granted given =>
      simp only [firstGrant,asked,Outcome.granted.injEq,Prod.mk.injEq] at granted
      obtain ⟨rfl,rfl⟩ := granted
      exact ⟨⟨[],rest,rfl,by simp⟩,asked⟩
    | absent =>
      rw [firstGrant_of_absent asked] at granted
      obtain ⟨⟨before,after,rfl,silent⟩,given⟩ := ih granted
      exact ⟨⟨first :: before,after,rfl,by simpa [asked] using silent⟩,given⟩
    | failed error => simp [firstGrant,asked] at granted

/-- A reached source with something to report decides the walk. -/
theorem firstGrant_of_reaches {order : List Source} {source : Source}
    (reached : Reaches ask order source) (reports : ask source ≠ .absent) :
    firstGrant ask order = firstGrant ask [source] := by
  obtain ⟨before,after,rfl,silent⟩ := reached
  rw [firstGrant_append_of_absent silent]
  cases asked : ask source with
  | granted value => simp only [firstGrant,asked]
  | absent => exact absurd asked reports
  | failed error => simp only [firstGrant,asked]

theorem firstGrant_of_failed {order : List Source} {source : Source} {error : E}
    (reached : Reaches ask order source) (failed : ask source = .failed error) :
    firstGrant ask order = .failed error := by
  have reports : ask source ≠ .absent := by simp [failed]
  rw [firstGrant_of_reaches reached reports]
  simp only [firstGrant,failed]

theorem firstGrant_granted_iff {order : List Source} {source : Source} {value : A} :
    firstGrant ask order = .granted (source,value) ↔
      Reaches ask order source ∧ ask source = .granted value := by
  constructor
  · exact reaches_of_granted
  · intro ⟨reached,granted⟩
    have reports : ask source ≠ .absent := by simp [granted]
    rw [firstGrant_of_reaches reached reports]
    simp only [firstGrant,granted]

/-- Two walks that differ in one source only agree when it is not reached. -/
theorem firstGrant_congr_of_unreached {order : List Source} {source : Source}
    (same : ∀ other, other ≠ source → ask other = ask' other)
    (unreached : ¬ Reaches ask order source) : firstGrant ask order = firstGrant ask' order := by
  induction order with
  | nil => rfl
  | cons first rest ih =>
    have distinct : first ≠ source := by
      rintro rfl
      exact unreached ⟨[],rest,rfl,by simp⟩
    have head := same first distinct
    cases asked : ask first with
    | granted value => simp only [firstGrant,asked,← head]
    | failed error => simp only [firstGrant,asked,← head]
    | absent =>
      rw [firstGrant_of_absent asked,firstGrant_of_absent (head.symm.trans asked)]
      refine ih (fun reached => unreached ?_)
      obtain ⟨before,after,rfl,silent⟩ := reached
      exact ⟨first :: before,after,rfl,by simpa [asked] using silent⟩

/-- Sources that fall silent leave a grant alone, as long as its own source does not. -/
theorem firstGrant_of_silenced {order : List Source} {source : Source} {value : A}
    (granted : firstGrant ask order = .granted (source,value))
    (silenced : ∀ other ∈ order, ask' other = ask other ∨ ask' other = .absent)
    (kept : ask' source = ask source) : firstGrant ask' order = .granted (source,value) := by
  induction order with
  | nil => simp [firstGrant] at granted
  | cons first rest ih =>
    have tail := fun later member => silenced later (List.mem_cons_of_mem _ member)
    cases asked : ask first with
    | granted given =>
      simp only [firstGrant,asked,Outcome.granted.injEq,Prod.mk.injEq] at granted
      obtain ⟨rfl,rfl⟩ := granted
      simp only [firstGrant,kept,asked]
    | absent =>
      rw [firstGrant_of_absent asked] at granted
      have silent : ask' first = .absent := by
        rcases silenced first List.mem_cons_self with same | silent
        · exact same.trans asked
        · exact silent
      rw [firstGrant_of_absent silent]
      exact ih granted tail
    | failed error => simp [firstGrant,asked] at granted

/-- The source in which two walks differ is reached by both or by neither, as long
as it has something to report. -/
theorem reaches_congr {order : List Source} {source : Source}
    (same : ∀ other, other ≠ source → ask other = ask' other) (reports : ask source ≠ .absent)
    (reached : Reaches ask order source) : Reaches ask' order source := by
  obtain ⟨before,after,rfl,silent⟩ := reached
  refine ⟨before,after,rfl,fun earlier member => ?_⟩
  have distinct : earlier ≠ source := by
    rintro rfl
    exact reports (silent earlier member)
  rw [← same earlier distinct]
  exact silent earlier member

end

def Outcome.value? : Outcome E A → Option A
  | .granted value => some value
  | _ => none

/-- A walk that takes a failure for absence. -/
def firstLenient (ask : Source → Outcome E A) (order : List Source) : Option A :=
  order.findSome? (fun source => (ask source).value?)

/-- Behind a reached source that fails, none grants. -/
def FailsClosed (ask : Source → Outcome E A) (order : List Source) : Prop :=
  ∀ before source after error, order = before ++ source :: after →
    (∀ earlier ∈ before, ask earlier = .absent) → ask source = .failed error →
      ∀ later ∈ after, ∀ value, ask later ≠ .granted value

section
variable {ask : Source → Outcome E A} {order : List Source} {value : A}

theorem value?_eq_some {outcome : Outcome E A} :
    outcome.value? = some value ↔ outcome = .granted value := by
  cases outcome <;> simp [Outcome.value?]

theorem firstLenient_append_of_absent {before : List Source}
    (silent : ∀ source ∈ before, ask source = .absent) (rest : List Source) :
    firstLenient ask (before ++ rest) = firstLenient ask rest := by
  have skipped : before.findSome? (fun source => (ask source).value?) = none := by
    rw [List.findSome?_eq_none_iff]
    intro source member
    rw [silent source member]
    rfl
  rw [firstLenient,List.findSome?_append,skipped,Option.none_or]
  rfl

/-- Every grant of the lenient walk comes from a source that was reached. -/
def GrantsReached (ask : Source → Outcome E A) (order : List Source) : Prop :=
  ∀ value, firstLenient ask order = some value →
    ∃ source, Reaches ask order source ∧ ask source = .granted value

theorem grantsReached_iff : GrantsReached ask order ↔ FailsClosed ask order := by
  constructor
  · intro sound before source after error split silent failed later member granted given
    have reached : Reaches ask order source := ⟨before,after,split,silent⟩
    have some : (firstLenient ask order).isSome := by
      rw [firstLenient,List.findSome?_isSome_iff]
      refine ⟨later,?_,by rw [value?_eq_some.mpr given]; rfl⟩
      rw [split]
      exact List.mem_append_right _ (List.mem_cons_of_mem _ member)
    obtain ⟨value,walked⟩ := Option.isSome_iff_exists.mp some
    obtain ⟨other,reached',granted'⟩ := sound value walked
    have walk := firstGrant_of_failed reached failed
    rw [firstGrant_granted_iff.mpr ⟨reached',granted'⟩] at walk
    cases walk
  · intro closed value walked
    cases walk : firstGrant ask order with
    | granted pair =>
      obtain ⟨source,given⟩ := pair
      obtain ⟨reached,granted⟩ := reaches_of_granted walk
      obtain ⟨before,after,rfl,silent⟩ := reached
      rw [firstLenient_append_of_absent silent,firstLenient,List.findSome?_cons,
        value?_eq_some.mpr granted] at walked
      cases walked
      exact ⟨source,⟨before,after,rfl,silent⟩,granted⟩
    | absent =>
      obtain ⟨source,member,given⟩ := List.exists_of_findSome?_eq_some walked
      rw [firstGrant_absent_iff.mp walk source member] at given
      cases given
    | failed error =>
      obtain ⟨source,⟨before,after,rfl,silent⟩,failed⟩ := reaches_of_failed walk
      rw [firstLenient_append_of_absent silent,firstLenient,List.findSome?_cons,failed] at walked
      obtain ⟨later,member,given⟩ := List.exists_of_findSome?_eq_some walked
      exact absurd (value?_eq_some.mp given)
        (closed before source after error rfl silent failed later member value)

end
end OrderedSources
