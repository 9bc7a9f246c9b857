import Mathlib.Data.List.Sublists

/-! Backtracking matchers: every way to read a front of a text with what is captured and what is
left, in the order in which the ways are tried. The first one is the match. -/
namespace Backtracking

abbrev Matcher (Symbol Value : Type*) := List Symbol → List (Value × List Symbol)

variable {Symbol Value Other Name : Type*}

namespace Matcher

def succeed (value : Value) : Matcher Symbol Value := fun text => [(value,text)]

def map (f : Value → Other) (matcher : Matcher Symbol Value) : Matcher Symbol Other := fun text =>
  (matcher text).map (fun read => (f read.1,read.2))

def andThen (first : Matcher Symbol Value) (second : Matcher Symbol Other) :
    Matcher Symbol (Value × Other) := fun text =>
  (first text).flatMap (fun read => (second read.2).map (fun next => ((read.1,next.1),next.2)))

/-- `(…)?`: it is left out last. -/
def optional (matcher : Matcher Symbol Value) : Matcher Symbol (Option Value) := fun text =>
  (matcher text).map (fun read => (some read.1,read.2)) ++ [(none,text)]

def symbol [DecidableEq Symbol] (expected : Symbol) : Matcher Symbol Symbol
  | [] => []
  | c :: rest => if c = expected then [(c,rest)] else []

/-- `[…]+?`: the shortest run is tried first. -/
def lazyRun (accepts : Symbol → Bool) : Matcher Symbol (List Symbol)
  | [] => []
  | c :: rest =>
    if accepts c then
      ([c],rest) :: (lazyRun accepts rest).map (fun read => (c :: read.1,read.2))
    else []

/-- `$`: the end, or the place before a last newline. -/
def lineEnd [DecidableEq Symbol] (newline : Symbol) : Matcher Symbol Unit := fun text =>
  if text = [] ∨ text = [newline] then [((),text)] else []

/-- Named groups in a row, each of which may be left out. -/
def groups (group : Name → Matcher Symbol Value) : List Name → Matcher Symbol (List (Name × Value))
  | [] => succeed []
  | name :: names => ((group name).optional.andThen (groups group names)).map
      (fun read => (read.1.map (fun value => (name,value))).toList ++ read.2)

def firstMatch (matcher : Matcher Symbol Value) (text : List Symbol) : Option Value :=
  (matcher text).head?.map Prod.fst

section Readings
variable {matcher first : Matcher Symbol Value} {second : Matcher Symbol Other} {value : Value}
  {other : Other} {text rest run : List Symbol}

theorem mem_succeed {made : Value} :
    (value,rest) ∈ (succeed made : Matcher Symbol Value) text ↔ value = made ∧ rest = text := by
  simp [succeed]

theorem mem_map {f : Value → Other} : (other,rest) ∈ matcher.map f text ↔
    ∃ value, (value,rest) ∈ matcher text ∧ f value = other := by
  simp only [map,List.mem_map,Prod.mk.injEq,Prod.exists]
  constructor
  · rintro ⟨value,left,read,same,rfl⟩
    exact ⟨value,read,same⟩
  · rintro ⟨value,read,same⟩
    exact ⟨value,rest,read,same,rfl⟩

theorem mem_andThen : ((value,other),rest) ∈ first.andThen second text ↔
    ∃ between, (value,between) ∈ first text ∧ (other,rest) ∈ second between := by
  simp only [andThen,List.mem_flatMap,List.mem_map,Prod.mk.injEq,Prod.exists]
  constructor
  · rintro ⟨value',between,read,other',left,next,⟨rfl,rfl⟩,rfl⟩
    exact ⟨between,read,next⟩
  · rintro ⟨between,read,next⟩
    exact ⟨value,between,read,other,rest,next,⟨rfl,rfl⟩,rfl⟩

theorem mem_optional_some :
    (some value,rest) ∈ matcher.optional text ↔ (value,rest) ∈ matcher text := by
  simp [optional]

theorem mem_optional_none : (none,rest) ∈ matcher.optional text ↔ rest = text := by
  simp [optional]

theorem mem_symbol [DecidableEq Symbol] {c expected : Symbol} :
    (c,rest) ∈ symbol expected text ↔ c = expected ∧ text = expected :: rest := by
  cases text with
  | nil => simp [symbol]
  | cons d text =>
    by_cases same : d = expected
    · simp [symbol,same,eq_comm]
    · simp [symbol,same]

theorem mem_lazyRun {accepts : Symbol → Bool} :
    (run,rest) ∈ lazyRun accepts text ↔
      run ≠ [] ∧ (∀ c ∈ run, accepts c = true) ∧ text = run ++ rest := by
  induction text generalizing run with
  | nil =>
    simp only [lazyRun,List.not_mem_nil,false_iff,not_and]
    intro nonempty _ empty
    exact nonempty (List.append_eq_nil_iff.mp empty.symm).1
  | cons c text ih =>
    unfold lazyRun
    split
    · next accepted =>
      simp only [List.mem_cons,Prod.mk.injEq,List.mem_map,Prod.exists]
      constructor
      · rintro (⟨rfl,rfl⟩ | ⟨longer,left,read,rfl,rfl⟩)
        · simp [accepted]
        · obtain ⟨_,all,rfl⟩ := ih.mp read
          simpa [accepted] using all
      · rintro ⟨nonempty,all,written⟩
        cases run with
        | nil => exact absurd rfl nonempty
        | cons d run =>
          obtain ⟨rfl,rfl⟩ := List.cons_eq_cons.mp written
          cases run with
          | nil => exact .inl ⟨rfl,rfl⟩
          | cons d run =>
            refine .inr ⟨_,_,ih.mpr ⟨List.cons_ne_nil _ _,?_,rfl⟩,rfl,rfl⟩
            intro e member
            exact all e (List.mem_cons_of_mem _ member)
    · next refused =>
      simp only [List.not_mem_nil,false_iff,not_and]
      intro nonempty all written
      cases run with
      | nil => exact nonempty rfl
      | cons d run =>
        obtain ⟨rfl,_⟩ := List.cons_eq_cons.mp written
        exact refused (all _ List.mem_cons_self)

theorem mem_lineEnd [DecidableEq Symbol] {newline : Symbol} {done : Unit} :
    (done,rest) ∈ lineEnd newline text ↔ rest = text ∧ (text = [] ∨ text = [newline]) := by
  unfold lineEnd
  split
  · next ends => simp [ends]
  · next goes => simp [goes]

/-- The groups read the text one after the other. -/
inductive Reads (group : Name → Matcher Symbol Value) :
    List (Name × Value) → List Symbol → List Symbol → Prop
  | nil {text : List Symbol} : Reads group [] text text
  | cons {name : Name} {value : Value} {captured : List (Name × Value)}
      {text between rest : List Symbol} (read : (value,between) ∈ group name text)
      (later : Reads group captured between rest) :
      Reads group ((name,value) :: captured) text rest

theorem mem_groups {group : Name → Matcher Symbol Value} {names : List Name}
    {captured : List (Name × Value)} : (captured,rest) ∈ groups group names text ↔
      (captured.map Prod.fst).Sublist names ∧ Reads group captured text rest := by
  induction names generalizing captured text with
  | nil =>
    simp only [groups,mem_succeed,List.sublist_nil,List.map_eq_nil_iff]
    constructor
    · rintro ⟨rfl,rfl⟩
      exact ⟨rfl,.nil⟩
    · rintro ⟨rfl,reads⟩
      cases reads
      exact ⟨rfl,rfl⟩
  | cons name names ih =>
    simp only [groups,mem_map,Prod.exists,mem_andThen]
    constructor
    · rintro ⟨value,later,⟨between,read,next⟩,rfl⟩
      obtain ⟨listed,reads⟩ := ih.mp next
      cases value with
      | none =>
        rw [mem_optional_none] at read
        subst read
        exact ⟨listed.cons name,reads⟩
      | some value =>
        exact ⟨listed.cons_cons name,.cons (mem_optional_some.mp read) reads⟩
    · rintro ⟨listed,reads⟩
      rcases List.sublist_cons_iff.mp listed with listed | ⟨later,headed,listed⟩
      · exact ⟨none,captured,⟨text,mem_optional_none.mpr rfl,ih.mpr ⟨listed,reads⟩⟩,rfl⟩
      · cases reads with
        | nil => cases headed
        | cons read reads =>
          obtain ⟨rfl,rfl⟩ := List.cons_eq_cons.mp headed
          exact ⟨some _,_,⟨_,mem_optional_some.mpr read,ih.mpr ⟨listed,reads⟩⟩,rfl⟩

theorem firstMatch_eq_none :
    matcher.firstMatch text = none ↔ ∀ value rest, (value,rest) ∉ matcher text := by
  rw [firstMatch,Option.map_eq_none_iff,List.head?_eq_none_iff,List.eq_nil_iff_forall_not_mem,
    Prod.forall]

/-- Where all ways capture the same, the order does not matter. -/
theorem firstMatch_of_unique (read : (value,rest) ∈ matcher text)
    (unique : ∀ other left, (other,left) ∈ matcher text → other = value) :
    matcher.firstMatch text = some value := by
  unfold firstMatch
  cases listed : matcher text with
  | nil =>
    rw [listed] at read
    cases read
  | cons found others =>
    have same : found.1 = value := unique found.1 found.2 (listed ▸ List.mem_cons_self)
    rw [List.head?_cons,Option.map_some,same]

end Readings
end Matcher
end Backtracking
