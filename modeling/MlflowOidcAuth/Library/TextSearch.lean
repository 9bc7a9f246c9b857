import Mathlib.Data.List.Forall2
import Mathlib.Data.List.TakeWhile

/-! Reading a text from the front: runs that a separator ends, words up to an equivalence of
their symbols, and the first place at which a pattern matches. -/
namespace TextSearch
variable {Symbol Found : Type*}

/-- Accepted symbols, at least one, up to a separator, and what follows it. -/
def runTo [DecidableEq Symbol] (separator : Symbol) (accepts : Symbol → Bool)
    (text : List Symbol) : Option (List Symbol × List Symbol) :=
  match text.takeWhile accepts, text.dropWhile accepts with
  | c :: run, d :: rest => if d = separator then some (c :: run,rest) else none
  | _, _ => none

/-- After symbols to skip one that passes, and what follows it. -/
def skipTo (skips passes : Symbol → Bool) (text : List Symbol) : Option (Symbol × List Symbol) :=
  match text.dropWhile skips with
  | c :: rest => if passes c then some (c,rest) else none
  | [] => none

/-- What follows the word, its symbols read up to `same`. -/
def dropAs (same : Symbol → Symbol → Bool) : List Symbol → List Symbol → Option (List Symbol)
  | [], text => some text
  | _ :: _, [] => none
  | c :: word, d :: text => if same c d then dropAs same word text else none

/-- The first match; a pattern sees the symbol before it and the text from there on. -/
def search (matchAt : Option Symbol → List Symbol → Option Found) :
    Option Symbol → List Symbol → Option Found
  | previous, [] => matchAt previous []
  | previous, c :: text =>
    match matchAt previous (c :: text) with
    | some found => some found
    | none => search matchAt (some c) text

/-- The pattern matches somewhere, and nowhere before. -/
inductive Leftmost (Matches : Option Symbol → List Symbol → Found → Prop) :
    Option Symbol → List Symbol → Found → Prop
  | here {previous : Option Symbol} {text : List Symbol} {found : Found}
      (matched : Matches previous text found) : Leftmost Matches previous text found
  | later {previous : Option Symbol} {c : Symbol} {text : List Symbol} {found : Found}
      (none' : ∀ other, ¬ Matches previous (c :: text) other)
      (further : Leftmost Matches (some c) text found) : Leftmost Matches previous (c :: text) found

section Reading
variable {accepts skips passes : Symbol → Bool} {text run rest : List Symbol} {c : Symbol}

theorem cut_of_run {separator : Symbol} (stops : accepts separator = false) (all : ∀ c ∈ run, accepts c = true) :
    (run ++ separator :: rest).takeWhile accepts = run ∧
      (run ++ separator :: rest).dropWhile accepts = separator :: rest := by
  constructor
  · rw [List.takeWhile_append_of_pos all,List.takeWhile_cons_of_neg (by simp [stops]),
      List.append_nil]
  · rw [List.dropWhile_append_of_pos all,List.dropWhile_cons_of_neg (by simp [stops])]

theorem plain_of_ne [DecidableEq Symbol] {separator : Symbol} (plain : separator ∉ run) :
    ∀ c ∈ run, (c != separator) = true := by
  intro c member
  have other : c ≠ separator := fun same => plain (same ▸ member)
  simpa using other

theorem cut_at [DecidableEq Symbol] {separator : Symbol} (plain : separator ∉ run) :
    (run ++ separator :: rest).takeWhile (fun c => c != separator) = run ∧
      (run ++ separator :: rest).dropWhile (fun c => c != separator) = separator :: rest :=
  cut_of_run (by simp) (plain_of_ne plain)

theorem runTo_eq_some [DecidableEq Symbol] {separator : Symbol} (stops : accepts separator = false) :
    runTo separator accepts text = some (run,rest) ↔
      run ≠ [] ∧ (∀ c ∈ run, accepts c = true) ∧ text = run ++ separator :: rest := by
  unfold runTo
  constructor
  · intro found
    split at found
    · next c cs d ds taken dropped =>
      split at found
      · next same =>
        obtain ⟨rfl,rfl⟩ := Prod.mk.inj (Option.some.inj found)
        refine ⟨List.cons_ne_nil _ _,?_,?_⟩
        · rw [← taken]
          intro c member
          exact List.mem_takeWhile_imp member
        · rw [← same,← taken,← dropped]
          exact List.takeWhile_append_dropWhile.symm
      · cases found
    · cases found
  · rintro ⟨some',all,rfl⟩
    rw [(cut_of_run stops all).1,(cut_of_run stops all).2]
    cases run with
    | nil => exact absurd rfl some'
    | cons c run => exact if_pos rfl

theorem head_splitOn [DecidableEq Symbol] (separator : Symbol) (text : List Symbol) :
    (text.splitOn separator).head? = some (text.takeWhile (fun c => decide (c ≠ separator))) := by
  induction text with
  | nil => rfl
  | cons c text ih =>
    rw [List.splitOn_cons_eq_if_modifyHead]
    by_cases same : c = separator
    · simp [same]
    · simp [same,List.head?_modifyHead,ih]

/-- What is skipped ends where something passes, so there is only one place to look. -/
theorem skipTo_eq_some (stops : ∀ c, passes c = true → skips c = false) :
    skipTo skips passes text = some (c,rest) ↔ ∃ skipped, (∀ d ∈ skipped, skips d = true) ∧
      passes c = true ∧ text = skipped ++ c :: rest := by
  unfold skipTo
  constructor
  · intro found
    cases dropped : text.dropWhile skips with
    | nil => simp [dropped] at found
    | cons d later =>
      simp only [dropped,Option.ite_none_right_eq_some,Option.some.injEq,Prod.mk.injEq] at found
      obtain ⟨passes',rfl,rfl⟩ := found
      refine ⟨text.takeWhile skips,?_,passes',?_⟩
      · intro d member
        exact List.mem_takeWhile_imp member
      · rw [← dropped,List.takeWhile_append_dropWhile]
  · rintro ⟨skipped,all,passes',rfl⟩
    rw [(cut_of_run (stops c passes') all).2]
    exact if_pos passes'

theorem dropAs_eq_some {same : Symbol → Symbol → Bool} {word : List Symbol} :
    dropAs same word text = some rest ↔ ∃ front,
      List.Forall₂ (fun c d => same c d = true) word front ∧ text = front ++ rest := by
  induction word generalizing text with
  | nil =>
    simp only [dropAs,Option.some.injEq,List.forall₂_nil_left_iff,exists_eq_left,List.nil_append]
  | cons c word ih =>
    cases text with
    | nil => simp [dropAs]
    | cons d text =>
      simp only [dropAs,Option.ite_none_right_eq_some,ih,List.forall₂_cons_left_iff]
      constructor
      · rintro ⟨first,front,others,rfl⟩
        exact ⟨d :: front,⟨d,front,first,others,rfl⟩,rfl⟩
      · rintro ⟨_,⟨e,front,first,others,rfl⟩,same'⟩
        obtain ⟨rfl,rfl⟩ := List.cons_eq_cons.mp same'
        exact ⟨first,front,others,rfl⟩

end Reading

section Search
variable {matchAt : Option Symbol → List Symbol → Option Found}
  {Matches : Option Symbol → List Symbol → Found → Prop} {previous : Option Symbol}
  {text : List Symbol} {found : Found}

theorem search_eq_some
    (reads : ∀ previous text found, matchAt previous text = some found ↔ Matches previous text found) :
    search matchAt previous text = some found ↔ Leftmost Matches previous text found := by
  constructor
  · intro first
    induction text generalizing previous with
    | nil => exact .here ((reads _ _ _).mp first)
    | cons c text ih =>
      unfold search at first
      cases here : matchAt previous (c :: text) with
      | some other =>
        simp only [here,Option.some.injEq] at first
        subst first
        exact .here ((reads _ _ _).mp here)
      | none =>
        simp only [here] at first
        apply Leftmost.later _ (ih first)
        intro other matched
        rw [(reads _ _ _).mpr matched] at here
        cases here
  · intro leftmost
    induction leftmost with
    | @here previous text found matched =>
      have here := (reads _ _ _).mpr matched
      cases text with
      | nil => exact here
      | cons c text => simp only [search,here]
    | @later previous c text found none' further ih =>
      have here : matchAt previous (c :: text) = none := by
        cases matched : matchAt previous (c :: text) with
        | none => rfl
        | some other => exact absurd ((reads _ _ _).mp matched) (none' other)
      simp only [search,here,ih]

end Search
end TextSearch
