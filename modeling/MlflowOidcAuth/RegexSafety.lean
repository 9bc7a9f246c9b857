import Mathlib.Data.List.Infix
import Mathlib.Data.List.TakeWhile
import MlflowOidcAuth.Library.RegexTree
import MlflowOidcAuth.Regex

/-! The protection against nested quantifiers: what the textual search finds, and the patterns
whose syntax tree nests unbounded repetitions without being refused. -/
namespace MlflowOidcAuth
open RegexTree

section Search
variable (engine : RegexEngine)

/-- The text starts with `+`, `*`, `{n,}` or `{n,m}`. -/
inductive StartsRepeating : List Char → Prop
  | plus (rest : List Char) : StartsRepeating ('+' :: rest)
  | star (rest : List Char) : StartsRepeating ('*' :: rest)
  | braces {low high : List Char} (rest : List Char) (nonempty : low ≠ [])
    (lowDecimal : ∀ c, c ∈ low → engine.isDecimal c = true)
    (highDecimal : ∀ c, c ∈ high → engine.isDecimal c = true) :
    StartsRepeating ('{' :: (low ++ ',' :: (high ++ '}' :: rest)))

/-- Some `(` of the text has a `+`, `*` or `?` before the next `)`, and a repeating quantifier
directly after it. -/
def ShowsNesting (text : List Char) : Prop :=
  ∃ before inner quantifier rest after,
    text = before ++ '(' :: (inner ++ quantifier :: rest ++ ')' :: after) ∧
    RegexEngine.isQuantifier quantifier = true ∧ ')' ∉ inner ∧ ')' ∉ rest ∧
    StartsRepeating engine after

variable {engine}

theorem takeWhile_dropWhile_before (passes : Char → Bool) {stop : Char}
    (stops : passes stop = false) {front : List Char} (within : ∀ c, c ∈ front → passes c = true)
    (rest : List Char) : (front ++ stop :: rest).takeWhile passes = front ∧
      (front ++ stop :: rest).dropWhile passes = stop :: rest := by
  constructor
  · rw [List.takeWhile_append_of_pos within,List.takeWhile_cons_of_neg (by simp [stops]),
      List.append_nil]
  · rw [List.dropWhile_append_of_pos within,List.dropWhile_cons_of_neg (by simp [stops])]

theorem repeats_iff (comma : engine.isDecimal ',' = false) (brace : engine.isDecimal '}' = false)
    (text : List Char) : engine.repeats text = true ↔ StartsRepeating engine text := by
  constructor
  · intro found
    unfold RegexEngine.repeats at found
    split at found
    · exact .plus _
    · exact .star _
    · next rest =>
      obtain ⟨taken,split⟩ := Bool.and_eq_true_iff.mp found
      have whole := List.takeWhile_append_dropWhile (p := engine.isDecimal) (l := rest)
      split at split
      · next more dropped =>
        have rest' := List.takeWhile_append_dropWhile (p := engine.isDecimal) (l := more)
        cases closed : more.dropWhile engine.isDecimal with
        | nil =>
          rw [closed] at split
          cases split
        | cons c tail =>
          rw [closed] at split
          have brace : c = '}' := by simpa using split
          rw [← whole,dropped,← rest',closed,brace]
          exact .braces tail (by simpa using taken)
            (fun c member => List.mem_takeWhile_imp member)
            (fun c member => List.mem_takeWhile_imp member)
      · cases split
    · cases found
  · intro starts
    cases starts with
    | plus rest => rfl
    | star rest => rfl
    | @braces low high rest nonempty lowDecimal highDecimal =>
      obtain ⟨lowTaken,lowDropped⟩ :=
        takeWhile_dropWhile_before _ comma lowDecimal (high ++ '}' :: rest)
      obtain ⟨_,highDropped⟩ := takeWhile_dropWhile_before _ brace highDecimal rest
      simp only [RegexEngine.repeats,lowTaken,lowDropped,highDropped]
      simpa using nonempty

theorem nestedQuantifierAt_iff (comma : engine.isDecimal ',' = false)
    (brace : engine.isDecimal '}' = false) (text : List Char) :
    engine.nestedQuantifierAt ('(' :: text) = true ↔ ∃ inner quantifier rest after,
      text = inner ++ quantifier :: rest ++ ')' :: after ∧
      RegexEngine.isQuantifier quantifier = true ∧ ')' ∉ inner ∧ ')' ∉ rest ∧
      StartsRepeating engine after := by
  constructor
  · intro found
    obtain ⟨quantified,closed⟩ := Bool.and_eq_true_iff.mp found
    split at closed
    · next after dropped =>
      obtain ⟨quantifier,member,isQuantifier⟩ := List.any_eq_true.mp quantified
      have unclosed : ')' ∉ text.takeWhile (fun c => c != ')') := by
        intro member
        have apart := List.mem_takeWhile_imp member
        cases apart
      obtain ⟨inner,rest,contents⟩ := List.append_of_mem member
      rw [contents,List.mem_append,List.mem_cons,not_or,not_or] at unclosed
      refine ⟨inner,quantifier,rest,after,?_,isQuantifier,unclosed.1,unclosed.2.2,
        (repeats_iff comma brace after).mp closed⟩
      rw [← contents,← dropped]
      exact List.takeWhile_append_dropWhile.symm
    · cases closed
  · intro ⟨inner,quantifier,rest,after,whole,isQuantifier,inside,inside',starts⟩
    have apart : quantifier ≠ ')' := by
      intro same
      rw [same] at isQuantifier
      cases isQuantifier
    have within : ∀ c, c ∈ inner ++ quantifier :: rest → (c != ')') = true := by
      intro c member
      rw [bne_iff_ne]
      intro same
      subst same
      rcases List.mem_append.mp member with front | back
      · exact inside front
      · rcases List.mem_cons.mp back with same | last
        · exact apart same.symm
        · exact inside' last
    have stops : (')' != ')') = false := rfl
    obtain ⟨taken,dropped⟩ := takeWhile_dropWhile_before (fun c => c != ')') stops within after
    rw [whole]
    simp only [RegexEngine.nestedQuantifierAt,taken,dropped,Bool.and_eq_true]
    refine ⟨?_,(repeats_iff comma brace after).mpr starts⟩
    rw [List.any_eq_true]
    exact ⟨quantifier,List.mem_append_right _ List.mem_cons_self,isQuantifier⟩

theorem hasNestedQuantifiers_iff (comma : engine.isDecimal ',' = false)
    (brace : engine.isDecimal '}' = false) (pattern : String) :
    engine.hasNestedQuantifiers pattern = true ↔ ShowsNesting engine pattern.toList := by
  unfold RegexEngine.hasNestedQuantifiers
  rw [List.any_eq_true]
  constructor
  · intro ⟨suffix,member,found⟩
    obtain ⟨before,whole⟩ := (List.mem_tails _ _).mp member
    unfold RegexEngine.nestedQuantifierAt at found
    split at found
    · next text =>
      obtain ⟨inner,quantifier,rest,after,split,shown⟩ :=
        (nestedQuantifierAt_iff comma brace text).mp found
      exact ⟨before,inner,quantifier,rest,after,by rw [← whole,split],shown⟩
    · cases found
  · intro ⟨before,inner,quantifier,rest,after,whole,shown⟩
    refine ⟨_,(List.mem_tails _ _).mpr ⟨before,whole.symm⟩,?_⟩
    exact (nestedQuantifierAt_iff comma brace _).mpr ⟨inner,quantifier,rest,after,rfl,shown⟩

end Search

section Protection

def AcceptsNoNesting (engine : RegexEngine) (pattern : String) : Prop :=
  validateRegex engine pattern = .ok () →
    ∀ tree, parse pattern = some tree → ¬NestsUnbounded tree

def RefusedBefore (engine : RegexEngine) (pattern : String) : Prop :=
  pattern = "" ∨ 1024 < pattern.toList.length ∨ engine.compile pattern ≠ .ok []

theorem validateRegex_iff (engine : RegexEngine) (pattern : String) :
    validateRegex engine pattern = .ok () ↔
      ¬RefusedBefore engine pattern ∧ engine.hasNestedQuantifiers pattern = false := by
  unfold validateRegex checkRedosPatterns
  by_cases empty : pattern = ""
  · subst empty
    exact iff_of_false (fun accepted => by cases accepted) (fun condition => condition.1 (.inl rfl))
  have nonempty : ¬pattern.toList.isEmpty = true := by
    intro nil
    exact empty (String.toList_eq_nil_iff.mp (List.isEmpty_iff.mp nil))
  rw [if_neg nonempty]
  by_cases long : 1024 < pattern.toList.length
  · rw [if_pos long]
    exact iff_of_false (fun accepted => by cases accepted)
      (fun condition => condition.1 (.inr (.inl long)))
  rw [if_neg long]
  cases compiled : engine.compile pattern with
  | error problem =>
    exact iff_of_false (fun accepted => by cases accepted)
      (fun condition => condition.1 (.inr (.inr (by simp [compiled]))))
  | ok warnings =>
    cases warnings with
    | cons warning warnings =>
      exact iff_of_false (fun accepted => by cases accepted)
        (fun condition => condition.1 (.inr (.inr (by simp [compiled]))))
    | nil =>
      have passes : ¬RefusedBefore engine pattern := by
        intro refused
        rcases refused with isEmpty | isLong | fails
        · exact empty isEmpty
        · exact long isLong
        · exact fails compiled
      cases found : engine.hasNestedQuantifiers pattern with
      | true =>
        exact iff_of_false (fun accepted => by cases accepted)
          (fun condition => by simp at condition)
      | false => exact iff_of_true rfl ⟨passes,rfl⟩

/-- Accepted patterns nest no unbounded repetitions exactly where a pattern that nests some is
refused before the search or shows its nesting to it. -/
theorem acceptsNoNesting_iff (engine : RegexEngine) (comma : engine.isDecimal ',' = false)
    (brace : engine.isDecimal '}' = false) (pattern : String) :
    AcceptsNoNesting engine pattern ↔
      (∀ tree, parse pattern = some tree → ¬NestsUnbounded tree) ∨
        RefusedBefore engine pattern ∨ ShowsNesting engine pattern.toList := by
  unfold AcceptsNoNesting
  rw [validateRegex_iff,← hasNestedQuantifiers_iff comma brace]
  constructor
  · intro protects
    by_cases refused : RefusedBefore engine pattern
    · exact .inr (.inl refused)
    cases found : engine.hasNestedQuantifiers pattern with
    | true => exact .inr (.inr rfl)
    | false => exact .inl (protects ⟨refused,found⟩)
  · intro condition accepted
    rcases condition with flat | refused | shown
    · exact flat
    · exact absurd refused accepted.1
    · rw [accepted.2] at shown
      cases shown

theorem plus_refused : AcceptsNoNesting .literal "(a+)+" :=
  (acceptsNoNesting_iff .literal rfl rfl "(a+)+").mpr (.inr (.inr
    ⟨[],['a'],'+',[],['+'],rfl,rfl,by decide,by decide,.plus []⟩))

/-- The braces of the documentation's own example are not seen. -/
theorem braces_accepted : ¬∀ engine, engine.isDecimal ',' = false → engine.isDecimal '}' = false →
    ∀ pattern, AcceptsNoNesting engine pattern := by
  intro protects
  have tree : parse "(a{2,}){3,}" = some (.seq (.repetition 3 none (.group
      (.seq (.repetition 2 none .atom) .empty))) .empty) := by decide +kernel
  have accepted : validateRegex .literal "(a{2,}){3,}" = .ok () := by decide +kernel
  exact protects .literal rfl rfl "(a{2,}){3,}" accepted _ tree (by decide)

end Protection
end MlflowOidcAuth
