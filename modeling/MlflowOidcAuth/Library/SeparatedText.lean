import Mathlib.Data.List.Basic

/-! Texts joined by a separator that they may hold themselves. Two pairs join to one text only
when a piece slides over the separator from one side to the other. -/
namespace SeparatedText
variable {Symbol : Type*} {separator : Symbol}

/-- The second pair has on its left a piece that the first pair has on its right. -/
def Slides (separator : Symbol) (left right left' right' : List Symbol) : Prop :=
  ∃ piece, left' = left ++ separator :: piece ∧ right = piece ++ separator :: right'

variable {left right left' right' : List Symbol}

theorem Slides.joined (slides : Slides separator left right left' right') :
    left ++ separator :: right = left' ++ separator :: right' := by
  obtain ⟨piece,rfl,rfl⟩ := slides
  rw [List.append_assoc,List.cons_append]

theorem Slides.left_ne (slides : Slides separator left right left' right') : left ≠ left' := by
  rintro rfl
  obtain ⟨piece,same,_⟩ := slides
  have lengths := congrArg List.length same
  simp at lengths

theorem Slides.mem_left (slides : Slides separator left right left' right') : separator ∈ left' := by
  obtain ⟨piece,rfl,_⟩ := slides
  simp

theorem Slides.mem_right (slides : Slides separator left right left' right') :
    separator ∈ right := by
  obtain ⟨piece,_,rfl⟩ := slides
  simp

theorem joined_iff : left ++ separator :: right = left' ++ separator :: right' ↔
    (left = left' ∧ right = right') ∨ Slides separator left right left' right' ∨
      Slides separator left' right' left right := by
  constructor
  · intro same
    rcases List.append_eq_append_iff.mp same with ⟨piece,longer,rest⟩ | ⟨piece,longer,rest⟩
    · cases piece with
      | nil =>
        rw [List.append_nil] at longer
        rw [List.nil_append] at rest
        exact .inl ⟨longer.symm,List.tail_eq_of_cons_eq rest⟩
      | cons first piece =>
        obtain ⟨rfl,right_eq⟩ := List.cons_eq_cons.mp rest
        exact .inr (.inl ⟨piece,longer,right_eq⟩)
    · cases piece with
      | nil =>
        rw [List.append_nil] at longer
        rw [List.nil_append] at rest
        exact .inl ⟨longer,(List.tail_eq_of_cons_eq rest).symm⟩
      | cons first piece =>
        obtain ⟨rfl,right_eq⟩ := List.cons_eq_cons.mp rest
        exact .inr (.inr ⟨piece,longer,right_eq⟩)
  · rintro (⟨rfl,rfl⟩ | slides | slides)
    · rfl
    · exact slides.joined
    · exact slides.joined.symm

/-- Left sides without the separator are read back. -/
theorem joined_of_plain (plain : separator ∉ left) (plain' : separator ∉ left')
    (same : left ++ separator :: right = left' ++ separator :: right') :
    left = left' ∧ right = right' := by
  rcases joined_iff.mp same with equal | slides | slides
  · exact equal
  · exact absurd slides.mem_left plain'
  · exact absurd slides.mem_left plain

end SeparatedText
