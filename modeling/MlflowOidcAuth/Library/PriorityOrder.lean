import Mathlib.Data.List.Sort

/-! The first answer over rows listed by priority. Rows of one priority come in any
order, so the answer belongs to the set of rows only where the rows that lead it agree. -/
namespace PriorityOrder
variable {Row Key Answer : Type*} [LinearOrder Key] {priority : Row → Key}
  {report : Row → Option Answer} {rows listing : List Row} {row : Row}

/-- An order in which a query with `ORDER BY priority` may return the rows. -/
def Listed (priority : Row → Key) (rows listing : List Row) : Prop :=
  listing.Perm rows ∧ listing.Pairwise (fun first second => priority first ≤ priority second)

/-- A row that reports, and no row reports at a lower priority. -/
def Leading (priority : Row → Key) (report : Row → Option Answer) (rows : List Row) (row : Row) :
    Prop :=
  row ∈ rows ∧ (report row).isSome ∧
    ∀ other ∈ rows, (report other).isSome → priority row ≤ priority other

def Settled (priority : Row → Key) (report : Row → Option Answer) (rows : List Row) : Prop :=
  ∀ first second, Leading priority report rows first → Leading priority report rows second →
    report first = report second

theorem leading_cons_silent (silent : report row = none) {other : Row} :
    Leading priority report (row :: rows) other ↔ Leading priority report rows other := by
  constructor
  · intro ⟨member,reports,lowest⟩
    refine ⟨(List.mem_cons.mp member).resolve_left ?_,reports,fun third later =>
      lowest third (List.mem_cons_of_mem _ later)⟩
    rintro rfl
    simp [silent] at reports
  · intro ⟨member,reports,lowest⟩
    refine ⟨List.mem_cons_of_mem _ member,reports,?_⟩
    intro third later thirdReports
    rcases List.mem_cons.mp later with rfl | later
    · simp [silent] at thirdReports
    · exact lowest third later thirdReports

theorem leading_perm (perm : listing.Perm rows) :
    Leading priority report listing row ↔ Leading priority report rows row := by
  simp only [Leading,perm.mem_iff]

theorem leading_head (sorted : (row :: rows).Pairwise (fun a b => priority a ≤ priority b))
    (reports : (report row).isSome) : Leading priority report (row :: rows) row := by
  refine ⟨List.mem_cons_self,reports,?_⟩
  intro other member _
  rcases List.mem_cons.mp member with rfl | later
  · exact le_rfl
  · exact (List.pairwise_cons.mp sorted).1 other later

/-- The first answer of a sorted listing is that of a leading row. -/
theorem leading_of_findSome? (sorted : rows.Pairwise (fun a b => priority a ≤ priority b))
    {answer : Answer} (found : rows.findSome? report = some answer) :
    ∃ row, Leading priority report rows row ∧ report row = some answer := by
  induction rows with
  | nil => cases found
  | cons head rest ih =>
    cases reported : report head with
    | some first =>
      simp only [List.findSome?_cons,reported,Option.some.injEq] at found
      exact ⟨head,leading_head sorted (by simp [reported]),by rw [reported,found]⟩
    | none =>
      simp only [List.findSome?_cons,reported] at found
      obtain ⟨row,leads,said⟩ := ih (List.pairwise_cons.mp sorted).2 found
      exact ⟨row,(leading_cons_silent reported).mpr leads,said⟩

theorem findSome?_perm_none (perm : listing.Perm rows) :
    listing.findSome? report = none ↔ rows.findSome? report = none := by
  simp only [List.findSome?_eq_none_iff,perm.mem_iff]

theorem findSome?_listed (settled : Settled priority report rows) {first second : List Row}
    (listed : Listed priority rows first) (listed' : Listed priority rows second) :
    first.findSome? report = second.findSome? report := by
  cases found : first.findSome? report with
  | none => exact (((findSome?_perm_none (listed.1.trans listed'.1.symm)).mp found)).symm
  | some answer =>
    cases found' : second.findSome? report with
    | none =>
      rw [findSome?_perm_none (listed'.1.trans listed.1.symm)] at found'
      simp [found'] at found
    | some answer' =>
      obtain ⟨row,leads,said⟩ := leading_of_findSome? listed.2 found
      obtain ⟨row',leads',said'⟩ := leading_of_findSome? listed'.2 found'
      rw [← said,← said']
      exact settled row row' ((leading_perm listed.1).mp leads) ((leading_perm listed'.1).mp leads')

/-- Inserted into a sorted listing, a leading row answers first. -/
theorem findSome?_orderedInsert (reports : (report row).isSome)
    (sorted : rows.Pairwise (fun a b => priority a ≤ priority b))
    (lowest : ∀ other ∈ rows, (report other).isSome → priority row ≤ priority other) :
    (rows.orderedInsert (fun a b => priority a ≤ priority b) row).findSome? report =
      report row := by
  obtain ⟨answer,said⟩ := Option.isSome_iff_exists.mp reports
  induction rows with
  | nil => simp [said]
  | cons head rest ih =>
    simp only [List.orderedInsert_cons]
    split
    · simp [said]
    · rename_i below
      have silent : report head = none := by
        by_contra spoken
        exact below (lowest head List.mem_cons_self (Option.isSome_iff_ne_none.mpr spoken))
      simp only [List.findSome?_cons,silent]
      exact ih (List.pairwise_cons.mp sorted).2
        (fun other member => lowest other (List.mem_cons_of_mem _ member))

/-- Every leading row answers first in some listing. -/
theorem exists_listed (leads : Leading priority report rows row) :
    ∃ listing, Listed priority rows listing ∧ listing.findSome? report = report row := by
  classical
  let rest := (rows.erase row).insertionSort (fun a b => priority a ≤ priority b)
  have sorted : rest.Pairwise (fun a b => priority a ≤ priority b) :=
    List.pairwise_insertionSort _ _
  have kept : ∀ other ∈ rest, other ∈ rows := fun other member =>
    List.mem_of_mem_erase ((List.mem_insertionSort _).mp member)
  refine ⟨rest.orderedInsert (fun a b => priority a ≤ priority b) row,⟨?_,?_⟩,?_⟩
  · calc
      List.Perm (rest.orderedInsert (fun a b => priority a ≤ priority b) row) (row :: rest) :=
        List.perm_orderedInsert _ _ _
      List.Perm _ (row :: rows.erase row) := (List.perm_insertionSort _ _).cons row
      List.Perm _ rows := (List.perm_cons_erase leads.1).symm
  · exact sorted.orderedInsert row _
  · exact findSome?_orderedInsert leads.2.1 sorted
      (fun other member => leads.2.2 other (kept other member))

theorem settled_iff : Settled priority report rows ↔
    ∀ first second, Listed priority rows first → Listed priority rows second →
      first.findSome? report = second.findSome? report := by
  refine ⟨fun settled _ _ => findSome?_listed settled,?_⟩
  intro same row row' leads leads'
  obtain ⟨first,listed,said⟩ := exists_listed leads
  obtain ⟨second,listed',said'⟩ := exists_listed leads'
  rw [← said,← said']
  exact same first second listed listed'

end PriorityOrder
