import Mathlib.Data.List.Basic

/-! Dictionaries that keep the order in which their keys came, as association lists.
A later value for a key takes the place of the earlier one. -/
namespace OrderedDict
variable {Key Value : Type*} [DecidableEq Key]

/-- Set one key: a key that is there already keeps its place. -/
def set (key : Key) (value : Value) : List (Key × Value) → List (Key × Value)
  | [] => [(key,value)]
  | entry :: rest =>
    if entry.1 = key then (key,value) :: rest else entry :: set key value rest

def update (dict pairs : List (Key × Value)) : List (Key × Value) :=
  pairs.foldl (fun dict pair => set pair.1 pair.2 dict) dict

def ofPairs (pairs : List (Key × Value)) : List (Key × Value) := update [] pairs

/-- The value of the first key that satisfies the test. -/
def firstWhere (test : Key → Bool) (dict : List (Key × Value)) : Option Value :=
  (dict.find? (fun entry => test entry.1)).map Prod.snd

def get (dict : List (Key × Value)) (key : Key) : Option Value :=
  firstWhere (fun other => decide (other = key)) dict

variable {dict pairs : List (Key × Value)} {key : Key} {value : Value} {entry : Key × Value}

theorem mem_set (member : entry ∈ set key value dict) :
    entry = (key,value) ∨ entry ∈ dict := by
  induction dict with
  | nil =>
    simp only [set,List.mem_singleton] at member
    exact .inl member
  | cons first rest ih =>
    by_cases same : first.1 = key
    · simp only [set,same,if_true,List.mem_cons] at member
      obtain new | old := member
      · exact .inl new
      · exact .inr (List.mem_cons_of_mem _ old)
    · simp only [set,same,if_false,List.mem_cons] at member
      obtain rfl | later := member
      · exact .inr List.mem_cons_self
      · exact (ih later).imp_right (List.mem_cons_of_mem _)

theorem key_mem_set : key ∈ (set key value dict).map Prod.fst := by
  induction dict with
  | nil => simp [set]
  | cons first rest ih =>
    by_cases same : first.1 = key
    · simp [set,same]
    · simp only [set,same,if_false,List.map_cons,List.mem_cons]
      exact .inr ih

theorem keys_kept_by_set {other : Key} (known : other ∈ dict.map Prod.fst) :
    other ∈ (set key value dict).map Prod.fst := by
  induction dict with
  | nil => simp at known
  | cons first rest ih =>
    simp only [List.map_cons,List.mem_cons] at known
    by_cases same : first.1 = key
    · simp only [set,same,if_true,List.map_cons,List.mem_cons] at known ⊢
      exact known
    · simp only [set,same,if_false,List.map_cons,List.mem_cons]
      exact known.imp_right ih

theorem get_cons (dict : List (Key × Value)) (entry : Key × Value) (key : Key) :
    get (entry :: dict) key = if entry.1 = key then some entry.2 else get dict key := by
  by_cases same : entry.1 = key
  · simp [get,firstWhere,same]
  · simp [get,firstWhere,same]

theorem get_set_self (dict : List (Key × Value)) (key : Key) (value : Value) :
    get (set key value dict) key = some value := by
  induction dict with
  | nil => rw [set,get_cons,if_pos rfl]
  | cons first rest ih =>
    by_cases same : first.1 = key
    · rw [set,if_pos same,get_cons,if_pos rfl]
    · rw [set,if_neg same,get_cons,if_neg same,ih]

theorem get_set_of_ne {other : Key} (apart : other ≠ key) (dict : List (Key × Value))
    (value : Value) : get (set key value dict) other = get dict other := by
  induction dict with
  | nil => rw [set,get_cons,if_neg apart.symm]
  | cons first rest ih =>
    by_cases same : first.1 = key
    · rw [set,if_pos same,get_cons,if_neg apart.symm,get_cons,if_neg (same ▸ apart.symm)]
    · rw [set,if_neg same,get_cons,get_cons,ih]

theorem mem_update (member : entry ∈ update dict pairs) : entry ∈ dict ∨ entry ∈ pairs := by
  induction pairs generalizing dict with
  | nil => exact .inl member
  | cons pair pairs ih =>
    obtain old | later := ih member
    · obtain rfl | older := mem_set old
      · exact .inr List.mem_cons_self
      · exact .inl older
    · exact .inr (List.mem_cons_of_mem _ later)

theorem keys_update {other : Key}
    (known : other ∈ dict.map Prod.fst ∨ other ∈ pairs.map Prod.fst) :
    other ∈ (update dict pairs).map Prod.fst := by
  induction pairs generalizing dict with
  | nil => simpa [update] using known
  | cons pair pairs ih =>
    apply ih
    obtain old | new := known
    · exact .inl (keys_kept_by_set old)
    · obtain rfl | later := List.mem_cons.mp new
      · exact .inl key_mem_set
      · exact .inr later

omit [DecidableEq Key] in
theorem firstWhere_some {test : Key → Bool} (found : firstWhere test dict = some value) :
    ∃ key, test key = true ∧ (key,value) ∈ dict := by
  obtain ⟨entry,first,rfl⟩ := Option.map_eq_some_iff.mp found
  have passes := List.find?_some first
  exact ⟨entry.1,passes,List.mem_of_find?_eq_some first⟩

omit [DecidableEq Key] in
/-- A key that passes is found, and what every passing key holds is the answer. -/
theorem firstWhere_of_agree {test : Key → Bool} (known : key ∈ dict.map Prod.fst)
    (passes : test key = true)
    (agree : ∀ entry ∈ dict, test entry.1 = true → entry.2 = value) :
    firstWhere test dict = some value := by
  obtain ⟨entry,member,rfl⟩ := List.mem_map.mp known
  cases search : dict.find? (fun entry => test entry.1) with
  | none => exact absurd passes (List.find?_eq_none.mp search entry member)
  | some first =>
    have satisfied : test first.1 = true := by simpa using List.find?_some search
    have holds := agree first (List.mem_of_find?_eq_some search) satisfied
    simp only [firstWhere,search,Option.map_some,holds]

end OrderedDict
