import Mathlib.Data.List.Basic

/-! Keyed caches in front of a computed answer. A cache is coherent when each of
its entries is what some live question would be answered afresh; when the live
questions of one key share their answer, a hit on a coherent cache is fresh. -/
namespace KeyedCache

/-- The entries a cache holds, newest first. -/
structure Cache (K V : Type*) where
  entries : List (K × V)
deriving DecidableEq, Repr

namespace Cache
variable {K V : Type*} [DecidableEq K]

def empty : Cache K V := ⟨[]⟩

def get (cache : Cache K V) (key : K) : Option V :=
  (cache.entries.find? (fun entry => decide (entry.1 = key))).map Prod.snd

def set (cache : Cache K V) (key : K) (value : V) : Cache K V := ⟨(key,value) :: cache.entries⟩

def delete (cache : Cache K V) (key : K) : Cache K V :=
  ⟨cache.entries.filter (fun entry => decide (entry.1 ≠ key))⟩

def clear (_ : Cache K V) : Cache K V := empty

@[simp] theorem get_empty (key : K) : (empty : Cache K V).get key = none := rfl

@[simp] theorem get_clear (cache : Cache K V) (key : K) : cache.clear.get key = none := rfl

@[simp] theorem get_set_self (cache : Cache K V) (key : K) (value : V) :
    (cache.set key value).get key = some value := by
  simp [get,set]

theorem get_set_of_ne (cache : Cache K V) {key other : K} (value : V) (distinct : other ≠ key) :
    (cache.set key value).get other = cache.get other := by
  simp [get,set,Ne.symm distinct]

@[simp] theorem get_delete_self (cache : Cache K V) (key : K) :
    (cache.delete key).get key = none := by
  simp [get,delete]

theorem get_delete_of_ne (cache : Cache K V) {key other : K} (distinct : other ≠ key) :
    (cache.delete key).get other = cache.get other := by
  obtain ⟨entries⟩ := cache
  induction entries with
  | nil => rfl
  | cons entry rest ih =>
    simp only [get,delete] at ih ⊢
    by_cases removed : entry.1 = key
    · have skipped : entry.1 ≠ other := fun same => distinct (same.symm.trans removed)
      simpa [removed,skipped,Ne.symm distinct] using ih
    · by_cases found : entry.1 = other
      · simp [found,distinct]
      · simpa [removed,found] using ih

theorem get_deleteAll (cache : Cache K V) (keys : List K) (key : K) :
    (keys.foldl delete cache).get key = if key ∈ keys then none else cache.get key := by
  induction keys generalizing cache with
  | nil => simp
  | cons first rest ih =>
    rw [List.foldl_cons,ih]
    by_cases same : key = first
    · simp [same]
    · simp [same,get_delete_of_ne cache same]

theorem mem_of_get {cache : Cache K V} {key : K} {value : V} (found : cache.get key = some value) :
    (key,value) ∈ cache.entries := by
  obtain ⟨entry,held,rfl⟩ := Option.map_eq_some_iff.mp found
  have same := List.find?_some held
  simp only [decide_eq_true_eq] at same
  rw [← same]
  exact List.mem_of_find?_eq_some held

end Cache

variable {K V Question : Type*} [DecidableEq K]

/-- Every entry is the fresh answer to some live question with that key. -/
def Coherent (key : Question → K) (fresh : Question → Option V) (live : Question → Prop)
    (cache : Cache K V) : Prop :=
  ∀ k value, cache.get k = some value → ∃ q, live q ∧ key q = k ∧ fresh q = some value

section
variable {key : Question → K} {fresh fresh' : Question → Option V} {live live' : Question → Prop}
  {cache : Cache K V}

theorem coherent_empty : Coherent key fresh live (Cache.empty : Cache K V) := by
  intro k value found
  simp at found

/-- A hit is the fresh answer when every live question with that key has the same one. -/
theorem Coherent.hit (coherent : Coherent key fresh live cache) {q : Question}
    (agree : ∀ p, live p → key p = key q → fresh p = fresh q) {value : V}
    (found : cache.get (key q) = some value) : fresh q = some value := by
  obtain ⟨p,asked,sameKey,answer⟩ := coherent _ _ found
  rw [← agree p asked sameKey]
  exact answer

theorem Coherent.set (coherent : Coherent key fresh live cache) {q : Question}
    (others : ∀ p, live p → key p ≠ key q → live' p) (asked : live' q)
    {value : V} (answer : fresh q = some value) :
    Coherent key fresh live' (cache.set (key q) value) := by
  intro k stored found
  by_cases same : k = key q
  · subst same
    rw [Cache.get_set_self] at found
    cases found
    exact ⟨q,asked,rfl,answer⟩
  · rw [Cache.get_set_of_ne _ _ same] at found
    obtain ⟨p,wasLive,rfl,earlier⟩ := coherent k stored found
    exact ⟨p,others p wasLive same,rfl,earlier⟩

theorem Coherent.delete (coherent : Coherent key fresh live cache) (k : K)
    (others : ∀ p, live p → key p ≠ k → live' p) :
    Coherent key fresh live' (cache.delete k) := by
  intro other value found
  by_cases same : other = k
  · subst same
    simp at found
  · rw [Cache.get_delete_of_ne _ same] at found
    obtain ⟨p,wasLive,rfl,answer⟩ := coherent other value found
    exact ⟨p,others p wasLive same,rfl,answer⟩

/-- When the backing data changes, the cache stays coherent as long as no cached
answer does. -/
theorem Coherent.change (coherent : Coherent key fresh live cache)
    (unchanged : ∀ q value, live q → cache.get (key q) = some value → fresh q = some value →
      fresh' q = some value) :
    Coherent key fresh' live cache := by
  intro k value found
  obtain ⟨q,asked,rfl,answer⟩ := coherent k value found
  exact ⟨q,asked,rfl,unchanged q value asked found answer⟩

end

/-- The questions that filled the live entries, recorded beside the cache. -/
def Filled (key : Question → K) (origin : Cache K Question) (question : Question) : Prop :=
  origin.get (key question) = some question

section
variable {key : Question → K} {origin : Cache K Question}

theorem Filled.set_other {p q : Question} (filled : Filled key origin p) (distinct : key p ≠ key q) :
    Filled key (origin.set (key q) q) p := by
  rw [Filled,Cache.get_set_of_ne _ _ distinct]
  exact filled

theorem filled_set_self (q : Question) : Filled key (origin.set (key q) q) q :=
  Cache.get_set_self _ _ _

theorem Filled.delete_other {p : Question} {k : K} (filled : Filled key origin p)
    (distinct : key p ≠ k) : Filled key (origin.delete k) p := by
  rw [Filled,Cache.get_delete_of_ne _ distinct]
  exact filled

end
end KeyedCache
