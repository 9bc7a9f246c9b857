import MlflowOidcAuth.Library.KeyedCache

/-! Keyed caches whose entries lapse. An entry is served until its lease ends, so whatever held
of a value when it was set held less than one lease before it is served. -/
namespace ExpiringCache
open KeyedCache

structure Leased (V : Type*) where
  value : V
  expires : Nat
deriving DecidableEq, Repr

abbrev LeaseCache (K V : Type*) := Cache K (Leased V)

namespace LeaseCache
variable {K V : Type*} [DecidableEq K] {cache : LeaseCache K V} {key other : K} {value : V}
  {now afterwards lease : Nat}

def lookup (cache : LeaseCache K V) (now : Nat) (key : K) : Option V :=
  match cache.get key with
  | some held => if now < held.expires then some held.value else none
  | none => none

def store (cache : LeaseCache K V) (now lease : Nat) (key : K) (value : V) : LeaseCache K V :=
  cache.set key ⟨value,now + lease⟩

@[simp] theorem lookup_delete_self (cache : LeaseCache K V) (now : Nat) (key : K) :
    lookup (cache.delete key) now key = none := by
  simp [lookup]

theorem lookup_congr {cache' : LeaseCache K V} (now : Nat) (same : cache.get key = cache'.get key) :
    cache.lookup now key = cache'.lookup now key := by
  rw [lookup,lookup,same]

theorem lookup_some (served : cache.lookup now key = some value) :
    ∃ expires, cache.get key = some ⟨value,expires⟩ ∧ now < expires := by
  unfold lookup at served
  cases found : cache.get key with
  | none => simp [found] at served
  | some held =>
    simp only [found,Option.ite_none_right_eq_some,Option.some.injEq] at served
    obtain ⟨current,rfl⟩ := served
    exact ⟨held.expires,rfl,current⟩

theorem get_delete_some {held : V} {cache : Cache K V} (found : (cache.delete other).get key = some held) :
    cache.get key = some held := by
  by_cases same : key = other
  · rw [same,Cache.get_delete_self] at found
    cases found
  · rwa [Cache.get_delete_of_ne _ same] at found

/-- The entries that are served now, as a cache without leases. -/
def current (now : Nat) (cache : LeaseCache K V) : Cache K V :=
  ⟨cache.entries.filterMap (fun entry => (cache.lookup now entry.1).map (fun value => (entry.1,value)))⟩

theorem get_current (now : Nat) (cache : LeaseCache K V) (key : K) :
    (current now cache).get key = cache.lookup now key := by
  have found : ∀ entries : List (K × Leased V),
      ((entries.filterMap (fun entry =>
          (cache.lookup now entry.1).map (fun value => (entry.1,value)))).find?
        (fun entry => decide (entry.1 = key))).map Prod.snd =
        if key ∈ entries.map Prod.fst then cache.lookup now key else none := by
    intro entries
    induction entries with
    | nil => rfl
    | cons entry entries ih =>
      cases served : cache.lookup now entry.1 with
      | none =>
        simp only [List.filterMap_cons,served,Option.map_none,ih,List.map_cons,List.mem_cons]
        by_cases same : key = entry.1
        · rw [same,served,ite_self,ite_self]
        · simp only [same,false_or]
      | some value =>
        simp only [List.filterMap_cons,served,Option.map_some,List.find?_cons,List.map_cons,
          List.mem_cons]
        by_cases same : key = entry.1
        · simp [same,served]
        · simp only [Ne.symm same,decide_false,ih,same,false_or]
  rw [current,Cache.get,found]
  split
  · rfl
  · next absent =>
    cases served : cache.lookup now key with
    | none => rfl
    | some value =>
      obtain ⟨expires,held,_⟩ := lookup_some served
      exact absurd (List.mem_map_of_mem (f := Prod.fst) (Cache.mem_of_get held)) absent

variable {Good : Nat → K → V → Prop}

/-- Each entry was set at some moment by now, for one lease, and was good then. -/
def Dated (lease : Nat) (Good : Nat → K → V → Prop) (now : Nat) (cache : LeaseCache K V) : Prop :=
  ∀ key held, cache.get key = some held →
    ∃ moment ≤ now, held.expires = moment + lease ∧ Good moment key held.value

theorem dated_empty : Dated lease Good now (Cache.empty : LeaseCache K V) := by
  intro key held found
  cases found

theorem Dated.later (dated : Dated lease Good now cache) (order : now ≤ afterwards) :
    Dated lease Good afterwards cache := by
  intro key held found
  obtain ⟨moment,past,expires,good⟩ := dated key held found
  exact ⟨moment,Nat.le_trans past order,expires,good⟩

theorem Dated.delete (dated : Dated lease Good now cache) (other : K) :
    Dated lease Good now (cache.delete other) :=
  fun key held found => dated key held (get_delete_some found)

theorem Dated.store (dated : Dated lease Good now cache) (good : Good now key value) :
    Dated lease Good now (cache.store now lease key value) := by
  intro asked held found
  by_cases same : asked = key
  · subst same
    simp only [LeaseCache.store,Cache.get_set_self,Option.some.injEq] at found
    subst found
    exact ⟨now,Nat.le_refl _,rfl,good⟩
  · simp only [LeaseCache.store,Cache.get_set_of_ne _ _ same] at found
    exact dated asked held found

theorem Dated.served (dated : Dated lease Good now cache)
    (served : cache.lookup now key = some value) :
    ∃ moment ≤ now, now < moment + lease ∧ Good moment key value := by
  obtain ⟨expires,found,current⟩ := lookup_some served
  obtain ⟨moment,past,dated,good⟩ := dated key _ found
  exact ⟨moment,past,dated ▸ current,good⟩

end LeaseCache
end ExpiringCache
