import Mathlib.Data.Bool.AllAny
import MlflowOidcAuth.Cache.Redis
import MlflowOidcAuth.Library.SeparatedText

/-! Several caches in one Redis server. What is done to one of them is not seen in another, and
what a clear leaves behind was set after it began. -/
namespace MlflowOidcAuth
open KeyedCache ExpiringCache Run SeparatedText

section Keys
variable {config : CacheConfig} {connects : String → Except Failure Unit}
  {backend other : RedisCacheBackend} {matcher : GlobMatcher} {key : String}

theorem makeKey_names (backend : RedisCacheBackend) (key : String) :
    backend.Names (backend.makeKey key) := by
  rw [RedisCacheBackend.Names,RedisCacheBackend.makeKey,String.toList_append]
  exact List.prefix_append _ _

theorem makeKey_injective {first second : String}
    (same : backend.makeKey first = backend.makeKey second) : first = second := by
  have lists := congrArg String.toList same
  simp only [RedisCacheBackend.makeKey,String.toList_append,List.append_cancel_left_eq] at lists
  exact String.ext lists

theorem MadeBackend.shape (made : MadeBackend config connects backend) :
    ∃ cacheName : List Char, ':' ∉ cacheName ∧
      backend.keyPrefix.toList = config.cacheKeyPrefix.toList ++ (cacheName ++ [':']) := by
  obtain ⟨cacheName,maxsize,plain,got⟩ := made.made
  refine ⟨cacheName.toList,plain,?_⟩
  unfold getCacheBackend at got
  split at got
  · cases got
  split at got
  · split at got
    · cases got
    · next url _ =>
      cases connected : connects url with
      | error failure => simp [connected,bind,Except.bind] at got
      | ok _ =>
        simp only [connected,bind,Except.bind,pure,Except.pure,Except.ok.injEq,
          CacheBackend.redis.injEq] at got
        rw [← got]
        simp
  · cases got

/-- A key belongs to one cache of an installation. -/
theorem MadeBackend.apart (made : MadeBackend config connects backend)
    (made' : MadeBackend config connects other) (names : backend.Names key)
    (names' : other.Names key) : backend.keyPrefix = other.keyPrefix := by
  obtain ⟨cacheName,plain,shape⟩ := made.shape
  obtain ⟨cacheName',plain',shape'⟩ := made'.shape
  have nested : ∀ first second : List Char, ':' ∉ first → ':' ∉ second →
      first ++ [':'] <+: second ++ [':'] → first = second := by
    intro first second plain plain' starts
    obtain ⟨rest,whole⟩ := starts
    rw [List.append_assoc,List.singleton_append] at whole
    obtain ⟨same,_⟩ := joined_of_plain plain plain' whole
    exact same
  apply String.ext
  rw [shape,shape']
  rw [RedisCacheBackend.Names,shape] at names
  rw [RedisCacheBackend.Names,shape'] at names'
  rcases List.prefix_or_prefix_of_prefix names names' with starts | starts
  · rw [nested _ _ plain plain' ((List.prefix_append_right_inj _).mp starts)]
  · rw [nested _ _ plain' plain ((List.prefix_append_right_inj _).mp starts)]

theorem MadeBackend.pattern_iff (made : MadeBackend config connects backend) :
    matcher.globMatch backend.pattern key = true ↔ backend.Names key :=
  matcher.literal _ _ made.plain

end Keys

section Steps
variable {V : Type} {pickle : Pickle V} {matcher : GlobMatcher} {state : RedisState}
  {client : RedisCacheBackend × Nat} {key : String}

/-- Nothing but a tick moves the clock. -/
theorem now_step (event : RedisEvent V) : (redisStep pickle state event).2.now = state.now ∨
    ∃ elapsed, event = .tick elapsed ∧
      (redisStep pickle state event).2.now = state.now + elapsed := by
  cases event with
  | get | set | delete | evict => exact .inl rfl
  | tick elapsed => exact .inr ⟨elapsed,rfl,rfl⟩
  | clear =>
    left
    simp only [redisStep,RedisState.clear]
    split <;> rfl
  | scanned =>
    left
    simp only [redisStep,RedisState.scanned,RedisState.proceed]
    split
    · split <;> rfl
    · rfl
  | deleted =>
    left
    simp only [redisStep,RedisState.deleted,RedisState.proceed,RedisState.remove]
    split <;> rfl

/-- Where one event changes what is stored. -/
def RedisEvent.Touches (state : RedisState) (key : String) : RedisEvent V → Prop
  | .set backend name _ | .delete backend name => backend.makeKey name = key
  | .deleted backend id => ∃ cursor page,
      state.clears (backend,id) = some (.deleting cursor page) ∧ key ∈ page
  | .evict name => name = key
  | _ => False

theorem get_untouched {event : RedisEvent V} (untouched : ¬ event.Touches state key) :
    (redisStep pickle state event).2.entries.get key = state.entries.get key := by
  cases event with
  | get | tick => rfl
  | set backend name value => exact Cache.get_set_of_ne _ _ (Ne.symm untouched)
  | delete backend name => exact Cache.get_delete_of_ne _ (Ne.symm untouched)
  | evict name => exact Cache.get_delete_of_ne _ (Ne.symm untouched)
  | clear backend id =>
    simp only [redisStep,RedisState.clear]
    split <;> rfl
  | scanned backend id cursor page =>
    simp only [redisStep,RedisState.scanned,RedisState.proceed]
    split
    · split <;> rfl
    · rfl
  | deleted backend id =>
    simp only [redisStep,RedisState.deleted,RedisState.proceed,RedisState.remove]
    split
    · next cursor page clearing =>
      rw [Cache.get_deleteAll,if_neg (fun member => untouched ⟨cursor,page,clearing,member⟩)]
    · rfl

/-- An event of another client leaves this one where it is in its loop. -/
theorem clears_other {event : RedisEvent V}
    (other : ∀ backend, event.backend = some backend → backend ≠ client.1) :
    (redisStep pickle state event).2.clears client = state.clears client := by
  have apart : ∀ {backend : RedisCacheBackend} {id : Nat}, backend ≠ client.1 →
      client ≠ (backend,id) := by
    rintro backend id distinct rfl
    exact distinct rfl
  cases event with
  | get | tick | set | delete | evict => rfl
  | clear backend id =>
    simp only [redisStep,RedisState.clear]
    split
    · rfl
    · exact Function.update_of_ne (apart (other _ rfl)) _ _
  | scanned backend id cursor page =>
    simp only [redisStep,RedisState.scanned,RedisState.proceed]
    split
    · split <;> exact Function.update_of_ne (apart (other _ rfl)) _ _
    · rfl
  | deleted backend id =>
    simp only [redisStep,RedisState.deleted,RedisState.proceed,RedisState.remove]
    split
    · exact Function.update_of_ne (apart (other _ rfl)) _ _
    · rfl

/-- The pages that clients are about to delete hold keys of their patterns only. -/
def PagesMatch (matcher : GlobMatcher) (state : RedisState) : Prop :=
  ∀ client cursor page, state.clears client = some (.deleting cursor page) →
    ∀ key ∈ page, matcher.globMatch client.1.pattern key = true

theorem PagesMatch.step (matched : PagesMatch matcher state) {event : RedisEvent V}
    (honest : ScanHonest matcher state event) :
    PagesMatch matcher (redisStep pickle state event).2 := by
  intro client cursor page clearing
  have kept : ∀ {owner : RedisCacheBackend × Nat} {next : Option Clearing},
      Function.update state.clears owner next client = some (.deleting cursor page) →
      (client = owner → ∀ cursor page, next = some (.deleting cursor page) →
        ∀ key ∈ page, matcher.globMatch client.1.pattern key = true) →
      ∀ key ∈ page, matcher.globMatch client.1.pattern key = true := by
    intro owner next clearing fresh
    by_cases same : client = owner
    · subst same
      rw [Function.update_self] at clearing
      exact fresh rfl _ _ clearing
    · rw [Function.update_of_ne same] at clearing
      exact matched _ _ _ clearing
  cases event with
  | get | tick | set | delete | evict => exact matched _ _ _ clearing
  | clear backend id =>
    simp only [redisStep,RedisState.clear] at clearing
    split at clearing
    · exact matched _ _ _ clearing
    · exact kept clearing (fun _ _ _ next => by cases next)
  | scanned backend id next returned =>
    simp only [redisStep,RedisState.scanned,RedisState.proceed] at clearing
    split at clearing
    · next started scanning =>
      split at clearing
      · refine kept clearing (fun _ _ _ finished => ?_)
        split at finished <;> cases finished
      · refine kept clearing (fun same _ _ taken => ?_)
        cases taken
        subst same
        exact (honest started scanning).1
    · exact matched _ _ _ clearing
  | deleted backend id =>
    simp only [redisStep,RedisState.deleted,RedisState.proceed,RedisState.remove] at clearing
    split at clearing
    · refine kept clearing (fun _ _ _ finished => ?_)
      split at finished <;> cases finished
    · exact matched _ _ _ clearing

end Steps

section Purging
variable {V : Type} {config : CacheConfig} {connects : String → Except Failure Unit}
  {pickle : Pickle V} {matcher : GlobMatcher} {backend : RedisCacheBackend}
  {full purged : RedisState}

/-- The events that a cache is meant to see: those of its own prefix, and those of the server. -/
def RedisEvent.concerns (backend : RedisCacheBackend) (event : RedisEvent V) : Bool :=
  match event.backend with
  | some other => decide (other.keyPrefix = backend.keyPrefix)
  | none => true

/-- The events of one installation's backends, with a server that keeps the promise of SCAN. -/
def RedisAllowed (config : CacheConfig) (connects : String → Except Failure Unit)
    (matcher : GlobMatcher) (state : RedisState) (event : RedisEvent V) : Prop :=
  ScanHonest matcher state event ∧
    ∀ backend, event.backend = some backend → MadeBackend config connects backend

/-- Two servers that look alike to the clients of one prefix. -/
structure LooksAlike (backend : RedisCacheBackend) (full purged : RedisState) : Prop where
  now : full.now = purged.now
  entries : ∀ key, backend.Names key → full.entries.get key = purged.entries.get key
  clears : ∀ client : RedisCacheBackend × Nat, client.1.keyPrefix = backend.keyPrefix →
    full.clears client = purged.clears client

theorem LooksAlike.foreign (mine : MadeBackend config connects backend)
    (alike : LooksAlike backend full purged) (matched : PagesMatch matcher full)
    {event : RedisEvent V} (allowed : RedisAllowed config connects matcher full event)
    (other : event.concerns backend = false) :
    LooksAlike backend (redisStep pickle full event).2 purged := by
  unfold RedisEvent.concerns at other
  cases owner : event.backend with
  | none => simp [owner] at other
  | some foreign =>
    simp only [owner,decide_eq_false_iff_not] at other
    have made := allowed.2 foreign owner
    constructor
    · rw [← alike.now]
      rcases now_step event with same | ⟨elapsed,rfl,_⟩
      · exact same
      · cases owner
    · intro key names
      rw [get_untouched,alike.entries key names]
      intro touched
      apply other
      apply made.apart mine _ names
      cases event with
      | set | delete =>
        cases owner
        rw [← touched]
        exact makeKey_names _ _
      | deleted =>
        cases owner
        obtain ⟨cursor,page,clearing,member⟩ := touched
        exact made.pattern_iff.mp (matched _ _ _ clearing key member)
      | evict => cases owner
      | get | clear | scanned | tick => cases touched
    · intro client own
      rw [clears_other,alike.clears client own]
      intro actor acts same
      rw [owner,Option.some.injEq] at acts
      apply other
      rw [acts,same,own]

theorem LooksAlike.update {state state' : RedisState}
    (alike : ∀ client : RedisCacheBackend × Nat, client.1.keyPrefix = backend.keyPrefix →
      state.clears client = state'.clears client)
    (owner : RedisCacheBackend × Nat) (next : Option Clearing) :
    ∀ client : RedisCacheBackend × Nat, client.1.keyPrefix = backend.keyPrefix →
      Function.update state.clears owner next client =
        Function.update state'.clears owner next client := by
  intro client own
  by_cases same : client = owner
  · rw [same,Function.update_self,Function.update_self]
  · rw [Function.update_of_ne same,Function.update_of_ne same]
    exact alike client own

theorem LooksAlike.remove (alike : LooksAlike backend full purged) (keys : List String) :
    LooksAlike backend (full.remove keys) (purged.remove keys) where
  now := alike.now
  entries := fun key names => by
    simp only [RedisState.remove,Cache.get_deleteAll,alike.entries key names]
  clears := alike.clears

theorem LooksAlike.shared (alike : LooksAlike backend full purged) {event : RedisEvent V}
    (own : event.concerns backend = true) :
    (redisStep pickle full event).1 = (redisStep pickle purged event).1 ∧
      LooksAlike backend (redisStep pickle full event).2 (redisStep pickle purged event).2 := by
  have ownPrefix : ∀ {actor : RedisCacheBackend}, event.backend = some actor →
      actor.keyPrefix = backend.keyPrefix := by
    intro actor acts
    simpa [RedisEvent.concerns,acts] using own
  cases event with
  | get actor name =>
    refine ⟨?_,alike⟩
    have names : backend.Names (actor.makeKey name) := by
      rw [RedisCacheBackend.Names,← ownPrefix rfl]
      exact makeKey_names actor name
    simp only [redisStep,RedisState.get,alike.now,LeaseCache.lookup_congr purged.now (alike.entries _ names)]
  | set actor name value =>
    refine ⟨rfl,alike.now,?_,alike.clears⟩
    intro key names
    by_cases same : key = actor.makeKey name
    · subst same
      simp only [redisStep,RedisState.set,LeaseCache.store,Cache.get_set_self,alike.now]
    · simp only [redisStep,RedisState.set,LeaseCache.store,Cache.get_set_of_ne _ _ same]
      exact alike.entries key names
  | delete actor name => exact ⟨rfl,alike.remove _⟩
  | evict name => exact ⟨rfl,alike.remove _⟩
  | tick elapsed => exact ⟨rfl,congrArg (· + elapsed) alike.now,alike.entries,alike.clears⟩
  | clear actor id =>
    refine ⟨rfl,?_⟩
    simp only [redisStep,RedisState.clear,alike.clears (actor,id) (ownPrefix rfl)]
    split
    · exact alike
    · exact ⟨alike.now,alike.entries,LooksAlike.update alike.clears _ _⟩
  | scanned actor id cursor page =>
    refine ⟨rfl,?_⟩
    simp only [redisStep,RedisState.scanned,RedisState.proceed,
      alike.clears (actor,id) (ownPrefix rfl)]
    split
    · split <;> exact ⟨alike.now,alike.entries,LooksAlike.update alike.clears _ _⟩
    · exact alike
  | deleted actor id =>
    refine ⟨rfl,?_⟩
    simp only [redisStep,RedisState.deleted,RedisState.proceed,
      alike.clears (actor,id) (ownPrefix rfl)]
    split
    · next cursor page clearing =>
      have removed := alike.remove page
      exact ⟨removed.now,removed.entries,LooksAlike.update alike.clears _ _⟩
    · exact alike

/-- The answers of a cache are those of a server that serves no other cache. -/
theorem namespace_alone (config : CacheConfig) (connects : String → Except Failure Unit)
    (pickle : Pickle V) (matcher : GlobMatcher) (backend : RedisCacheBackend)
    (mine : MadeBackend config connects backend) (now : Nat) (events : List (RedisEvent V))
    (allowed : ∀ moment ∈ moments (redisStep pickle) (.start now) events,
      RedisAllowed config connects matcher moment.before moment.event) :
    ((moments (redisStep pickle) (.start now) events).filter
        (fun moment => moment.event.concerns backend)).map Moment.answer =
      (moments (redisStep pickle) (.start now)
        (events.filter (fun event => event.concerns backend))).map Moment.answer := by
  refine @purged_answers _ _ _ (redisStep pickle) (fun event => event.concerns backend)
    (fun full purged => LooksAlike backend full purged ∧ PagesMatch matcher full)
    (RedisAllowed config connects matcher) ?_ ?_ _ _ _ ?_ allowed
  · rintro full purged event ⟨alike,matched⟩ permitted other
    exact ⟨alike.foreign mine matched permitted other,matched.step permitted.1⟩
  · rintro full purged event ⟨alike,matched⟩ permitted own
    obtain ⟨same,alike'⟩ := alike.shared own
    exact ⟨same,alike',matched.step permitted.1⟩
  · exact ⟨⟨rfl,fun _ _ => rfl,fun _ _ => rfl⟩,fun _ _ _ clearing => by cases clearing⟩

end Purging

section Installation

def redisConfig : CacheConfig where
  cacheBackend := "redis"
  cacheRedisUrl := some "redis://localhost:6379/0"
  cacheKeyPrefix := "mlflow_oidc_auth:"

def permissionsBackend : RedisCacheBackend := ⟨"mlflow_oidc_auth:permissions:",30⟩

def workspaceBackend : RedisCacheBackend := ⟨"mlflow_oidc_auth:workspace:",300⟩

def pickleBool : Pickle Bool where
  dumps := fun value => if value then [0x88] else [0x89]
  loads := fun raw => .ok (decide (raw = [0x88]))
  loads_dumps := by decide

/-- The matching of a pattern that is text with a star behind it. -/
def starMatcher : GlobMatcher where
  globMatch := fun pattern key => pattern.toList.dropLast.isPrefixOf key.toList
  literal := by
    intro text key _
    rw [String.toList_append,show "*".toList = ['*'] from rfl,List.dropLast_concat]
    exact List.isPrefixOf_iff_prefix

def reaches (_ : String) : Except Failure Unit := .ok ()

theorem permissionsBackend_made : MadeBackend redisConfig reaches permissionsBackend :=
  ⟨List.all_iff_forall_prop.mp (by decide),"permissions",2048,by decide,rfl⟩

theorem workspaceBackend_made : MadeBackend redisConfig reaches workspaceBackend :=
  ⟨List.all_iff_forall_prop.mp (by decide),"workspace",1024,by decide,rfl⟩

/-- The workspace cache is cleared while both hold a key of the same name. -/
def workspaceCleared : List (RedisEvent Bool) :=
  [.set permissionsBackend "alice" true,.set workspaceBackend "alice" false,
    .clear workspaceBackend 0,.scanned workspaceBackend 0 0 ["mlflow_oidc_auth:workspace:alice"],
    .deleted workspaceBackend 0,.get permissionsBackend "alice"]

theorem permissions_alone :
    ((moments (redisStep pickleBool) (.start 0) workspaceCleared).filter
        (fun moment => moment.event.concerns permissionsBackend)).map Moment.answer =
      (moments (redisStep pickleBool) (.start 0)
        (workspaceCleared.filter (fun event => event.concerns permissionsBackend))).map
          Moment.answer := by
  apply namespace_alone redisConfig reaches pickleBool starMatcher permissionsBackend
    permissionsBackend_made 0 workspaceCleared
  have permissions : ∀ backend, some permissionsBackend = some backend →
      MadeBackend redisConfig reaches backend := by
    rintro backend ⟨⟩
    exact permissionsBackend_made
  have workspace : ∀ backend, some workspaceBackend = some backend →
      MadeBackend redisConfig reaches backend := by
    rintro backend ⟨⟩
    exact workspaceBackend_made
  simp only [workspaceCleared,moments_cons,moments_nil,List.forall_mem_cons,List.not_mem_nil,
    false_imp_iff,implies_true,and_true]
  refine ⟨⟨trivial,permissions⟩,⟨trivial,workspace⟩,⟨trivial,workspace⟩,⟨?_,workspace⟩,
    ⟨trivial,workspace⟩,⟨trivial,permissions⟩⟩
  intro started _
  exact ⟨by decide,fun _ => by decide⟩

end Installation

section Clearing
variable {V : Type} {config : CacheConfig} {connects : String → Except Failure Unit}
  {pickle : Pickle V} {matcher : GlobMatcher} {state : RedisState}
  {client : RedisCacheBackend × Nat} {key : String} {raw : List UInt8}

/-- A clear that is under way has still to come to this key. -/
def Clearing.Unswept (owed : List String) (key : String) : Clearing → Prop
  | .scanning _ => key ∈ owed
  | .deleting cursor page => key ∈ page ∨ cursor ≠ 0 ∧ key ∈ owed

def RedisState.Unswept (state : RedisState) (client : RedisCacheBackend × Nat) (key : String) :
    Prop :=
  ∃ clearing, state.clears client = some clearing ∧ clearing.Unswept (state.owed client) key

theorem step_now (event : RedisEvent V) : state.now ≤ (redisStep pickle state event).2.now := by
  rcases now_step event with same | ⟨elapsed,_,later⟩
  · exact Nat.le_of_eq same.symm
  · rw [later]
    exact Nat.le_add_right _ _

/-- What is served after an event was set by it, or served before. -/
theorem served_before {event : RedisEvent V}
    (served : LeaseCache.lookup (redisStep pickle state event).2.entries
      (redisStep pickle state event).2.now key = some raw) :
    (∃ setter name value, event = .set setter name value ∧ setter.makeKey name = key ∧
        pickle.dumps value = raw) ∨
      LeaseCache.lookup state.entries state.now key = some raw ∧ ¬ event.Touches state key := by
  obtain ⟨expires,held,current⟩ := LeaseCache.lookup_some served
  by_cases touched : event.Touches state key
  · cases event with
    | set setter name value =>
      left
      refine ⟨setter,name,value,rfl,touched,?_⟩
      simp only [redisStep,RedisState.set,LeaseCache.store] at held
      rw [touched,Cache.get_set_self,Option.some.injEq,Leased.mk.injEq] at held
      exact held.1
    | delete setter name =>
      simp only [redisStep,RedisState.remove] at held
      rw [touched,Cache.get_deleteAll,if_pos List.mem_cons_self] at held
      cases held
    | evict name =>
      simp only [redisStep,RedisState.remove] at held
      rw [touched,Cache.get_deleteAll,if_pos List.mem_cons_self] at held
      cases held
    | deleted actor id =>
      obtain ⟨cursor,page,clearing,member⟩ := touched
      simp only [redisStep,RedisState.deleted,clearing,RedisState.proceed,RedisState.remove] at held
      rw [Cache.get_deleteAll,if_pos member] at held
      cases held
    | get | clear | scanned | tick => cases touched
  · right
    refine ⟨?_,touched⟩
    rw [get_untouched touched] at held
    have alive : state.now < expires := Nat.lt_of_le_of_lt (step_now event) current
    simp only [LeaseCache.lookup,held,if_pos alive]

/-- A clear loses sight of no key that stays: it deletes the key, or has it before it still. -/
theorem RedisState.Unswept.step (unswept : state.Unswept client key) {event : RedisEvent V}
    (honest : ScanHonest matcher state event) (untouched : ¬ event.Touches state key)
    (matched : matcher.globMatch client.1.pattern key = true)
    (alive : LeaseCache.lookup state.entries state.now key ≠ none) :
    (redisStep pickle state event).2.Unswept client key := by
  obtain ⟨clearing,loop,before⟩ := unswept
  cases event with
  | get | tick | delete | evict => exact ⟨clearing,loop,before⟩
  | set setter name value =>
    refine ⟨clearing,loop,?_⟩
    have kept : ∀ {owed : List String}, key ∈ owed →
        key ∈ owed.filter (fun other => decide (other ≠ setter.makeKey name)) := by
      intro owed member
      exact List.mem_filter.mpr ⟨member,decide_eq_true (Ne.symm untouched)⟩
    cases clearing with
    | scanning cursor => exact kept before
    | deleting cursor page => exact before.imp id (fun rest => ⟨rest.1,kept rest.2⟩)
  | clear actor id =>
    simp only [redisStep,RedisState.clear]
    split
    · exact ⟨clearing,loop,before⟩
    · next idle =>
      have other : client ≠ (actor,id) := by
        rintro rfl
        rw [loop] at idle
        cases idle
      refine ⟨clearing,?_,?_⟩
      · simp only [Function.update_of_ne other,loop]
      · simpa only [Function.update_of_ne other] using before
  | scanned actor id cursor page =>
    simp only [redisStep,RedisState.scanned,RedisState.proceed]
    split
    · next started scanning =>
      by_cases same : client = (actor,id)
      · subst same
        obtain rfl := Option.some.inj (loop.symm.trans scanning)
        have owed : key ∈ state.owed (actor,id) := before
        obtain ⟨_,complete⟩ := honest started scanning
        have returned : cursor = 0 → key ∈ page := fun finished =>
          complete finished key owed matched alive
        split
        · next empty =>
          have more : cursor ≠ 0 := by
            intro finished
            have member := returned finished
            rw [empty] at member
            cases member
          refine ⟨.scanning cursor,?_,?_⟩
          · simp only [Function.update_self,if_neg more]
          · simp only [Clearing.Unswept,Function.update_self,if_neg more,empty]
            simpa using owed
        · refine ⟨.deleting cursor page,?_,?_⟩
          · simp only [Function.update_self]
          · by_cases member : key ∈ page
            · exact .inl member
            · have more : cursor ≠ 0 := fun finished => member (returned finished)
              right
              simp only [Function.update_self,if_neg more]
              exact ⟨more,List.mem_filter.mpr ⟨owed,decide_eq_true member⟩⟩
      · split <;> refine ⟨clearing,?_,?_⟩ <;> simp only [Function.update_of_ne same]
        · exact loop
        · exact before
        · exact loop
        · exact before
    · exact ⟨clearing,loop,before⟩
  | deleted actor id =>
    simp only [redisStep,RedisState.deleted,RedisState.proceed,RedisState.remove]
    split
    · next cursor page deleting =>
      by_cases same : client = (actor,id)
      · subst same
        obtain rfl := Option.some.inj (loop.symm.trans deleting)
        have more := before.resolve_left (fun member => untouched ⟨cursor,page,deleting,member⟩)
        refine ⟨.scanning cursor,?_,more.2⟩
        simp only [Function.update_self,if_neg more.1]
      · refine ⟨clearing,?_,before⟩
        simp only [Function.update_of_ne same,loop]
    · exact ⟨clearing,loop,before⟩

/-- The values that the events set under a key. -/
def SetBy (config : CacheConfig) (connects : String → Except Failure Unit) (pickle : Pickle V)
    (events : List (RedisEvent V)) (key : String) (raw : List UInt8) : Prop :=
  ∃ setter name value, MadeBackend config connects setter ∧ .set setter name value ∈ events ∧
    setter.makeKey name = key ∧ pickle.dumps value = raw

/-- What a cache serves after a clear was set after the clear began, whoever else is at work. -/
theorem cleared_then_set (config : CacheConfig) (connects : String → Except Failure Unit)
    (pickle : Pickle V) (matcher : GlobMatcher) (backend : RedisCacheBackend)
    (mine : MadeBackend config connects backend) (id : Nat) (start : RedisState)
    (idle : start.clears (backend,id) = none) (events : List (RedisEvent V))
    (allowed : ∀ moment ∈ moments (redisStep pickle) start (.clear backend id :: events),
      RedisAllowed config connects matcher moment.before moment.event)
    (done : (final (redisStep pickle) start (.clear backend id :: events)).clears (backend,id) =
      none)
    {key : String} {value : V}
    (served : (final (redisStep pickle) start (.clear backend id :: events)).get pickle backend key =
      .ok (some value)) :
    ∃ setter, setter.keyPrefix = backend.keyPrefix ∧ .set setter key value ∈ events := by
  let inv := fun state : RedisState => ∀ key raw, backend.Names key →
    LeaseCache.lookup state.entries state.now key = some raw →
    SetBy config connects pickle events key raw ∨ state.Unswept (backend,id) key
  have initial : inv (redisStep pickle start (.clear backend id)).2 := by
    intro key raw _ found
    right
    simp only [redisStep,RedisState.clear,idle] at found ⊢
    refine ⟨.scanning 0,Function.update_self _ _ _,?_⟩
    obtain ⟨expires,held,_⟩ := LeaseCache.lookup_some found
    simp only [Clearing.Unswept,Function.update_self]
    exact List.mem_map_of_mem (Cache.mem_of_get held)
  have keeps : ∀ state event, inv state →
      RedisAllowed config connects matcher state event ∧ event ∈ events →
      inv (redisStep pickle state event).2 := by
    intro state event held admitted key raw names found
    obtain ⟨permitted,member⟩ := admitted
    rcases served_before found with ⟨setter,name,value,rfl,same,dumped⟩ | ⟨before,untouched⟩
    · exact .inl ⟨setter,name,value,permitted.2 setter rfl,member,same,dumped⟩
    · rcases held key raw names before with set | unswept
      · exact .inl set
      · right
        apply unswept.step permitted.1 untouched (mine.pattern_iff.mpr names)
        rw [before]
        exact Option.some_ne_none raw
  have rest : ∀ moment ∈ moments (redisStep pickle)
      (redisStep pickle start (.clear backend id)).2 events,
      RedisAllowed config connects matcher moment.before moment.event ∧ moment.event ∈ events :=
    fun moment member =>
      ⟨allowed moment (List.mem_cons_of_mem _ member),event_of_moment _ member⟩
  have last := (invariant_of_moments keeps initial rest).2
  rw [final_cons] at done served
  unfold RedisState.get at served
  split at served
  · cases served
  · next raw found =>
    rcases last _ raw (makeKey_names backend key) found with set | ⟨_,loop,_⟩
    · obtain ⟨setter,name,value',made,member,same,rfl⟩ := set
      rw [pickle.loads_dumps] at served
      obtain rfl := Option.some.inj (Except.ok.inj served)
      have names : setter.Names (backend.makeKey key) := by
        rw [← same]
        exact makeKey_names setter name
      have samePrefix := made.apart mine names (makeKey_names backend key)
      refine ⟨setter,samePrefix,?_⟩
      rw [RedisCacheBackend.makeKey,samePrefix] at same
      rwa [← makeKey_injective same]
    · rw [done] at loop
      cases loop

/-- Another process fills the cache again while it is cleared. -/
theorem cleared_then_set_alice :
    ∃ setter, setter.keyPrefix = permissionsBackend.keyPrefix ∧
      RedisEvent.set setter "alice" false ∈
        ([.scanned permissionsBackend 0 0 ["mlflow_oidc_auth:permissions:alice"],
          .deleted permissionsBackend 0,.set permissionsBackend "alice" false] :
            List (RedisEvent Bool)) := by
  apply cleared_then_set redisConfig reaches pickleBool starMatcher permissionsBackend
    permissionsBackend_made 0 ((RedisState.start 0).set pickleBool permissionsBackend "alice" true)
  · rfl
  · have permissions : ∀ backend, some permissionsBackend = some backend →
        MadeBackend redisConfig reaches backend := by
      rintro backend ⟨⟩
      exact permissionsBackend_made
    simp only [moments_cons,moments_nil,List.forall_mem_cons,List.not_mem_nil,false_imp_iff,
      implies_true,and_true]
    refine ⟨⟨trivial,permissions⟩,⟨?_,permissions⟩,⟨trivial,permissions⟩,⟨trivial,permissions⟩⟩
    intro started _
    exact ⟨by decide,fun _ => by decide⟩
  · rfl
  · rfl

end Clearing
end MlflowOidcAuth
