import MlflowOidcAuth.Resolution.Invalidation

/-! Cached resolutions and store methods of several requests, interleaved step by step: a
resolution misses the cache, reads the database and sets its entry; a method writes and then
flushes. -/
namespace MlflowOidcAuth
open KeyedCache Effects

/-- A resolution between its steps. Of a read, the database it saw is kept beside the result. -/
inductive Flight
  | missed (resolution : Resolution)
  | resolved (resolution : Resolution) (seen : Database) (result : PermissionResult)

structure TrafficState where
  db : Database
  cached : TracedCaches
  /-- The resolutions under way, by the request that runs them. -/
  flights : Cache Nat Flight
  /-- The requests whose method has written and not yet flushed. -/
  unflushed : List Nat

def TrafficState.start (db : Database) : TrafficState := ⟨db,.empty,Cache.empty,[]⟩

inductive TrafficEvent
  | lookUp (id : Nat) (resolution : Resolution)
  | read (id : Nat)
  | set (id : Nat)
  | write (id : Nat) (method : StoreMethod) (args : Arguments)
  | flush (id : Nat)
  | evict (key : String)
  | evictWorkspace (key : String)

namespace TrafficState

def lookUp (state : TrafficState) (id : Nat) (resolution : Resolution) :
    Option (Except Failure PermissionResult) × TrafficState :=
  match state.flights.get id,state.cached.caches.permission.get resolution.cacheKey with
  | none,some result => (some (.ok result),state)
  | none,none => (none,{ state with flights := state.flights.set id (.missed resolution) })
  | some _,_ => (none,state)

def withWorkspace (cached : TracedCaches) (workspaceCache : Cache String Permission) :
    TracedCaches :=
  { cached with caches := ⟨cached.caches.permission,workspaceCache⟩ }

def read (env : Env) (state : TrafficState) (id : Nat) :
    Option (Except Failure PermissionResult) × TrafficState :=
  match state.flights.get id with
  | some (.missed resolution) =>
    match resolveMiss env state.db.tables resolution.context resolution.request
      state.cached.caches.workspace with
    | (.error failure,workspaceCache) =>
      (some (.error failure),{ state with
        cached := withWorkspace state.cached workspaceCache
        flights := state.flights.delete id })
    | (.ok result,workspaceCache) =>
      (none,{ state with
        cached := withWorkspace state.cached workspaceCache
        flights := state.flights.set id (.resolved resolution state.db result) })
  | _ => (none,state)

def set (state : TrafficState) (id : Nat) : Option (Except Failure PermissionResult) × TrafficState :=
  match state.flights.get id with
  | some (.resolved resolution _ result) =>
    (some (.ok result),{ state with
      cached := ⟨⟨state.cached.caches.permission.set resolution.cacheKey result,
        state.cached.caches.workspace⟩,state.cached.origin.set resolution.cacheKey resolution⟩
      flights := state.flights.delete id })
  | _ => (none,state)

/-- The wrapped method runs; the flush of a method on the list is still to come. -/
def write (env : StoreEnv) (state : TrafficState) (id : Nat) (method : StoreMethod)
    (args : Arguments) : TrafficState :=
  if id ∈ state.unflushed then state
  else match (method.operation args).run env state.db with
    | .ok _ written =>
      { state with
        db := written
        unflushed := if method ∈ permissionCudMethods then id :: state.unflushed
          else state.unflushed }
    | .error _ reached => { state with db := reached }

def flush (state : TrafficState) (id : Nat) : TrafficState :=
  if id ∈ state.unflushed then
    { state with cached := state.cached.flush, unflushed := state.unflushed.filter (· ≠ id) }
  else state

/-- No resolution is under way and every method has returned. -/
def Quiet (state : TrafficState) : Prop :=
  (∀ id, state.flights.get id = none) ∧ state.unflushed = []

/-- Every entry of the permission cache is what the database now gives the resolution that
filled it. -/
def EntriesFresh (env : Env) (state : TrafficState) : Prop :=
  ∀ key result, state.cached.caches.permission.get key = some result →
    ∃ resolution, state.cached.origin.get key = some resolution ∧ resolution.cacheKey = key ∧
      resolution.fresh env state.db.tables = .ok result

end TrafficState

def trafficStep (env : StoreEnv) (state : TrafficState) :
    TrafficEvent → Option (Except Failure PermissionResult) × TrafficState
  | .lookUp id resolution => state.lookUp id resolution
  | .read id => state.read env.resolution id
  | .set id => state.set id
  | .write id method args => (none,state.write env id method args)
  | .flush id => (none,state.flush id)
  | .evict key => (none,{ state with cached := state.cached.evict key })
  | .evictWorkspace key => (none,{ state with cached := state.cached.evictWorkspace key })

/-- In every quiet state that a run reaches the permission cache is fresh. -/
def TrafficFresh (env : StoreEnv) (db : Database) (events : List TrafficEvent) : Prop :=
  ∀ past future, events = past ++ future →
    (Run.final (trafficStep env) (.start db) past).Quiet →
    (Run.final (trafficStep env) (.start db) past).EntriesFresh env.resolution

/-- All that a resolution reads is the same in both tables: what each source reports and what
the workspace lookups find. -/
def ReadsSame (env : Env) (t t' : Tables) (resolution : Resolution) : Prop :=
  (∀ shape, resolution.request.shape env = .ok shape → ∀ name,
    askSource (shape.sources env t' resolution.request.username) name =
      askSource (shape.sources env t resolution.request.username) name) ∧
  ∀ workspace, lookupWorkspacePermission env t' resolution.request.username workspace =
    lookupWorkspacePermission env t resolution.request.username workspace

/-- The condition on one event: a method spares the caches as in a sequential run; an entry is
set while a flush is to come, or while what was read is still so. -/
def TrafficSpares (env : StoreEnv) (state : TrafficState) : TrafficEvent → Prop
  | .write _ method args => Spares env state.db state.cached (method.operation args)
  | .set id => state.unflushed = [] → ∀ resolution seen result,
      state.flights.get id = some (.resolved resolution seen result) →
      ReadsSame env.resolution seen.tables state.db.tables resolution
  | _ => True

def TrafficLookups (events : List TrafficEvent) (question : String × String) : Prop :=
  ∃ id resolution, .lookUp id resolution ∈ events ∧ resolution.request.username = question.1 ∧
    resolution.workspace = some question.2

/-- The invariant. While a flush is to come nothing is said of the permission cache. -/
structure TrafficSound (env : Env) (live : String × String → Prop) (state : TrafficState) :
    Prop where
  permission : state.unflushed = [] → PermissionCoherent env state.db.tables
    (Filled Resolution.cacheKey state.cached.origin) state.cached.caches.permission
  workspace : WorkspaceCoherent env state.db.tables live state.cached.caches.workspace
  missed : ∀ id resolution, state.flights.get id = some (.missed resolution) →
    MayLookUp live resolution
  resolved : ∀ id resolution seen result,
    state.flights.get id = some (.resolved resolution seen result) →
    resolution.fresh env seen.tables = .ok result

namespace TrafficSound
variable {env : StoreEnv} {live : String × String → Prop} {state : TrafficState}

theorem start (db : Database) : TrafficSound env.resolution live (.start db) where
  permission _ := coherent_empty
  workspace := coherent_empty
  missed id resolution flying := by simp [TrafficState.start] at flying
  resolved id resolution seen result flying := by simp [TrafficState.start] at flying

theorem caches (sound : TrafficSound env.resolution live state) (flushed : state.unflushed = []) :
    state.cached.Sound env.resolution state.db.tables live :=
  ⟨sound.permission flushed,sound.workspace⟩

theorem entriesFresh (sound : TrafficSound env.resolution live state)
    (flushed : state.unflushed = []) : state.EntriesFresh env.resolution := by
  intro key result held
  obtain ⟨resolution,filled,rfl,fresh⟩ := sound.permission flushed key result held
  have entry : state.cached.Holds resolution result := ⟨filled,held⟩
  exact ⟨resolution,filled,rfl,(sound.caches flushed).holds entry⟩

theorem lookUp (sound : TrafficSound env.resolution live state) (id : Nat)
    {resolution : Resolution} (asked : MayLookUp live resolution) :
    TrafficSound env.resolution live (state.lookUp id resolution).2 := by
  unfold TrafficState.lookUp
  cases busy : state.flights.get id with
  | some flight => exact sound
  | none =>
    cases hit : state.cached.caches.permission.get resolution.cacheKey with
    | some result => exact sound
    | none =>
      refine ⟨sound.permission,sound.workspace,?_,?_⟩
      · intro other asker flying
        by_cases same : other = id
        · rw [same] at flying
          simp only [Cache.get_set_self,Option.some.injEq,Flight.missed.injEq] at flying
          exact flying ▸ asked
        · rw [Cache.get_set_of_ne _ _ same] at flying
          exact sound.missed other asker flying
      · intro other asker seen result flying
        by_cases same : other = id
        · rw [same] at flying
          simp only [Cache.get_set_self,Option.some.injEq,reduceCtorEq] at flying
        · rw [Cache.get_set_of_ne _ _ same] at flying
          exact sound.resolved other asker seen result flying

theorem flight_of_delete {flights : Cache Nat Flight} {id other : Nat} {flight : Flight}
    (flying : (flights.delete id).get other = some flight) : flights.get other = some flight := by
  by_cases same : other = id
  · rw [same,Cache.get_delete_self] at flying
    cases flying
  · rwa [Cache.get_delete_of_ne _ same] at flying

theorem read (sound : TrafficSound env.resolution live state)
    (separate : WorkspaceKeysSeparate live) (id : Nat) :
    TrafficSound env.resolution live (state.read env.resolution id).2 := by
  unfold TrafficState.read
  cases flying : state.flights.get id with
  | none => exact sound
  | some flight =>
    cases flight with
    | resolved => exact sound
    | missed resolution =>
      have miss := resolveMiss_fresh separate resolution (sound.missed id resolution flying)
        sound.workspace
      rcases computed : resolveMiss env.resolution state.db.tables resolution.context
        resolution.request state.cached.caches.workspace with ⟨answer,cache⟩
      rw [computed] at miss
      obtain ⟨fresh,workspace⟩ := miss
      cases answer with
      | error failure =>
        simp only [computed]
        exact ⟨sound.permission,workspace,
          fun other asker there => sound.missed other asker (flight_of_delete there),
          fun other asker seen result there =>
            sound.resolved other asker seen result (flight_of_delete there)⟩
      | ok result =>
        simp only [computed]
        refine ⟨sound.permission,workspace,?_,?_⟩
        · intro other asker there
          by_cases same : other = id
          · rw [same] at there
            simp only [Cache.get_set_self,Option.some.injEq,reduceCtorEq] at there
          · rw [Cache.get_set_of_ne _ _ same] at there
            exact sound.missed other asker there
        · intro other asker seen answer there
          by_cases same : other = id
          · rw [same] at there
            simp only [Cache.get_set_self,Option.some.injEq,Flight.resolved.injEq] at there
            obtain ⟨rfl,rfl,rfl⟩ := there
            exact fresh.symm
          · rw [Cache.get_set_of_ne _ _ same] at there
            exact sound.resolved other asker seen answer there

theorem set (sound : TrafficSound env.resolution live state) (id : Nat)
    (spares : TrafficSpares env state (.set id)) :
    TrafficSound env.resolution live (state.set id).2 := by
  unfold TrafficState.set
  cases flying : state.flights.get id with
  | none => exact sound
  | some flight =>
    cases flight with
    | missed => exact sound
    | resolved resolution seen result =>
      refine ⟨fun flushed => ?_,sound.workspace,
        fun other asker there => sound.missed other asker (flight_of_delete there),
        fun other asker seen result there =>
          sound.resolved other asker seen result (flight_of_delete there)⟩
      obtain ⟨sources,workspaces⟩ := spares flushed resolution seen result flying
      have unchanged : resolution.fresh env.resolution state.db.tables =
          resolution.fresh env.resolution seen.tables := fresh_congr sources workspaces
      refine Coherent.set (q := resolution) (sound.permission flushed)
        (fun p filled distinct => filled.set_other distinct) (filled_set_self resolution) ?_
      rw [unchanged,sound.resolved id resolution seen result flying]
      rfl

/-- While its flush is to come a method owes the workspace cache only; a method that owes no
flush leaves both caches sound. -/
theorem write (sound : TrafficSound env.resolution live state) (id : Nat) (method : StoreMethod)
    (args : Arguments) (spares : Spares env state.db state.cached (method.operation args)) :
    TrafficSound env.resolution live (state.write env id method args) := by
  unfold TrafficState.write
  by_cases busy : id ∈ state.unflushed
  · simp only [busy,if_true]
    exact sound
  · simp only [busy,if_false]
    cases ran : (method.operation args).run env state.db with
    | ok _ written =>
      have lookups := lookups_kept spares ran
      refine ⟨fun flushed => ?_,Coherent.change sound.workspace ?_,sound.missed,sound.resolved⟩
      · by_cases listed : method ∈ permissionCudMethods
        · simp only [listed,if_true,reduceCtorEq] at flushed
        · simp only [listed,if_false] at flushed
          have answers := answers_kept spares ran (unlisted_of_not_mem args listed)
          exact ((sound.caches flushed).change answers lookups).permission
      · rintro ⟨username,workspace⟩ permission _ cached looked
        exact lookups username workspace permission cached looked
    | error failure reached =>
      obtain ⟨answers,lookups⟩ := raised_kept spares ran
      refine ⟨fun flushed => ?_,Coherent.change sound.workspace ?_,sound.missed,sound.resolved⟩
      · refine ((sound.caches flushed).change ?_ ?_).permission
        · intro resolution result held fresh
          exact (answers resolution result held).trans fresh
        · intro username workspace permission _ looked
          exact (lookups username workspace).trans looked
      · rintro ⟨username,workspace⟩ permission _ _ looked
        exact (lookups username workspace).trans looked

theorem flush (sound : TrafficSound env.resolution live state) (id : Nat) :
    TrafficSound env.resolution live (state.flush id) := by
  unfold TrafficState.flush
  by_cases owed : id ∈ state.unflushed
  · simp only [owed,if_true]
    exact ⟨fun _ => coherent_empty,sound.workspace,sound.missed,sound.resolved⟩
  · simp only [owed,if_false]
    exact sound

theorem evict (sound : TrafficSound env.resolution live state) (key : String) :
    TrafficSound env.resolution live { state with cached := state.cached.evict key } :=
  ⟨fun flushed => ((sound.caches flushed).evict key).permission,sound.workspace,sound.missed,
    sound.resolved⟩

theorem evictWorkspace (sound : TrafficSound env.resolution live state) (key : String) :
    TrafficSound env.resolution live { state with cached := state.cached.evictWorkspace key } :=
  ⟨sound.permission,Coherent.delete sound.workspace key (fun _ wasLive _ => wasLive),sound.missed,
    sound.resolved⟩

end TrafficSound

/-- The step lemma: an event whose condition holds keeps the invariant. -/
theorem trafficStep_sound {env : StoreEnv} {events : List TrafficEvent} {state : TrafficState}
    {event : TrafficEvent} (separate : WorkspaceKeysSeparate (TrafficLookups events))
    (sound : TrafficSound env.resolution (TrafficLookups events) state) (listed : event ∈ events)
    (spares : TrafficSpares env state event) :
    TrafficSound env.resolution (TrafficLookups events) (trafficStep env state event).2 := by
  cases event with
  | lookUp id resolution =>
    exact sound.lookUp id (fun workspace named => ⟨id,resolution,listed,rfl,named⟩)
  | read id => exact sound.read separate id
  | set id => exact sound.set id spares
  | write id method args => exact sound.write id method args spares
  | flush id => exact sound.flush id
  | evict key => exact sound.evict key
  | evictWorkspace key => exact sound.evictWorkspace key

/-- In a run whose events all meet their condition, whatever their order, the permission cache is
fresh in every quiet state. -/
theorem traffic_fresh (env : StoreEnv) (db : Database) (events : List TrafficEvent)
    (separate : WorkspaceKeysSeparate (TrafficLookups events))
    (spares : ∀ moment ∈ Run.moments (trafficStep env) (.start db) events,
      TrafficSpares env moment.before moment.event) : TrafficFresh env db events := by
  rintro past future split ⟨_,flushed⟩
  have sound : TrafficSound env.resolution (TrafficLookups events)
      (Run.final (trafficStep env) (.start db) past) := by
    have keeps : ∀ state event, TrafficSound env.resolution (TrafficLookups events) state →
        event ∈ events ∧ TrafficSpares env state event →
          TrafficSound env.resolution (TrafficLookups events) (trafficStep env state event).2 :=
      fun state event held allowed => trafficStep_sound separate held allowed.1 allowed.2
    refine (Run.invariant_of_moments keeps (.start db) ?_).2
    intro moment member
    have early : moment ∈ Run.moments (trafficStep env) (.start db) events := by
      rw [split,Run.moments_append]
      exact List.mem_append_left _ member
    exact ⟨Run.event_of_moment _ early,spares moment early⟩
  exact sound.entriesFresh flushed

section Straddle

/-- A resolution reads before a revocation and sets its entry after the flush. -/
def straddlingRun : List TrafficEvent :=
  [.lookUp 0 (aliceOn "1"),.read 0,
    .write 1 .deleteExperimentPermission { experimentId := "1", username := "alice" },.flush 1,
    .set 0]

theorem traffic_stale : ¬ ∀ env db events, TrafficFresh env db events := by
  intro fresh
  have quiet : (Run.final (trafficStep strictEnv) (.start experimentDatabase)
      straddlingRun).Quiet := by
    refine ⟨fun id => ?_,by decide⟩
    have landed : (Run.final (trafficStep strictEnv) (.start experimentDatabase)
        straddlingRun).flights.entries.length = 0 := by decide
    unfold Cache.get
    rw [List.length_eq_zero_iff.mp landed]
    rfl
  have held : (Run.final (trafficStep strictEnv) (.start experimentDatabase)
      straddlingRun).cached.caches.permission.get "experiment:1:alice" =
        some ⟨.manage,.source .user⟩ := by decide
  obtain ⟨resolution,filled,_,answer⟩ := fresh strictEnv experimentDatabase straddlingRun
    straddlingRun [] (List.append_nil _).symm quiet _ _ held
  have filler : (Run.final (trafficStep strictEnv) (.start experimentDatabase)
      straddlingRun).cached.origin.get "experiment:1:alice" = some (aliceOn "1") := by decide
  rw [filler] at filled
  cases filled
  revert answer
  decide

/-- The same steps with the flush last: it drops what was set. -/
theorem traffic_fresh_flushed : TrafficFresh strictEnv experimentDatabase
    [.lookUp 0 (aliceOn "1"),.read 0,
      .write 1 .deleteExperimentPermission { experimentId := "1", username := "alice" },.set 0,
      .flush 1] := by
  apply traffic_fresh
  · rintro p q ⟨id,resolution,listed,_,named⟩
    have asked : resolution = aliceOn "1" := by simpa using And.right (by simpa using listed)
    rw [asked] at named
    cases named
  · intro moment member
    simp only [Run.moments_cons,Run.moments_nil,List.mem_cons,List.not_mem_nil,or_false] at member
    rcases member with rfl | rfl | rfl | rfl | rfl
    · trivial
    · trivial
    · trivial
    · rintro flushed
      exact absurd flushed (by decide)
    · trivial

end Straddle
end MlflowOidcAuth
