import MlflowOidcAuth.Library.ExpiringCache
import MlflowOidcAuth.Resolution.CacheKeys
import MlflowOidcAuth.Resolution.Invalidation

/-! Several processes that serve one database, each with the two caches of the local backend. A
process flushes its own caches only, so of the writes of another it learns by expiry alone. -/
namespace MlflowOidcAuth
open KeyedCache ExpiringCache Effects

structure CacheTtls where
  permission : Nat
  workspace : Nat

structure LeasedCaches where
  permission : LeaseCache String PermissionResult
  workspace : LeaseCache String Permission

section Leased
variable (env : Env) (t : Tables) (now ttl : Nat)

def leasedWorkspacePermission (username workspace : String)
    (cache : LeaseCache String Permission) : Option Permission × LeaseCache String Permission :=
  if env.config.mlflowEnableWorkspaces then
    match cache.lookup now (workspaceCacheKey username workspace) with
    | some cached => (some cached,cache)
    | none =>
      match lookupWorkspacePermission env t username workspace with
      | some permission =>
        (some permission,cache.store now ttl (workspaceCacheKey username workspace) permission)
      | none => (none,cache)
  else (none,cache)

/-- The part of `resolve_permission` between a miss and the store of the result. -/
def leasedMiss (resolution : Resolution) (cache : LeaseCache String Permission) :
    Except Failure PermissionResult × LeaseCache String Permission :=
  match resourcePermission env t resolution.request with
  | .error failure => (.error failure,cache)
  | .ok result =>
    match fallbackWorkspace env resolution.context result with
    | none => (.ok result,cache)
    | some workspace =>
      let (found,cache) :=
        leasedWorkspacePermission env t now ttl resolution.request.username workspace cache
      (.ok (workspaceResult found),cache)

variable {env t now ttl}

theorem leasedWorkspacePermission_answer (username workspace : String)
    (cache : LeaseCache String Permission) :
    (leasedWorkspacePermission env t now ttl username workspace cache).1 =
      (getWorkspacePermissionCached env t username workspace (cache.current now)).1 := by
  unfold leasedWorkspacePermission getWorkspacePermissionCached
  rw [LeaseCache.get_current]
  split
  · cases cache.lookup now (workspaceCacheKey username workspace) with
    | some cached => rfl
    | none => cases lookupWorkspacePermission env t username workspace <;> rfl
  · rfl

/-- With leases the answer is the one that the entries of this moment give without. -/
theorem leasedMiss_answer (resolution : Resolution) (cache : LeaseCache String Permission) :
    (leasedMiss env t now ttl resolution cache).1 =
      (resolveMiss env t resolution.context resolution.request (cache.current now)).1 := by
  unfold leasedMiss resolveMiss
  cases resourcePermission env t resolution.request with
  | error failure => rfl
  | ok result =>
    cases falls : fallbackWorkspace env resolution.context result with
    | none => simp only [falls]
    | some workspace => simp only [falls,leasedWorkspacePermission_answer]

end Leased

inductive WorkerFlight
  | missed (resolution : Resolution)
  | resolved (resolution : Resolution) (result : PermissionResult)

structure Worker where
  caches : LeasedCaches
  flights : Nat → Option WorkerFlight

structure FleetState where
  now : Nat
  db : Database
  workers : Nat → Worker

def FleetState.start (now : Nat) (db : Database) : FleetState :=
  ⟨now,db,fun _ => ⟨⟨Cache.empty,Cache.empty⟩,fun _ => none⟩⟩

/-- A store method writes and then the process that ran it flushes; `commit` is a write that comes
from elsewhere. -/
inductive FleetEvent
  | lookUp (worker id : Nat) (resolution : Resolution)
  | read (worker id : Nat)
  | set (worker id : Nat)
  | write (method : StoreMethod) (args : Arguments)
  | commit (db : Database)
  | flush (worker : Nat)
  | evict (worker : Nat) (key : String)
  | evictWorkspace (worker : Nat) (key : String)
  | tick (elapsed : Nat)

abbrev FleetAnswer := Option (Resolution × Except Failure PermissionResult)

namespace Worker
variable (env : Env) (ttls : CacheTtls) (now : Nat) (t : Tables) (worker : Worker)

def fly (id : Nat) (flight : Option WorkerFlight) : Worker :=
  { worker with flights := Function.update worker.flights id flight }

def lookUp (id : Nat) (resolution : Resolution) : FleetAnswer × Worker :=
  match worker.flights id,worker.caches.permission.lookup now resolution.cacheKey with
  | none,some result => (some (resolution,.ok result),worker)
  | none,none => (none,worker.fly id (some (.missed resolution)))
  | some _,_ => (none,worker)

def read (id : Nat) : FleetAnswer × Worker :=
  match worker.flights id with
  | some (.missed resolution) =>
    let (answer,cache) := leasedMiss env t now ttls.workspace resolution worker.caches.workspace
    let reached : Worker := { worker with caches := ⟨worker.caches.permission,cache⟩ }
    match answer with
    | .error failure => (some (resolution,.error failure),reached.fly id none)
    | .ok result => (none,reached.fly id (some (.resolved resolution result)))
  | _ => (none,worker)

def set (id : Nat) : FleetAnswer × Worker :=
  match worker.flights id with
  | some (.resolved resolution result) =>
    let permission :=
      worker.caches.permission.store now ttls.permission resolution.cacheKey result
    let reached : Worker := { worker with caches := ⟨permission,worker.caches.workspace⟩ }
    (some (resolution,.ok result),reached.fly id none)
  | _ => (none,worker)

def flush : Worker := { worker with caches := ⟨Cache.empty,worker.caches.workspace⟩ }

def evict (key : String) : Worker :=
  { worker with caches := ⟨worker.caches.permission.delete key,worker.caches.workspace⟩ }

def evictWorkspace (key : String) : Worker :=
  { worker with caches := ⟨worker.caches.permission,worker.caches.workspace.delete key⟩ }

end Worker

/-- The event of one process that no other takes part in. -/
def workerStep (env : Env) (ttls : CacheTtls) (now : Nat) (t : Tables) (worker : Worker) :
    FleetEvent → FleetAnswer × Worker
  | .lookUp _ id resolution => worker.lookUp now id resolution
  | .read _ id => worker.read env ttls now t id
  | .set _ id => worker.set ttls now id
  | .flush _ => (none,worker.flush)
  | .evict _ key => (none,worker.evict key)
  | .evictWorkspace _ key => (none,worker.evictWorkspace key)
  | .write .. | .commit _ | .tick _ => (none,worker)

def FleetEvent.worker : FleetEvent → Option Nat
  | .lookUp worker _ _ | .read worker _ | .set worker _ | .flush worker | .evict worker _
  | .evictWorkspace worker _ => some worker
  | .write .. | .commit _ | .tick _ => none

def writeMethod (env : StoreEnv) (method : StoreMethod) (args : Arguments) (db : Database) :
    Database :=
  match (method.operation args).run env db with
  | .ok _ written => written
  | .error _ reached => reached

def fleetStep (env : StoreEnv) (ttls : CacheTtls) (state : FleetState) (event : FleetEvent) :
    FleetAnswer × FleetState :=
  match event.worker with
  | some id =>
    let (answer,worker) :=
      workerStep env.resolution ttls state.now state.db.tables (state.workers id) event
    (answer,{ state with workers := Function.update state.workers id worker })
  | none =>
    match event with
    | .write method args => (none,{ state with db := writeMethod env method args state.db })
    | .commit db => (none,{ state with db := db })
    | .tick elapsed => (none,{ state with now := state.now + elapsed })
    | _ => (none,state)

def FleetEvent.writes : FleetEvent → Bool
  | .write .. | .commit _ => true
  | _ => false

section Settled
variable {env : Env} {ttls : CacheTtls} {t : Tables} {asked : Resolution → Prop} {now : Nat}
  {Looked : Nat → String → Permission → Prop} {Kept : Nat → String → PermissionResult → Prop}
  {Resolved : Resolution → PermissionResult → Prop} {worker : Worker} {id : Nat}
  {resolution : Resolution} {cache : LeaseCache String Permission}

/-- The workspace lookups behind the resolutions. -/
def LooksUp (asked : Resolution → Prop) (question : String × String) : Prop :=
  ∃ resolution, asked resolution ∧ resolution.request.username = question.1 ∧
    resolution.workspace = some question.2

def FlightGood (asked : Resolution → Prop) (Resolved : Resolution → PermissionResult → Prop) :
    WorkerFlight → Prop
  | .missed resolution => asked resolution
  | .resolved resolution result => asked resolution ∧ Resolved resolution result

/-- What the entries of a process and its resolutions under way hold. -/
structure WorkerHolds (ttls : CacheTtls) (asked : Resolution → Prop)
    (Looked : Nat → String → Permission → Prop) (Kept : Nat → String → PermissionResult → Prop)
    (Resolved : Resolution → PermissionResult → Prop) (now : Nat) (worker : Worker) : Prop where
  workspace : LeaseCache.Dated ttls.workspace Looked now worker.caches.workspace
  permission : LeaseCache.Dated ttls.permission Kept now worker.caches.permission
  flights : ∀ id flight, worker.flights id = some flight → FlightGood asked Resolved flight

/-- A phase of a run: what a lookup, a read and a store of this moment establish. -/
structure Phase (env : Env) (ttls : CacheTtls) (t : Tables) (asked : Resolution → Prop)
    (Looked : Nat → String → Permission → Prop) (Kept : Nat → String → PermissionResult → Prop)
    (Resolved : Resolution → PermissionResult → Prop) (now : Nat) : Prop where
  looks : ∀ question permission, LooksUp asked question →
    lookupWorkspacePermission env t question.1 question.2 = some permission →
      Looked now (workspaceCacheKey question.1 question.2) permission
  reads : ∀ resolution cache result, asked resolution →
    LeaseCache.Dated ttls.workspace Looked now cache →
      (leasedMiss env t now ttls.workspace resolution cache).1 = .ok result →
        Resolved resolution result
  sets : ∀ resolution result, asked resolution → Resolved resolution result →
    Kept now resolution.cacheKey result

theorem WorkerHolds.fly (holds : WorkerHolds ttls asked Looked Kept Resolved now worker)
    {flight : Option WorkerFlight}
    (good : ∀ kept, flight = some kept → FlightGood asked Resolved kept) :
    WorkerHolds ttls asked Looked Kept Resolved now (worker.fly id flight) := by
  refine ⟨holds.workspace,holds.permission,fun other kept found => ?_⟩
  by_cases same : other = id
  · subst same
    simp only [Worker.fly,Function.update_self] at found
    exact good kept found
  · simp only [Worker.fly,Function.update_of_ne same] at found
    exact holds.flights other kept found

theorem Phase.miss (phase : Phase env ttls t asked Looked Kept Resolved now)
    (dated : LeaseCache.Dated ttls.workspace Looked now cache) (asks : asked resolution) :
    LeaseCache.Dated ttls.workspace Looked now
      (leasedMiss env t now ttls.workspace resolution cache).2 := by
  unfold leasedMiss
  cases resourcePermission env t resolution.request with
  | error failure => exact dated
  | ok result =>
    cases falls : fallbackWorkspace env resolution.context result with
    | none =>
      simp only [falls]
      exact dated
    | some workspace =>
      obtain ⟨enabled,named⟩ := fallbackWorkspace_eq_some falls
      simp only [falls,leasedWorkspacePermission,enabled,if_true]
      cases cache.lookup now (workspaceCacheKey resolution.request.username workspace) with
      | some cached => exact dated
      | none =>
        cases found : lookupWorkspacePermission env t resolution.request.username workspace with
        | none => exact dated
        | some permission =>
          have question : LooksUp asked (resolution.request.username,workspace) :=
            ⟨resolution,asks,rfl,named⟩
          exact dated.store (phase.looks _ permission question found)

theorem workerStep_holds (phase : Phase env ttls t asked Looked Kept Resolved now)
    {event : FleetEvent}
    (asks : ∀ worker id resolution, event = .lookUp worker id resolution → asked resolution)
    (holds : WorkerHolds ttls asked Looked Kept Resolved now worker) :
    WorkerHolds ttls asked Looked Kept Resolved now (workerStep env ttls now t worker event).2 := by
  cases event with
  | lookUp asking id resolution =>
    simp only [workerStep,Worker.lookUp]
    cases worker.flights id with
    | some flight => exact holds
    | none =>
      cases worker.caches.permission.lookup now resolution.cacheKey with
      | some result => exact holds
      | none =>
        apply holds.fly
        intro kept isKept
        cases isKept
        exact asks asking id resolution rfl
  | read asking id =>
    simp only [workerStep,Worker.read]
    cases found : worker.flights id with
    | none => exact holds
    | some flight =>
      cases flight with
      | resolved resolution result => exact holds
      | missed resolution =>
        have good : asked resolution := holds.flights id _ found
        let reached : Worker := { worker with caches := ⟨worker.caches.permission,
          (leasedMiss env t now ttls.workspace resolution worker.caches.workspace).2⟩ }
        have kept : WorkerHolds ttls asked Looked Kept Resolved now reached :=
          ⟨phase.miss holds.workspace good,holds.permission,holds.flights⟩
        simp only
        cases answered : (leasedMiss env t now ttls.workspace resolution
            worker.caches.workspace).1 with
        | error failure => exact kept.fly fun _ isKept => by cases isKept
        | ok result =>
          refine kept.fly fun _ isKept => ?_
          cases isKept
          exact ⟨good,phase.reads resolution _ result good holds.workspace answered⟩
  | set asking id =>
    simp only [workerStep,Worker.set]
    cases found : worker.flights id with
    | none => exact holds
    | some flight =>
      cases flight with
      | missed resolution => exact holds
      | resolved resolution result =>
        obtain ⟨good,resolved⟩ := holds.flights id _ found
        let reached : Worker := { worker with caches :=
          ⟨worker.caches.permission.store now ttls.permission resolution.cacheKey result,
            worker.caches.workspace⟩ }
        have stored : WorkerHolds ttls asked Looked Kept Resolved now reached :=
          ⟨holds.workspace,holds.permission.store (phase.sets resolution result good resolved),
            holds.flights⟩
        exact stored.fly fun _ isKept => by cases isKept
  | flush asking => exact ⟨holds.workspace,LeaseCache.dated_empty,holds.flights⟩
  | evict asking key => exact ⟨holds.workspace,holds.permission.delete key,holds.flights⟩
  | evictWorkspace asking key => exact ⟨holds.workspace.delete key,holds.permission,holds.flights⟩
  | write | commit | tick => exact holds

end Settled

section Fleet
variable {env : StoreEnv} {ttls : CacheTtls} {asked : Resolution → Prop}
  {Looked : Nat → String → Permission → Prop} {Kept : Nat → String → PermissionResult → Prop}
  {Resolved : Resolution → PermissionResult → Prop} {state : FleetState}

def FleetHolds (ttls : CacheTtls) (asked : Resolution → Prop)
    (Looked : Nat → String → Permission → Prop) (Kept : Nat → String → PermissionResult → Prop)
    (Resolved : Resolution → PermissionResult → Prop) (state : FleetState) : Prop :=
  ∀ id, WorkerHolds ttls asked Looked Kept Resolved state.now (state.workers id)

theorem fleetStep_holds (event : FleetEvent)
    (phase : Phase env.resolution ttls state.db.tables asked Looked Kept Resolved state.now)
    (asks : ∀ worker id resolution, event = .lookUp worker id resolution → asked resolution)
    (holds : FleetHolds ttls asked Looked Kept Resolved state) :
    FleetHolds ttls asked Looked Kept Resolved (fleetStep env ttls state event).2 := by
  unfold fleetStep
  cases named : event.worker with
  | some id =>
    intro other
    by_cases same : other = id
    · subst same
      simp only [Function.update_self]
      exact workerStep_holds phase asks (holds other)
    · simp only [Function.update_of_ne same]
      exact holds other
  | none =>
    cases event with
    | write | commit => exact holds
    | tick elapsed =>
      intro other
      exact ⟨(holds other).workspace.later (Nat.le_add_right _ _),
        (holds other).permission.later (Nat.le_add_right _ _),(holds other).flights⟩
    | lookUp | read | set | flush | evict | evictWorkspace => cases named

theorem answer_of_worker {event : FleetEvent} {answer : Resolution × Except Failure PermissionResult}
    (answered : (fleetStep env ttls state event).1 = some answer) : ∃ id,
      (workerStep env.resolution ttls state.now state.db.tables (state.workers id) event).1 =
        some answer := by
  unfold fleetStep at answered
  cases named : event.worker with
  | some id =>
    rw [named] at answered
    exact ⟨id,answered⟩
  | none =>
    cases event with
    | write | commit | tick => cases answered
    | lookUp | read | set | flush | evict | evictWorkspace => cases named

theorem fleetStep_db (event : FleetEvent) (quiet : event.writes = false) :
    (fleetStep env ttls state event).2.db = state.db := by
  cases event with
  | write | commit => cases quiet
  | tick | lookUp | read | set | flush | evict | evictWorkspace => rfl

theorem fleetStep_now (event : FleetEvent) : state.now ≤ (fleetStep env ttls state event).2.now := by
  cases event with
  | tick elapsed => exact Nat.le_add_right _ _
  | write | commit | lookUp | read | set | flush | evict | evictWorkspace => exact Nat.le_refl _

theorem fleetRun_holds {t : Tables} {bound : Nat} (events : List FleetEvent)
    (quiet : ∀ event ∈ events, event.writes = false)
    (asks : ∀ worker id resolution, .lookUp worker id resolution ∈ events → asked resolution)
    (phase : ∀ now, bound ≤ now →
      Phase env.resolution ttls t asked Looked Kept Resolved now)
    (holds : FleetHolds ttls asked Looked Kept Resolved state) (tables : state.db.tables = t)
    (reached : bound ≤ state.now) :
    (∀ moment ∈ Run.moments (fleetStep env ttls) state events,
      FleetHolds ttls asked Looked Kept Resolved moment.before ∧ moment.before.db.tables = t ∧
        bound ≤ moment.before.now) ∧
      FleetHolds ttls asked Looked Kept Resolved (Run.final (fleetStep env ttls) state events) ∧
        (Run.final (fleetStep env ttls) state events).db.tables = t := by
  let Inv := fun reached : FleetState => FleetHolds ttls asked Looked Kept Resolved reached ∧
    reached.db.tables = t ∧ bound ≤ reached.now
  let Allowed := fun (_ : FleetState) (event : FleetEvent) => event ∈ events
  have keeps : ∀ reached event, Inv reached → Allowed reached event →
      Inv (fleetStep env ttls reached event).2 := by
    intro reached event held member
    obtain ⟨holds,tables,late⟩ := held
    refine ⟨fleetStep_holds event (tables ▸ phase _ late) ?_ holds,?_,
      Nat.le_trans late (fleetStep_now event)⟩
    · intro worker id resolution isLookUp
      exact asks worker id resolution (isLookUp ▸ member)
    · rw [fleetStep_db event (quiet event member),tables]
  have initial : Inv state := ⟨holds,tables,reached⟩
  have run := Run.invariant_of_moments keeps initial
    (fun moment member => Run.event_of_moment (fleetStep env ttls) member)
  exact ⟨run.1,run.2.1,run.2.2.1⟩

/-- Whatever happens, an entry is one lease old at most. -/
theorem fleetRun_dated (env : StoreEnv) (ttls : CacheTtls) (now : Nat) (db : Database)
    (events : List FleetEvent)
    (asks : ∀ worker id resolution, .lookUp worker id resolution ∈ events → asked resolution) :
    FleetHolds ttls asked (fun _ _ _ => True) (fun _ _ _ => True) (fun _ _ => True)
      (Run.final (fleetStep env ttls) (.start now db) events) := by
  have initial : FleetHolds ttls asked (fun _ _ _ => True) (fun _ _ _ => True)
      (fun _ _ => True) (.start now db) :=
    fun _ => ⟨LeaseCache.dated_empty,LeaseCache.dated_empty,fun _ _ found => by cases found⟩
  generalize FleetState.start now db = state at initial ⊢
  induction events generalizing state with
  | nil => exact initial
  | cons event events ih =>
    apply ih
    · exact fun worker id resolution member =>
        asks worker id resolution (List.mem_cons_of_mem _ member)
    · exact fleetStep_holds event
        ⟨fun _ _ _ _ => trivial,fun _ _ _ _ _ _ => trivial,fun _ _ _ _ => trivial⟩
        (fun worker id resolution isLookUp =>
          asks worker id resolution (isLookUp ▸ List.mem_cons_self)) initial

end Fleet

section Quiet
variable {env : Env} {ttls : CacheTtls} {t : Tables} {asked : Resolution → Prop}
  {since refreshed now : Nat} {resolution : Resolution} {cache : LeaseCache String Permission}

/-- A workspace entry from after the last write. -/
def WorkspaceSince (env : Env) (t : Tables) (asked : Resolution → Prop) (since moment : Nat)
    (key : String) (permission : Permission) : Prop :=
  moment ≤ since ∨ ∃ question, LooksUp asked question ∧
    workspaceCacheKey question.1 question.2 = key ∧
      lookupWorkspacePermission env t question.1 question.2 = some permission

def PermissionSince (env : Env) (t : Tables) (asked : Resolution → Prop) (refreshed moment : Nat)
    (key : String) (result : PermissionResult) : Prop :=
  moment ≤ refreshed ∨ ∃ resolution, asked resolution ∧ resolution.cacheKey = key ∧
    resolution.fresh env t = .ok result

/-- Once the entries of before have lapsed, the workspace cache answers as the database does. -/
theorem leasedMiss_fresh (separate : WorkspaceKeysSeparate (LooksUp asked))
    (dated : LeaseCache.Dated ttls.workspace (WorkspaceSince env t asked since) now cache)
    (lapsed : since + ttls.workspace ≤ now) (asks : asked resolution) :
    (leasedMiss env t now ttls.workspace resolution cache).1 = resolution.fresh env t := by
  rw [leasedMiss_answer]
  apply resolveMiss_answer
  intro workspace enabled named
  have looks : LooksUp asked (resolution.request.username,workspace) := ⟨resolution,asks,rfl,named⟩
  simp only [getWorkspacePermissionCached,enabled,if_true,LeaseCache.get_current]
  cases served : cache.lookup now (workspaceCacheKey resolution.request.username workspace) with
  | none =>
    cases lookupWorkspacePermission env t resolution.request.username workspace <;> rfl
  | some permission =>
    obtain ⟨moment,past,unexpired,good⟩ := LeaseCache.Dated.served dated served
    rcases good with early | ⟨question,asks',same,found⟩
    · omega
    · rw [separate question _ asks' looks same] at found
      exact found.symm

theorem phase_settling (now : Nat) : Phase env ttls t asked (WorkspaceSince env t asked since)
    (fun _ _ _ => True) (fun _ _ => True) now where
  looks := fun question _ looks found => .inr ⟨question,looks,rfl,found⟩
  reads := fun _ _ _ _ _ _ => trivial
  sets := fun _ _ _ _ => trivial

theorem phase_settled (separate : WorkspaceKeysSeparate (LooksUp asked))
    (lapsed : since + ttls.workspace ≤ now) :
    Phase env ttls t asked (WorkspaceSince env t asked since) (PermissionSince env t asked refreshed)
      (fun resolution result => resolution.fresh env t = .ok result) now where
  looks := fun question _ looks found => .inr ⟨question,looks,rfl,found⟩
  reads := by
    intro resolution cache result asks dated answered
    rw [← leasedMiss_fresh separate dated lapsed asks,answered]
  sets := fun resolution _ asks fresh => .inr ⟨resolution,asks,rfl,fresh⟩

/-- And once those of the permission cache have lapsed too, so does `resolve_permission`. -/
theorem workerStep_fresh {worker : Worker} {event : FleetEvent} {answer : Except Failure PermissionResult}
    (separate : WorkspaceKeysSeparate (LooksUp asked))
    (agree : ∀ p q, asked p → asked q → p.cacheKey = q.cacheKey → p.fresh env t = q.fresh env t)
    (asks : ∀ worker id resolution, event = .lookUp worker id resolution → asked resolution)
    (lapsed : since + ttls.workspace ≤ now) (renewed : refreshed + ttls.permission ≤ now)
    (holds : WorkerHolds ttls asked (WorkspaceSince env t asked since)
      (PermissionSince env t asked refreshed)
      (fun resolution result => resolution.fresh env t = .ok result) now worker)
    (answered : (workerStep env ttls now t worker event).1 = some (resolution,answer)) :
    answer = resolution.fresh env t := by
  cases event with
  | lookUp asking id resolution' =>
    simp only [workerStep,Worker.lookUp] at answered
    cases flying : worker.flights id with
    | some flight => simp [flying] at answered
    | none =>
      cases served : worker.caches.permission.lookup now resolution'.cacheKey with
      | none => simp [flying,served] at answered
      | some result =>
        simp only [flying,served,Option.some.injEq,Prod.mk.injEq] at answered
        obtain ⟨rfl,rfl⟩ := answered
        obtain ⟨moment,past,unexpired,good⟩ := LeaseCache.Dated.served holds.permission served
        rcases good with early | ⟨filler,asks',same,fresh⟩
        · omega
        · rw [← agree filler _ asks' (asks asking id _ rfl) same,fresh]
  | read asking id =>
    simp only [workerStep,Worker.read] at answered
    cases flying : worker.flights id with
    | none => simp [flying] at answered
    | some flight =>
      cases flight with
      | resolved resolution' result => simp [flying] at answered
      | missed resolution' =>
        have fresh := leasedMiss_fresh separate holds.workspace lapsed (holds.flights id _ flying)
        cases missed : (leasedMiss env t now ttls.workspace resolution'
            worker.caches.workspace).1 with
        | ok result => simp [flying,missed] at answered
        | error failure =>
          simp only [flying,missed,Option.some.injEq,Prod.mk.injEq] at answered
          obtain ⟨rfl,rfl⟩ := answered
          rw [← missed,fresh]
  | set asking id =>
    simp only [workerStep,Worker.set] at answered
    cases flying : worker.flights id with
    | none => simp [flying] at answered
    | some flight =>
      cases flight with
      | missed resolution' => simp [flying] at answered
      | resolved resolution' result =>
        simp only [flying,Option.some.injEq,Prod.mk.injEq] at answered
        obtain ⟨rfl,rfl⟩ := answered
        exact (holds.flights id _ flying).2.symm
  | flush | evict | evictWorkspace | write | commit | tick => cases answered

end Quiet

section Convergence
def FleetState.Idle (state : FleetState) : Prop :=
  ∀ worker id, (state.workers worker).flights id = none

def Asked (events : List FleetEvent) (resolution : Resolution) : Prop :=
  ∃ worker id, .lookUp worker id resolution ∈ events

theorem Asked.mono {events events' : List FleetEvent} {resolution : Resolution}
    (asks : Asked events resolution) (part : events ⊆ events') : Asked events' resolution := by
  obtain ⟨worker,id,member⟩ := asks
  exact ⟨worker,id,part member⟩

/-- Without a write for one lifetime of the workspace cache, and then, from a moment at which no
resolution was under way, for one of the permission cache, every process answers as the database
does, whichever process wrote and whatever it flushed. -/
theorem workers_converge (env : StoreEnv) (ttls : CacheTtls) (now : Nat) (db : Database)
    (before settling refreshing after : List FleetEvent)
    (quiet : ∀ event ∈ settling ++ refreshing ++ after, event.writes = false)
    (idle : (Run.final (fleetStep env ttls) (.start now db) (before ++ settling)).Idle)
    (lapsed : (Run.final (fleetStep env ttls) (.start now db) before).now + ttls.workspace ≤
      (Run.final (fleetStep env ttls) (.start now db) (before ++ settling)).now)
    (renewed : (Run.final (fleetStep env ttls) (.start now db) (before ++ settling)).now +
        ttls.permission ≤
      (Run.final (fleetStep env ttls) (.start now db) (before ++ settling ++ refreshing)).now)
    (plain : ∀ resolution, Asked (before ++ settling ++ refreshing ++ after) resolution →
      ':' ∉ resolution.request.username.toList)
    (agree : ∀ p q, Asked (before ++ settling ++ refreshing ++ after) p →
      Asked (before ++ settling ++ refreshing ++ after) q → p.cacheKey = q.cacheKey →
        p.fresh env.resolution (Run.final (fleetStep env ttls) (.start now db) before).db.tables =
          q.fresh env.resolution (Run.final (fleetStep env ttls) (.start now db) before).db.tables) :
    ∀ moment ∈ Run.moments (fleetStep env ttls)
        (Run.final (fleetStep env ttls) (.start now db) (before ++ settling ++ refreshing)) after,
      ∀ resolution answer, moment.answer = some (resolution,answer) →
        answer = resolution.fresh env.resolution
          (Run.final (fleetStep env ttls) (.start now db) before).db.tables := by
  let events := before ++ settling ++ refreshing ++ after
  let written := Run.final (fleetStep env ttls) (.start now db) before
  let settled := Run.final (fleetStep env ttls) written settling
  let t := written.db.tables
  let Looked := WorkspaceSince env.resolution t (Asked events) written.now
  have separate : WorkspaceKeysSeparate (LooksUp (Asked events)) := by
    have colonless : ∀ question, LooksUp (Asked events) question → PlainLookup question := by
      intro question looks
      obtain ⟨resolution,asks,named,_⟩ := looks
      rw [PlainLookup,← named]
      exact plain resolution asks
    exact fun p q looks looks' same =>
      plainLookups_separate p q (colonless p looks) (colonless q looks') same
  have atFirst : FleetHolds ttls (Asked events) Looked (fun _ _ _ => True) (fun _ _ => True)
      written := by
    have dated := @fleetRun_dated (Asked events) env ttls now db before
      (fun worker id resolution member => ⟨worker,id,by simp [events,member]⟩)
    intro id
    refine ⟨?_,(dated id).permission,(dated id).flights⟩
    intro key held found
    obtain ⟨moment,past,expires,_⟩ := (dated id).workspace key held found
    exact ⟨moment,past,expires,.inl past⟩
  have settles := @fleetRun_holds env ttls (Asked events) Looked _ _ written t 0 settling
    (fun event member => quiet event (by simp [member]))
    (fun worker id resolution member => ⟨worker,id,by simp [events,member]⟩)
    (fun now _ => phase_settling now) atFirst rfl (Nat.zero_le _)
  simp only [Run.final_append] at idle lapsed renewed ⊢
  let Kept := PermissionSince env.resolution t (Asked events) settled.now
  let Fresh := fun (resolution : Resolution) result =>
    resolution.fresh env.resolution t = .ok result
  have begun : FleetHolds ttls (Asked events) Looked Kept Fresh settled := by
    intro id
    refine ⟨(settles.2.1 id).workspace,?_,?_⟩
    · intro key held found
      obtain ⟨moment,past,expires,_⟩ := (settles.2.1 id).permission key held found
      exact ⟨moment,past,expires,.inl past⟩
    · intro flight kept found
      rw [idle id flight] at found
      cases found
  have phase : ∀ now, written.now + ttls.workspace ≤ now →
      Phase env.resolution ttls t (Asked events) Looked Kept Fresh now :=
    fun now late => phase_settled separate late
  have refreshes := fleetRun_holds refreshing
    (fun event member => quiet event (by simp [member]))
    (fun worker id resolution member => ⟨worker,id,by simp [events,member]⟩)
    phase begun settles.2.2 lapsed
  have serves := fleetRun_holds after
    (fun event member => quiet event (by simp [member]))
    (fun worker id resolution member => ⟨worker,id,by simp [events,member]⟩)
    (fun now (late : settled.now + ttls.permission ≤ now) =>
      phase now (Nat.le_trans lapsed (Nat.le_trans (Nat.le_add_right _ _) late)))
    refreshes.2.1 refreshes.2.2 renewed
  intro moment member resolution answer answered
  obtain ⟨holds,tables,late⟩ := serves.1 moment member
  have asks : ∀ worker id resolution, moment.event = .lookUp worker id resolution →
      Asked events resolution := by
    intro worker id resolution isLookUp
    have listed : moment.event ∈ after := Run.event_of_moment _ member
    exact ⟨worker,id,by simp [events,← isLookUp,listed]⟩
  rw [Run.answer_of_moment _ member] at answered
  obtain ⟨id,answered⟩ := answer_of_worker answered
  rw [tables] at answered
  have settledLong : written.now + ttls.workspace ≤ moment.before.now :=
    Nat.le_trans lapsed (Nat.le_trans (Nat.le_add_right _ _) late)
  exact workerStep_fresh separate agree asks settledLong late (holds id) answered

/-- Process 0 remembers what Alice may do; process 1 revokes it and flushes its own caches. -/
def revokedElsewhere : List FleetEvent :=
  [.lookUp 0 0 (aliceOn "1"),.read 0 0,.set 0 0,
    .write .deleteExperimentPermission { experimentId := "1", username := "alice" },.flush 1]

theorem workers_converge_alice : ∃ answer,
    (fleetStep strictEnv ⟨30,300⟩ (Run.final (fleetStep strictEnv ⟨30,300⟩)
      (Run.final (fleetStep strictEnv ⟨30,300⟩) (.start 0 experimentDatabase)
        (revokedElsewhere ++ [.tick 300] ++ [.tick 30]))
      [.lookUp 0 1 (aliceOn "1"),.read 0 1]) (.set 0 1)).1 = some (aliceOn "1",answer) ∧
    answer = (aliceOn "1").fresh strictEnv.resolution (Run.final (fleetStep strictEnv ⟨30,300⟩)
      (.start 0 experimentDatabase) revokedElsewhere).db.tables := by
  have onlyAlice : ∀ resolution, Asked (revokedElsewhere ++ [.tick 300] ++ [.tick 30] ++
      [.lookUp 0 1 (aliceOn "1"),.read 0 1,.set 0 1]) resolution → resolution = aliceOn "1" := by
    intro resolution asks
    obtain ⟨worker,id,member⟩ := asks
    simp only [revokedElsewhere,List.mem_append,List.mem_cons,List.not_mem_nil,or_false,
      FleetEvent.lookUp.injEq,reduceCtorEq] at member
    rcases member with ⟨_,_,same⟩ | ⟨_,_,same⟩
    · exact same
    · exact same
  have converges := workers_converge strictEnv ⟨30,300⟩ 0 experimentDatabase revokedElsewhere
    [.tick 300] [.tick 30] [.lookUp 0 1 (aliceOn "1"),.read 0 1,.set 0 1]
    (by decide) ?_ (by decide) (by decide) ?_ ?_
  · refine ⟨.ok ⟨.noPermissions,.fallback⟩,by decide,?_⟩
    exact converges _ (List.mem_cons_of_mem _ (List.mem_cons_of_mem _ List.mem_cons_self)) _ _
      (by decide)
  · intro worker id
    match worker,id with
    | 0,0 => rfl
    | 0,_ + 1 => rfl
    | 1,_ => rfl
    | _ + 2,_ => rfl
  · intro resolution asks
    rw [onlyAlice resolution asks]
    decide
  · intro p q asks asks' _
    rw [onlyAlice p asks,onlyAlice q asks']

end Convergence
end MlflowOidcAuth
