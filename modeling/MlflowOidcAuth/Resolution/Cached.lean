import MlflowOidcAuth.Resolution.Workspace

/-! The single entry point `resolve_permission`, with its two caches, against the
resolution computed from the database alone. While both caches are coherent and
their keys separate the questions asked, the two agree. -/
namespace MlflowOidcAuth
open KeyedCache

def makeCacheKey (resourceType : ResourceType) (resourceId username : String) : String :=
  resourceType.value ++ ":" ++ resourceId ++ ":" ++ username

def ResourceRequest.cacheKey (request : ResourceRequest) : String :=
  makeCacheKey request.resourceType request.resourceId request.username

structure Caches where
  permission : Cache String PermissionResult
  workspace : Cache String Permission

def Caches.empty : Caches := ⟨Cache.empty,Cache.empty⟩

section Resolve
variable (env : Env) (t : Tables) (context : RequestContext) (request : ResourceRequest)

/-- The permission at the level of the resource: its sources, then the default. -/
def resourcePermission : Except Failure PermissionResult := do
  let sources ← permissionRegistry env t request
  getPermissionFromStoreOrDefault env.config sources

/-- What the workspace fallback makes of the answer of the workspace lookup. -/
def workspaceResult : Option Permission → PermissionResult
  | some permission => ⟨permission,.workspace⟩
  | none => ⟨.noPermissions,.workspaceDeny⟩

/-- The workspace the fallback consults for a resource-level result, if it does. -/
def fallbackWorkspace (result : PermissionResult) : Option String :=
  if result.kind = .fallback ∧ env.config.mlflowEnableWorkspaces = true then
    truthy (getRequestWorkspace context)
  else none

/-- The part of `resolve_permission` after a cache miss. -/
def resolveMiss (workspaceCache : Cache String Permission) :
    Except Failure PermissionResult × Cache String Permission :=
  match resourcePermission env t request with
  | .error failure => (.error failure,workspaceCache)
  | .ok result =>
    match fallbackWorkspace env context result with
    | none => (.ok result,workspaceCache)
    | some workspace =>
      let (found,cache) :=
        getWorkspacePermissionCached env t request.username workspace workspaceCache
      (.ok (workspaceResult found),cache)

def resolvePermission (caches : Caches) : Except Failure PermissionResult × Caches :=
  match caches.permission.get request.cacheKey with
  | some cached => (.ok cached,caches)
  | none =>
    match resolveMiss env t context request caches.workspace with
    | (.error failure,workspaceCache) => (.error failure,⟨caches.permission,workspaceCache⟩)
    | (.ok result,workspaceCache) =>
      (.ok result,⟨caches.permission.set request.cacheKey result,workspaceCache⟩)

/-- The resolution computed from the database alone, without either cache. -/
def freshPermission : Except Failure PermissionResult := do
  let result ← resourcePermission env t request
  match fallbackWorkspace env context result with
  | none => return result
  | some workspace =>
    return workspaceResult (lookupWorkspacePermission env t request.username workspace)

end Resolve

/-- A resolution as a question: who asks for what, in which request. -/
structure Resolution where
  context : RequestContext
  request : ResourceRequest
deriving DecidableEq, Repr

namespace Resolution

def cacheKey (resolution : Resolution) : String := resolution.request.cacheKey

def workspace (resolution : Resolution) : Option String :=
  truthy (getRequestWorkspace resolution.context)

def fresh (env : Env) (t : Tables) (resolution : Resolution) : Except Failure PermissionResult :=
  freshPermission env t resolution.context resolution.request

def resolve (env : Env) (t : Tables) (resolution : Resolution) (caches : Caches) :
    Except Failure PermissionResult × Caches :=
  resolvePermission env t resolution.context resolution.request caches

end Resolution

section Coherence
variable {env : Env} {t : Tables} {live live' : Resolution → Prop}
  {liveWorkspace : String × String → Prop} {caches : Caches}

def WorkspaceCoherent (env : Env) (t : Tables) (live : String × String → Prop)
    (cache : Cache String Permission) : Prop :=
  Coherent (fun question => workspaceCacheKey question.1 question.2)
    (fun question => lookupWorkspacePermission env t question.1 question.2) live cache

def PermissionCoherent (env : Env) (t : Tables) (live : Resolution → Prop)
    (cache : Cache String PermissionResult) : Prop :=
  Coherent Resolution.cacheKey (fun resolution => (resolution.fresh env t).toOption) live cache

/-- Workspace lookups that can be asked for and share a cache key are one lookup. -/
def WorkspaceKeysSeparate (live : String × String → Prop) : Prop :=
  ∀ p q, live p → live q → workspaceCacheKey p.1 p.2 = workspaceCacheKey q.1 q.2 → p = q

/-- The workspace lookup a resolution may make can be asked for. -/
def MayLookUp (live : String × String → Prop) (resolution : Resolution) : Prop :=
  ∀ workspace, resolution.workspace = some workspace → live (resolution.request.username,workspace)

theorem workspaceCacheKey_username {username username' workspace : String}
    (same : workspaceCacheKey username workspace = workspaceCacheKey username' workspace) :
    username = username' := by
  simpa [workspaceCacheKey] using same

theorem workspaceCacheKey_workspace {username workspace workspace' : String}
    (same : workspaceCacheKey username workspace = workspaceCacheKey username workspace') :
    workspace = workspace' := by
  simpa [workspaceCacheKey] using same

theorem getWorkspacePermissionCached_fresh (separate : WorkspaceKeysSeparate liveWorkspace)
    {cache : Cache String Permission} (coherent : WorkspaceCoherent env t liveWorkspace cache)
    (enabled : env.config.mlflowEnableWorkspaces = true) {username workspace : String}
    (asked : liveWorkspace (username,workspace)) :
    (getWorkspacePermissionCached env t username workspace cache).1 =
        lookupWorkspacePermission env t username workspace ∧
      WorkspaceCoherent env t liveWorkspace
        (getWorkspacePermissionCached env t username workspace cache).2 := by
  simp only [getWorkspacePermissionCached,enabled,if_true]
  cases hit : cache.get (workspaceCacheKey username workspace) with
  | some cached =>
    have answer := Coherent.hit (q := (username,workspace)) coherent
      (fun p wasLive same => by rw [separate p _ wasLive asked same]) hit
    exact ⟨answer.symm,coherent⟩
  | none =>
    cases found : lookupWorkspacePermission env t username workspace with
    | some permission =>
      exact ⟨rfl,Coherent.set (q := (username,workspace)) coherent
        (fun _ wasLive _ => wasLive) asked found⟩
    | none => exact ⟨rfl,coherent⟩

theorem fallbackWorkspace_eq_some {context : RequestContext} {result : PermissionResult}
    {workspace : String} (falls : fallbackWorkspace env context result = some workspace) :
    env.config.mlflowEnableWorkspaces = true ∧
      truthy (getRequestWorkspace context) = some workspace := by
  unfold fallbackWorkspace at falls
  split at falls
  · next applies => exact ⟨applies.2,falls⟩
  · cases falls

theorem resolveMiss_answer {context : RequestContext} {request : ResourceRequest}
    {cache : Cache String Permission}
    (looksUp : ∀ workspace, env.config.mlflowEnableWorkspaces = true →
      truthy (getRequestWorkspace context) = some workspace →
      (getWorkspacePermissionCached env t request.username workspace cache).1 =
        lookupWorkspacePermission env t request.username workspace) :
    (resolveMiss env t context request cache).1 = freshPermission env t context request := by
  unfold resolveMiss freshPermission
  cases resourcePermission env t request with
  | error failure => rfl
  | ok result =>
    cases falls : fallbackWorkspace env context result with
    | none => simp only [bind,Except.bind,falls,pure,Except.pure]
    | some workspace =>
      obtain ⟨enabled,named⟩ := fallbackWorkspace_eq_some falls
      simp only [bind,Except.bind,falls,pure,Except.pure,looksUp workspace enabled named]

theorem resolvePermission_answer {context : RequestContext} {request : ResourceRequest}
    (entry : ∀ result, caches.permission.get request.cacheKey = some result →
      freshPermission env t context request = .ok result)
    (looksUp : ∀ workspace, env.config.mlflowEnableWorkspaces = true →
      truthy (getRequestWorkspace context) = some workspace →
      (getWorkspacePermissionCached env t request.username workspace caches.workspace).1 =
        lookupWorkspacePermission env t request.username workspace) :
    (resolvePermission env t context request caches).1 =
      freshPermission env t context request := by
  have miss := resolveMiss_answer looksUp
  unfold resolvePermission
  cases hit : caches.permission.get request.cacheKey with
  | some cached => exact (entry cached hit).symm
  | none =>
    rw [← miss]
    rcases resolveMiss env t context request caches.workspace with ⟨answer,cache⟩
    cases answer <;> rfl

theorem resolveMiss_fresh (separate : WorkspaceKeysSeparate liveWorkspace)
    (resolution : Resolution) (asked : MayLookUp liveWorkspace resolution)
    {cache : Cache String Permission} (coherent : WorkspaceCoherent env t liveWorkspace cache) :
    (resolveMiss env t resolution.context resolution.request cache).1 = resolution.fresh env t ∧
      WorkspaceCoherent env t liveWorkspace
        (resolveMiss env t resolution.context resolution.request cache).2 := by
  have lookup : ∀ workspace, env.config.mlflowEnableWorkspaces = true →
      resolution.workspace = some workspace →
      (getWorkspacePermissionCached env t resolution.request.username workspace cache).1 =
          lookupWorkspacePermission env t resolution.request.username workspace ∧
        WorkspaceCoherent env t liveWorkspace
          (getWorkspacePermissionCached env t resolution.request.username workspace cache).2 := by
    intro workspace enabled named
    exact getWorkspacePermissionCached_fresh separate coherent enabled (asked workspace named)
  refine ⟨resolveMiss_answer (fun workspace enabled named => (lookup workspace enabled named).1),?_⟩
  unfold resolveMiss
  cases resourcePermission env t resolution.request with
  | error failure => exact coherent
  | ok result =>
    cases falls : fallbackWorkspace env resolution.context result with
    | none =>
      simp only [falls]
      exact coherent
    | some workspace =>
      obtain ⟨enabled,named⟩ := fallbackWorkspace_eq_some falls
      simp only [falls]
      exact (lookup workspace enabled named).2

/-- The step lemma: on coherent caches, a resolution whose key is held only by
resolutions with its own fresh answer is answered afresh, and the caches stay
coherent; an entry it adds is its own. -/
theorem resolve_fresh (separate : WorkspaceKeysSeparate liveWorkspace) (resolution : Resolution)
    (asked : MayLookUp liveWorkspace resolution)
    (agree : ∀ p, live p → p.cacheKey = resolution.cacheKey →
      p.fresh env t = resolution.fresh env t)
    (permission : PermissionCoherent env t live caches.permission)
    (workspace : WorkspaceCoherent env t liveWorkspace caches.workspace) :
    (resolution.resolve env t caches).1 = resolution.fresh env t ∧
      WorkspaceCoherent env t liveWorkspace (resolution.resolve env t caches).2.workspace := by
  have miss := resolveMiss_fresh separate resolution asked workspace
  simp only [Resolution.resolve,resolvePermission]
  cases hit : caches.permission.get resolution.request.cacheKey with
  | some cached =>
    have answer := permission.hit (q := resolution)
      (fun p wasLive same => by simp only [agree p wasLive same]) hit
    refine ⟨?_,workspace⟩
    cases fresh : resolution.fresh env t with
    | ok result => simpa [fresh,Except.toOption,eq_comm] using answer
    | error failure => simp [fresh,Except.toOption] at answer
  | none =>
    rcases computed : resolveMiss env t resolution.context resolution.request caches.workspace with
      ⟨answer,cache⟩
    rw [computed] at miss
    cases answer with
    | error failure => exact ⟨miss.1,miss.2⟩
    | ok result => exact ⟨miss.1,miss.2⟩

end Coherence

/-- The caches, together with a record of the resolution that filled each entry of
the permission cache. No answer depends on the record. -/
structure TracedCaches where
  caches : Caches
  origin : Cache String Resolution

namespace TracedCaches

def empty : TracedCaches := ⟨.empty,.empty⟩

/-- A resolution through the caches. -/
def ask (env : Env) (t : Tables) (resolution : Resolution) (state : TracedCaches) :
    Except Failure PermissionResult × TracedCaches :=
  let (answer,caches) := resolution.resolve env t state.caches
  match state.caches.permission.get resolution.cacheKey,answer with
  | none,.ok _ => (answer,⟨caches,state.origin.set resolution.cacheKey resolution⟩)
  | _,_ => (answer,⟨caches,state.origin⟩)

/-- The entry of one key expires or is evicted. -/
def evict (key : String) (state : TracedCaches) : TracedCaches :=
  ⟨⟨state.caches.permission.delete key,state.caches.workspace⟩,state.origin.delete key⟩

def evictWorkspace (key : String) (state : TracedCaches) : TracedCaches :=
  ⟨⟨state.caches.permission,state.caches.workspace.delete key⟩,state.origin⟩

/-- `flush_permission_cache`, which leaves the workspace cache alone. -/
def flush (state : TracedCaches) : TracedCaches :=
  ⟨⟨state.caches.permission.clear,state.caches.workspace⟩,state.origin.clear⟩

/-- A live entry of the permission cache, with the resolution that filled it. -/
def Holds (state : TracedCaches) (resolution : Resolution) (result : PermissionResult) : Prop :=
  state.origin.get resolution.cacheKey = some resolution ∧
    state.caches.permission.get resolution.cacheKey = some result

/-- Every cached permission is the fresh answer of the resolution that filled it,
and every cached workspace permission that of a lookup that can be asked for. -/
structure Sound (env : Env) (t : Tables) (liveWorkspace : String × String → Prop)
    (state : TracedCaches) : Prop where
  permission : PermissionCoherent env t (Filled Resolution.cacheKey state.origin)
    state.caches.permission
  workspace : WorkspaceCoherent env t liveWorkspace state.caches.workspace

section
variable {env : Env} {t : Tables} {liveWorkspace : String × String → Prop} {state : TracedCaches}

theorem sound_empty : Sound env t liveWorkspace empty := ⟨coherent_empty,coherent_empty⟩

theorem ask_answer (resolution : Resolution) :
    (state.ask env t resolution).1 = (resolution.resolve env t state.caches).1 := by
  unfold ask
  rcases resolution.resolve env t state.caches with ⟨answer,caches⟩
  cases state.caches.permission.get resolution.cacheKey <;> cases answer <;> rfl

theorem Sound.ask_sound (sound : Sound env t liveWorkspace state)
    (separate : WorkspaceKeysSeparate liveWorkspace) (resolution : Resolution)
    (asked : MayLookUp liveWorkspace resolution) :
    Sound env t liveWorkspace (state.ask env t resolution).2 := by
  have miss := resolveMiss_fresh separate resolution asked sound.workspace
  simp only [TracedCaches.ask,Resolution.resolve,resolvePermission,Resolution.cacheKey]
  cases hit : state.caches.permission.get resolution.request.cacheKey with
  | some cached => exact sound
  | none =>
    rcases computed : resolveMiss env t resolution.context resolution.request
      state.caches.workspace with ⟨answer,cache⟩
    rw [computed] at miss
    obtain ⟨fresh,workspace⟩ := miss
    cases answer with
    | error failure => exact ⟨sound.permission,workspace⟩
    | ok result =>
      refine ⟨?_,workspace⟩
      refine Coherent.set (q := resolution) sound.permission
        (fun p filled distinct => filled.set_other distinct) (filled_set_self resolution) ?_
      simp only [← fresh]
      rfl

theorem Sound.ask (sound : Sound env t liveWorkspace state)
    (separate : WorkspaceKeysSeparate liveWorkspace) (resolution : Resolution)
    (asked : MayLookUp liveWorkspace resolution)
    (agree : ∀ p, state.origin.get resolution.cacheKey = some p →
      p.fresh env t = resolution.fresh env t) :
    (state.ask env t resolution).1 = resolution.fresh env t ∧
      Sound env t liveWorkspace (state.ask env t resolution).2 := by
  have step := resolve_fresh separate resolution asked
    (fun p filled same => agree p (by rw [← same]; exact filled)) sound.permission sound.workspace
  exact ⟨(ask_answer resolution).trans step.1,sound.ask_sound separate resolution asked⟩

theorem Sound.evict (sound : Sound env t liveWorkspace state) (key : String) :
    Sound env t liveWorkspace (state.evict key) :=
  ⟨Coherent.delete sound.permission key (fun _ filled distinct => filled.delete_other distinct),
    sound.workspace⟩

theorem Sound.flush (sound : Sound env t liveWorkspace state) :
    Sound env t liveWorkspace state.flush := ⟨coherent_empty,sound.workspace⟩

theorem Sound.holds (sound : Sound env t liveWorkspace state) {resolution : Resolution}
    {result : PermissionResult} (held : state.Holds resolution result) :
    resolution.fresh env t = .ok result := by
  obtain ⟨filler,filled,sameKey,fresh⟩ := sound.permission _ _ held.2
  rw [Filled,sameKey,held.1] at filled
  cases filled
  cases answer : resolution.fresh env t with
  | error failure => simp [answer,Except.toOption] at fresh
  | ok known =>
    simp only [answer,Except.toOption,Option.some.injEq] at fresh
    rw [fresh]

/-- Sound caches stay sound over a change of the tables that none of their entries notices. -/
theorem Sound.change {t' : Tables} (sound : Sound env t liveWorkspace state)
    (answers : ∀ resolution result, state.Holds resolution result →
      resolution.fresh env t = .ok result → resolution.fresh env t' = .ok result)
    (lookups : ∀ username workspace permission,
      state.caches.workspace.get (workspaceCacheKey username workspace) = some permission →
      lookupWorkspacePermission env t username workspace = some permission →
      lookupWorkspacePermission env t' username workspace = some permission) :
    Sound env t' liveWorkspace state := by
  refine ⟨Coherent.change sound.permission ?_,Coherent.change sound.workspace ?_⟩
  · intro resolution result filled cached _
    have held : state.Holds resolution result := ⟨filled,cached⟩
    simp only [answers resolution result held (sound.holds held),Except.toOption]
  · rintro ⟨username,workspace⟩ permission _ cached looked
    exact lookups username workspace permission cached looked

theorem Sound.evictWorkspace (sound : Sound env t liveWorkspace state) (key : String) :
    Sound env t liveWorkspace (state.evictWorkspace key) :=
  ⟨sound.permission,Coherent.delete sound.workspace key (fun _ wasLive _ => wasLive)⟩

end
end TracedCaches
end MlflowOidcAuth
