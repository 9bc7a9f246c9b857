import MlflowOidcAuth.Library.ExpiringCache
import MlflowOidcAuth.Library.Run
import MlflowOidcAuth.Permissions

/-! The caches that the plugin keeps in a Redis server, which all its processes share. A key is
stored under the prefix of its backend; a clear walks the key space of the server with SCAN, page
by page, while other clients go on. -/
namespace MlflowOidcAuth
open KeyedCache ExpiringCache

structure RedisCacheBackend where
  keyPrefix : String
  ttl : Nat
deriving DecidableEq, Repr

namespace RedisCacheBackend
variable (backend : RedisCacheBackend)

def makeKey (key : String) : String := backend.keyPrefix ++ key

/-- The pattern of `clear`. -/
def pattern : String := backend.keyPrefix ++ "*"

/-- The keys of this backend's name space. -/
def Names (key : String) : Prop := backend.keyPrefix.toList <+: key.toList

end RedisCacheBackend

structure CacheConfig where
  cacheBackend : String
  cacheRedisUrl : Option String
  cacheKeyPrefix : String

inductive CacheBackend
  | localTtl (maxsize ttl : Nat)
  | redis (backend : RedisCacheBackend)
deriving DecidableEq, Repr

/-- `connects` is the import of the client and its first ping. -/
def getCacheBackend (config : CacheConfig) (connects : String → Except Failure Unit)
    (cacheName : String) (maxsize ttl : Nat) : Except Failure CacheBackend :=
  if config.cacheBackend = "local" then .ok (.localTtl maxsize ttl)
  else if config.cacheBackend = "redis" then
    match config.cacheRedisUrl.filter (fun url => decide (url ≠ "")) with
    | none =>
      .error (.other "CACHE_BACKEND is set to 'redis' but CACHE_REDIS_URL is not configured")
    | some url => do
      connects url
      return .redis ⟨config.cacheKeyPrefix ++ cacheName ++ ":",ttl⟩
  else .error (.other ("Unknown CACHE_BACKEND: '" ++ config.cacheBackend ++
    "'. Supported values: 'local', 'redis'"))

structure Pickle (V : Type) where
  dumps : V → List UInt8
  loads : List UInt8 → Except Failure V
  loads_dumps : ∀ value, loads (dumps value) = .ok value

/-- The pattern matching of the server; text without special characters stands for itself. -/
structure GlobMatcher where
  globMatch : String → String → Bool
  literal : ∀ text key : String, (∀ c ∈ text.toList, c ∉ "*?[\\".toList) →
    (globMatch (text ++ "*") key = true ↔ text.toList <+: key.toList)

/-- A client in the loop of `clear`: before the next SCAN, or with a page to delete. -/
inductive Clearing
  | scanning (cursor : Nat)
  | deleting (cursor : Nat) (page : List String)
deriving DecidableEq, Repr

/-- `owed` are the keys that an iteration has still to return: they were there when it began, and
were neither returned nor set since. -/
structure RedisState where
  now : Nat
  entries : LeaseCache String (List UInt8)
  clears : RedisCacheBackend × Nat → Option Clearing
  owed : RedisCacheBackend × Nat → List String

def RedisState.start (now : Nat) : RedisState := ⟨now,Cache.empty,fun _ => none,fun _ => []⟩

/-- `scanned` is the server's reply to the SCAN of a client, `evict` its choice under memory
pressure. -/
inductive RedisEvent (V : Type)
  | get (backend : RedisCacheBackend) (key : String)
  | set (backend : RedisCacheBackend) (key : String) (value : V)
  | delete (backend : RedisCacheBackend) (key : String)
  | clear (backend : RedisCacheBackend) (id : Nat)
  | scanned (backend : RedisCacheBackend) (id cursor : Nat) (page : List String)
  | deleted (backend : RedisCacheBackend) (id : Nat)
  | evict (key : String)
  | tick (elapsed : Nat)

abbrev RedisAnswer (V : Type) := Option (Except Failure (Option V))

def RedisEvent.backend {V : Type} : RedisEvent V → Option RedisCacheBackend
  | .get backend _ | .set backend _ _ | .delete backend _ | .clear backend _
  | .scanned backend _ _ _ | .deleted backend _ => some backend
  | .evict _ | .tick _ => none

namespace RedisState
variable {V : Type} (pickle : Pickle V) (state : RedisState)

def get (backend : RedisCacheBackend) (key : String) : Except Failure (Option V) :=
  match LeaseCache.lookup state.entries state.now (backend.makeKey key) with
  | none => .ok none
  | some raw => (pickle.loads raw).map some

/-- `SETEX`. -/
def set (backend : RedisCacheBackend) (key : String) (value : V) : RedisState :=
  let full := backend.makeKey key
  { state with
    entries := LeaseCache.store state.entries state.now backend.ttl full (pickle.dumps value)
    owed := fun client => (state.owed client).filter (fun other => decide (other ≠ full)) }

def remove (keys : List String) : RedisState :=
  { state with entries := keys.foldl Cache.delete state.entries }

def clear (client : RedisCacheBackend × Nat) : RedisState :=
  match state.clears client with
  | some _ => state
  | none =>
    { state with
      clears := Function.update state.clears client (some (.scanning 0))
      owed := Function.update state.owed client (state.entries.entries.map Prod.fst) }

/-- The end of one round of the loop. -/
def proceed (client : RedisCacheBackend × Nat) (cursor : Nat) : RedisState :=
  { state with
    clears := Function.update state.clears client
      (if cursor = 0 then none else some (.scanning cursor)) }

def scanned (client : RedisCacheBackend × Nat) (cursor : Nat) (page : List String) : RedisState :=
  match state.clears client with
  | some (.scanning _) =>
    let returned : RedisState := { state with
      owed := Function.update state.owed client
        (if cursor = 0 then [] else (state.owed client).filter (fun key => decide (key ∉ page))) }
    if page = [] then returned.proceed client cursor
    else { returned with clears := Function.update state.clears client (some (.deleting cursor page)) }
  | _ => state

def deleted (client : RedisCacheBackend × Nat) : RedisState :=
  match state.clears client with
  | some (.deleting cursor page) => (state.remove page).proceed client cursor
  | _ => state

end RedisState

def redisStep {V : Type} (pickle : Pickle V) (state : RedisState) :
    RedisEvent V → RedisAnswer V × RedisState
  | .get backend key => (some (state.get pickle backend key),state)
  | .set backend key value => (none,state.set pickle backend key value)
  | .delete backend key => (none,state.remove [backend.makeKey key])
  | .clear backend id => (none,state.clear (backend,id))
  | .scanned backend id cursor page => (none,state.scanned (backend,id) cursor page)
  | .deleted backend id => (none,state.deleted (backend,id))
  | .evict key => (none,state.remove [key])
  | .tick elapsed => (none,{ state with now := state.now + elapsed })

/-- What SCAN promises: a page holds keys of the pattern only, and when the iteration ends, every
such key that was there all along has been returned. -/
def ScanHonest {V : Type} (matcher : GlobMatcher) (state : RedisState) : RedisEvent V → Prop
  | .scanned backend id cursor page =>
    ∀ started, state.clears (backend,id) = some (.scanning started) →
      (∀ key ∈ page, matcher.globMatch backend.pattern key = true) ∧
      (cursor = 0 → ∀ key ∈ state.owed (backend,id),
        matcher.globMatch backend.pattern key = true →
        LeaseCache.lookup state.entries state.now key ≠ none → key ∈ page)
  | _ => True

/-- The backends of one installation: its key prefix has no special character, and the names of its
caches have no colon. -/
structure MadeBackend (config : CacheConfig) (connects : String → Except Failure Unit)
    (backend : RedisCacheBackend) : Prop where
  plain : ∀ c ∈ backend.keyPrefix.toList, c ∉ "*?[\\".toList
  made : ∃ cacheName maxsize, ':' ∉ cacheName.toList ∧
    getCacheBackend config connects cacheName maxsize backend.ttl = .ok (.redis backend)

end MlflowOidcAuth
