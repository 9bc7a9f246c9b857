import Mathlib.Logic.Function.Basic
import MlflowOidcAuth.Library.ExpiringCache
import MlflowOidcAuth.Library.Run
import MlflowOidcAuth.Middleware.SessionExpiry

/-! The validation of bearer tokens by threads that share one copy of the provider's keys. The
lock of the copy is held for a lookup and for a store, not for the requests in between, so a step
of a thread is one region under the lock, one request or one check of the token. -/
namespace MlflowOidcAuth
open KeyedCache ExpiringCache

/-- What `requests.get(url).json()` comes to. -/
abbrev Web := PyValue → Except Failure PyValue

inductive TokenFailure
  | badSignature (message : String)
  | other (failure : Failure)
deriving DecidableEq, Repr

structure JwtClaims where
  payload : PyValue
  options : Option PyValue

structure KeyEnv where
  oidcDiscoveryUrl : Option String
  oidcJwksCacheTtlSeconds : Nat
  oidcAudience : String
  decode : String → PyValue → Option PyValue → Except TokenFailure JwtClaims
  validate : JwtClaims → Int → Except TokenFailure Unit

def getClaimsOptions (env : KeyEnv) : Option PyValue :=
  if env.oidcAudience = "" then none
  else some (.dict [("aud",.dict [("essential",.bool true),("value",.str env.oidcAudience)])])

def checkToken (env : KeyEnv) (wall : Int) (token : String) (jwks : PyValue) :
    Except TokenFailure PyValue := do
  let payload ← env.decode token jwks (getClaimsOptions env)
  env.validate payload wall
  return payload.payload

def readJwksUri (metadata : PyValue) : Except Failure PyValue := do
  match (← metadata.get "jwks_uri").filter PyValue.truthy with
  | some uri => return uri
  | none => throw (.other "No jwks_uri found in OIDC discovery metadata")

abbrev JwksCache := LeaseCache String PyValue

/-- The first region under the lock: the copy that is still current, or none. -/
def lookupJwks (cache : JwksCache) (now : Nat) (forceRefresh : Bool) :
    Option PyValue × JwksCache :=
  let cache := if forceRefresh then cache.delete "jwks" else cache
  ((LeaseCache.lookup cache now "jwks").filter (fun jwks => !(jwks matches .none)),cache)

/-- Where a thread is in `validate_token`; `retried` once the first check found a bad signature. -/
inductive Stage
  | lookup (retried : Bool)
  | metadata (retried : Bool)
  | keys (retried : Bool) (uri : PyValue)
  | store (retried : Bool) (jwks : PyValue)
  | check (retried : Bool) (jwks : PyValue)
  | done (result : Except TokenFailure PyValue)

def Stage.ofFetch (next : PyValue → Stage) : Except Failure PyValue → Stage
  | .ok value => next value
  | .error failure => .done (.error (.other failure))

structure Validation where
  token : String
  stage : Stage

structure TokenState where
  now : Nat
  wall : Int
  web : Web
  cache : JwksCache
  validations : Nat → Option Validation

def TokenState.initial (now : Nat) (wall : Int) (web : Web) : TokenState :=
  ⟨now,wall,web,Cache.empty,fun _ => none⟩

inductive TokenEvent
  | begin (id : Nat) (token : String)
  | step (id : Nat)
  | clock (elapsed : Nat) (wall : Int)
  | web (web : Web)

section Steps
variable (env : KeyEnv) (state : TokenState)

def advance (token : String) : Stage → Stage × JwksCache
  | .lookup retried =>
    match env.oidcDiscoveryUrl with
    | none =>
      (.done (.error (.other (.other "OIDC_DISCOVERY_URL is not set in the configuration"))),
        state.cache)
    | some _ =>
      let (found,cache) := lookupJwks state.cache state.now retried
      match found with
      | some jwks => (.check retried jwks,cache)
      | none => (.metadata retried,cache)
  | .metadata retried =>
    (.ofFetch (.keys retried) ((state.web (.str (env.oidcDiscoveryUrl.getD ""))).bind readJwksUri),
      state.cache)
  | .keys retried uri => (.ofFetch (.store retried) (state.web uri),state.cache)
  | .store retried jwks =>
    (.check retried jwks,
      LeaseCache.store state.cache state.now env.oidcJwksCacheTtlSeconds "jwks" jwks)
  | .check retried jwks =>
    match checkToken env state.wall token jwks with
    | .ok payload => (.done (.ok payload),state.cache)
    | .error (.badSignature message) =>
      (if retried then .done (.error (.badSignature message)) else .lookup true,state.cache)
    | .error (.other failure) => (.done (.error (.other failure)),state.cache)
  | .done result => (.done result,state.cache)

def Stage.running : Option Validation → Bool
  | none | some ⟨_,.done _⟩ => false
  | some _ => true

def Stage.outcome : Stage → Option (Except TokenFailure PyValue)
  | .done result => some result
  | _ => none

/-- A step of a thread answers with the outcome of the validation that it ends. -/
def tokenStep : TokenEvent → Option (Except TokenFailure PyValue) × TokenState
  | .begin id token =>
    if Stage.running (state.validations id) then (none,state)
    else (none,{ state with
      validations := Function.update state.validations id (some ⟨token,.lookup false⟩) })
  | .step id =>
    match state.validations id with
    | none | some ⟨_,.done _⟩ => (none,state)
    | some ⟨token,stage⟩ =>
      let (next,cache) := advance env state token stage
      (next.outcome,{ state with
        cache := cache
        validations := Function.update state.validations id (some ⟨token,next⟩) })
  | .clock elapsed wall => (none,{ state with now := state.now + elapsed, wall := wall })
  | .web web => (none,{ state with web := web })

end Steps

section Alone
variable (env : KeyEnv) (state : TokenState)

def TokenState.at (state : TokenState) (id : Nat) (token : String) (stage : Stage)
    (cache : JwksCache) : TokenState :=
  { state with
    cache := cache
    validations := Function.update state.validations id (some ⟨token,stage⟩) }

def getOidcJwks (cache : JwksCache) (forceRefresh : Bool) : Except Failure PyValue × JwksCache :=
  match env.oidcDiscoveryUrl with
  | none => (.error (.other "OIDC_DISCOVERY_URL is not set in the configuration"),cache)
  | some url =>
    match lookupJwks cache state.now forceRefresh with
    | (some jwks,cache) => (.ok jwks,cache)
    | (none,cache) =>
      match ((state.web (.str url)).bind readJwksUri).bind state.web with
      | .error failure => (.error failure,cache)
      | .ok jwks =>
        (.ok jwks,LeaseCache.store cache state.now env.oidcJwksCacheTtlSeconds "jwks" jwks)

def validateToken (token : String) : Except TokenFailure PyValue × JwksCache :=
  match getOidcJwks env state state.cache false with
  | (.error failure,cache) => (.error (.other failure),cache)
  | (.ok jwks,cache) =>
    match checkToken env state.wall token jwks with
    | .error (.badSignature _) =>
      match getOidcJwks env state cache true with
      | (.error failure,cache) => (.error (.other failure),cache)
      | (.ok jwks,cache) => (checkToken env state.wall token jwks,cache)
    | checked => (checked,cache)

variable {env state} {id : Nat} {token : String} {stage : Stage}

theorem begin_free (free : Stage.running (state.validations id) = false) :
    tokenStep env state (.begin id token) =
      (none,state.at id token (.lookup false) state.cache) := by
  simp [tokenStep,free,TokenState.at]

theorem begin_busy (busy : Stage.running (state.validations id) = true) :
    tokenStep env state (.begin id token) = (none,state) := by
  simp [tokenStep,busy]

theorem step_running (found : state.validations id = some ⟨token,stage⟩)
    (runs : Stage.running (some ⟨token,stage⟩) = true) :
    tokenStep env state (.step id) = ((advance env state token stage).1.outcome,
      state.at id token (advance env state token stage).1 (advance env state token stage).2) := by
  cases stage with
  | done result => cases runs
  | lookup | metadata | keys | store | check => simp [tokenStep,found,TokenState.at]

theorem step_idle (idle : Stage.running (state.validations id) = false) :
    tokenStep env state (.step id) = (none,state) := by
  cases found : state.validations id with
  | none => simp [tokenStep,found]
  | some validation =>
    obtain ⟨token,stage⟩ := validation
    cases stage with
    | done result => simp [tokenStep,found]
    | lookup | metadata | keys | store | check => simp [found,Stage.running] at idle

theorem known_of_running (runs : Stage.running (state.validations id) = true) :
    ∃ validation, state.validations id = some validation := by
  cases found : state.validations id with
  | none => simp [found,Stage.running] at runs
  | some validation => exact ⟨validation,rfl⟩

theorem validations_at (asked : Nat) {cache : JwksCache} :
    (state.at id token stage cache).validations asked =
      if asked = id then some ⟨token,stage⟩ else state.validations asked := by
  by_cases same : asked = id
  · simp [TokenState.at,same]
  · simp [TokenState.at,same]

theorem step_at {cache : JwksCache} (runs : Stage.running (some ⟨token,stage⟩) = true) :
    (tokenStep env (state.at id token stage cache) (.step id)).2 =
      state.at id token (advance env { state with cache := cache } token stage).1
        (advance env { state with cache := cache } token stage).2 := by
  have found : (state.at id token stage cache).validations id = some ⟨token,stage⟩ := by
    simp [validations_at]
  rw [step_running found runs]
  simp only [TokenState.at,Function.update_idem]
  cases stage <;> rfl

theorem step_done {cache : JwksCache} {result : Except TokenFailure PyValue} :
    (tokenStep env (state.at id token (.done result) cache) (.step id)).2 =
      state.at id token (.done result) cache := by
  rw [step_idle (by simp [validations_at,Stage.running])]

/-- So many steps of the thread, or fewer, lead from the one state to the other. -/
def Walks (env : KeyEnv) (id bound : Nat) (first last : TokenState) : Prop :=
  ∃ taken ≤ bound, ∀ more,
    Run.final (tokenStep env) first (List.replicate (taken + more) (.step id)) =
      Run.final (tokenStep env) last (List.replicate more (.step id))

variable {first middle last : TokenState} {bound bound' : Nat} {cache : JwksCache}

theorem walks_refl (bound : Nat) : Walks env id bound first first :=
  ⟨0,Nat.zero_le _,fun more => by rw [Nat.zero_add]⟩

theorem Walks.trans (walks : Walks env id bound first middle)
    (further : Walks env id bound' middle last) : Walks env id (bound + bound') first last := by
  obtain ⟨taken,few,reaches⟩ := walks
  obtain ⟨taken',few',reaches'⟩ := further
  refine ⟨taken + taken',by omega,fun more => ?_⟩
  rw [Nat.add_assoc,reaches,reaches']

theorem walks_step (runs : Stage.running (some ⟨token,stage⟩) = true) :
    Walks env id 1 (state.at id token stage cache)
      (state.at id token (advance env { state with cache := cache } token stage).1
        (advance env { state with cache := cache } token stage).2) := by
  refine ⟨1,Nat.le_refl _,fun more => ?_⟩
  rw [Nat.add_comm,List.replicate_succ,Run.final_cons,step_at runs]

theorem done_stays {result : Except TokenFailure PyValue} (more : Nat) :
    Run.final (tokenStep env) (state.at id token (.done result) cache)
        (List.replicate more (.step id)) = state.at id token (.done result) cache := by
  induction more with
  | zero => rfl
  | succ more ih => rw [List.replicate_succ,Run.final_cons,step_done,ih]

/-- The requests for the keys, made after a lookup that found no current copy. -/
theorem walks_fetch {retried : Bool} {url : String} (configured : env.oidcDiscoveryUrl = some url) :
    Walks env id 3 (state.at id token (.metadata retried) cache)
      (match ((state.web (.str url)).bind readJwksUri).bind state.web with
      | .error failure => state.at id token (.done (.error (.other failure))) cache
      | .ok jwks => state.at id token (.check retried jwks)
          (LeaseCache.store cache state.now env.oidcJwksCacheTtlSeconds "jwks" jwks)) := by
  have asks := @walks_step env state id token (.metadata retried) cache rfl
  simp only [advance,configured,Option.getD_some] at asks
  cases advertised : (state.web (.str url)).bind readJwksUri with
  | error failure =>
    rw [advertised] at asks
    exact asks.trans (walks_refl 2)
  | ok uri =>
    rw [advertised] at asks
    have fetches := @walks_step env state id token (.keys retried uri) cache rfl
    simp only [advance] at fetches
    cases fetched : state.web uri with
    | error failure =>
      rw [fetched] at fetches
      simp only [Except.bind,fetched]
      exact (asks.trans fetches).trans (walks_refl 1)
    | ok jwks =>
      rw [fetched] at fetches
      simp only [Except.bind,fetched]
      exact (asks.trans fetches).trans (walks_step rfl)

theorem walks_lookup (retried : Bool) :
    Walks env id 4 (state.at id token (.lookup retried) cache)
      (match getOidcJwks env state cache retried with
      | (.error failure,cache) => state.at id token (.done (.error (.other failure))) cache
      | (.ok jwks,cache) => state.at id token (.check retried jwks) cache) := by
  have looks := @walks_step env state id token (.lookup retried) cache rfl
  simp only [advance] at looks
  unfold getOidcJwks
  cases configured : env.oidcDiscoveryUrl with
  | none =>
    rw [configured] at looks
    exact looks.trans (walks_refl 3)
  | some url =>
    simp only [configured] at looks ⊢
    cases found : lookupJwks cache state.now retried with
    | mk copy kept =>
      rw [found] at looks
      cases copy with
      | some jwks => exact looks.trans (walks_refl 3)
      | none =>
        have fetches := @walks_fetch env state id token kept retried url configured
        cases fetched : ((state.web (.str url)).bind readJwksUri).bind state.web with
        | error failure =>
          rw [fetched] at fetches
          simpa only [fetched] using looks.trans fetches
        | ok jwks =>
          rw [fetched] at fetches
          simpa only [fetched] using looks.trans fetches

/-- A thread that nothing comes between computes `validate_token`. -/
theorem validateToken_alone (env : KeyEnv) (state : TokenState) (id : Nat) (token : String) :
    Run.final (tokenStep env) (state.at id token (.lookup false) state.cache)
        (List.replicate 10 (.step id)) =
      state.at id token (.done (validateToken env state token).1)
        (validateToken env state token).2 := by
  suffices ended : Walks env id 10 (state.at id token (.lookup false) state.cache)
      (state.at id token (.done (validateToken env state token).1)
        (validateToken env state token).2) by
    obtain ⟨taken,few,reaches⟩ := ended
    have total : taken + (10 - taken) = 10 := by omega
    rw [← total,reaches,done_stays]
  have looks := @walks_lookup env state id token state.cache false
  unfold validateToken
  cases obtained : getOidcJwks env state state.cache false with
  | mk fetched cache =>
    rw [obtained] at looks
    cases fetched with
    | error failure => exact looks.trans (walks_refl 6)
    | ok jwks =>
      have checks := @walks_step env state id token (.check false jwks) cache rfl
      simp only [advance] at checks
      cases checked : checkToken env state.wall token jwks with
      | ok payload =>
        rw [checked] at checks
        simpa only [checked] using (looks.trans checks).trans (walks_refl 5)
      | error failure =>
        rw [checked] at checks
        cases failure with
        | other failure =>
          simpa only [checked] using (looks.trans checks).trans (walks_refl 5)
        | badSignature message =>
          have retries := @walks_lookup env state id token cache true
          cases obtained' : getOidcJwks env state cache true with
          | mk fetched cache' =>
            rw [obtained'] at retries
            cases fetched with
            | error failure =>
              simpa only [checked,obtained'] using
                ((looks.trans checks).trans retries).trans (walks_refl 1)
            | ok jwks' =>
              have rechecks := @walks_step env state id token (.check true jwks') cache' rfl
              simp only [advance] at rechecks
              cases rechecked : checkToken env state.wall token jwks' with
              | ok payload =>
                rw [rechecked] at rechecks
                simpa only [checked,obtained',rechecked] using
                  ((looks.trans checks).trans retries).trans rechecks
              | error failure =>
                rw [rechecked] at rechecks
                cases failure with
                | other failure =>
                  simpa only [checked,obtained',rechecked] using
                  ((looks.trans checks).trans retries).trans rechecks
                | badSignature message =>
                  simpa only [checked,obtained',rechecked,if_true] using
                    ((looks.trans checks).trans retries).trans rechecks

end Alone
end MlflowOidcAuth
