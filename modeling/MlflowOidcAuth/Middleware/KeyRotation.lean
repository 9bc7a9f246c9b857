import MlflowOidcAuth.Middleware.TokenKeys

/-! What the threads of the token check come to while the provider rotates and withdraws its keys:
a copy that another thread stores late can be older than the one it replaces. -/
namespace MlflowOidcAuth
open KeyedCache ExpiringCache

section Keys
variable (env : KeyEnv)

def Advertises (web : Web) (uri : PyValue) : Prop :=
  (web (.str (env.oidcDiscoveryUrl.getD ""))).bind readJwksUri = .ok uri

def InForce (start : Web) (events : List TokenEvent) (web : Web) : Prop :=
  web = start ∨ .web web ∈ events

/-- The provider may have changed between the request for the address and that for the keys. -/
def Serves (force : Web → Prop) (jwks : PyValue) : Prop :=
  ∃ advertising serving uri, force advertising ∧ force serving ∧ Advertises env advertising uri ∧
    serving uri = .ok jwks

def Stage.All (Uri Fetched : PyValue → Prop) (Checked : Bool → PyValue → Prop) : Stage → Prop
  | .keys _ uri => Uri uri
  | .store _ jwks => Fetched jwks
  | .check retried jwks => Checked retried jwks
  | .lookup _ | .metadata _ | .done _ => True

/-- What the keys of a thread satisfy, from where they come from on. -/
structure Handed (state : TokenState) (Uri Fetched : PyValue → Prop)
    (Checked : Bool → PyValue → Prop) (Good : Nat → PyValue → Prop) : Prop where
  advertised : ∀ uri, Advertises env state.web uri → Uri uri
  fetched : ∀ uri jwks, Uri uri → state.web uri = .ok jwks → Fetched jwks
  stored : ∀ jwks, Fetched jwks → Good state.now jwks
  checked : ∀ retried jwks, Fetched jwks → Checked retried jwks
  served : ∀ moment jwks, moment ≤ state.now →
    state.now < moment + env.oidcJwksCacheTtlSeconds → Good moment jwks → Checked false jwks

def Copies (Good : Nat → PyValue → Prop) (now : Nat) (cache : JwksCache) : Prop :=
  LeaseCache.Dated env.oidcJwksCacheTtlSeconds (fun moment _ jwks => Good moment jwks) now cache

structure Holding (Uri Fetched : PyValue → Prop) (Checked : Nat → Bool → PyValue → Prop)
    (Good : Nat → PyValue → Prop) (state : TokenState) : Prop where
  copies : Copies env Good state.now state.cache
  stages : ∀ id token stage, state.validations id = some ⟨token,stage⟩ →
    stage.All Uri Fetched (Checked id)

end Keys

section Steps
variable {env : KeyEnv} {state : TokenState} {Uri Fetched : PyValue → Prop}
  {Good : Nat → PyValue → Prop} {token : String} {stage : Stage}

theorem lookupJwks_some {cache kept : JwksCache} {now : Nat} {retried : Bool} {jwks : PyValue}
    (found : lookupJwks cache now retried = (some jwks,kept)) :
    retried = false ∧ kept = cache ∧ LeaseCache.lookup cache now "jwks" = some jwks := by
  cases retried with
  | true => simp [lookupJwks] at found
  | false =>
    simp only [lookupJwks,Bool.false_eq_true,if_false,Prod.mk.injEq,Option.filter_eq_some_iff]
      at found
    exact ⟨rfl,found.2.symm,found.1.1⟩

theorem lookupJwks_copies {cache : JwksCache} {now : Nat} (retried : Bool)
    (copies : Copies env Good now cache) : Copies env Good now (lookupJwks cache now retried).2 := by
  cases retried with
  | true => exact LeaseCache.Dated.delete copies "jwks"
  | false => exact copies

theorem advance_all {Checked : Bool → PyValue → Prop}
    (rules : Handed env state Uri Fetched Checked Good)
    (copies : Copies env Good state.now state.cache) (all : stage.All Uri Fetched Checked) :
    (advance env state token stage).1.All Uri Fetched Checked ∧
      Copies env Good state.now (advance env state token stage).2 := by
  cases stage with
  | lookup retried =>
    cases configured : env.oidcDiscoveryUrl with
    | none =>
      simp only [advance,configured]
      exact ⟨trivial,copies⟩
    | some url =>
      have kept := lookupJwks_copies retried copies
      cases found : lookupJwks state.cache state.now retried with
      | mk copy cache =>
        rw [found] at kept
        cases copy with
        | none =>
          simp only [advance,configured,found]
          exact ⟨trivial,kept⟩
        | some jwks =>
          simp only [advance,configured,found]
          obtain ⟨rfl,_,hit⟩ := lookupJwks_some found
          obtain ⟨moment,past,current,good⟩ := LeaseCache.Dated.served copies hit
          exact ⟨rules.served moment jwks past current good,kept⟩
  | metadata retried =>
    refine ⟨?_,copies⟩
    simp only [advance]
    cases asked : (state.web (.str (env.oidcDiscoveryUrl.getD ""))).bind readJwksUri with
    | error failure => trivial
    | ok uri => exact rules.advertised uri asked
  | keys retried uri =>
    refine ⟨?_,copies⟩
    simp only [advance]
    cases asked : state.web uri with
    | error failure => trivial
    | ok jwks => exact rules.fetched uri jwks all asked
  | store retried jwks =>
    exact ⟨rules.checked retried jwks all,LeaseCache.Dated.store copies (rules.stored jwks all)⟩
  | check retried jwks =>
    cases checked : checkToken env state.wall token jwks with
    | ok payload =>
      simp only [advance,checked]
      exact ⟨trivial,copies⟩
    | error failure =>
      cases failure with
      | other failure =>
        simp only [advance,checked]
        exact ⟨trivial,copies⟩
      | badSignature message =>
        cases retried with
        | true =>
          simp only [advance,checked]
          exact ⟨trivial,copies⟩
        | false =>
          simp only [advance,checked]
          exact ⟨trivial,copies⟩
  | done result => exact ⟨trivial,copies⟩

/-- Only the check of the token accepts. -/
theorem advance_accepts {payload : PyValue} (runs : Stage.running (some ⟨token,stage⟩) = true)
    (accepted : (advance env state token stage).1 = .done (.ok payload)) :
    ∃ retried jwks, stage = .check retried jwks ∧
      checkToken env state.wall token jwks = .ok payload := by
  cases stage with
  | done result => cases runs
  | lookup retried =>
    unfold advance at accepted
    cases configured : env.oidcDiscoveryUrl with
    | none => simp [configured] at accepted
    | some url =>
      cases found : lookupJwks state.cache state.now retried with
      | mk copy cache => cases copy <;> simp [configured,found] at accepted
  | metadata retried =>
    simp only [advance] at accepted
    cases asked : (state.web (.str (env.oidcDiscoveryUrl.getD ""))).bind readJwksUri <;>
      simp [asked,Stage.ofFetch] at accepted
  | keys retried uri =>
    simp only [advance] at accepted
    cases asked : state.web uri <;> simp [asked,Stage.ofFetch] at accepted
  | store retried jwks => cases accepted
  | check retried jwks =>
    refine ⟨retried,jwks,rfl,?_⟩
    unfold advance at accepted
    cases checked : checkToken env state.wall token jwks with
    | ok found => simpa [checked] using accepted
    | error failure =>
      cases failure with
      | other failure => simp [checked] at accepted
      | badSignature message => cases retried <;> simp [checked] at accepted

variable {Checked : Nat → Bool → PyValue → Prop}

theorem Holding.at (holding : Holding env Uri Fetched Checked Good state) {id : Nat}
    {cache : JwksCache} (copies : Copies env Good state.now cache)
    (all : stage.All Uri Fetched (Checked id)) :
    Holding env Uri Fetched Checked Good (state.at id token stage cache) := by
  refine ⟨copies,fun asked token' stage' found => ?_⟩
  rw [validations_at] at found
  split at found
  · next same =>
    cases found
    rwa [same]
  · exact holding.stages asked token' stage' found

theorem Holding.step (holding : Holding env Uri Fetched Checked Good state) (event : TokenEvent)
    (rules : ∀ id, Handed env state Uri Fetched (Checked id) Good) :
    Holding env Uri Fetched Checked Good (tokenStep env state event).2 := by
  cases event with
  | begin id token =>
    cases busy : Stage.running (state.validations id) with
    | true => rwa [begin_busy busy]
    | false =>
      rw [begin_free busy]
      exact holding.at holding.copies trivial
  | step id =>
    cases runs : Stage.running (state.validations id) with
    | false => rwa [step_idle runs]
    | true =>
      obtain ⟨⟨token,stage⟩,found⟩ := known_of_running runs
      rw [found] at runs
      rw [step_running found runs]
      have handed := @advance_all env state Uri Fetched Good token stage (Checked id) (rules id)
        holding.copies (holding.stages id token stage found)
      exact holding.at handed.2 handed.1
  | clock elapsed wall =>
    exact ⟨LeaseCache.Dated.later holding.copies (Nat.le_add_right _ _),holding.stages⟩
  | web web => exact ⟨holding.copies,holding.stages⟩

theorem Holding.initial (now : Nat) (wall : Int) (web : Web) :
    Holding env Uri Fetched Checked Good (.initial now wall web) :=
  ⟨LeaseCache.dated_empty,fun _ _ _ found => by cases found⟩

/-- The step that accepts a token checks it against the keys that its thread holds. -/
theorem step_accepts {event : TokenEvent} {payload : PyValue}
    (accepted : (tokenStep env state event).1 = some (.ok payload)) :
    ∃ id token retried jwks, event = .step id ∧
      state.validations id = some ⟨token,.check retried jwks⟩ ∧
      checkToken env state.wall token jwks = .ok payload := by
  cases event with
  | begin id token =>
    cases busy : Stage.running (state.validations id) with
    | true => simp [begin_busy busy] at accepted
    | false => simp [begin_free busy] at accepted
  | step id =>
    cases runs : Stage.running (state.validations id) with
    | false => simp [step_idle runs] at accepted
    | true =>
      obtain ⟨⟨token,stage⟩,found⟩ := known_of_running runs
      rw [found] at runs
      rw [step_running found runs] at accepted
      have ends : (advance env state token stage).1 = .done (.ok payload) := by
        cases next : (advance env state token stage).1 <;> simp [next,Stage.outcome] at accepted
        rw [accepted]
      obtain ⟨retried,jwks,rfl,checked⟩ := advance_accepts runs ends
      exact ⟨id,token,retried,jwks,rfl,found,checked⟩
  | clock | web => cases accepted

end Steps

section Example

/-- A provider with one key, which is also the token that it signs. -/
def provider (key : String) : Web
  | .str "discovery" => .ok (.dict [("jwks_uri",.str "keys")])
  | _ => .ok (.dict [("keys",.str key)])

def signedEnv : KeyEnv where
  oidcDiscoveryUrl := some "discovery"
  oidcJwksCacheTtlSeconds := 300
  oidcAudience := ""
  decode token jwks _ :=
    match jwks with
    | .dict [("keys",.str key)] =>
      if key = token then .ok ⟨.dict [("sub",.str token)],none⟩
      else .error (.badSignature "bad_signature")
    | _ => .error (.other (.other "Invalid JSON Web Key Set"))
  validate _ _ := .ok ()

theorem provider_serves {force : Web → Prop} {jwks : PyValue} {keys : List String}
    (only : ∀ web, force web → ∃ key ∈ keys, web = provider key)
    (serves : Serves signedEnv force jwks) : ∃ key ∈ keys, jwks = .dict [("keys",.str key)] := by
  obtain ⟨advertising,serving,uri,forced,forced',advertised,served⟩ := serves
  obtain ⟨key,_,rfl⟩ := only advertising forced
  obtain ⟨key',listed,rfl⟩ := only serving forced'
  cases advertised
  cases served
  exact ⟨key',listed,rfl⟩

/-- The first validation leaves a copy of the old keys, and then the provider turns to new ones. -/
def rotation : List TokenEvent :=
  .begin 1 "old" :: List.replicate 10 (.step 1) ++ [.web (provider "new")]

theorem rotation_force {rest : List TokenEvent} (plain : ∀ web, .web web ∉ rest) (web : Web)
    (forced : InForce (provider "old") (rotation ++ rest) web) :
    ∃ key ∈ ["old","new"], web = provider key := by
  rcases forced with rfl | member
  · exact ⟨"old",by simp,rfl⟩
  · rcases List.mem_append.mp member with turned | later
    · simp only [rotation,List.mem_append,List.mem_cons,List.mem_replicate] at turned
      simp only [reduceCtorEq,and_false,false_or,List.not_mem_nil,or_false,
        TokenEvent.web.injEq] at turned
      exact ⟨"new",by simp,turned⟩
    · exact absurd later (plain web)

end Example

section Served
variable {env : KeyEnv} {force : Web → Prop} {state : TokenState}

/-- Everything held was served. -/
def AllServed (env : KeyEnv) (force : Web → Prop) : TokenState → Prop :=
  Holding env (fun uri => ∃ web, force web ∧ Advertises env web uri) (Serves env force)
    (fun _ _ => Serves env force) (fun _ => Serves env force)

theorem handed_served (forced : force state.web) :
    Handed env state (fun uri => ∃ web, force web ∧ Advertises env web uri) (Serves env force)
      (fun _ => Serves env force) (fun _ => Serves env force) where
  advertised := fun uri advertised => ⟨state.web,forced,advertised⟩
  fetched := by
    intro uri jwks ⟨web,advertising,advertised⟩ fetched
    exact ⟨web,state.web,uri,advertising,forced,advertised,fetched⟩
  stored := fun _ served => served
  checked := fun _ _ served => served
  served := fun _ _ _ _ served => served

theorem web_of_step (event : TokenEvent) :
    (tokenStep env state event).2.web = state.web ∨
      event = .web (tokenStep env state event).2.web := by
  cases event with
  | begin id token =>
    left
    cases busy : Stage.running (state.validations id) with
    | true => rw [begin_busy busy]
    | false => rw [begin_free busy,TokenState.at]
  | step id =>
    left
    cases runs : Stage.running (state.validations id) with
    | false => rw [step_idle runs]
    | true =>
      obtain ⟨⟨token,stage⟩,found⟩ := known_of_running runs
      rw [found] at runs
      rw [step_running found runs,TokenState.at]
  | clock elapsed wall => exact .inl rfl
  | web web => exact .inr rfl

theorem run_served (events : List TokenEvent) (held : AllServed env force state)
    (forced : force state.web) (later : ∀ web, .web web ∈ events → force web) :
    AllServed env force (Run.final (tokenStep env) state events) ∧
      force (Run.final (tokenStep env) state events).web := by
  induction events generalizing state with
  | nil => exact ⟨held,forced⟩
  | cons event events ih =>
    apply ih
    · exact Holding.step held event (fun _ => handed_served forced)
    · rcases web_of_step event with same | renewed
      · rwa [same]
      · exact later _ (renewed ▸ List.mem_cons_self)
    · exact fun web member => later web (List.mem_cons_of_mem _ member)

/-- However the threads interleave, a token is accepted only under keys that the provider has
served before. -/
theorem accepted_served (env : KeyEnv) (now : Nat) (wall : Int) (web : Web)
    (earlier : List TokenEvent) (event : TokenEvent) (payload : PyValue)
    (accepted : (tokenStep env (Run.final (tokenStep env) (.initial now wall web) earlier) event).1 =
      some (.ok payload)) :
    ∃ id token retried jwks, event = .step id ∧
      (Run.final (tokenStep env) (.initial now wall web) earlier).validations id =
        some ⟨token,.check retried jwks⟩ ∧
      Serves env (InForce web earlier) jwks ∧
      checkToken env (Run.final (tokenStep env) (.initial now wall web) earlier).wall token jwks =
        .ok payload := by
  obtain ⟨id,token,retried,jwks,rfl,found,checked⟩ := step_accepts accepted
  have held := (@run_served env (InForce web earlier) _ earlier (Holding.initial now wall web)
    (.inl rfl) (fun _ member => .inr member)).1
  exact ⟨id,token,retried,jwks,rfl,found,held.stages id token _ found,checked⟩

theorem accepted_served_old : ∃ id token retried jwks, TokenEvent.step 1 = .step id ∧
    (Run.final (tokenStep signedEnv) (.initial 0 0 (provider "old"))
      (.begin 1 "old" :: List.replicate 4 (.step 1))).validations id =
        some ⟨token,.check retried jwks⟩ ∧
      Serves signedEnv (InForce (provider "old") (.begin 1 "old" :: List.replicate 4 (.step 1))) jwks ∧
      checkToken signedEnv 0 token jwks = .ok (.dict [("sub",.str "old")]) :=
  accepted_served signedEnv 0 0 (provider "old") _ (.step 1) _ rfl

end Served

section Withdrawn
variable {env : KeyEnv} {force : Web → Prop} {state : TokenState} {token : String} {id : Nat}
  {since : Nat}

def Refuses (env : KeyEnv) (token : String) (jwks : PyValue) : Prop :=
  ∀ wall payload, checkToken env wall token jwks ≠ .ok payload

/-- Copies from before the withdrawal may still verify the token. What the thread checks from then
on may not. -/
def Withdrawn (env : KeyEnv) (force : Web → Prop) (token : String) (since : Nat)
    (Checked : Nat → Bool → PyValue → Prop) : TokenState → Prop :=
  Holding env (fun uri => ∃ web, force web ∧ Advertises env web uri) (Refuses env token) Checked
    (fun moment jwks => moment ≤ since ∨ Refuses env token jwks)

theorem handed_withdrawn (forced : force state.web)
    (refused : ∀ jwks, Serves env force jwks → Refuses env token jwks)
    {Checked : Bool → PyValue → Prop} (checks : ∀ retried jwks, Refuses env token jwks →
      Checked retried jwks)
    (lapsed : since + env.oidcJwksCacheTtlSeconds ≤ state.now ∨ ∀ jwks, Checked false jwks) :
    Handed env state (fun uri => ∃ web, force web ∧ Advertises env web uri) (Refuses env token)
      Checked (fun moment jwks => moment ≤ since ∨ Refuses env token jwks) where
  advertised := fun uri advertised => ⟨state.web,forced,advertised⟩
  fetched := by
    intro uri jwks ⟨web,advertising,advertised⟩ fetched
    exact refused jwks ⟨web,state.web,uri,advertising,forced,advertised,fetched⟩
  stored := fun _ refuses => .inr refuses
  checked := checks
  served := by
    intro moment jwks _ current good
    rcases lapsed with lapsed | any
    · rcases good with early | refuses
      · omega
      · exact checks false jwks refuses
    · exact any jwks

theorem withdrawn_step {Checked : Nat → Bool → PyValue → Prop}
    (held : Withdrawn env force token since Checked state) (event : TokenEvent)
    (forced : force state.web) (refused : ∀ jwks, Serves env force jwks → Refuses env token jwks)
    (checks : ∀ id retried jwks, Refuses env token jwks → Checked id retried jwks)
    (lapsed : since + env.oidcJwksCacheTtlSeconds ≤ state.now ∨ ∀ id jwks, Checked id false jwks) :
    Withdrawn env force token since Checked (tokenStep env state event).2 :=
  Holding.step held event fun id => handed_withdrawn forced refused (checks id)
    (lapsed.imp_right fun any => any id)

theorem now_of_step (event : TokenEvent) : state.now ≤ (tokenStep env state event).2.now := by
  cases event with
  | begin id token =>
    cases busy : Stage.running (state.validations id) with
    | true => rw [begin_busy busy]
    | false => rw [begin_free busy,TokenState.at]
  | step id =>
    cases runs : Stage.running (state.validations id) with
    | false => rw [step_idle runs]
    | true =>
      obtain ⟨⟨token,stage⟩,found⟩ := known_of_running runs
      rw [found] at runs
      rw [step_running found runs,TokenState.at]
  | clock elapsed wall => exact Nat.le_add_right _ _
  | web web => exact Nat.le_refl _

theorem force_of_step (forced : force state.web) (event : TokenEvent)
    (later : ∀ web, event = .web web → force web) : force (tokenStep env state event).2.web := by
  rcases web_of_step event with same | renewed
  · rwa [same]
  · exact later _ renewed

theorem withdrawn_run {Checked : Nat → Bool → PyValue → Prop} (events : List TokenEvent)
    (refused : ∀ jwks, Serves env force jwks → Refuses env token jwks)
    (checks : ∀ id retried jwks, Refuses env token jwks → Checked id retried jwks)
    (later : ∀ web, .web web ∈ events → force web)
    (held : Withdrawn env force token since Checked state) (forced : force state.web)
    (lapsed : since + env.oidcJwksCacheTtlSeconds ≤ state.now ∨ ∀ id jwks, Checked id false jwks) :
    (∀ moment ∈ Run.moments (tokenStep env) state events,
      Withdrawn env force token since Checked moment.before) ∧
      Withdrawn env force token since Checked (Run.final (tokenStep env) state events) ∧
      force (Run.final (tokenStep env) state events).web := by
  let Inv := fun reached : TokenState => Withdrawn env force token since Checked reached ∧
    force reached.web ∧
      (since + env.oidcJwksCacheTtlSeconds ≤ reached.now ∨ ∀ id jwks, Checked id false jwks)
  let Allowed := fun (_ : TokenState) event => ∀ web, event = TokenEvent.web web → force web
  have keeps : ∀ reached event, Inv reached → Allowed reached event →
      Inv (tokenStep env reached event).2 := by
    intro reached event held allowed
    obtain ⟨held,forced,lapsed⟩ := held
    refine ⟨withdrawn_step held event forced refused checks lapsed,
      force_of_step forced event allowed,?_⟩
    exact lapsed.imp_left fun lapsed => Nat.le_trans lapsed (now_of_step event)
  have initial : Inv state := ⟨held,forced,lapsed⟩
  have run := Run.invariant_of_moments keeps initial (fun moment member web isWeb =>
    later web (isWeb ▸ Run.event_of_moment (tokenStep env) member))
  exact ⟨fun moment member => (run.1 moment member).1,run.2.1,run.2.2.1⟩

theorem withdrawn_start {start : TokenState}
    (copies : Copies env (fun _ _ => True) start.now start.cache)
    (quiet : ∀ id, Stage.running (start.validations id) = false) :
    Withdrawn env force token start.now (fun _ _ _ => True) start := by
  constructor
  · intro key held found
    obtain ⟨moment,past,expires,_⟩ := copies key held found
    exact ⟨moment,past,expires,.inl past⟩
  · intro id token' stage found
    have ended := quiet id
    rw [found] at ended
    cases stage with
    | done result => trivial
    | lookup | metadata | keys | store | check => cases ended

theorem reached_copies (env : KeyEnv) (now : Nat) (wall : Int) (web : Web)
    (events : List TokenEvent) :
    Copies env (fun _ _ => True) (Run.final (tokenStep env) (.initial now wall web) events).now
      (Run.final (tokenStep env) (.initial now wall web) events).cache := by
  have held := (@run_served env (fun _ => True) _ events (Holding.initial now wall web) trivial
    (fun _ _ => trivial)).1
  intro key copy found
  obtain ⟨moment,past,expires,_⟩ := held.copies key copy found
  exact ⟨moment,past,expires,trivial⟩

/-- Once no key set that the provider serves verifies a token, and every check then under way has
ended, one lifetime of the copy is enough: no check that begins later accepts it. -/
theorem withdrawn_rejected (env : KeyEnv) (now : Nat) (wall : Int) (web : Web)
    (before between after : List TokenEvent) (id : Nat) (token : String)
    (quiet : ∀ id, Stage.running
      ((Run.final (tokenStep env) (.initial now wall web) before).validations id) = false)
    (refused : ∀ jwks, Serves env (InForce
        (Run.final (tokenStep env) (.initial now wall web) before).web (between ++ after)) jwks →
      Refuses env token jwks)
    (lapsed : (Run.final (tokenStep env) (.initial now wall web) before).now +
        env.oidcJwksCacheTtlSeconds ≤
      (Run.final (tokenStep env) (.initial now wall web) (before ++ between)).now)
    (free : Stage.running ((Run.final (tokenStep env) (.initial now wall web)
      (before ++ between)).validations id) = false) :
    ∀ moment ∈ Run.moments (tokenStep env)
        (Run.final (tokenStep env) (.initial now wall web) (before ++ between))
        (.begin id token :: after),
      ∀ stage, moment.event = .step id → moment.before.validations id = some ⟨token,stage⟩ →
        ∀ payload, moment.answer ≠ some (.ok payload) := by
  let start := Run.final (tokenStep env) (.initial now wall web) before
  let force := InForce start.web (between ++ after)
  rw [Run.final_append] at lapsed free ⊢
  let later := Run.final (tokenStep env) start between
  have reached := @withdrawn_run env force start token start.now (fun _ _ _ => True) between refused
    (fun _ _ _ _ => trivial) (fun web member => .inr (List.mem_append_left _ member))
    (withdrawn_start (reached_copies env now wall web before) quiet) (.inl rfl)
    (.inr fun _ _ => trivial)
  let Checked := fun (asked : Nat) (_ : Bool) jwks => asked = id → Refuses env token jwks
  have begun : Withdrawn env force token start.now Checked
      (tokenStep env later (.begin id token)).2 := by
    rw [begin_free free]
    refine ⟨reached.2.1.copies,fun asked token' stage found => ?_⟩
    rw [validations_at] at found
    split at found
    · cases found
      trivial
    · next other =>
      have all := reached.2.1.stages asked token' stage found
      cases stage with
      | check retried jwks => exact fun same => absurd same other
      | lookup | metadata | keys | store | done => exact all
  have onward := @withdrawn_run env force _ token start.now Checked after refused
    (fun _ _ _ refuses _ => refuses) (fun web member => .inr (List.mem_append_right _ member)) begun
    (force_of_step reached.2.2 _ (fun web isWeb => by cases isWeb))
    (.inl (Nat.le_trans lapsed (now_of_step _)))
  intro moment member stage isStep found payload accepted
  rcases List.mem_cons.mp member with rfl | member
  · cases isStep
  · rw [Run.answer_of_moment _ member] at accepted
    obtain ⟨id',token',retried,jwks,isStep',found',checked⟩ := step_accepts accepted
    rw [isStep] at isStep'
    cases isStep'
    rw [found] at found'
    cases found'
    have refuses : Checked id retried jwks := (onward.1 moment member).stages id token _ found
    exact refuses rfl _ _ checked

theorem withdrawn_rejected_old : (tokenStep signedEnv (Run.final (tokenStep signedEnv)
    (Run.final (tokenStep signedEnv) (.initial 0 0 (provider "old")) (rotation ++ [.clock 300 0]))
    (.begin 2 "old" :: List.replicate 4 (.step 2))) (.step 2)).1 ≠
      some (.ok (.dict [("sub",.str "old")])) := by
  have plain : ∀ web, .web web ∉ TokenEvent.clock 300 0 :: List.replicate 10 (.step 2) := by
    intro web member
    simp at member
  have ended : Run.final (tokenStep signedEnv) (.initial 0 0 (provider "old")) rotation =
      { TokenState.at (.initial 0 0 (provider "old")) 1 "old"
          (.done (validateToken signedEnv (.initial 0 0 (provider "old")) "old").1)
          (validateToken signedEnv (.initial 0 0 (provider "old")) "old").2 with
        web := provider "new" } := by
    rw [rotation,List.cons_append,Run.final_cons,begin_free rfl,Run.final_append,
      validateToken_alone]
    rfl
  have quiet : ∀ id, Stage.running ((Run.final (tokenStep signedEnv)
      (.initial 0 0 (provider "old")) rotation).validations id) = false := by
    intro id
    rw [ended]
    by_cases first : id = 1
    · simp [TokenState.at,first,Stage.running]
    · simp [TokenState.at,first,Stage.running,TokenState.initial]
  have refused : ∀ jwks, Serves signedEnv (InForce (Run.final (tokenStep signedEnv)
      (.initial 0 0 (provider "old")) rotation).web
        ([.clock 300 0] ++ List.replicate 10 (.step 2))) jwks → Refuses signedEnv "old" jwks := by
    intro jwks serves wall payload checked
    have turned : ∀ web, InForce (Run.final (tokenStep signedEnv) (.initial 0 0 (provider "old"))
        rotation).web ([.clock 300 0] ++ List.replicate 10 (.step 2)) web →
        ∃ key ∈ ["new"], web = provider key := by
      rw [ended]
      rintro web (rfl | member)
      · exact ⟨"new",List.mem_singleton_self _,rfl⟩
      · exact absurd member (plain web)
    obtain ⟨key,listed,rfl⟩ := provider_serves turned serves
    rw [List.mem_singleton.mp listed] at checked
    cases checked
  have rejected := withdrawn_rejected signedEnv 0 0 (provider "old") rotation [.clock 300 0]
    (List.replicate 10 (.step 2)) 2 "old" quiet refused
    (by rw [Run.final_append,ended]; exact Nat.le_refl 300)
    (by rw [Run.final_append,ended]; rfl)
  have sixth : List.replicate 10 (TokenEvent.step 2) =
      List.replicate 4 (.step 2) ++ .step 2 :: List.replicate 5 (.step 2) := rfl
  rw [sixth,← List.cons_append,Run.moments_append] at rejected
  have last := rejected _ (List.mem_append_right _ List.mem_cons_self)
    (.check false (.dict [("keys",.str "new")])) rfl
  apply last
  simp only [Run.final_append,ended]
  rfl

end Withdrawn

section Rotated
variable {env : KeyEnv} {state : TokenState} {token : String} {walls : Int → Prop}
  {stage : Stage} {id : Nat} {force since : Web → Prop}

def Verifies (env : KeyEnv) (walls : Int → Prop) (token : String) (jwks : PyValue) : Prop :=
  ∀ wall, walls wall → ∃ payload, checkToken env wall token jwks = .ok payload

/-- Keys that verify the token, or that find its signature bad and nothing else. -/
def Tame (env : KeyEnv) (walls : Int → Prop) (token : String) (jwks : PyValue) : Prop :=
  Verifies env walls token jwks ∨
    ∀ wall, ∃ message, checkToken env wall token jwks = .error (.badSignature message)

def Publishes (env : KeyEnv) (since : Web → Prop) (walls : Int → Prop) (token : String) : Prop :=
  ∀ advertising serving, since advertising → since serving → ∃ url uri jwks,
    env.oidcDiscoveryUrl = some url ∧ Advertises env advertising uri ∧ serving uri = .ok jwks ∧
      Verifies env walls token jwks

def Expects (env : KeyEnv) (since : Web → Prop) (walls : Int → Prop) (token : String) :
    Stage → Prop
  | .keys _ uri => ∃ web, since web ∧ Advertises env web uri
  | .store _ jwks | .check true jwks => Verifies env walls token jwks
  | .check false jwks => Tame env walls token jwks
  | .done result => ∃ payload, result = .ok payload
  | .lookup _ | .metadata _ => True

/-- The steps that a thread has before it at most. -/
def Stage.remaining : Stage → Nat
  | .lookup retried => if retried then 5 else 10
  | .metadata retried => if retried then 4 else 9
  | .keys retried _ => if retried then 3 else 8
  | .store retried _ => if retried then 2 else 7
  | .check retried _ => if retried then 1 else 6
  | .done _ => 0

theorem remaining_advance : (advance env state token stage).1.remaining ≤ stage.remaining - 1 := by
  cases stage with
  | lookup retried =>
    cases configured : env.oidcDiscoveryUrl with
    | none => simp [advance,configured,Stage.remaining]
    | some url =>
      cases found : lookupJwks state.cache state.now retried with
      | mk copy cache =>
        cases copy with
        | none => cases retried <;> simp [advance,configured,found,Stage.remaining]
        | some jwks => cases retried <;> simp [advance,configured,found,Stage.remaining]
  | metadata retried =>
    simp only [advance]
    cases (state.web (.str (env.oidcDiscoveryUrl.getD ""))).bind readJwksUri with
    | error failure => simp [Stage.ofFetch,Stage.remaining]
    | ok uri => cases retried <;> simp [Stage.ofFetch,Stage.remaining]
  | keys retried uri =>
    simp only [advance]
    cases state.web uri with
    | error failure => simp [Stage.ofFetch,Stage.remaining]
    | ok jwks => cases retried <;> simp [Stage.ofFetch,Stage.remaining]
  | store retried jwks => cases retried <;> simp [advance,Stage.remaining]
  | check retried jwks =>
    cases checked : checkToken env state.wall token jwks with
    | ok payload => simp [advance,checked,Stage.remaining]
    | error failure =>
      cases failure with
      | other failure => simp [advance,checked,Stage.remaining]
      | badSignature message => cases retried <;> simp [advance,checked,Stage.remaining]
  | done result => exact Nat.zero_le _

theorem advance_expects (published : Publishes env since walls token) (current : since state.web)
    (wall : walls state.wall)
    (tame : ∀ jwks, LeaseCache.lookup state.cache state.now "jwks" = some jwks →
      Tame env walls token jwks) (expects : Expects env since walls token stage) :
    Expects env since walls token (advance env state token stage).1 := by
  obtain ⟨url,_,_,configured,_⟩ := published _ _ current current
  cases stage with
  | lookup retried =>
    cases found : lookupJwks state.cache state.now retried with
    | mk copy cache =>
      cases copy with
      | none =>
        simp only [advance,configured,found]
        trivial
      | some jwks =>
        simp only [advance,configured,found]
        obtain ⟨rfl,_,hit⟩ := lookupJwks_some found
        exact tame jwks hit
  | metadata retried =>
    obtain ⟨_,uri,_,_,advertised,_⟩ := published _ _ current current
    have asked : (state.web (.str (env.oidcDiscoveryUrl.getD ""))).bind readJwksUri = .ok uri :=
      advertised
    simp only [advance,asked,Stage.ofFetch]
    exact ⟨state.web,current,advertised⟩
  | keys retried uri =>
    obtain ⟨web,advertising,advertised⟩ := expects
    obtain ⟨_,uri',jwks,_,advertised',served,verifies⟩ := published web state.web advertising current
    rw [Advertises] at advertised advertised'
    rw [advertised,Except.ok.injEq] at advertised'
    rw [← advertised'] at served
    simp only [advance,served,Stage.ofFetch]
    exact verifies
  | store retried jwks =>
    cases retried with
    | true => exact expects
    | false => exact .inl expects
  | check retried jwks =>
    have accepts : Verifies env walls token jwks →
        Expects env since walls token (advance env state token (.check retried jwks)).1 := by
      intro verifies
      obtain ⟨payload,checked⟩ := verifies state.wall wall
      simp only [advance,checked]
      exact ⟨payload,rfl⟩
    cases retried with
    | true => exact accepts expects
    | false =>
      rcases expects with verifies | bad
      · exact accepts verifies
      · obtain ⟨message,checked⟩ := bad state.wall
        simp only [advance,checked]
        trivial
  | done result => exact expects

def TokenEvent.advances (id : Nat) : TokenEvent → Bool
  | .step asked => decide (asked = id)
  | _ => false

theorem kept_of_step {event : TokenEvent} (other : event.advances id = false)
    (alone : ∀ token', event ≠ .begin id token') :
    (tokenStep env state event).2.validations id = state.validations id := by
  cases event with
  | begin asked token' =>
    have apart : id ≠ asked := by
      intro same
      exact alone token' (by rw [same])
    cases busy : Stage.running (state.validations asked) with
    | true => rw [begin_busy busy]
    | false => rw [begin_free busy,validations_at,if_neg apart]
  | step asked =>
    have apart : id ≠ asked := by
      intro same
      simp [TokenEvent.advances,same] at other
    cases runs : Stage.running (state.validations asked) with
    | false => rw [step_idle runs]
    | true =>
      obtain ⟨⟨token',stage'⟩,found⟩ := known_of_running runs
      rw [found] at runs
      rw [step_running found runs,validations_at,if_neg apart]
  | clock | web => rfl

theorem wall_of_step (event : TokenEvent) : (tokenStep env state event).2.wall = state.wall ∨
    ∃ elapsed, event = .clock elapsed (tokenStep env state event).2.wall := by
  cases event with
  | begin asked token' =>
    left
    cases busy : Stage.running (state.validations asked) with
    | true => rw [begin_busy busy]
    | false => rw [begin_free busy,TokenState.at]
  | step asked =>
    left
    cases runs : Stage.running (state.validations asked) with
    | false => rw [step_idle runs]
    | true =>
      obtain ⟨⟨token',stage'⟩,found⟩ := known_of_running runs
      rw [found] at runs
      rw [step_running found runs,TokenState.at]
  | clock elapsed wall => exact .inr ⟨elapsed,rfl⟩
  | web web => exact .inl rfl

/-- One event: the thread comes closer to its end if the event is its own step. -/
theorem step_expects (event : TokenEvent) (published : Publishes env since walls token)
    (tame : ∀ jwks, Serves env force jwks → Tame env walls token jwks)
    (alone : ∀ token', event ≠ .begin id token') (held : AllServed env force state)
    (current : since state.web) (wall : walls state.wall)
    (found : state.validations id = some ⟨token,stage⟩)
    (expects : Expects env since walls token stage) :
    ∃ next, (tokenStep env state event).2.validations id = some ⟨token,next⟩ ∧
      Expects env since walls token next ∧
      next.remaining ≤ stage.remaining - (if event.advances id then 1 else 0) := by
  cases own : event.advances id with
  | false =>
    exact ⟨stage,(kept_of_step own alone).trans found,expects,Nat.le_refl _⟩
  | true =>
    obtain rfl : event = .step id := by
      cases event <;> simp [TokenEvent.advances] at own
      rw [own]
    cases runs : Stage.running (state.validations id) with
    | false =>
      have ended : stage.remaining = 0 := by
        rw [found] at runs
        cases stage with
        | done result => rfl
        | lookup | metadata | keys | store | check => cases runs
      refine ⟨stage,by rw [step_idle runs,found],expects,?_⟩
      rw [ended]
      exact Nat.zero_le _
    | true =>
      rw [found] at runs
      refine ⟨(advance env state token stage).1,?_,?_,remaining_advance⟩
      · rw [step_running found runs,validations_at,if_pos rfl]
      · apply advance_expects published current wall _ expects
        intro jwks hit
        obtain ⟨_,_,_,served⟩ := LeaseCache.Dated.served held.copies hit
        exact tame jwks served

theorem run_expects (events : List TokenEvent) (published : Publishes env since walls token)
    (tame : ∀ jwks, Serves env force jwks → Tame env walls token jwks)
    (later : ∀ web, .web web ∈ events → since web ∧ force web)
    (times : ∀ elapsed wall, .clock elapsed wall ∈ events → walls wall)
    (alone : ∀ token', .begin id token' ∉ events)
    (held : AllServed env force state) (forced : force state.web) (current : since state.web)
    (wall : walls state.wall) (found : state.validations id = some ⟨token,stage⟩)
    (expects : Expects env since walls token stage)
    (scheduled : stage.remaining ≤ events.countP (TokenEvent.advances id)) :
    ∃ payload, (Run.final (tokenStep env) state events).validations id =
      some ⟨token,.done (.ok payload)⟩ := by
  induction events generalizing state stage with
  | nil =>
    have ended : stage.remaining = 0 := Nat.le_zero.mp scheduled
    cases stage with
    | done result =>
      obtain ⟨payload,rfl⟩ := expects
      exact ⟨payload,found⟩
    | lookup retried | metadata retried | keys retried | store retried | check retried =>
      cases retried <;> cases ended
  | cons event events ih =>
    have head : event ∈ event :: events := List.mem_cons_self
    obtain ⟨next,found',expects',closer⟩ := step_expects event published tame
      (fun token' isBegin => alone token' (isBegin ▸ head)) held current wall found expects
    rw [List.countP_cons] at scheduled
    rw [Run.final_cons]
    apply ih (fun web member => later web (List.mem_cons_of_mem _ member))
      (fun elapsed wall member => times elapsed wall (List.mem_cons_of_mem _ member))
      (fun token' member => alone token' (List.mem_cons_of_mem _ member))
      (Holding.step held event (fun _ => handed_served forced))
      (force_of_step forced event (fun web isWeb => (later web (isWeb ▸ head)).2))
      (force_of_step current event (fun web isWeb => (later web (isWeb ▸ head)).1)) _ found' expects'
    · omega
    · rcases wall_of_step event with same | ⟨elapsed,isClock⟩
      · rwa [same]
      · exact times elapsed _ (isClock ▸ head)

/-- A token that the provider's keys verify is accepted whatever the other threads do, provided
that the keys of before find no other fault in it than its signature. -/
theorem rotated_accepted (env : KeyEnv) (now : Nat) (wall : Int) (web : Web)
    (before rest : List TokenEvent) (id : Nat) (token : String) (walls : Int → Prop)
    (free : Stage.running ((Run.final (tokenStep env) (.initial now wall web)
      before).validations id) = false)
    (alone : ∀ token', .begin id token' ∉ rest)
    (scheduled : 10 ≤ rest.countP (TokenEvent.advances id))
    (times : walls (Run.final (tokenStep env) (.initial now wall web) before).wall ∧
      ∀ elapsed wall, .clock elapsed wall ∈ rest → walls wall)
    (published : Publishes env (InForce (Run.final (tokenStep env) (.initial now wall web)
      before).web rest) walls token)
    (tame : ∀ jwks, Serves env (InForce web (before ++ rest)) jwks → Tame env walls token jwks) :
    ∃ payload, (Run.final (tokenStep env) (.initial now wall web)
      (before ++ .begin id token :: rest)).validations id = some ⟨token,.done (.ok payload)⟩ := by
  have reached := @run_served env (InForce web (before ++ rest)) _ before
    (Holding.initial now wall web) (.inl rfl)
    (fun web member => .inr (List.mem_append_left _ member))
  rw [Run.final_append,Run.final_cons,begin_free free]
  have begun : AllServed env (InForce web (before ++ rest))
      (TokenState.at (Run.final (tokenStep env) (.initial now wall web) before) id token
        (.lookup false) _) := reached.1.at reached.1.copies trivial
  have found : (TokenState.at (Run.final (tokenStep env) (.initial now wall web) before) id token
      (.lookup false) (Run.final (tokenStep env) (.initial now wall web) before).cache).validations
        id = some ⟨token,.lookup false⟩ := by
    rw [validations_at,if_pos rfl]
  exact run_expects rest published tame
    (fun web member => ⟨.inr member,.inr (List.mem_append_right _ member)⟩) times.2 alone
    begun reached.2 (.inl rfl) times.1 found trivial scheduled

theorem rotated_accepted_new : ∃ payload, (Run.final (tokenStep signedEnv)
    (.initial 0 0 (provider "old"))
    (rotation ++ .begin 2 "new" :: List.replicate 10 (.step 2))).validations 2 =
      some ⟨"new",.done (.ok payload)⟩ := by
  have plain : ∀ web, .web web ∉ List.replicate 10 (TokenEvent.step 2) := by
    intro web member
    cases List.eq_of_mem_replicate member
  have bad : ∀ wall, checkToken signedEnv wall "new" (.dict [("keys",.str "old")]) =
      .error (.badSignature "bad_signature") := fun _ => rfl
  have good : ∀ wall, checkToken signedEnv wall "new" (.dict [("keys",.str "new")]) =
      .ok (.dict [("sub",.str "new")]) := fun _ => rfl
  apply rotated_accepted signedEnv 0 0 _ rotation _ 2 "new" (fun _ => True)
  · rfl
  · intro token member
    cases List.eq_of_mem_replicate member
  · decide
  · exact ⟨trivial,fun _ _ _ => trivial⟩
  · intro advertising serving forced forced'
    have turned : ∀ web, InForce (provider "new") (List.replicate 10 (.step 2)) web →
        web = provider "new" := by
      rintro web (rfl | member)
      · rfl
      · exact absurd member (plain web)
    obtain rfl := turned advertising forced
    obtain rfl := turned serving forced'
    exact ⟨"discovery",_,_,rfl,rfl,rfl,fun wall _ => ⟨_,good wall⟩⟩
  · intro jwks serves
    obtain ⟨key,listed,rfl⟩ := provider_serves (rotation_force plain) serves
    simp only [List.mem_cons,List.not_mem_nil,or_false] at listed
    rcases listed with rfl | rfl
    · exact .inr fun wall => ⟨_,bad wall⟩
    · exact .inl fun wall _ => ⟨_,good wall⟩

end Rotated
end MlflowOidcAuth
