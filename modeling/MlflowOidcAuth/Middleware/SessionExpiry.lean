import MlflowOidcAuth.Library.OrderedDict
import MlflowOidcAuth.PyFloat

/-! The session authentication of the middleware: the recorded expiry is compared with the
clock, and an expired session may be refreshed against the identity provider. -/
namespace MlflowOidcAuth
open OrderedDict

/-- The values of a session and of a token response. -/
inductive PyValue
  | none
  | bool (value : Bool)
  | int (value : Int)
  | float (value : PyFloat)
  | str (value : String)
  | list (items : List PyValue)
  | dict (entries : List (String × PyValue))

namespace PyValue

def truthy : PyValue → Bool
  | none => false
  | bool value => value
  | int value => decide (value ≠ 0)
  | float value => decide (value ≠ .finite 0)
  | str value => decide (value ≠ "")
  | list items => !items.isEmpty
  | dict entries => !entries.isEmpty

/-- The number of a value that is an `int` or a `float`; a `bool` is an `int`. -/
def number : PyValue → Option PyFloat
  | bool value => some (.finite (if value then 1 else 0))
  | int value => some (.finite value)
  | float value => some value
  | _ => Option.none

/-- `value.get(key)`, which only dictionaries have. -/
def get (key : String) : PyValue → Except Failure (Option PyValue)
  | dict entries => .ok (OrderedDict.get entries key)
  | _ => .error (.other "object has no attribute 'get'")

end PyValue

abbrev Session := List (String × PyValue)

def Session.pop (key : String) (session : Session) : Session :=
  session.filter (fun entry => decide (entry.1 ≠ key))

structure SessionConfig where
  oidcUseRefreshToken : Bool
  oidcSessionExpiryLeewaySeconds : Int

def SessionConfig.leeway (config : SessionConfig) : Int :=
  max 0 config.oidcSessionExpiryLeewaySeconds

section Middleware

def isSessionExpired (config : SessionConfig) (now : ℚ) (session : Session) : Bool :=
  match (OrderedDict.get session "expires_at").bind PyValue.number with
  | none => false
  | some expiresAt => (expiresAt.minus config.leeway).atMost now

/-- A number greater than 0 under a key, if there is one. -/
def positiveNumber (value : Option PyValue) : Option PyFloat :=
  (value.bind PyValue.number).filter (PyFloat.exceeds 0)

/-- `(token_response.get("userinfo") or {}).get("exp")`. -/
def idTokenExp (response : PyValue) : Except Failure (Option PyValue) := do
  match (← response.get "userinfo").filter PyValue.truthy with
  | none => return none
  | some userinfo => userinfo.get "exp"

def extractSessionExpiry (now : ℚ) (response : PyValue) : Except Failure (Option Int) := do
  match positiveNumber (← response.get "expires_at") with
  | some expiresAt => return some (← expiresAt.toInt)
  | none =>
    match positiveNumber (← idTokenExp response) with
    | some exp => return some (← exp.toInt)
    | none =>
      match positiveNumber (← response.get "expires_in") with
      | some expiresIn => return some (PyFloat.truncate now + (← expiresIn.toInt))
      | none => return none

def recordExpiry (expiry : Option Int) (session : Session) : Session :=
  match expiry with
  | some expiry => OrderedDict.set "expires_at" (.int expiry) session
  | none => session.pop "expires_at"

def persistSessionAuth (config : SessionConfig) (now : ℚ) (session : Session)
    (response : PyValue) : Except Failure Session := do
  let session := recordExpiry (← extractSessionExpiry now response) session
  if config.oidcUseRefreshToken then
    match (← response.get "refresh_token").filter PyValue.truthy with
    | some refreshToken => return OrderedDict.set "refresh_token" refreshToken session
    | none => return session
  else return session.pop "refresh_token"

abbrev FetchAccessToken := Option (PyValue → Except Failure PyValue)

def refreshSessionWithIdp (config : SessionConfig) (fetch : FetchAccessToken) (now : ℚ)
    (session : Session) : Except Failure (Option Session) :=
  if config.oidcUseRefreshToken then
    match (OrderedDict.get session "refresh_token").filter PyValue.truthy,fetch with
    | some refreshToken,some fetch =>
      match fetch refreshToken with
      | .ok response =>
        if response.truthy then (persistSessionAuth config now session response).map some
        else .ok none
      | .error _ => .ok none
    | _,_ => .ok none
  else .ok none

/-- `_authenticate_session`: the name that is let in, and the session afterwards. The clock is
read once for the check and once while the refreshed expiry is extracted. -/
def authenticateSession (config : SessionConfig) (fetch : FetchAccessToken) (now later : ℚ)
    (session : Session) : Option PyValue × Session :=
  match (OrderedDict.get session "username").filter PyValue.truthy with
  | none => (none,session)
  | some username =>
    if isSessionExpired config now session then
      match refreshSessionWithIdp config fetch later session with
      | .ok (some refreshed) => (some username,refreshed)
      | .ok none => (none,[])
      | .error _ => (none,session)
    else (some username,session)

end Middleware

section Expiry
variable {config : SessionConfig} {fetch : FetchAccessToken} {now later : ℚ} {session : Session}

/-- Whoever is let in has no recorded expiry, or one later than the reading plus the leeway. -/
def AcceptsOnlyFresh (config : SessionConfig) (fetch : FetchAccessToken) (now later : ℚ)
    (session : Session) : Prop :=
  ∀ username reached, authenticateSession config fetch now later session = (some username,reached) →
    ∀ value, OrderedDict.get reached "expires_at" = some value →
      ∃ expiresAt, value.number = some expiresAt ∧
        expiresAt.exceeds (now + config.leeway) = true

def RefreshesTo (config : SessionConfig) (fetch : FetchAccessToken) (session : Session)
    (response : PyValue) : Prop :=
  config.oidcUseRefreshToken = true ∧ response.truthy = true ∧
    ∃ refreshToken request, OrderedDict.get session "refresh_token" = some refreshToken ∧
      refreshToken.truthy = true ∧ fetch = some request ∧ request refreshToken = .ok response

/-- A key of a token response holds a positive number. -/
def HoldsPositive (entries : List (String × PyValue)) (key : String) (number : PyFloat) : Prop :=
  ∃ value, OrderedDict.get entries key = some value ∧ value.number = some number ∧
    number.exceeds 0 = true

/-- The user claims of a token response, where they are not missing or empty. -/
def HasUserinfo (entries : List (String × PyValue)) (userinfo : PyValue) : Prop :=
  OrderedDict.get entries "userinfo" = some userinfo ∧ userinfo.truthy = true

/-- The expiry that a token response carries: the first of its three fields that holds a positive
number counts. -/
inductive CarriesExpiry (later : ℚ) (entries : List (String × PyValue)) : Int → Prop
  | expiresAt {value : ℚ} (held : HoldsPositive entries "expires_at" (.finite value)) :
    CarriesExpiry later entries ⌊value⌋
  | exp {claims : List (String × PyValue)} {value : ℚ}
    (unset : ∀ number, ¬ HoldsPositive entries "expires_at" number)
    (userinfo : HasUserinfo entries (.dict claims))
    (held : HoldsPositive claims "exp" (.finite value)) : CarriesExpiry later entries ⌊value⌋
  | expiresIn {value : ℚ} (unset : ∀ number, ¬ HoldsPositive entries "expires_at" number)
    (unclaimed : ∀ userinfo, HasUserinfo entries userinfo →
      ∃ claims, userinfo = .dict claims ∧ ∀ number, ¬ HoldsPositive claims "exp" number)
    (held : HoldsPositive entries "expires_in" (.finite value)) :
    CarriesExpiry later entries (PyFloat.truncate later + ⌊value⌋)

theorem positiveNumber_iff {entries : List (String × PyValue)} {key : String} {number : PyFloat} :
    positiveNumber (OrderedDict.get entries key) = some number ↔ HoldsPositive entries key number := by
  unfold positiveNumber HoldsPositive
  rw [Option.filter_eq_some_iff,Option.bind_eq_some_iff]
  constructor
  · intro ⟨⟨value,held,isNumber⟩,positive⟩
    exact ⟨value,held,isNumber,positive⟩
  · intro ⟨value,held,isNumber,positive⟩
    exact ⟨⟨value,held,isNumber⟩,positive⟩

theorem positiveNumber_none {entries : List (String × PyValue)} {key : String} :
    positiveNumber (OrderedDict.get entries key) = none ↔
      ∀ number, ¬ HoldsPositive entries key number := by
  rw [Option.eq_none_iff_forall_ne_some]
  exact forall_congr' (fun number => not_congr positiveNumber_iff)

/-- Converting a positive number floors it, and raises for infinity. -/
theorem toInt_of_positive {number : PyFloat} (positive : number.exceeds 0 = true)
    (use : Int → Option Int) {expiry : Int} :
    number.toInt.map use = .ok (some expiry) ↔
      ∃ value, number = .finite value ∧ use ⌊value⌋ = some expiry := by
  cases number with
  | finite value =>
    have nonneg : 0 ≤ value := by
      simp only [PyFloat.exceeds,decide_eq_true_eq] at positive
      exact positive.le
    simp [PyFloat.toInt,PyFloat.truncate,nonneg,Except.map]
  | infinite negative => simp [PyFloat.toInt,Except.map]
  | nan => simp [PyFloat.toInt,Except.map]

theorem hasUserinfo_iff {entries : List (String × PyValue)} {userinfo : PyValue} :
    (OrderedDict.get entries "userinfo").filter PyValue.truthy = some userinfo ↔
      HasUserinfo entries userinfo := Option.filter_eq_some_iff

/-- Without a positive `expires_at` the claims decide, and without one there `expires_in`. -/
theorem extract_of_unset {entries : List (String × PyValue)}
    (unset : positiveNumber (OrderedDict.get entries "expires_at") = none) :
    extractSessionExpiry later (.dict entries) = (do
      match positiveNumber (← idTokenExp (.dict entries)) with
      | some exp => return some (← exp.toInt)
      | none =>
        match positiveNumber (OrderedDict.get entries "expires_in") with
        | some expiresIn => return some (PyFloat.truncate later + (← expiresIn.toInt))
        | none => return none) := by
  simp only [extractSessionExpiry,PyValue.get,bind,Except.bind,unset]

theorem extract_of_unclaimed {entries : List (String × PyValue)}
    (unset : positiveNumber (OrderedDict.get entries "expires_at") = none)
    (unclaimed : ∀ userinfo, HasUserinfo entries userinfo →
      ∃ claims, userinfo = .dict claims ∧ ∀ number, ¬ HoldsPositive claims "exp" number) :
    extractSessionExpiry later (.dict entries) =
      match positiveNumber (OrderedDict.get entries "expires_in") with
      | some expiresIn => expiresIn.toInt.map (fun seconds => some (PyFloat.truncate later + seconds))
      | none => .ok none := by
  have exp : ∃ found, idTokenExp (.dict entries) = .ok found ∧ positiveNumber found = none := by
    cases claimed : (OrderedDict.get entries "userinfo").filter PyValue.truthy with
    | none => exact ⟨none,by simp only [idTokenExp,PyValue.get,bind,Except.bind,claimed]; rfl,rfl⟩
    | some userinfo =>
      obtain ⟨claims,rfl,unset'⟩ := unclaimed userinfo (hasUserinfo_iff.mp claimed)
      exact ⟨_,by simp only [idTokenExp,PyValue.get,bind,Except.bind,claimed],
        positiveNumber_none.mpr unset'⟩
  obtain ⟨found,ran,notPositive⟩ := exp
  rw [extract_of_unset unset,ran]
  simp only [bind,Except.bind,notPositive]
  cases positiveNumber (OrderedDict.get entries "expires_in") with
  | none => rfl
  | some expiresIn => cases expiresIn.toInt <;> rfl

theorem extract_of_claims {entries claims : List (String × PyValue)} {exp : PyFloat}
    (unset : positiveNumber (OrderedDict.get entries "expires_at") = none)
    (userinfo : HasUserinfo entries (.dict claims)) (held : HoldsPositive claims "exp" exp) :
    extractSessionExpiry later (.dict entries) = exp.toInt.map some := by
  have ran : idTokenExp (.dict entries) = .ok (OrderedDict.get claims "exp") := by
    simp only [idTokenExp,PyValue.get,bind,Except.bind,hasUserinfo_iff.mpr userinfo]
  rw [extract_of_unset unset,ran]
  simp only [bind,Except.bind,positiveNumber_iff.mpr held]
  cases exp.toInt <;> rfl

/-- An extraction that returns met no claims other than a dictionary. -/
theorem userinfo_dict {entries : List (String × PyValue)} {expiry : Option Int} {userinfo : PyValue}
    (unset : positiveNumber (OrderedDict.get entries "expires_at") = none)
    (extracted : extractSessionExpiry later (.dict entries) = .ok expiry)
    (has : HasUserinfo entries userinfo) : ∃ claims, userinfo = .dict claims := by
  have ran : idTokenExp (.dict entries) = userinfo.get "exp" := by
    simp only [idTokenExp,PyValue.get,bind,Except.bind,hasUserinfo_iff.mpr has]
  rw [extract_of_unset unset,ran] at extracted
  cases userinfo with
  | dict claims => exact ⟨claims,rfl⟩
  | _ => cases extracted

theorem extract_of_expiresAt {entries : List (String × PyValue)} {expiresAt : PyFloat}
    (held : HoldsPositive entries "expires_at" expiresAt) :
    extractSessionExpiry later (.dict entries) = expiresAt.toInt.map some := by
  simp only [extractSessionExpiry,PyValue.get,bind,Except.bind,positiveNumber_iff.mpr held]
  cases expiresAt.toInt <;> rfl

theorem HoldsPositive.positive {entries : List (String × PyValue)} {key : String} {number : PyFloat}
    (held : HoldsPositive entries key number) : number.exceeds 0 = true := by
  obtain ⟨_,_,_,positive⟩ := held
  exact positive

theorem extract_iff {entries : List (String × PyValue)} {expiry : Int} :
    extractSessionExpiry later (.dict entries) = .ok (some expiry) ↔
      CarriesExpiry later entries expiry := by
  constructor
  · intro extracted
    cases set : positiveNumber (OrderedDict.get entries "expires_at") with
    | some number =>
      have held := positiveNumber_iff.mp set
      rw [extract_of_expiresAt held] at extracted
      obtain ⟨value,rfl,floored⟩ := (toInt_of_positive held.positive some).mp extracted
      cases floored
      exact .expiresAt held
    | none =>
      have unset := positiveNumber_none.mp set
      by_cases claimed : ∃ claims number, HasUserinfo entries (.dict claims) ∧
          HoldsPositive claims "exp" number
      · obtain ⟨claims,number,userinfo,held⟩ := claimed
        rw [extract_of_claims set userinfo held] at extracted
        obtain ⟨value,rfl,floored⟩ := (toInt_of_positive held.positive some).mp extracted
        cases floored
        exact .exp unset userinfo held
      · have unclaimed : ∀ userinfo, HasUserinfo entries userinfo → ∃ claims,
            userinfo = .dict claims ∧ ∀ number, ¬ HoldsPositive claims "exp" number := by
          intro userinfo has
          obtain ⟨claims,rfl⟩ := userinfo_dict set extracted has
          exact ⟨claims,rfl,fun number held => claimed ⟨claims,number,has,held⟩⟩
        rw [extract_of_unclaimed set unclaimed] at extracted
        cases found : positiveNumber (OrderedDict.get entries "expires_in") with
        | none =>
          rw [found] at extracted
          cases extracted
        | some expiresIn =>
          rw [found] at extracted
          have held := positiveNumber_iff.mp found
          obtain ⟨value,rfl,added⟩ := (toInt_of_positive held.positive _).mp extracted
          cases added
          exact .expiresIn unset unclaimed held
  · intro carries
    cases carries with
    | expiresAt held =>
      rw [extract_of_expiresAt held]
      exact (toInt_of_positive held.positive some).mpr ⟨_,rfl,rfl⟩
    | exp unset userinfo held =>
      rw [extract_of_claims (positiveNumber_none.mpr unset) userinfo held]
      exact (toInt_of_positive held.positive some).mpr ⟨_,rfl,rfl⟩
    | expiresIn unset unclaimed held =>
      rw [extract_of_unclaimed (positiveNumber_none.mpr unset) unclaimed,
        positiveNumber_iff.mpr held]
      exact (toInt_of_positive held.positive _).mpr ⟨_,rfl,rfl⟩

theorem get_recordExpiry (expiry : Option Int) (session : Session) :
    OrderedDict.get (recordExpiry expiry session) "expires_at" = expiry.map PyValue.int := by
  cases expiry with
  | some expiry => exact get_set_self _ _ _
  | none =>
    simp only [recordExpiry,Session.pop,OrderedDict.get,firstWhere,Option.map_none,
      Option.map_eq_none_iff,List.find?_eq_none,List.mem_filter]
    intro entry member
    simpa using member.2

theorem get_pop_of_ne {key other : String} (apart : other ≠ key) (session : Session) :
    OrderedDict.get (session.pop key) other = OrderedDict.get session other := by
  simp only [Session.pop,OrderedDict.get,firstWhere,List.find?_filter]
  congr 2
  funext entry
  by_cases same : entry.1 = other
  · simp [same,apart]
  · simp [same]

/-- What a refresh records is what the extraction found, whatever becomes of the refresh token. -/
theorem persist_ok (config : SessionConfig) (session : Session)
    {entries : List (String × PyValue)} {expiry : Option Int}
    (extracted : extractSessionExpiry later (.dict entries) = .ok expiry) :
    ∃ refreshed, persistSessionAuth config later session (.dict entries) = .ok refreshed ∧
      OrderedDict.get refreshed "expires_at" = expiry.map PyValue.int := by
  have apart : "expires_at" ≠ "refresh_token" := by decide
  simp only [persistSessionAuth,extracted,bind,Except.bind,PyValue.get]
  split
  · cases (OrderedDict.get entries "refresh_token").filter PyValue.truthy with
    | some refreshToken =>
      exact ⟨_,rfl,(get_set_of_ne apart _ _).trans (get_recordExpiry expiry session)⟩
    | none => exact ⟨_,rfl,get_recordExpiry expiry session⟩
  · exact ⟨_,rfl,(get_pop_of_ne apart _).trans (get_recordExpiry expiry session)⟩

theorem persist_spec {response : PyValue} {refreshed : Session}
    (ran : persistSessionAuth config later session response = .ok refreshed) :
    ∃ entries expiry, response = .dict entries ∧
      extractSessionExpiry later (.dict entries) = .ok expiry ∧
      OrderedDict.get refreshed "expires_at" = expiry.map PyValue.int := by
  cases response with
  | dict entries =>
    cases extracted : extractSessionExpiry later (.dict entries) with
    | error failure =>
      simp only [persistSessionAuth,extracted,bind,Except.bind] at ran
      cases ran
    | ok expiry =>
      obtain ⟨reached,ran',recorded⟩ := persist_ok config session extracted
      rw [ran,Except.ok.injEq] at ran'
      exact ⟨entries,expiry,rfl,extracted,ran' ▸ recorded⟩
  | _ => cases ran

theorem refresh_iff {refreshed : Session} :
    refreshSessionWithIdp config fetch later session = .ok (some refreshed) ↔
      ∃ response, RefreshesTo config fetch session response ∧
        persistSessionAuth config later session response = .ok refreshed := by
  constructor
  · intro ran
    unfold refreshSessionWithIdp at ran
    split at ran
    · next enabled =>
      split at ran
      · next refreshToken request found =>
        obtain ⟨stored,usable⟩ := Option.filter_eq_some_iff.mp found
        split at ran
        · next response answered =>
          split at ran
          · next nonempty =>
            refine ⟨response,⟨enabled,nonempty,refreshToken,request,stored,usable,rfl,answered⟩,?_⟩
            cases persisted : persistSessionAuth config later session response with
            | error failure =>
              rw [persisted] at ran
              cases ran
            | ok reached =>
              rw [persisted] at ran
              cases ran
              rfl
          · cases ran
        · cases ran
      · cases ran
    · cases ran
  · intro ⟨response,⟨enabled,nonempty,refreshToken,request,stored,usable,client,answered⟩,persisted⟩
    have found : (OrderedDict.get session "refresh_token").filter PyValue.truthy =
        some refreshToken := Option.filter_eq_some_iff.mpr ⟨stored,usable⟩
    unfold refreshSessionWithIdp
    simp only [enabled,if_true,found,client,answered,nonempty,persisted]
    rfl

/-- Nobody is let in, or a user whose session is not expired or was refreshed. -/
theorem authenticateSession_cases (config : SessionConfig) (fetch : FetchAccessToken)
    (now later : ℚ) (session : Session) :
    (∃ reached, authenticateSession config fetch now later session = (none,reached) ∧
      (reached = session ∨ reached = [])) ∨
    ∃ username, OrderedDict.get session "username" = some username ∧ username.truthy = true ∧
      ((isSessionExpired config now session = false ∧
        authenticateSession config fetch now later session = (some username,session)) ∨
      (isSessionExpired config now session = true ∧ ∃ refreshed,
        refreshSessionWithIdp config fetch later session = .ok (some refreshed) ∧
        authenticateSession config fetch now later session = (some username,refreshed))) := by
  unfold authenticateSession
  cases found : (OrderedDict.get session "username").filter PyValue.truthy with
  | none => exact .inl ⟨session,rfl,.inl rfl⟩
  | some username =>
    obtain ⟨named,usable⟩ := Option.filter_eq_some_iff.mp found
    cases expired : isSessionExpired config now session with
    | false => exact .inr ⟨username,named,usable,.inl ⟨rfl,rfl⟩⟩
    | true =>
      cases ran : refreshSessionWithIdp config fetch later session with
      | error failure => exact .inl ⟨session,rfl,.inl rfl⟩
      | ok answer =>
        cases answer with
        | none => exact .inl ⟨[],rfl,.inr rfl⟩
        | some refreshed =>
          exact .inr ⟨username,named,usable,.inr ⟨rfl,refreshed,rfl,rfl⟩⟩

/-- A number that is not found expired is later than the reading plus the leeway, or NaN. -/
theorem not_expired_iff {number : PyFloat} {leeway : ℚ} :
    (number.minus leeway).atMost now = false ↔
      number = .nan ∨ number.exceeds (now + leeway) = true := by
  cases number with
  | finite value =>
    simp only [PyFloat.minus,PyFloat.atMost,PyFloat.exceeds,decide_eq_false_iff_not,
      decide_eq_true_eq,reduceCtorEq,false_or,not_le]
    exact lt_sub_iff_add_lt
  | infinite negative => simp [PyFloat.minus,PyFloat.atMost,PyFloat.exceeds]
  | nan => simp [PyFloat.minus,PyFloat.atMost]

/-- A session is accepted only while fresh exactly when a session not found expired records no
expiry or a comparable number, and the token that an expired one is refreshed to carries no expiry
or one later than the reading plus the leeway. -/
theorem acceptsOnlyFresh_iff (config : SessionConfig) (fetch : FetchAccessToken) (now later : ℚ)
    (session : Session) :
    AcceptsOnlyFresh config fetch now later session ↔
      ∀ username, OrderedDict.get session "username" = some username → username.truthy = true →
        (isSessionExpired config now session = false →
          ∀ value, OrderedDict.get session "expires_at" = some value →
            ∃ expiresAt, value.number = some expiresAt ∧ expiresAt ≠ .nan) ∧
        (isSessionExpired config now session = true →
          ∀ entries expiry, RefreshesTo config fetch session (.dict entries) →
            CarriesExpiry later entries expiry → now + config.leeway < expiry) := by
  constructor
  · intro accepts username named usable
    have found : (OrderedDict.get session "username").filter PyValue.truthy = some username :=
      Option.filter_eq_some_iff.mpr ⟨named,usable⟩
    constructor
    · intro unexpired value recorded
      have accepted : authenticateSession config fetch now later session =
          (some username,session) := by
        simp only [authenticateSession,found,unexpired]
        rfl
      obtain ⟨expiresAt,isNumber,exceeds⟩ := accepts username session accepted value recorded
      refine ⟨expiresAt,isNumber,?_⟩
      intro isNan
      rw [isNan] at exceeds
      cases exceeds
    · intro expired entries expiry refreshes carries
      obtain ⟨refreshed,persisted,recorded⟩ := persist_ok config session (extract_iff.mpr carries)
      have ran := refresh_iff.mpr ⟨_,refreshes,persisted⟩
      have accepted : authenticateSession config fetch now later session =
          (some username,refreshed) := by
        simp only [authenticateSession,found,expired,if_true,ran]
      obtain ⟨expiresAt,isNumber,exceeds⟩ := accepts username refreshed accepted _ recorded
      cases isNumber
      simpa [PyFloat.exceeds] using exceeds
  · intro condition username reached accepted value recorded
    rcases authenticateSession_cases config fetch now later session with
      ⟨left,refused,_⟩ | ⟨_,named,usable,⟨unexpired,same⟩ | ⟨expired,_,ran,same⟩⟩
    · rw [refused] at accepted
      cases accepted
    · rw [same] at accepted
      cases accepted
      obtain ⟨expiresAt,isNumber,comparable⟩ :=
        (condition _ named usable).1 unexpired value recorded
      refine ⟨expiresAt,isNumber,?_⟩
      simp only [isSessionExpired,recorded,Option.bind_some,isNumber] at unexpired
      exact (not_expired_iff.mp unexpired).resolve_left comparable
    · rw [same] at accepted
      cases accepted
      obtain ⟨response,refreshes,persisted⟩ := refresh_iff.mp ran
      obtain ⟨entries,expiry,rfl,extracted,recorded'⟩ := persist_spec persisted
      rw [recorded'] at recorded
      cases expiry with
      | none => cases recorded
      | some expiry =>
        cases recorded
        refine ⟨.finite expiry,rfl,?_⟩
        have later := (condition _ named usable).2 expired entries expiry refreshes
          (extract_iff.mp extracted)
        simpa [PyFloat.exceeds] using later

end Expiry

section Refreshed

/-- Alice's session of an hour ago, with a refresh token. -/
def expiredSession : Session :=
  [("username",.str "alice"),("expires_at",.int 1000),("refresh_token",.str "again")]

def sameToken : FetchAccessToken := some (fun _ => .ok (.dict [("expires_at",.int 1000)]))

theorem accepts_expired : ¬ ∀ config fetch now later session,
    AcceptsOnlyFresh config fetch now later session := by
  intro accepts
  have expired : isSessionExpired ⟨true,0⟩ 4600 expiredSession = true := by decide +kernel
  have extracted : extractSessionExpiry 4600 (.dict [("expires_at",.int 1000)]) =
      .ok (some 1000) := by decide +kernel
  have persisted : persistSessionAuth ⟨true,0⟩ 4600 expiredSession
      (.dict [("expires_at",.int 1000)]) = .ok expiredSession := by
    simp only [persistSessionAuth,extracted]
    rfl
  have refreshed : refreshSessionWithIdp ⟨true,0⟩ sameToken 4600 expiredSession =
      .ok (some expiredSession) :=
    refresh_iff.mpr ⟨_,⟨rfl,rfl,.str "again",_,rfl,rfl,rfl,rfl⟩,persisted⟩
  have accepted : authenticateSession ⟨true,0⟩ sameToken 4600 4600 expiredSession =
      (some (.str "alice"),expiredSession) := by
    unfold authenticateSession
    rw [expired,refreshed]
    rfl
  obtain ⟨expiresAt,isNumber,exceeds⟩ := accepts _ _ _ _ _ _ _ accepted (.int 1000) rfl
  cases isNumber
  simp [PyFloat.exceeds,SessionConfig.leeway] at exceeds
  norm_num at exceeds

end Refreshed
end MlflowOidcAuth
