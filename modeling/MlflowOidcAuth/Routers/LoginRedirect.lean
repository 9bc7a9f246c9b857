import Mathlib.Data.Bool.AllAny
import MlflowOidcAuth.Library.Effects
import MlflowOidcAuth.Library.Run
import MlflowOidcAuth.Library.UrlOrigin
import MlflowOidcAuth.Middleware.ProxyHeaders
import MlflowOidcAuth.Middleware.SessionExpiry

/-! The way of a login's return target: taken from the query, kept in the session and sent as
the redirect of the callback, which a browser resolves against the application's origin. -/
namespace MlflowOidcAuth
open OrderedDict UrlOrigin Effects

def isUnreserved (c : Char) : Bool := c.isAlphanum || decide (c ∈ "_.-~".toList)

/-- What `RedirectResponse` leaves as it is. -/
def isRedirectSafe (c : Char) : Bool :=
  isUnreserved c || decide (c ∈ ":/%#?=@[]!$&'()*+,;".toList)

def redirectLocation (url : String) : String :=
  String.ofList (percentEncode isRedirectSafe url.toList)

def isHostChar (c : Char) : Bool := isUnreserved c || decide (c ∈ "%!$&'()*+,;=[]:".toList)

/-- `request.base_url` of an application that has an origin: scheme, authority and path. -/
structure BaseUrl {Origin : Type} (parseAuthority : List Char → List Char → Option Origin) where
  scheme : List Char
  authority : List Char
  path : List Char
  origin : Origin
  http : scheme = "http".toList ∨ scheme = "https".toList
  nonempty : authority ≠ []
  hostChars : ∀ c, c ∈ authority → isHostChar c = true
  rooted : path.head? = some '/'
  parsed : parseAuthority scheme authority = some origin

def BaseUrl.text {Origin : Type} {parseAuthority : List Char → List Char → Option Origin}
    (base : BaseUrl parseAuthority) : String :=
  String.ofList (base.scheme ++ "://".toList ++ base.authority ++ base.path)

def sanitizeNext (value : Option String) : Option String :=
  match truthy value with
  | none => none
  | some value =>
    if value.toList.head? ≠ some '/' then none
    else if value.toList.take 2 = "//".toList then none
    else if '\n' ∈ value.toList ∨ '\r' ∈ value.toList then none
    else some value

/-- `quote_plus`, with which `urlencode` writes a value. -/
def quotePlus (text : String) : String :=
  String.ofList ((percentEncode (fun c => isUnreserved c || c == ' ') text.toList).map
    (fun c => if c = ' ' then '+' else c))

def urlencodeErrors (errors : List String) : String :=
  "&".intercalate (errors.map (fun error => "error=" ++ quotePlus error))

def uiRouterPrefix : String := "/oidc/ui"

/-- The URL of a page of the UI, with the errors it is to show. -/
def buildUiUrl (baseUrl path : String) (errors : List String) : String :=
  rstripSlash baseUrl ++ (uiRouterPrefix ++ path ++
    (if errors.isEmpty then "" else "?" ++ urlencodeErrors errors))

/-- A call of the OIDC client, which keeps its own state in the session under keys of its own. -/
structure ClientCall (Result : Type) where
  run : Session → Except Failure Result × Session
  keeps : ∀ session key, "_state_".toList.isPrefixOf key.toList = false →
    OrderedDict.get (run session).2 key = OrderedDict.get session key

section Endpoints
variable {Origin : Type} (parseAuthority : List Char → List Char → Option Origin)

structure CallbackRequest where
  baseUrl : BaseUrl parseAuthority
  oidcConfigured : Bool
  error : Option String
  errorDescription : Option String
  state : Option String
  code : Option String
  /-- The two attempts at the token exchange, if the client has the method. -/
  authorizeAccessToken : Option (ClientCall PyValue × ClientCall PyValue)
  /-- The user information and the management of the user: a name or what went wrong. -/
  manageUser : PyValue → Except (List String) (Option String)
  now : ℚ

inductive AuthEvent
  | login (oidcConfigured : Bool) (next : Option String) (oauthState : String)
    (authorizeRedirect : ClientCall String)
  | callback (request : CallbackRequest parseAuthority)
  | logout (location : String)
  | authenticate (fetch : FetchAccessToken) (now later : ℚ)

inductive AuthAnswer
  | redirect (location : String)
  | refused (statusCode : Nat) (detail : String)
  | passed (username : Option PyValue)

structure AuthSettings where
  session : SessionConfig
  defaultLandingPageIsPermissions : Bool
  htmlEscape : String → String
  /-- `str` of a value that is not a text. -/
  str : PyValue → String

variable {parseAuthority} (settings : AuthSettings)

def login (oidcConfigured : Bool) (next : Option String) (oauthState : String)
    (authorizeRedirect : ClientCall String) (session : Session) : AuthAnswer × Session :=
  if oidcConfigured = false then
    (.refused 500 "OIDC authentication not available - configuration error",session)
  else
    let session := OrderedDict.set "oauth_state" (.str oauthState) session
    let session :=
      match sanitizeNext next with
      | some target => OrderedDict.set "redirect_after_login" (.str target) session
      | none => session
    match authorizeRedirect.run session with
    | (.ok location,session) => (.redirect location,session)
    | (.error _,session) => (.refused 500 "Failed to initiate OIDC login",session)

/-- One retry, whatever the first attempt has failed with. -/
def authorizeAccessTokenWithRetry (attempts : ClientCall PyValue × ClientCall PyValue)
    (session : Session) : Except Failure PyValue × Session :=
  match attempts.1.run session with
  | (.ok response,session) => (.ok response,session)
  | (.error _,session) => attempts.2.run session

/-- The state of a login that is under way, compared with the one that came back. -/
def stateErrors (state : Option String) (session : Session) : List String :=
  match (OrderedDict.get session "oauth_state").filter PyValue.truthy,state with
  | none,_ => ["Missing OAuth state in session"]
  | some (.str stored),some state =>
    if state = stored then [] else ["Invalid state parameter"]
  | some _,_ => ["Invalid state parameter"]

def processOidcCallbackFastapi (request : CallbackRequest parseAuthority) (session : Session) :
    (Option String × List String) × Session :=
  match truthy request.error with
  | some _ =>
    match truthy ((truthy request.errorDescription).map settings.htmlEscape) with
    | some description => ((none,["OIDC provider error",description]),session)
    | none => ((none,["OIDC provider error"]),session)
  | none =>
    let errors := stateErrors request.state session
    if !errors.isEmpty then ((none,errors),session) else
    let session := Session.pop "oauth_state" session
    match truthy request.code,request.authorizeAccessToken with
    | none,_ => ((none,["No authorization code received"]),session)
    | some _,none =>
      ((none,["OIDC configuration error: OAuth client not properly initialized."]),session)
    | some _,some attempts =>
      match authorizeAccessTokenWithRetry attempts session with
      | (.error _,session) => ((none,["Failed to process authentication response"]),session)
      | (.ok response,session) =>
        if response.truthy = false then
          ((none,["Failed to exchange authorization code"]),session)
        else
          match request.manageUser response with
          | .error errors => ((none,errors),session)
          | .ok username =>
            match persistSessionAuth settings.session request.now session response with
            | .error _ => ((none,["Failed to process authentication response"]),session)
            | .ok session => ((username,[]),session)

def defaultRedirect (baseUrl : String) (stored : Option PyValue) : String :=
  match stored.filter PyValue.truthy with
  | some (.str target) => target
  | some target => settings.str target
  | none =>
    if settings.defaultLandingPageIsPermissions then buildUiUrl baseUrl "/user" []
    else rstripSlash baseUrl

def finishCallback (baseUrl : String) (email : Option String) (errors : List String)
    (session : Session) : AuthAnswer × Session :=
  if !errors.isEmpty then
    (.redirect (redirectLocation (buildUiUrl baseUrl "/auth" errors)),session)
  else
    match truthy email with
    | none => (.refused 401 "Authentication failed",session)
    | some email =>
      let session := OrderedDict.set "username" (.str email) session
      let session := OrderedDict.set "authenticated" (.bool true) session
      let target := defaultRedirect settings baseUrl
        (OrderedDict.get session "redirect_after_login")
      (.redirect (redirectLocation target),Session.pop "redirect_after_login" session)

def callback (request : CallbackRequest parseAuthority) (session : Session) :
    AuthAnswer × Session :=
  let baseUrl := request.baseUrl.text
  if request.oidcConfigured = false then
    (.redirect (redirectLocation (buildUiUrl baseUrl "/auth"
      ["OIDC authentication not available - configuration error"])),session)
  else
    let processed := processOidcCallbackFastapi settings request session
    finishCallback settings baseUrl processed.1.1 processed.1.2 processed.2

def authStep (session : Session) : AuthEvent parseAuthority → AuthAnswer × Session
  | .login oidcConfigured next oauthState authorizeRedirect =>
    login oidcConfigured next oauthState authorizeRedirect session
  | .callback request => callback settings request session
  | .logout location => (.redirect location,[])
  | .authenticate fetch now later =>
    let (username,session) := authenticateSession settings.session fetch now later session
    (.passed username,session)

end Endpoints
section Characters

theorem safe_of_hostChar {c : Char} (host : isHostChar c = true) : isRedirectSafe c = true := by
  unfold isHostChar at host
  unfold isRedirectSafe
  rcases Bool.or_eq_true_iff.mp host with unreserved | listed
  · rw [unreserved]
    rfl
  · have listed := of_decide_eq_true listed
    have safe : ∀ c, c ∈ "%!$&'()*+,;=[]:".toList → c ∈ ":/%#?=@[]!$&'()*+,;".toList :=
      List.all_iff_forall_prop.mp (by decide)
    rw [decide_eq_true (safe c listed),Bool.or_true]

theorem isAlphanum_bounds {c : Char} (alphanumeric : c.isAlphanum = true) :
    48 ≤ c.toNat ∧ c.toNat ≤ 57 ∨ 65 ≤ c.toNat ∧ c.toNat ≤ 90 ∨ 97 ≤ c.toNat ∧ c.toNat ≤ 122 := by
  have read : ((decide (65 ≤ c.val ∧ c.val ≤ 90) || (decide (97 ≤ c.val) && decide (c.val ≤ 122)))
    || c.isDigit) = true := alphanumeric
  rw [Bool.or_eq_true,Char.isDigit_iff_toNat] at read
  simp only [Bool.or_eq_true,Bool.and_eq_true,decide_eq_true_eq,UInt32.le_iff_toNat_le] at read
  change ((65 ≤ c.toNat ∧ c.toNat ≤ 90) ∨ 97 ≤ c.toNat ∧ c.toNat ≤ 122) ∨
    48 ≤ c.toNat ∧ c.toNat ≤ 57 at read
  omega

/-- Letters and digits are none of the listed characters. -/
theorem unreserved_or_listed {c : Char} {listed : List Char} {p : Char → Prop}
    (letters : ∀ c : Char, c.isAlphanum = true → p c) (marks : ∀ c, c ∈ "_.-~".toList → p c)
    (others : ∀ c, c ∈ listed → p c)
    (within : (isUnreserved c || decide (c ∈ listed)) = true) : p c := by
  rcases Bool.or_eq_true_iff.mp within with unreserved | member
  · rcases Bool.or_eq_true_iff.mp unreserved with alphanumeric | mark
    · exact letters c alphanumeric
    · exact marks c (of_decide_eq_true mark)
  · exact others c (of_decide_eq_true member)

theorem safe_printable {c : Char} (safe : isRedirectSafe c = true) :
    32 < c.toNat ∧ c ≠ '\\' := by
  have marks : ∀ c, c ∈ "_.-~".toList → 32 < c.toNat ∧ c ≠ '\\' :=
    List.all_iff_forall_prop.mp (by decide)
  have others : ∀ c, c ∈ ":/%#?=@[]!$&'()*+,;".toList → 32 < c.toNat ∧ c ≠ '\\' :=
    List.all_iff_forall_prop.mp (by decide)
  refine unreserved_or_listed (fun c letter => ?_) marks others safe
  have bounds := isAlphanum_bounds letter
  constructor
  · omega
  · intro same
    rw [same] at bounds
    exact absurd bounds (by decide)

theorem host_plain {c : Char} (host : isHostChar c = true) :
    endsAuthority c = false ∧ c ≠ '@' := by
  have marks : ∀ c, c ∈ "_.-~".toList → endsAuthority c = false ∧ c ≠ '@' :=
    List.all_iff_forall_prop.mp (by decide)
  have others : ∀ c, c ∈ "%!$&'()*+,;=[]:".toList → endsAuthority c = false ∧ c ≠ '@' :=
    List.all_iff_forall_prop.mp (by decide)
  refine unreserved_or_listed (fun c letter => ?_) marks others host
  have bounds := isAlphanum_bounds letter
  have apart {other : Char} (outside : ¬(48 ≤ other.toNat ∧ other.toNat ≤ 57 ∨
      65 ≤ other.toNat ∧ other.toNat ≤ 90 ∨ 97 ≤ other.toNat ∧ other.toNat ≤ 122)) :
      c ≠ other := by
    intro same
    rw [same] at bounds
    exact outside bounds
  constructor
  · simp only [endsAuthority,isSlash,Bool.or_eq_false_iff,beq_eq_false_iff_ne]
    exact ⟨⟨⟨apart (by decide),apart (by decide)⟩,apart (by decide)⟩,apart (by decide)⟩
  · exact apart (by decide)

theorem safe_hexDigit : ∀ digit, digit < 16 → isRedirectSafe (hexDigit digit) = true := by decide

theorem encoded_safe {c : Char} {text : List Char}
    (member : c ∈ percentEncode isRedirectSafe text) : isRedirectSafe c = true := by
  rcases mem_percentEncode member with safe | rfl | ⟨digit,small,rfl⟩
  · exact safe
  · decide
  · exact safe_hexDigit digit small

end Characters

section Locations
variable {Origin : Type} {parseAuthority : List Char → List Char → Option Origin}

theorem sanitizeNext_some {value : Option String} {text : String}
    (checked : sanitizeNext value = some text) :
    value = some text ∧ text ≠ "" ∧ ∃ rest, text.toList = '/' :: rest ∧ rest.head? ≠ some '/' := by
  unfold sanitizeNext at checked
  cases given : truthy value with
  | none =>
    rw [given] at checked
    cases checked
  | some target =>
    obtain ⟨present,nonempty⟩ := truthy_eq_some.mp given
    rw [given] at checked
    simp only at checked
    split at checked
    · cases checked
    · next rooted =>
      split at checked
      · cases checked
      · next single =>
        split at checked
        · cases checked
        · cases checked
          refine ⟨present,nonempty,?_⟩
          cases characters : text.toList with
          | nil =>
            rw [characters] at rooted
            exact absurd (by decide) rooted
          | cons c rest =>
            rw [characters] at rooted single
            have first : c = '/' := by simpa using rooted
            subst first
            refine ⟨rest,rfl,?_⟩
            intro second
            apply single
            cases rest with
            | nil => cases second
            | cons d rest =>
              cases second
              rfl

theorem resolve_sanitized {value : Option String} {text : String}
    (checked : sanitizeNext value = some text) (scheme : List Char) (origin : Origin) :
    resolve parseAuthority scheme origin (redirectLocation text).toList = some origin := by
  obtain ⟨_,_,rest,characters,single⟩ := sanitizeNext_some checked
  have location : (redirectLocation text).toList = '/' :: percentEncode isRedirectSafe rest := by
    rw [redirectLocation,String.toList_ofList,characters,percentEncode_cons]
    rfl
  rw [location]
  apply resolve_path
  · intro c member
    rcases List.mem_cons.mp member with rfl | later
    · decide
    · exact (safe_printable (encoded_safe later)).1
  · intro c first
    have notBackslash := (safe_printable (encoded_safe (List.mem_of_head? first))).2
    have notSlash : c ≠ '/' := by
      cases rest with
      | nil => cases first
      | cons d rest =>
        rcases head_percentEncode first with ⟨rfl,_⟩ | rfl
        · intro same
          exact single (same ▸ rfl)
        · decide
    simp [isSlash,notSlash,notBackslash]

theorem toList_rstripSlash (text : String) : (rstripSlash text).toList =
    (text.toList.reverse.dropWhile (fun c => c == '/')).reverse := String.toList_ofList

/-- What is left of a path without the slashes at its end still starts with a slash. -/
theorem head_stripped {path : List Char} (rooted : path.head? = some '/') {c : Char}
    (first : (path.reverse.dropWhile (fun c => c == '/')).reverse.head? = some c) : c = '/' := by
  have initial : (path.reverse.dropWhile (fun c => c == '/')).reverse <+: path := by
    rw [← List.reverse_suffix,List.reverse_reverse]
    exact List.dropWhile_suffix _
  obtain ⟨dropped,whole⟩ := initial
  cases stripped : (path.reverse.dropWhile (fun c => c == '/')).reverse with
  | nil =>
    rw [stripped] at first
    cases first
  | cons d rest =>
    rw [stripped] at first whole
    cases first
    rw [← whole] at rooted
    cases rooted
    rfl

/-- Stripping the slashes at the end of a base URL leaves its authority alone. -/
theorem rstripSlash_text (base : BaseUrl parseAuthority) :
    (rstripSlash base.text).toList = base.scheme ++ "://".toList ++ base.authority ++
      (base.path.reverse.dropWhile (fun c => c == '/')).reverse := by
  have kept : (base.scheme ++ "://".toList ++ base.authority).reverse.dropWhile
      (fun c => c == '/') = (base.scheme ++ "://".toList ++ base.authority).reverse := by
    rw [List.reverse_append]
    cases reversed : base.authority.reverse with
    | nil => exact absurd (List.reverse_eq_nil_iff.mp reversed) base.nonempty
    | cons c others =>
      have member : c ∈ base.authority := by
        rw [← List.mem_reverse,reversed]
        exact List.mem_cons_self
      have ends := (host_plain (base.hostChars c member)).1
      simp only [endsAuthority,isSlash,Bool.or_eq_false_iff] at ends
      rw [List.cons_append]
      exact List.dropWhile_cons_of_neg (by simp [ends.1.1.1])
  rw [toList_rstripSlash,BaseUrl.text,String.toList_ofList,List.reverse_append,
    List.dropWhile_append,kept]
  split
  · next empty =>
    rw [List.isEmpty_iff.mp empty,List.reverse_reverse]
    simp
  · rw [List.reverse_append,List.reverse_reverse]

theorem head_encoded {rest : List Char} (rooted : ∀ c, rest.head? = some c → c = '/') {c : Char}
    (first : (percentEncode isRedirectSafe rest).head? = some c) : c = '/' := by
  cases rest with
  | nil => cases first
  | cons d rest =>
    rw [rooted d rfl] at first
    cases first
    rfl

/-- A page below the base URL has the origin of the application. -/
theorem resolve_below (base : BaseUrl parseAuthority) {path : String}
    (below : ∀ c, path.toList.head? = some c → c = '/') :
    resolve parseAuthority base.scheme base.origin
      (redirectLocation (rstripSlash base.text ++ path)).toList = some base.origin := by
  let rest := (base.path.reverse.dropWhile (fun c => c == '/')).reverse ++ path.toList
  have rooted : ∀ c, rest.head? = some c → c = '/' := by
    intro c first
    rw [List.head?_append] at first
    rcases Option.or_eq_some_iff.mp first with inner | ⟨_,outer⟩
    · exact head_stripped base.rooted inner
    · exact below c outer
  have safeScheme : ∀ c, c ∈ base.scheme ++ "://".toList → isRedirectSafe c = true := by
    rcases base.http with http | https
    · rw [http]
      exact List.all_eq_true.mp (by decide)
    · rw [https]
      exact List.all_eq_true.mp (by decide)
  have location : (redirectLocation (rstripSlash base.text ++ path)).toList =
      base.scheme ++ "://".toList ++ base.authority ++ percentEncode isRedirectSafe rest := by
    rw [redirectLocation,String.toList_ofList,String.toList_append,rstripSlash_text,
      List.append_assoc,percentEncode_append,percentEncode_append,percentEncode_of_safe safeScheme,
      percentEncode_of_safe (fun c member => safe_of_hostChar (base.hostChars c member))]
  rw [location,← base.parsed]
  apply resolve_absolute base.http
  · intro c member
    rcases List.mem_append.mp member with front | later
    · rcases List.mem_append.mp front with scheme | authority
      · exact (safe_printable (safeScheme c scheme)).1
      · exact (safe_printable (safe_of_hostChar (base.hostChars c authority))).1
    · exact (safe_printable (encoded_safe later)).1
  · exact base.nonempty
  · intro c member
    exact host_plain (base.hostChars c member)
  · intro c first
    rw [head_encoded rooted first]
    rfl

end Locations
section Sessions
variable {Origin : Type} {parseAuthority : List Char → List Char → Option Origin}
  (settings : AuthSettings)

/-- A target kept in the session has passed the check. -/
def KeepsCheckedTarget (session : Session) : Prop :=
  ∀ value, OrderedDict.get session "redirect_after_login" = some value →
    ∃ next text, value = .str text ∧ sanitizeNext next = some text

theorem KeepsCheckedTarget.of_same {session reached : Session}
    (checked : KeepsCheckedTarget session)
    (same : OrderedDict.get reached "redirect_after_login" =
      OrderedDict.get session "redirect_after_login") : KeepsCheckedTarget reached := by
  intro value found
  rw [same] at found
  exact checked value found

theorem keepsCheckedTarget_nil : KeepsCheckedTarget [] := by
  intro value found
  cases found

theorem get_pop_self (key : String) (session : Session) :
    OrderedDict.get (Session.pop key session) key = none := by
  simp [Session.pop,OrderedDict.get,firstWhere]

theorem get_persistSessionAuth {config : SessionConfig} {now : ℚ} {session reached : Session}
    {response : PyValue} (ran : persistSessionAuth config now session response = .ok reached) :
    OrderedDict.get reached "redirect_after_login" =
      OrderedDict.get session "redirect_after_login" := by
  have recorded (expiry : Option Int) : OrderedDict.get (recordExpiry expiry session)
      "redirect_after_login" = OrderedDict.get session "redirect_after_login" := by
    cases expiry with
    | some expiry => exact get_set_of_ne (by decide) _ _
    | none => exact get_pop_of_ne (by decide) _
  unfold persistSessionAuth at ran
  obtain ⟨expiry,_,ran⟩ := bind_ok ran
  split at ran
  · obtain ⟨refreshToken,_,ran⟩ := bind_ok ran
    split at ran
    · cases ran
      exact (get_set_of_ne (by decide) _ _).trans (recorded expiry)
    · cases ran
      exact recorded expiry
  · cases ran
    exact (get_pop_of_ne (by decide) _).trans (recorded expiry)

theorem authenticateSession_keeps {config : SessionConfig} {fetch : FetchAccessToken}
    {now later : ℚ} {session : Session} (checked : KeepsCheckedTarget session) :
    KeepsCheckedTarget (authenticateSession config fetch now later session).2 := by
  rcases authenticateSession_cases config fetch now later session with
    ⟨reached,refused,rfl | rfl⟩ | ⟨_,_,_,⟨_,same⟩ | ⟨_,refreshed,ran,same⟩⟩
  · rw [refused]
    exact checked
  · rw [refused]
    exact keepsCheckedTarget_nil
  · rw [same]
    exact checked
  · rw [same]
    obtain ⟨response,_,persisted⟩ := refresh_iff.mp ran
    exact checked.of_same (get_persistSessionAuth persisted)

theorem ClientCall.keepsCheckedTarget {Result : Type} (call : ClientCall Result)
    {session : Session} (checked : KeepsCheckedTarget session) :
    KeepsCheckedTarget (call.run session).2 :=
  checked.of_same (call.keeps session _ (by decide))

/-- A login puts a checked target into the session or leaves the one that is there. -/
theorem login_keeps (oidcConfigured : Bool) (next : Option String) (oauthState : String)
    (authorizeRedirect : ClientCall String) {session : Session}
    (checked : KeepsCheckedTarget session) :
    KeepsCheckedTarget (login oidcConfigured next oauthState authorizeRedirect session).2 := by
  unfold login
  split
  · exact checked
  · have stated : KeepsCheckedTarget (OrderedDict.set "oauth_state" (.str oauthState) session) :=
      checked.of_same (get_set_of_ne (by decide) _ _)
    have targeted : KeepsCheckedTarget
        (match sanitizeNext next with
        | some target => OrderedDict.set "redirect_after_login" (.str target)
            (OrderedDict.set "oauth_state" (.str oauthState) session)
        | none => OrderedDict.set "oauth_state" (.str oauthState) session) := by
      split
      · next target accepted =>
        intro value found
        rw [get_set_self] at found
        cases found
        exact ⟨next,target,rfl,accepted⟩
      · exact stated
    have called := authorizeRedirect.keepsCheckedTarget targeted
    simp only
    split
    · next ran =>
      rw [ran] at called
      exact called
    · next ran =>
      rw [ran] at called
      exact called

theorem retry_keeps (attempts : ClientCall PyValue × ClientCall PyValue) {session : Session}
    (checked : KeepsCheckedTarget session) :
    KeepsCheckedTarget (authorizeAccessTokenWithRetry attempts session).2 := by
  have first := attempts.1.keepsCheckedTarget checked
  unfold authorizeAccessTokenWithRetry
  split
  · next ran =>
    rw [ran] at first
    exact first
  · next ran =>
    rw [ran] at first
    exact attempts.2.keepsCheckedTarget first

theorem processed_keeps (request : CallbackRequest parseAuthority) {session : Session}
    (checked : KeepsCheckedTarget session) :
    KeepsCheckedTarget (processOidcCallbackFastapi settings request session).2 := by
  unfold processOidcCallbackFastapi
  have popped : KeepsCheckedTarget (Session.pop "oauth_state" session) :=
    checked.of_same (get_pop_of_ne (by decide) _)
  split
  · split
    · exact checked
    · exact checked
  · simp only
    split
    · exact checked
    · split
      · exact popped
      · exact popped
      · next attempts _ _ =>
        have exchanged := retry_keeps attempts popped
        split
        · next ran =>
          rw [ran] at exchanged
          exact exchanged
        · next response reached ran =>
          rw [ran] at exchanged
          split
          · exact exchanged
          · split
            · exact exchanged
            · split
              · exact exchanged
              · next persisted => exact exchanged.of_same (get_persistSessionAuth persisted)

theorem head_uiUrl {path : String} (errors : List String) {c : Char}
    (first : (uiRouterPrefix ++ path ++
      (if errors.isEmpty then "" else "?" ++ urlencodeErrors errors)).toList.head? = some c) :
    c = '/' := by
  rw [String.toList_append,String.toList_append] at first
  cases first
  rfl

theorem resolve_uiUrl (base : BaseUrl parseAuthority) (path : String) (errors : List String) :
    resolve parseAuthority base.scheme base.origin
      (redirectLocation (buildUiUrl base.text path errors)).toList = some base.origin :=
  resolve_below base (fun _ first => head_uiUrl errors first)

/-- The target of a login leads to the stored path or to a page of the application. -/
theorem resolve_defaultRedirect (base : BaseUrl parseAuthority) {session : Session}
    (checked : KeepsCheckedTarget session) :
    resolve parseAuthority base.scheme base.origin
      (redirectLocation (defaultRedirect settings base.text
        (OrderedDict.get session "redirect_after_login"))).toList = some base.origin := by
  unfold defaultRedirect
  cases found : (OrderedDict.get session "redirect_after_login").filter PyValue.truthy with
  | none =>
    simp only
    split
    · exact resolve_uiUrl base "/user" []
    · have whole : rstripSlash base.text = rstripSlash base.text ++ "" := String.append_empty.symm
      rw [whole]
      apply resolve_below
      intro c first
      cases first
  | some value =>
    obtain ⟨next,text,rfl,accepted⟩ := checked value (Option.filter_eq_some_iff.mp found).1
    exact resolve_sanitized accepted base.scheme base.origin

theorem finishCallback_redirect (base : BaseUrl parseAuthority) (email : Option String)
    (errors : List String) {session : Session} (checked : KeepsCheckedTarget session)
    {location : String}
    (answered : (finishCallback settings base.text email errors session).1 = .redirect location) :
    resolve parseAuthority base.scheme base.origin location.toList = some base.origin := by
  unfold finishCallback at answered
  split at answered
  · rw [AuthAnswer.redirect.injEq] at answered
    rw [← answered]
    exact resolve_uiUrl base "/auth" errors
  · split at answered
    · cases answered
    · next email _ =>
      have kept : KeepsCheckedTarget (OrderedDict.set "authenticated" (.bool true)
          (OrderedDict.set "username" (.str email) session)) :=
        checked.of_same ((get_set_of_ne (by decide) _ _).trans (get_set_of_ne (by decide) _ _))
      rw [AuthAnswer.redirect.injEq] at answered
      rw [← answered]
      exact resolve_defaultRedirect settings base kept

theorem finishCallback_keeps (baseUrl : String) (email : Option String) (errors : List String)
    {session : Session} (checked : KeepsCheckedTarget session) :
    KeepsCheckedTarget (finishCallback settings baseUrl email errors session).2 := by
  unfold finishCallback
  split
  · exact checked
  · split
    · exact checked
    · intro value found
      rw [get_pop_self] at found
      cases found

/-- Every redirect of a callback stays on the origin of the application. -/
theorem callback_redirect (request : CallbackRequest parseAuthority) {session : Session}
    (checked : KeepsCheckedTarget session) {location : String}
    (answered : (callback settings request session).1 = .redirect location) :
    resolve parseAuthority request.baseUrl.scheme request.baseUrl.origin location.toList =
      some request.baseUrl.origin := by
  unfold callback at answered
  split at answered
  · rw [AuthAnswer.redirect.injEq] at answered
    rw [← answered]
    exact resolve_uiUrl request.baseUrl "/auth" _
  · exact finishCallback_redirect settings request.baseUrl _ _
      (processed_keeps settings request checked) answered

theorem callback_keeps (request : CallbackRequest parseAuthority) {session : Session}
    (checked : KeepsCheckedTarget session) :
    KeepsCheckedTarget (callback settings request session).2 := by
  unfold callback
  split
  · exact checked
  · exact finishCallback_keeps settings _ _ _ (processed_keeps settings request checked)

theorem authStep_keeps (event : AuthEvent parseAuthority) {session : Session}
    (checked : KeepsCheckedTarget session) :
    KeepsCheckedTarget (authStep settings session event).2 := by
  cases event with
  | login oidcConfigured next oauthState authorizeRedirect =>
    exact login_keeps oidcConfigured next oauthState authorizeRedirect checked
  | callback request => exact callback_keeps settings request checked
  | logout location => exact keepsCheckedTarget_nil
  | authenticate fetch now later => exact authenticateSession_keeps checked

/-- The redirect of a callback, resolved as a browser does, is on the application's origin. -/
def StaysOnOrigin (event : AuthEvent parseAuthority) (answer : AuthAnswer) : Prop :=
  ∀ request, event = .callback request → ∀ location, answer = .redirect location →
    resolve parseAuthority request.baseUrl.scheme request.baseUrl.origin location.toList =
      some request.baseUrl.origin

/-- Whatever logins, callbacks, logouts and requests came before, every callback stays on the
origin of the application. -/
theorem run_stays_on_origin (events : List (AuthEvent parseAuthority))
    (moment : Run.Moment Session (AuthEvent parseAuthority) AuthAnswer)
    (member : moment ∈ Run.moments (authStep settings) [] events) :
    StaysOnOrigin moment.event moment.answer := by
  have keeps : ∀ session (event : AuthEvent parseAuthority), KeepsCheckedTarget session → True →
      StaysOnOrigin event (authStep settings session event).1 ∧
        KeepsCheckedTarget (authStep settings session event).2 := by
    intro session event checked _
    refine ⟨?_,authStep_keeps settings event checked⟩
    intro request called location answered
    subst called
    exact callback_redirect settings request checked answered
  exact Run.moments_satisfy KeepsCheckedTarget (fun _ _ => True)
    (fun _ event answer => StaysOnOrigin event answer) keeps keepsCheckedTarget_nil
    (fun _ _ => trivial) moment member

end Sessions

section Backslash

def writtenAuthority (scheme authority : List Char) : Option (String × String) :=
  some (String.ofList scheme,String.ofList authority)

def mlflowLan : BaseUrl writtenAuthority where
  scheme := "https".toList
  authority := "mlflow.lan".toList
  path := "/".toList
  origin := ("https","mlflow.lan")
  http := by decide
  nonempty := by decide
  hostChars := List.all_eq_true.mp (by decide)
  rooted := by decide
  parsed := by decide

def untouched {Result : Type} (result : Result) : ClientCall Result :=
  ⟨fun session => (.ok result,session),fun _ _ _ => rfl⟩

def plainSettings : AuthSettings := ⟨⟨false,0⟩,false,id,fun _ => ""⟩

def aliceReturns : CallbackRequest writtenAuthority where
  baseUrl := mlflowLan
  oidcConfigured := true
  error := none
  errorDescription := none
  state := some "s"
  code := some "c"
  authorizeAccessToken := some (untouched (.dict [("access_token",.str "t")]),
    untouched (.dict [("access_token",.str "t")]))
  manageUser := fun _ => .ok (some "alice")
  now := 0

def backslashEvents : List (AuthEvent writtenAuthority) :=
  [.login true (some "/\\evil.example") "s" (untouched "https://idp.lan"),.callback aliceReturns]

theorem backslash_stays :
    StaysOnOrigin (.callback aliceReturns) (.redirect "/%5Cevil.example") := by
  have member : (⟨[("oauth_state",.str "s"),("redirect_after_login",.str "/\\evil.example")],
      .callback aliceReturns,.redirect "/%5Cevil.example"⟩ : Run.Moment Session _ _) ∈
      Run.moments (authStep plainSettings) [] backslashEvents :=
    List.mem_cons_of_mem _ (List.mem_cons.mpr (.inl rfl))
  exact run_stays_on_origin plainSettings backslashEvents _ member

end Backslash
end MlflowOidcAuth
