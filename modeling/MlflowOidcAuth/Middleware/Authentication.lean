import MlflowOidcAuth.Hook.Dispatch
import MlflowOidcAuth.Middleware.BasicAuth
import MlflowOidcAuth.Middleware.ProxyHeaders
import MlflowOidcAuth.Middleware.SessionExpiry

/-! Who a request is authenticated as: by the credentials of its `Authorization` header, or else
by its session. A header that fails is not made up for by the session. -/
namespace MlflowOidcAuth

/-- The content of a session that the server has signed; the name in it is a text. -/
structure ClientSession where
  entries : Session
  named : ∀ value, OrderedDict.get entries "username" = some value → ∃ name, value = .str name

/-- A request as it arrives, with the names of its headers in lower case. -/
structure WebRequest extends FlaskRequest where
  headers : List (String × String)
  session : ClientSession
  scheme : String := "http"
  server : Option (String × Option Int) := none
  rootPath : String := ""
  queryString : String := ""
  client : Option String := none

def WebRequest.scope (request : WebRequest) : Scope where
  scheme := request.scheme
  server := request.server
  rootPath := request.rootPath
  path := request.path
  queryString := request.queryString
  headers := request.headers
  client := request.client

def WebRequest.header (request : WebRequest) (name : String) : Option String :=
  request.headers.lookup name

/-- The readings of the clock: for tokens in microseconds, for the check of a session and, later,
its refresh in seconds. -/
structure Clock where
  instant : Int
  now : ℚ
  later : ℚ

structure MiddlewareEnv extends AuthEnv where
  session : SessionConfig
  fetchAccessToken : FetchAccessToken
  validateToken : String → Except Failure PyValue
  oidcUsernameField : List String
  resolveWorkspace : String → Option String → Except Nat (Option String)
  automaticLoginRedirect : Bool

section Claims

/-- The fields in order: the first text that is not blank, or the message about the first value
that is no text. -/
def scanFields (payload : PyValue) (fieldTypeName : String) :
    List String → Except Failure (Option (Except String String))
  | [] => .ok none
  | field :: rest => do
    match ← payload.get field with
    | none | some .none => scanFields payload fieldTypeName rest
    | some (.str value) =>
      if strip value.toList = "" then scanFields payload fieldTypeName rest
      else return some (.ok value)
    | some _ =>
      return some (.error ("Invalid OIDC " ++ fieldTypeName ++ " field: " ++ field ++
        " is not a string"))

def missingClaim (fieldList : List String) (fieldTypeName : String) : String :=
  let label := String.ofList (fieldTypeName.toList.map (fun c => if c = '_' then ' ' else c))
  match fieldList with
  | [field] => "Could not determine " ++ label ++
      ": the identity provider did not provide a non-empty value for the '" ++ field ++ "' claim"
  | _ => "Could not determine " ++ label ++
      ": the identity provider did not provide a non-empty value for any of the claims " ++
      String.intercalate ", " (fieldList.map (fun field => "'" ++ field ++ "'"))

def extractFieldFromPayload (payload : PyValue) (fieldList : List String)
    (fieldTypeName : String) : Except Failure (Except String String) :=
  if fieldList = [] then .ok (.error ("No " ++ fieldTypeName ++ " fields configured"))
  else do
    match ← scanFields payload fieldTypeName fieldList with
    | some found => return found
    | none => return .error (missingClaim fieldList fieldTypeName)

def extractUsername (env : MiddlewareEnv) (payload : PyValue) :
    Except Failure (Except String String) :=
  (extractFieldFromPayload payload env.oidcUsernameField "username").map (Except.map env.lower)

/-- The field that decides: those before it are missing or blank. -/
def DecidingClaim (payload : PyValue) (fieldList : List String) (value : String) : Prop :=
  ∃ before field after, fieldList = before ++ field :: after ∧
    payload.get field = .ok (some (.str value)) ∧ strip value.toList ≠ "" ∧
    ∀ earlier ∈ before, payload.get earlier = .ok none ∨ payload.get earlier = .ok (some .none) ∨
      ∃ blank, payload.get earlier = .ok (some (.str blank)) ∧ strip blank.toList = ""

end Claims

section Identity
variable (env : MiddlewareEnv) (clock : Clock) (t : Tables)

def authenticateBearerToken (authHeader : String) : Bool × Option String × String :=
  match splitOnce ' ' authHeader with
  | none => (false,none,"Invalid token")
  | some (_,token) =>
    match env.validateToken token >>= extractUsername env with
    | .error _ => (false,none,"Invalid token")
    | .ok (.error message) => (false,none,message)
    | .ok (.ok username) =>
      if username = "" then (false,none,"Invalid token payload") else (true,some username,"")

/-- The name that is let in, if one is. -/
def accepted : Bool × Option String × String → Option String
  | (true,username,_) => truthy username
  | (false,_,_) => none

def sessionName : Option PyValue → Option String
  | some (.str name) => some name
  | _ => none

/-- `_authenticate_user`, with the session afterwards. -/
def authenticateUser (request : WebRequest) : Option String × Session :=
  let bySession := authenticateSession env.session env.fetchAccessToken clock.now clock.later
    request.session.entries
  match request.header "authorization" with
  | some authHeader =>
    if startsWith "Basic " authHeader then
      (accepted (authenticateBasicAuth env.toAuthEnv clock.instant authHeader t),
        request.session.entries)
    else if startsWith "Bearer " authHeader then
      (accepted (authenticateBearerToken env authHeader),request.session.entries)
    else (truthy (sessionName bySession.1),bySession.2)
  | none => (truthy (sessionName bySession.1),bySession.2)

/-- The header does not decide who the request is from. -/
def WebRequest.BySession (request : WebRequest) : Prop :=
  ∀ authHeader, request.header "authorization" = some authHeader →
    startsWith "Basic " authHeader = false ∧ startsWith "Bearer " authHeader = false

/-- What shows that a request is from a user. -/
inductive Identifies (request : WebRequest) : String → Prop
  | basic {authHeader asked password : String}
      (sent : request.header "authorization" = some authHeader)
      (scheme : startsWith "Basic " authHeader = true)
      (read : basicCredentials authHeader = some (asked,password))
      (verified : authenticate env.toTokenEnv clock.instant (env.lower asked) password t = .ok true) :
      Identifies request (env.lower asked)
  | bearer {authHeader scheme token claim : String} {payload : PyValue}
      (sent : request.header "authorization" = some authHeader)
      (bearer : startsWith "Bearer " authHeader = true)
      (read : splitOnce ' ' authHeader = some (scheme,token))
      (validated : env.validateToken token = .ok payload)
      (claimed : DecidingClaim payload env.oidcUsernameField claim) :
      Identifies request (env.lower claim)
  | session {name : String} (undecided : request.BySession)
      (stored : OrderedDict.get request.session.entries "username" = some (.str name))
      (lasting : isSessionExpired env.session clock.now request.session.entries = false ∨
        ∃ refreshed, refreshSessionWithIdp env.session env.fetchAccessToken clock.later
          request.session.entries = .ok (some refreshed)) :
      Identifies request name

end Identity

section Claims
variable {payload : PyValue} {fieldTypeName value : String} {fieldList : List String}

theorem scanFields_iff : scanFields payload fieldTypeName fieldList = .ok (some (.ok value)) ↔
    DecidingClaim payload fieldList value := by
  induction fieldList with
  | nil =>
    constructor
    · intro found
      cases found
    · intro claimed
      obtain ⟨before,field,after,split,_⟩ := claimed
      simp at split
  | cons field rest ih =>
    -- A field without a value decides nothing, so the rest does.
    have skips : (payload.get field = .ok none ∨ payload.get field = .ok (some .none) ∨
        ∃ blank, payload.get field = .ok (some (.str blank)) ∧ strip blank.toList = "") →
        (DecidingClaim payload (field :: rest) value ↔ DecidingClaim payload rest value) := by
      intro silent
      constructor
      · intro claimed
        obtain ⟨before,decides,after,split,held,solid,skipped⟩ := claimed
        cases before with
        | nil =>
          cases split
          rcases silent with absent | null | ⟨blank,held',empty⟩
          · simp [absent] at held
          · simp [null] at held
          · rw [held',Except.ok.injEq,Option.some.injEq,PyValue.str.injEq] at held
            exact absurd (held ▸ empty) solid
        | cons first before =>
          cases split
          exact ⟨before,decides,after,rfl,held,solid,
            fun earlier member => skipped earlier (List.mem_cons_of_mem _ member)⟩
      · intro claimed
        obtain ⟨before,decides,after,rfl,held,solid,skipped⟩ := claimed
        refine ⟨field :: before,decides,after,rfl,held,solid,?_⟩
        intro earlier member
        rcases List.mem_cons.mp member with rfl | later
        · exact silent
        · exact skipped earlier later
    have decides : ∀ {value'}, payload.get field = .ok (some value') →
        (∀ text, value' = .str text → strip text.toList ≠ "") → value' ≠ .none →
        (DecidingClaim payload (field :: rest) value ↔ value' = .str value) := by
      intro value' held solid present
      constructor
      · intro claimed
        obtain ⟨before,deciding,after,split,held',_,skipped⟩ := claimed
        cases before with
        | nil =>
          cases split
          rw [held,Except.ok.injEq,Option.some.injEq] at held'
          exact held'
        | cons first before =>
          cases split
          rcases skipped field List.mem_cons_self with absent | null | ⟨blank,held',empty⟩
          · simp [held] at absent
          · simp only [held,Except.ok.injEq,Option.some.injEq] at null
            exact absurd null present
          · simp only [held,Except.ok.injEq,Option.some.injEq] at held'
            exact absurd empty (solid blank held')
      · intro same
        subst same
        exact ⟨[],field,rest,rfl,held,solid value rfl,by simp⟩
    simp only [scanFields]
    cases read : payload.get field with
    | error failure =>
      constructor
      · intro found
        cases found
      · intro claimed
        obtain ⟨before,deciding,after,split,held,_,skipped⟩ := claimed
        cases before with
        | nil =>
          cases split
          simp [read] at held
        | cons first before =>
          cases split
          simp [read] at skipped
    | ok found =>
      cases found with
      | none => exact ih.trans (skips (.inl read)).symm
      | some value' =>
        cases value' with
        | none => exact ih.trans (skips (.inr (.inl read))).symm
        | str text =>
          by_cases blank : strip text.toList = ""
          · simp only [bind,Except.bind,blank,if_true]
            exact ih.trans (skips (.inr (.inr ⟨text,read,blank⟩))).symm
          · rw [decides read (by rintro _ ⟨⟩; exact blank) (by simp)]
            simp [bind,Except.bind,blank,pure,Except.pure]
        | bool | int | float | list | dict =>
          rw [decides read (by simp) (by simp)]
          simp [bind,Except.bind,pure,Except.pure]

theorem extractUsername_iff {env : MiddlewareEnv} {username : String} :
    extractUsername env payload = .ok (.ok username) ↔
      ∃ claim, DecidingClaim payload env.oidcUsernameField claim ∧ env.lower claim = username := by
  unfold extractUsername extractFieldFromPayload
  by_cases unconfigured : env.oidcUsernameField = []
  · simp only [unconfigured,if_true,Except.map]
    constructor
    · intro found
      cases found
    · intro claimed
      obtain ⟨claim,⟨before,field,after,split,_⟩,_⟩ := claimed
      simp at split
  · have decides := fun claim =>
      @scanFields_iff payload "username" claim env.oidcUsernameField
    simp only [unconfigured,if_false,← decides]
    cases scanned : scanFields payload "username" env.oidcUsernameField with
    | error failure => simp [Except.map,bind,Except.bind]
    | ok found =>
      cases found with
      | none => simp [Except.map,bind,Except.bind,pure,Except.pure]
      | some result => cases result <;> simp [Except.map,bind,Except.bind,pure,Except.pure]

end Claims

section Identity
variable {env : MiddlewareEnv} {clock : Clock} {t : Tables} {request : WebRequest}
  {username authHeader : String}

theorem accepted_iff {answer : Bool × Option String × String} : accepted answer = some username ↔
    ∃ message, answer = (true,some username,message) ∧ username ≠ "" := by
  obtain ⟨verified,name,message⟩ := answer
  cases verified <;> simp [accepted,truthy_eq_some]

theorem accepted_basic :
    accepted (authenticateBasicAuth env.toAuthEnv clock.instant authHeader t) = some username ↔
      username ≠ "" ∧ ∃ asked password, basicCredentials authHeader = some (asked,password) ∧
        authenticate env.toTokenEnv clock.instant (env.lower asked) password t = .ok true ∧
        env.lower asked = username := by
  rw [accepted_iff]
  unfold authenticateBasicAuth
  cases read : basicCredentials authHeader with
  | none => simp
  | some credentials =>
    obtain ⟨asked,password⟩ := credentials
    simp only [Option.some.injEq,Prod.mk.injEq]
    cases verified : authenticate env.toTokenEnv clock.instant (env.lower asked) password t with
    | error failure => simp_all
    | ok verdict => cases verdict <;> simp_all [and_comm]

theorem accepted_bearer : accepted (authenticateBearerToken env authHeader) = some username ↔
    username ≠ "" ∧ ∃ scheme token payload claim, splitOnce ' ' authHeader = some (scheme,token) ∧
      env.validateToken token = .ok payload ∧
      DecidingClaim payload env.oidcUsernameField claim ∧ env.lower claim = username := by
  rw [accepted_iff]
  unfold authenticateBearerToken
  cases read : splitOnce ' ' authHeader with
  | none => simp
  | some pieces =>
    obtain ⟨scheme,token⟩ := pieces
    cases validated : env.validateToken token with
    | error failure => simp [bind,Except.bind,validated]
    | ok payload =>
      have claims := @extractUsername_iff payload env username
      cases extracted : extractUsername env payload with
      | error failure => simp_all [bind,Except.bind]
      | ok found =>
        cases found with
        | error message => simp_all [bind,Except.bind]
        | ok name =>
          rw [extracted,Except.ok.injEq,Except.ok.injEq] at claims
          by_cases empty : name = ""
          · subst empty
            simp only [bind,Except.bind,validated,extracted,if_true]
            constructor
            · intro impossible
              obtain ⟨_,impossible,_⟩ := impossible
              cases impossible
            · intro identified
              obtain ⟨solid,scheme',token',payload',claim,pieces,validated',claimed,lowered⟩ := identified
              cases pieces
              rw [validated,Except.ok.injEq] at validated'
              subst validated'
              exact absurd (claims.mpr ⟨claim,claimed,lowered⟩).symm solid
          · simp only [bind,Except.bind,validated,extracted,if_neg empty]
            constructor
            · intro answered
              obtain ⟨_,answered,solid⟩ := answered
              simp only [Prod.mk.injEq,Option.some.injEq,true_and] at answered
              obtain ⟨claim,claimed,lowered⟩ := claims.mp answered.1
              exact ⟨solid,scheme,token,payload,claim,rfl,validated,claimed,lowered⟩
            · intro identified
              obtain ⟨solid,scheme',token',payload',claim,pieces,validated',claimed,lowered⟩ := identified
              cases pieces
              rw [validated,Except.ok.injEq] at validated'
              subst validated'
              exact ⟨"",by rw [claims.mpr ⟨claim,claimed,lowered⟩],solid⟩

theorem accepted_session :
    truthy (sessionName (authenticateSession env.session env.fetchAccessToken clock.now clock.later
      request.session.entries).1) = some username ↔
      username ≠ "" ∧ OrderedDict.get request.session.entries "username" = some (.str username) ∧
        (isSessionExpired env.session clock.now request.session.entries = false ∨
          ∃ refreshed, refreshSessionWithIdp env.session env.fetchAccessToken clock.later
            request.session.entries = .ok (some refreshed)) := by
  rw [truthy_eq_some]
  unfold authenticateSession
  cases stored : OrderedDict.get request.session.entries "username" with
  | none => simp [sessionName]
  | some value =>
    obtain ⟨name,rfl⟩ := request.session.named value stored
    by_cases empty : name = ""
    · subst empty
      have missing : (some (PyValue.str "")).filter PyValue.truthy = none := rfl
      simp only [missing,sessionName,Option.some.injEq,PyValue.str.injEq]
      constructor
      · intro impossible
        cases impossible.1
      · intro identified
        exact absurd identified.2.1.symm identified.1
    · have present : (some (PyValue.str name)).filter PyValue.truthy = some (.str name) := by
        simp [PyValue.truthy,empty]
      simp only [present,Option.some.injEq,PyValue.str.injEq]
      cases expired : isSessionExpired env.session clock.now request.session.entries with
      | false => simp [sessionName,and_comm]
      | true =>
        cases refresh : refreshSessionWithIdp env.session env.fetchAccessToken clock.later
          request.session.entries with
        | error failure => simp [sessionName]
        | ok refreshed => cases refreshed <;> simp [sessionName,and_comm]

/-- Whoever is let in has shown who they are, by the header alone where it names a scheme. -/
theorem authenticateUser_iff : (authenticateUser env clock t request).1 = some username ↔
    username ≠ "" ∧ Identifies env clock t request username := by
  unfold authenticateUser
  cases sent : request.header "authorization" with
  | none =>
    have bySession : request.BySession := by
      intro authHeader sent'
      rw [sent] at sent'
      cases sent'
    simp only [accepted_session]
    constructor
    · intro identified
      exact ⟨identified.1,.session bySession identified.2.1 identified.2.2⟩
    · intro identified
      obtain ⟨solid,evidence⟩ := identified
      cases evidence with
      | basic sent' => simp [sent] at sent'
      | bearer sent' => simp [sent] at sent'
      | session undecided stored lasting => exact ⟨solid,stored,lasting⟩
  | some authHeader =>
    simp only
    split
    · next basic =>
      rw [accepted_basic]
      constructor
      · intro identified
        obtain ⟨solid,asked,password,read,verified,rfl⟩ := identified
        exact ⟨solid,.basic sent basic read verified⟩
      · intro identified
        obtain ⟨solid,evidence⟩ := identified
        cases evidence with
        | basic sent' scheme read verified =>
          rw [sent,Option.some.injEq] at sent'
          subst sent'
          exact ⟨solid,_,_,read,verified,rfl⟩
        | bearer sent' bearer =>
          rw [sent,Option.some.injEq] at sent'
          subst sent'
          have start : ∀ text : String, startsWith text authHeader = true →
              text.toList <+: authHeader.toList := fun text => List.isPrefixOf_iff_prefix.mp
          obtain ⟨rest,written⟩ := start "Basic " basic
          obtain ⟨rest',written'⟩ := start "Bearer " bearer
          rw [← written] at written'
          simp at written'
        | session undecided => simp [(undecided authHeader sent).1] at basic
    · next notBasic =>
      split
      · next bearer =>
        rw [accepted_bearer]
        constructor
        · intro identified
          obtain ⟨solid,scheme,token,payload,claim,read,validated,claimed,rfl⟩ := identified
          exact ⟨solid,.bearer sent bearer read validated claimed⟩
        · intro identified
          obtain ⟨solid,evidence⟩ := identified
          cases evidence with
          | basic sent' scheme =>
            rw [sent,Option.some.injEq] at sent'
            subst sent'
            exact absurd scheme notBasic
          | bearer sent' _ read validated claimed =>
            rw [sent,Option.some.injEq] at sent'
            subst sent'
            exact ⟨solid,_,_,_,_,read,validated,claimed,rfl⟩
          | session undecided => simp [(undecided authHeader sent).2] at bearer
      · next notBearer =>
        have bySession : request.BySession := by
          intro other sent'
          rw [sent,Option.some.injEq] at sent'
          subst sent'
          simpa using And.intro notBasic notBearer
        rw [accepted_session]
        constructor
        · intro identified
          exact ⟨identified.1,.session bySession identified.2.1 identified.2.2⟩
        · intro identified
          obtain ⟨solid,evidence⟩ := identified
          cases evidence with
          | basic sent' scheme =>
            rw [sent,Option.some.injEq] at sent'
            subst sent'
            exact absurd scheme notBasic
          | bearer sent' bearer =>
            rw [sent,Option.some.injEq] at sent'
            subst sent'
            exact absurd bearer notBearer
          | session undecided stored lasting => exact ⟨solid,stored,lasting⟩

end Identity

end MlflowOidcAuth
