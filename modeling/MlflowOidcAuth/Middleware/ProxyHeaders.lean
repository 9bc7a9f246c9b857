import MlflowOidcAuth.Tracking
import MlflowOidcAuth.Resolution.Workspace

/-! What `X-Forwarded-*` headers reach: the proxy middleware that rewrites the request
scope, the base path that handlers and `AuthMiddleware` build their URLs from, and the
login redirect, which is sent before the proxy middleware has run. -/
namespace MlflowOidcAuth

/-- What Starlette builds a request's URLs from. -/
structure UrlParts where
  scheme : String
  host : Option String
  server : Option (String × Option Int)
  rootPath : String
  path : String
  queryString : String
deriving DecidableEq, Repr

/-- The entries of the ASGI scope that are read or written here; header names are in lower
case there. -/
structure Scope where
  scheme : String
  server : Option (String × Option Int)
  rootPath : String
  path : String
  queryString : String
  headers : List (String × String)
  client : Option String
deriving DecidableEq, Repr

/-- `ipaddress`, whose `ValueError` is `none`, `int`, the URLs of Starlette and `quote`. -/
structure ProxyEnv where
  Network : Type
  Address : Type
  ipNetwork : String → Option Network
  ipAddress : String → Option Address
  contains : Network → Address → Bool
  int : String → Option Int
  baseUrlPath : UrlParts → String
  url : UrlParts → String × String
  quote : String → String

def rstripSlash (text : String) : String :=
  String.ofList (text.toList.reverse.dropWhile (fun c => c == '/')).reverse

/-- A header value written in UTF-8 and read back in Latin-1. -/
def reread (text : String) : String :=
  String.ofList (text.toUTF8.toList.map (fun byte => Char.ofNat byte.toNat))

namespace Scope

def header (scope : Scope) (name : String) : Option String := scope.headers.lookup name

def urlParts (scope : Scope) : UrlParts :=
  ⟨scope.scheme,scope.header "host",scope.server,scope.rootPath,scope.path,scope.queryString⟩

end Scope

section Proxies
variable (env : ProxyEnv) (proxies : List String) (scope : Scope)

def parseTrustedProxies : List env.Network :=
  proxies.filterMap (fun cidr =>
    let cidr := strip cidr.toList
    if cidr = "" then none else env.ipNetwork cidr)

def isTrustedProxy (networks : List env.Network) (client : Option String) : Bool :=
  if networks.isEmpty then true else
  match client with
  | none => false
  | some host =>
    match env.ipAddress host with
    | none => false
    | some address => networks.any (fun network => env.contains network address)

def getForwardedProto : Option String := scope.header "x-forwarded-proto"

def getForwardedHost : Option String := scope.header "x-forwarded-host"

def getForwardedPort : Option Int := (truthy (scope.header "x-forwarded-port")).bind env.int

def getForwardedPrefix : String :=
  let forwarded := (scope.header "x-forwarded-prefix").getD ""
  rstripSlash (if forwarded ≠ "" ∧ forwarded.toList.head? ≠ some '/' then "/" ++ forwarded
    else forwarded)

/-- The port that a forwarded host is written with: none, also for the ports that go
without saying. -/
def shownPort (port : Option Int) : Option Int :=
  port.filter (fun port => decide (port ≠ 0 ∧ port ≠ 80 ∧ port ≠ 443))

def hostText (host : String) (port : Option Int) : String :=
  match shownPort port with
  | some port => host ++ ":" ++ toString port
  | none => host

def setHost (text : String) (headers : List (String × String)) : List (String × String) :=
  headers.map (fun header => if header.1 = "host" then ("host",reread text) else header)

def serverPort (forwardedProto : Option String) (forwardedPort : Option Int) : Int :=
  let defaultPort := if forwardedProto = some "https" then 443 else 80
  (forwardedPort.filter (fun port => decide (port ≠ 0))).getD defaultPort

def ProxyHeadersMiddleware.dispatch : Scope :=
  if isTrustedProxy env (parseTrustedProxies env proxies) scope.client = false then scope else
  let forwardedProto := getForwardedProto scope
  let forwardedHost := getForwardedHost scope
  let forwardedPort := getForwardedPort env scope
  let forwardedPrefix := getForwardedPrefix scope
  let rescheme : Scope :=
    match truthy forwardedProto with
    | some proto => {scope with scheme := proto}
    | none => scope
  let rehost : Scope :=
    match truthy forwardedHost with
    | some host =>
      {rescheme with
        headers := setHost (hostText host forwardedPort) rescheme.headers
        server := some (host,some (serverPort forwardedProto forwardedPort))}
    | none => rescheme
  if forwardedPrefix ≠ "" then {rehost with rootPath := forwardedPrefix} else rehost

/-- The base path of a request whose prefix header is absent or empty. -/
def ownPath (parts : UrlParts) : String :=
  if parts.rootPath ≠ "" then rstripSlash parts.rootPath else
  let baseUrlPath := env.baseUrlPath parts
  if baseUrlPath ≠ "" ∧ baseUrlPath ≠ "/" then rstripSlash baseUrlPath else ""

def getBasePath : String :=
  match truthy (scope.header "x-forwarded-prefix") with
  | some forwardedPrefix => rstripSlash forwardedPrefix
  | none => ownPath env scope.urlParts

/-- The location `AuthMiddleware` sends a request to that is not authenticated. -/
def handleAuthRedirect (automaticLoginRedirect : Bool) : String :=
  let (path,query) := env.url scope.urlParts
  let target := if query ≠ "" then path ++ "?" ++ query else path
  if automaticLoginRedirect then
    getBasePath env scope ++ ("/login" ++ ("?next=" ++ env.quote target))
  else getBasePath env scope ++ "/oidc/ui"

end Proxies

section Observation
variable (env : ProxyEnv) (proxies : List String)

def isForwarded (name : String) : Bool := "x-forwarded-".toList.isPrefixOf name.toList

/-- Two requests that differ only in their `X-Forwarded-*` headers. -/
structure SameButForwarded (scope scope' : Scope) : Prop where
  scheme : scope'.scheme = scope.scheme
  server : scope'.server = scope.server
  rootPath : scope'.rootPath = scope.rootPath
  path : scope'.path = scope.path
  queryString : scope'.queryString = scope.queryString
  client : scope'.client = scope.client
  headers : scope'.headers.filter (fun header => !isForwarded header.1) =
    scope.headers.filter (fun header => !isForwarded header.1)

/-- What becomes of a request: the scope that handlers see, the base path they read, the one
that `AuthMiddleware` reads and the target of its login redirect. -/
structure Observed where
  scheme : String
  host : Option String
  server : Option (String × Option Int)
  rootPath : String
  basePath : String
  authBasePath : String
  loginRedirect : String
deriving DecidableEq, Repr

def observe (automaticLoginRedirect : Bool) (scope : Scope) : Observed :=
  let handled := ProxyHeadersMiddleware.dispatch env proxies scope
  { scheme := handled.scheme
    host := handled.header "host"
    server := handled.server
    rootPath := handled.rootPath
    basePath := getBasePath env handled
    authBasePath := getBasePath env scope
    loginRedirect := handleAuthRedirect env scope automaticLoginRedirect }

def NamesRangeOf (client : Option String) (entry : String) : Prop :=
  ∃ network host address, strip entry.toList ≠ "" ∧
    env.ipNetwork (strip entry.toList) = some network ∧ client = some host ∧
    env.ipAddress host = some address ∧ env.contains network address = true

def SomeValid : Prop :=
  ∃ entry, entry ∈ proxies ∧ strip entry.toList ≠ "" ∧
    (env.ipNetwork (strip entry.toList)).isSome = true

/-- Two headers that may replace a request's own value come to the same: they say the same, or
one is absent and the other says the request's own value. -/
def SaysSame {α : Type} (own : α) (said said' : Option α) : Prop :=
  said = said' ∨ (said = some own ∧ said' = none) ∨ (said = none ∧ said' = some own)

def saidBasePath (scope : Scope) : Option String :=
  (truthy (scope.header "x-forwarded-prefix")).map rstripSlash

def saidScheme (scope : Scope) : Option String := truthy (scope.header "x-forwarded-proto")

def saidHost (scope : Scope) : Option String :=
  (truthy (scope.header "x-forwarded-host")).map
    (fun host => reread (hostText host (getForwardedPort env scope)))

def saidServer (scope : Scope) : Option (String × Option Int) :=
  (truthy (scope.header "x-forwarded-host")).map (fun host =>
    (host,some (serverPort (scope.header "x-forwarded-proto") (getForwardedPort env scope))))

def saidRootPath (scope : Scope) : Option String := truthy (some (getForwardedPrefix scope))

def saidParts (scope : Scope) : UrlParts :=
  { scheme := (saidScheme scope).getD scope.scheme
    host := (scope.header "host").map (saidHost env scope).getD
    server := ((saidServer env scope).map some).getD scope.server
    rootPath := (saidRootPath scope).getD scope.rootPath
    path := scope.path
    queryString := scope.queryString }

/-- The headers that the scope is rewritten from come to the same. -/
structure ForwardedAlike (scope scope' : Scope) : Prop where
  scheme : SaysSame scope.scheme (saidScheme scope) (saidScheme scope')
  host : ∀ own, scope.header "host" = some own →
    SaysSame own (saidHost env scope) (saidHost env scope')
  server : SaysSame scope.server ((saidServer env scope).map some)
    ((saidServer env scope').map some)
  rootPath : SaysSame scope.rootPath (saidRootPath scope) (saidRootPath scope')

end Observation

theorem saysSame_iff {α : Type} {own : α} {said said' : Option α} :
    said.getD own = said'.getD own ↔ SaysSame own said said' := by
  unfold SaysSame
  cases said with
  | none => cases said' <;> simp [eq_comm]
  | some value => cases said' <;> simp

theorem lookup_filter {name : String} (own : isForwarded name = false)
    (headers : List (String × String)) :
    (headers.filter (fun header => !isForwarded header.1)).lookup name = headers.lookup name := by
  induction headers with
  | nil => rfl
  | cons header headers ih =>
    obtain ⟨key,value⟩ := header
    cases forwarded : isForwarded key with
    | false =>
      rw [List.filter_cons_of_pos (by simp [forwarded]),List.lookup_cons,List.lookup_cons,ih]
    | true =>
      have apart : (name == key) = false := by
        rw [beq_eq_false_iff_ne]
        intro same
        rw [same,forwarded] at own
        cases own
      rw [List.filter_cons_of_neg (by simp [forwarded]),ih,List.lookup_cons,apart]

theorem SameButForwarded.header {scope scope' : Scope} (same : SameButForwarded scope scope')
    {name : String} (own : isForwarded name = false) :
    scope'.header name = scope.header name := by
  unfold Scope.header
  rw [← lookup_filter own,same.headers,lookup_filter own]

theorem SameButForwarded.urlParts {scope scope' : Scope} (same : SameButForwarded scope scope') :
    scope'.urlParts = scope.urlParts := by
  unfold Scope.urlParts
  rw [same.header (by decide),same.scheme,same.server,same.rootPath,same.path,same.queryString]

section Rewriting
variable {env : ProxyEnv} {proxies : List String}

theorem lookup_setHost_host (text : String) (headers : List (String × String)) :
    (setHost text headers).lookup "host" = (headers.lookup "host").map (fun _ => reread text) := by
  induction headers with
  | nil => rfl
  | cons header headers ih =>
    obtain ⟨key,value⟩ := header
    by_cases named : key = "host"
    · subst named
      rfl
    · have apart : ("host" == key) = false := beq_eq_false_iff_ne.mpr (Ne.symm named)
      unfold setHost at ih ⊢
      simp only [List.map_cons,named,if_false,List.lookup_cons,apart,ih]

theorem lookup_setHost_of_ne {name : String} (apart : name ≠ "host") (text : String)
    (headers : List (String × String)) :
    (setHost text headers).lookup name = headers.lookup name := by
  induction headers with
  | nil => rfl
  | cons header headers ih =>
    obtain ⟨key,value⟩ := header
    unfold setHost at ih ⊢
    by_cases named : key = "host"
    · have apart' : (name == key) = false := beq_eq_false_iff_ne.mpr (named ▸ apart)
      subst named
      simp only [List.map_cons,if_true,List.lookup_cons,apart',ih]
    · simp only [List.map_cons,named,if_false,List.lookup_cons,ih]

theorem saidRootPath_eq (scope : Scope) : saidRootPath scope =
    if getForwardedPrefix scope = "" then none else some (getForwardedPrefix scope) := by
  unfold saidRootPath truthy
  by_cases unsaid : getForwardedPrefix scope = "" <;> simp [unsaid]

/-- A trusted peer's headers rewrite the scope to what they say, and no header but the host. -/
theorem dispatch_of_trusted {scope : Scope}
    (trusted : isTrustedProxy env (parseTrustedProxies env proxies) scope.client = true) :
    (ProxyHeadersMiddleware.dispatch env proxies scope).urlParts = saidParts env scope ∧
      (ProxyHeadersMiddleware.dispatch env proxies scope).header "x-forwarded-prefix" =
        scope.header "x-forwarded-prefix" := by
  have apart : "x-forwarded-prefix" ≠ "host" := by decide
  have unsaid (host : Option String) : host.map (none : Option String).getD = host := by
    cases host <;> rfl
  have said (text : String) (host : Option String) :
      host.map (some text).getD = host.map (fun _ => text) := by
    cases host <;> rfl
  unfold ProxyHeadersMiddleware.dispatch
  rw [if_neg (by simp [trusted])]
  simp only [Scope.urlParts,saidParts,saidScheme,saidHost,saidServer,saidRootPath_eq,
    getForwardedProto,getForwardedHost]
  by_cases unrooted : getForwardedPrefix scope = "" <;>
    cases truthy (scope.header "x-forwarded-proto") <;>
      cases truthy (scope.header "x-forwarded-host") <;>
        simp [unrooted,unsaid,said,Scope.header,lookup_setHost_host,lookup_setHost_of_ne apart]

theorem dispatch_of_untrusted {scope : Scope}
    (untrusted : isTrustedProxy env (parseTrustedProxies env proxies) scope.client = false) :
    ProxyHeadersMiddleware.dispatch env proxies scope = scope := by
  unfold ProxyHeadersMiddleware.dispatch
  rw [if_pos untrusted]

theorem mem_parseTrustedProxies {network : env.Network} :
    network ∈ parseTrustedProxies env proxies ↔ ∃ entry, entry ∈ proxies ∧
      strip entry.toList ≠ "" ∧ env.ipNetwork (strip entry.toList) = some network := by
  unfold parseTrustedProxies
  rw [List.mem_filterMap]
  constructor
  · intro ⟨entry,listed,parsed⟩
    by_cases blank : strip entry.toList = ""
    · simp [blank] at parsed
    · exact ⟨entry,listed,blank,by simpa [blank] using parsed⟩
  · intro ⟨entry,listed,blank,parsed⟩
    exact ⟨entry,listed,by simpa [blank] using parsed⟩

/-- A setting without a range in it trusts every peer. -/
theorem isTrustedProxy_iff {client : Option String}
    (outside : ∀ entry, entry ∈ proxies → ¬NamesRangeOf env client entry) :
    isTrustedProxy env (parseTrustedProxies env proxies) client = true ↔
      ¬SomeValid env proxies := by
  have unlisted : parseTrustedProxies env proxies = [] ↔ ¬SomeValid env proxies := by
    rw [List.eq_nil_iff_forall_not_mem]
    constructor
    · intro none ⟨entry,listed,nonblank,valid⟩
      obtain ⟨network,parsed⟩ := Option.isSome_iff_exists.mp valid
      exact none network (mem_parseTrustedProxies.mpr ⟨entry,listed,nonblank,parsed⟩)
    · intro invalid network member
      obtain ⟨entry,listed,nonblank,parsed⟩ := mem_parseTrustedProxies.mp member
      exact invalid ⟨entry,listed,nonblank,by rw [parsed]; rfl⟩
  rw [← unlisted]
  constructor
  · intro trusted
    unfold isTrustedProxy at trusted
    split at trusted
    · next empty => exact List.isEmpty_iff.mp empty
    · split at trusted
      · cases trusted
      · next host =>
        split at trusted
        · cases trusted
        · next address parsedAddress =>
          obtain ⟨network,member,within⟩ := List.any_eq_true.mp trusted
          obtain ⟨entry,listed,nonblank,parsed⟩ := mem_parseTrustedProxies.mp member
          exact absurd ⟨network,host,address,nonblank,parsed,rfl,parsedAddress,within⟩
            (outside entry listed)
  · intro empty
    rw [empty]
    rfl

end Rewriting

section Influence
variable (env : ProxyEnv)

theorem getBasePath_eq (scope : Scope) :
    getBasePath env scope = (saidBasePath scope).getD (ownPath env scope.urlParts) := by
  unfold getBasePath saidBasePath
  cases truthy (scope.header "x-forwarded-prefix") <;> rfl

theorem handleAuthRedirect_inj {scope scope' : Scope} (automaticLoginRedirect : Bool)
    (parts : scope'.urlParts = scope.urlParts) :
    handleAuthRedirect env scope automaticLoginRedirect =
        handleAuthRedirect env scope' automaticLoginRedirect ↔
      getBasePath env scope = getBasePath env scope' := by
  unfold handleAuthRedirect
  rw [parts]
  constructor
  · intro same
    cases automaticLoginRedirect with
    | true => exact String.append_left_inj _ |>.mp same
    | false => exact String.append_left_inj _ |>.mp same
  · intro same
    rw [same]

/-- The parts said by both requests' headers are the same exactly when the headers come to the
same. -/
theorem saidParts_eq_iff {scope scope' : Scope} (same : SameButForwarded scope scope') :
    saidParts env scope = saidParts env scope' ↔ ForwardedAlike env scope scope' := by
  have ownHost : scope'.header "host" = scope.header "host" := same.header (by decide)
  unfold saidParts
  rw [UrlParts.mk.injEq,same.scheme,same.server,same.rootPath,same.path,same.queryString,ownHost,
    saysSame_iff,saysSame_iff,saysSame_iff]
  constructor
  · intro ⟨scheme,host,server,rootPath,_⟩
    refine ⟨scheme,?_,server,rootPath⟩
    intro own found
    rw [found] at host
    exact saysSame_iff.mp (Option.some.inj host)
  · intro alike
    refine ⟨alike.scheme,?_,alike.server,alike.rootPath,rfl,rfl⟩
    cases found : scope.header "host" with
    | none => rfl
    | some own => exact congrArg some (saysSame_iff.mpr (alike.host own found))

theorem dispatch_target (proxies : List String) (scope : Scope) :
    (ProxyHeadersMiddleware.dispatch env proxies scope).path = scope.path ∧
      (ProxyHeadersMiddleware.dispatch env proxies scope).queryString = scope.queryString := by
  cases trusted : isTrustedProxy env (parseTrustedProxies env proxies) scope.client with
  | true =>
    have parts := (dispatch_of_trusted trusted).1
    exact ⟨congrArg UrlParts.path parts,congrArg UrlParts.queryString parts⟩
  | false =>
    rw [dispatch_of_untrusted trusted]
    exact ⟨rfl,rfl⟩

/-- What is observed of two requests is the same exactly when the URL parts and the base path
after the middleware and the base path before it are. -/
theorem observe_eq_iff_handled (proxies : List String) (automaticLoginRedirect : Bool)
    {scope scope' : Scope} (same : SameButForwarded scope scope') :
    observe env proxies automaticLoginRedirect scope =
        observe env proxies automaticLoginRedirect scope' ↔
      (ProxyHeadersMiddleware.dispatch env proxies scope).urlParts =
          (ProxyHeadersMiddleware.dispatch env proxies scope').urlParts ∧
        getBasePath env (ProxyHeadersMiddleware.dispatch env proxies scope) =
          getBasePath env (ProxyHeadersMiddleware.dispatch env proxies scope') ∧
        getBasePath env scope = getBasePath env scope' := by
  obtain ⟨path,query⟩ := dispatch_target env proxies scope
  obtain ⟨path',query'⟩ := dispatch_target env proxies scope'
  unfold observe
  rw [Observed.mk.injEq,handleAuthRedirect_inj env automaticLoginRedirect same.urlParts]
  unfold Scope.urlParts
  rw [UrlParts.mk.injEq,path,path',query,query',same.path,same.queryString]
  constructor
  · intro ⟨scheme,host,server,rootPath,handled,raw,_⟩
    exact ⟨⟨scheme,host,server,rootPath,rfl,rfl⟩,handled,raw⟩
  · intro ⟨⟨scheme,host,server,rootPath,_⟩,handled,raw⟩
    exact ⟨scheme,host,server,rootPath,handled,raw,raw⟩

/-- The headers of an untrusted peer have no influence exactly when the prefix headers come to
the same base path and, in case no entry of the setting is a range, the others do so too. -/
theorem observe_eq_iff (proxies : List String) (automaticLoginRedirect : Bool)
    (scope scope' : Scope) (same : SameButForwarded scope scope')
    (outside : ∀ entry, entry ∈ proxies → ¬NamesRangeOf env scope.client entry) :
    observe env proxies automaticLoginRedirect scope =
        observe env proxies automaticLoginRedirect scope' ↔
      SaysSame (ownPath env scope.urlParts) (saidBasePath scope) (saidBasePath scope') ∧
        (SomeValid env proxies ∨ ForwardedAlike env scope scope' ∧
          SaysSame (ownPath env (saidParts env scope)) (saidBasePath scope)
            (saidBasePath scope')) := by
  rw [observe_eq_iff_handled env proxies automaticLoginRedirect same,getBasePath_eq env scope,
    getBasePath_eq env scope',same.urlParts,← saysSame_iff]
  cases trusted : isTrustedProxy env (parseTrustedProxies env proxies) scope.client with
  | false =>
    have valid : SomeValid env proxies := by
      apply Classical.byContradiction
      intro invalid
      rw [(isTrustedProxy_iff outside).mpr invalid] at trusted
      cases trusted
    rw [dispatch_of_untrusted trusted,dispatch_of_untrusted (same.client ▸ trusted),
      getBasePath_eq env scope,getBasePath_eq env scope',same.urlParts]
    constructor
    · intro ⟨_,_,raw⟩
      exact ⟨raw,.inl valid⟩
    · intro ⟨raw,_⟩
      exact ⟨rfl,raw,raw⟩
  | true =>
    have invalid := (isTrustedProxy_iff outside).mp trusted
    obtain ⟨parts,unchanged⟩ := dispatch_of_trusted trusted
    have trusted' : isTrustedProxy env (parseTrustedProxies env proxies) scope'.client = true :=
      same.client ▸ trusted
    obtain ⟨parts',unchanged'⟩ := dispatch_of_trusted trusted'
    rw [getBasePath_eq,getBasePath_eq,parts,parts']
    unfold saidBasePath
    rw [unchanged,unchanged',← saidParts_eq_iff env same]
    constructor
    · intro ⟨alike,handled,raw⟩
      refine ⟨raw,.inr ⟨alike,?_⟩⟩
      rw [alike] at handled ⊢
      exact saysSame_iff.mp handled
    · intro ⟨raw,said⟩
      obtain ⟨alike,handled⟩ := said.resolve_left invalid
      refine ⟨alike,?_,raw⟩
      rw [← alike]
      exact saysSame_iff.mpr handled

end Influence

section Spoofing

/-- `ipaddress` on the range 10.0.0.0/8 and on an address outside of it. -/
def lanEnv : ProxyEnv where
  Network := String
  Address := String
  ipNetwork cidr := if cidr = "10.0.0.0/8" then some "10." else none
  ipAddress host := if host = "203.0.113.9" then some host else none
  contains network address := network.toList.isPrefixOf address.toList
  int _ := none
  baseUrlPath parts := parts.rootPath ++ "/"
  url parts := (parts.rootPath ++ parts.path,parts.queryString)
  quote target := String.ofList (target.toList.flatMap (fun c =>
    if c = '/' then "%2F".toList else [c]))

/-- A request from outside of the trusted range, with the given forwarded headers. -/
def outsideRequest (forwarded : List (String × String)) : Scope :=
  ⟨"http",some ("mlflow",some 8080),"","/experiments","",("host","mlflow.lan") :: forwarded,
    some "203.0.113.9"⟩

theorem outside_lanEnv (entry : String) :
    ¬NamesRangeOf lanEnv (some "203.0.113.9") entry := by
  intro ⟨network,host,address,_,parsed,client,parsedAddress,within⟩
  cases client
  cases parsedAddress
  have range : network = "10." := by
    simp only [lanEnv] at parsed
    split at parsed
    · exact (Option.some.inj parsed).symm
    · cases parsed
  subst range
  exact absurd within (by decide)

theorem proto_ignored :
    observe lanEnv ["10.0.0.0/8","lan"] true (outsideRequest []) =
      observe lanEnv ["10.0.0.0/8","lan"] true
        (outsideRequest [("x-forwarded-proto","https")]) :=
  (observe_eq_iff _ _ _ _ _ ⟨rfl,rfl,rfl,rfl,rfl,rfl,rfl⟩
    (fun entry _ => outside_lanEnv entry)).mpr
    ⟨.inl rfl,.inl ⟨"10.0.0.0/8",.head _,by decide,by decide⟩⟩

theorem prefix_reaches_redirect : ¬∀ env proxies automaticLoginRedirect scope scope',
    proxies ≠ [] → SameButForwarded scope scope' →
    (∀ entry, entry ∈ proxies → ¬NamesRangeOf env scope.client entry) →
    observe env proxies automaticLoginRedirect scope =
      observe env proxies automaticLoginRedirect scope' := by
  intro ignored
  have same := ignored lanEnv ["10.0.0.0/8"] true (outsideRequest [])
    (outsideRequest [("x-forwarded-prefix","/evil")]) (by decide) ⟨rfl,rfl,rfl,rfl,rfl,rfl,rfl⟩
    (fun entry _ => outside_lanEnv entry)
  exact absurd (congrArg Observed.loginRedirect same) (by decide +kernel)

end Spoofing
end MlflowOidcAuth
