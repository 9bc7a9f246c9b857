import MlflowOidcAuth.Middleware.Authentication

/-! The way of a request through the application: the workspace, the authentication, the proxy
headers, the permission check of the routes that FastAPI serves itself, and the hook of the Flask
application that is mounted under everything else. The middlewares go by the path of the
request's URL, in which the `Host` header has a part, and the proxy headers rewrite it on the
way. -/
namespace MlflowOidcAuth

section Routes

/-- The prefixes of `AuthMiddleware._is_unprotected_route`. -/
def openPrefixes : List String :=
  ["/health","/login","/callback","/oidc/static","/metrics","/docs","/redoc","/openapi.json",
    "/oidc/ui","/static-files"]

def isOpenRoute (path : String) : Bool := openPrefixes.any (startsWith · path)

inductive NativeValidator
  | gateway
  | otel
  | requireAuthentication
deriving DecidableEq, Repr

def findFastapiValidator (path : String) : Option NativeValidator :=
  if startsWith "/gateway/" path then some .gateway
  else if startsWith "/v1/traces" path then some .otel
  else if startsWith "/ajax-api/3.0/jobs" path then some .requireAuthentication
  else if startsWith "/ajax-api/3.0/mlflow/assistant" path then some .requireAuthentication
  else none

def routesNeedingBody : List String :=
  ["/gateway/mlflow/v1/chat/completions","/gateway/openai/v1/chat/completions",
    "/gateway/openai/v1/embeddings","/gateway/openai/v1/responses",
    "/gateway/anthropic/v1/messages"]

/-- The group of a pattern `^start([^stops]+)ending$`; its `$` also stands before a newline at
the end. The ending begins with a character that stops the group. -/
def segmentBetween (start ending : String) (stops : List Char) (path : String) : Option String :=
  if startsWith start path then
    let rest := path.toList.drop start.toList.length
    let name := rest.takeWhile (fun c => decide (c ∉ stops))
    let tail := rest.drop name.length
    if name ≠ [] ∧ (tail = ending.toList ∨ tail = ending.toList ++ ['\n']) then
      some (String.ofList name)
    else none
  else none

def extractGatewayEndpointName (path : String) (body : Option (List (String × JsonValue))) :
    Option JsonValue :=
  match segmentBetween "/gateway/" "/mlflow/invocations" ['/'] path with
  | some name => some (.string name)
  | none =>
    if path ∈ routesNeedingBody then
      match body with
      | some (field :: rest) =>
        (List.lookup "model" (field :: rest)).filter (fun value => decide (value ≠ .null))
      | _ => none
    else
      match segmentBetween "/gateway/gemini/v1beta/models/" ":generateContent" ['/',':'] path with
      | some name => some (.string name)
      | none =>
        (segmentBetween "/gateway/gemini/v1beta/models/" ":streamGenerateContent" ['/',':']
          path).map .string

end Routes

section Native
variable (effective : ResourceRequest → Except Failure PermissionResult) (path : String)

/-- A body that does not parse to an object is refused, as is a path without an endpoint. -/
def NativeValidator.run (request : WebRequest) (username : String) :
    NativeValidator → Except Failure Bool
  | .gateway =>
    if path ∈ routesNeedingBody ∧ request.body = none then .ok false
    else
      match extractGatewayEndpointName path request.body with
      | none => .ok false
      | some name => (effective ⟨.gatewayEndpoint,name.text,username,none⟩).map (fun result =>
          result.permission.canUse)
  | .otel =>
    match truthy (request.header "x-mlflow-experiment-id") with
    | none => .ok false
    | some experimentId => (effective ⟨.experiment,experimentId,username,none⟩).map (fun result =>
        result.permission.canUpdate)
  | .requireAuthentication => .ok true

/-- The status that the permission middleware answers with, unless it calls the route. -/
def fastapiPermissionMiddleware (request : WebRequest) (auth : Option AuthContext) : Option Nat :=
  match findFastapiValidator path with
  | none => none
  | some validator =>
    match truthy (auth.map AuthContext.username) with
    | none => some 401
    | some username =>
      if (auth.map AuthContext.isAdmin).getD false then none
      else
        match validator.run effective path request username with
        | .ok true => none
        | .ok false => some 403
        | .error _ => some 403

end Native

section Dispatch
variable (env : MiddlewareEnv) (path : String) (clock : Clock) (t : Tables) (request : WebRequest)

def getUserAdminStatus (username : String) : Bool :=
  match oneOrNone (t.usersNamed username) with
  | .ok (some user) => user.isAdmin
  | _ => false

def isDocumentRequest : Bool :=
  let secFetchDest := env.lower ((request.header "sec-fetch-dest").getD "")
  if secFetchDest ≠ "" then decide (secFetchDest = "document")
  else containsText "text/html" (env.lower ((request.header "accept").getD ""))

inductive Passage
  | next (auth : Option AuthContext)
  | refused (status : Nat)
  | redirected (toLogin : Bool)
deriving DecidableEq, Repr

def authMiddleware : Passage :=
  if isOpenRoute path then .next none
  else
    match (authenticateUser env clock t request).1 with
    | some username => .next (some ⟨username,getUserAdminStatus t username,
        if env.resolution.config.mlflowEnableWorkspaces then request.header "x-mlflow-workspace"
        else none⟩)
    | none =>
      if startsWith "/api" path then .refused 401
      else if startsWith "/oidc/trash" path then .refused 403
      else if isDocumentRequest env request then .redirected env.automaticLoginRedirect
      else .refused 401

/-- The workspace that the rest of the request runs in, or the status of the failure. -/
def workspaceContextMiddleware : Except Nat (Option String) :=
  if env.resolution.config.mlflowEnableWorkspaces then
    env.resolveWorkspace path (request.header "x-mlflow-workspace")
  else .ok none

end Dispatch

inductive Destination
  | plugin
  | native
  | flask
deriving DecidableEq, Repr

/-- The application: what is mounted in it, and what its checks answer in the context of a
request at this moment. Where a scope is routed to and what path the bridge to Flask makes of it
is up to the libraries. -/
structure Application where
  env : MiddlewareEnv
  flask : FlaskApplication
  services : RequestContext → HookServices
  context : ∀ context, (services context).context = context
  effective : RequestContext → ResourceRequest → Except Failure PermissionResult
  proxyEnv : ProxyEnv
  trustedProxies : List String
  destination : Scope → WebRequest → Destination
  flaskPath : Scope → String

inductive Served
  | handled (destination : Destination) (auth : Option AuthContext)
  | refused (status : Nat)
  | redirected (toLogin : Bool)
  | stopped (response : HookResponse)

namespace Application
variable (app : Application) (request : WebRequest)

/-- `request.url.path`. -/
def urlPath (scope : Scope) : String := (app.proxyEnv.url scope.urlParts).1

/-- The scope that the proxy middleware hands on. -/
def proxied : Scope :=
  ProxyHeadersMiddleware.dispatch app.proxyEnv app.trustedProxies request.scope

def flaskRequest : FlaskRequest :=
  { request.toFlaskRequest with path := app.flaskPath (app.proxied request) }

def serve (clock : Clock) (t : Tables) : Served :=
  let path := app.urlPath request.scope
  match workspaceContextMiddleware app.env path request with
  | .error status => .refused status
  | .ok workspace =>
    match authMiddleware app.env path clock t request with
    | .refused status => .refused status
    | .redirected toLogin => .redirected toLogin
    | .next auth =>
      let scope := app.proxied request
      match fastapiPermissionMiddleware (app.effective ⟨none,workspace⟩) (app.urlPath scope) request
          auth with
      | some status => .refused status
      | none =>
        match app.destination scope request with
        | .flask =>
          match (beforeRequestHook app.flask (app.services ⟨auth,workspace⟩)
              (app.flaskRequest request)).2 with
          | some response => .stopped response
          | none => .handled .flask auth
        | other => .handled other auth

end Application

section Prefixes
variable {first second path : String}

theorem startsWith_iff : startsWith first path = true ↔ first.toList <+: path.toList :=
  List.isPrefixOf_iff_prefix

/-- Two texts that a path starts with: one of them starts with the other. -/
theorem startsWith_both (one : startsWith first path = true) (other : startsWith second path = true) :
    startsWith first second = true ∨ startsWith second first = true := by
  simp only [startsWith_iff] at *
  exact List.prefix_or_prefix_of_prefix one other

theorem startsWith_trans (one : startsWith first second = true)
    (other : startsWith second path = true) : startsWith first path = true := by
  simp only [startsWith_iff] at *
  exact one.trans other

def nativePrefixes : List String :=
  ["/gateway/","/v1/traces","/ajax-api/3.0/jobs","/ajax-api/3.0/mlflow/assistant"]

theorem native_starts {validator : NativeValidator}
    (found : findFastapiValidator path = some validator) :
    ∃ start ∈ nativePrefixes, startsWith start path = true := by
  unfold findFastapiValidator at found
  split at found
  · next start => exact ⟨_,by simp [nativePrefixes],start⟩
  split at found
  · next start => exact ⟨_,by simp [nativePrefixes],start⟩
  split at found
  · next start => exact ⟨_,by simp [nativePrefixes],start⟩
  split at found
  · next start => exact ⟨_,by simp [nativePrefixes],start⟩
  · cases found

/-- No route that FastAPI serves itself is open. -/
theorem native_closed (isOpen : isOpenRoute path = true) : findFastapiValidator path = none := by
  cases found : findFastapiValidator path with
  | none => rfl
  | some validator =>
    obtain ⟨start,native,starts⟩ := native_starts found
    obtain ⟨allowed,listed,starts'⟩ := List.any_eq_true.mp isOpen
    have apart : ∀ allowed ∈ openPrefixes, ∀ start ∈ nativePrefixes,
        startsWith allowed start = false ∧ startsWith start allowed = false := by
      decide +kernel
    obtain ⟨apart,apart'⟩ := apart allowed listed start native
    rcases startsWith_both starts' starts with one | other
    · rw [apart] at one
      cases one
    · rw [apart'] at other
      cases other

/-- The prefixes that neither the middleware nor the hook protects. -/
def publicPrefixes : List String :=
  ["/health","/metrics","/docs","/redoc","/openapi.json","/static-files"]

theorem public_iff : isOpenRoute path = true ∧ isUnprotectedRoute path = true ↔
    publicPrefixes.any (startsWith · path) = true := by
  constructor
  · intro unguarded
    obtain ⟨allowed,listed,starts⟩ := List.any_eq_true.mp unguarded.1
    obtain ⟨spared,listed',starts'⟩ := List.any_eq_true.mp unguarded.2
    have meet : ∀ allowed ∈ openPrefixes, ∀ spared ∈ ["/static","/favicon.ico","/health",
        "/metrics","/docs","/redoc","/openapi.json"],
        startsWith allowed spared || startsWith spared allowed →
          allowed ∈ publicPrefixes := by
      decide +kernel
    rw [List.any_eq_true]
    refine ⟨allowed,meet allowed listed spared listed' ?_,starts⟩
    simpa using startsWith_both starts starts'
  · intro unguarded
    obtain ⟨shared,listed,starts⟩ := List.any_eq_true.mp unguarded
    have both : ∀ shared ∈ publicPrefixes, shared ∈ openPrefixes ∧
        isUnprotectedRoute shared = true := by
      decide +kernel
    obtain ⟨allowed,spared⟩ := both shared listed
    obtain ⟨start,listed',starts'⟩ := List.any_eq_true.mp spared
    exact ⟨List.any_eq_true.mpr ⟨shared,allowed,starts⟩,
      List.any_eq_true.mpr ⟨start,listed',startsWith_trans starts' starts⟩⟩

end Prefixes

section Segments
variable {start ending path name : String} {stops : List Char}

/-- A path written with a name between the texts, and nothing or a newline behind them. -/
def Written (start ending : String) (stops : List Char) (name path : String) : Prop :=
  name ≠ "" ∧ (∀ c ∈ name.toList, c ∉ stops) ∧
    (path = start ++ name ++ ending ∨ path = start ++ name ++ ending ++ "\n")

theorem takeWhile_stopped {text rest : List Char} {stop : Char}
    (free : ∀ c ∈ text, c ∉ stops) (stopped : stop ∈ stops) :
    (text ++ stop :: rest).takeWhile (fun c => decide (c ∉ stops)) = text := by
  induction text with
  | nil => simp [stopped]
  | cons first text ih =>
    have head : decide (first ∉ stops) = true := decide_eq_true (free first List.mem_cons_self)
    have tail := ih (fun c member => free c (List.mem_cons_of_mem _ member))
    have going := @List.takeWhile_cons_of_pos Char (fun c => decide (c ∉ stops)) first
      (text ++ stop :: rest) head
    rw [List.cons_append,going,tail]

theorem segmentBetween_iff {stop : Char} {tail : List Char} (begins : ending.toList = stop :: tail)
    (stopped : stop ∈ stops) :
    segmentBetween start ending stops path = some name ↔ Written start ending stops name path := by
  have reads : ∀ after : List Char, (∀ c ∈ name.toList, c ∉ stops) →
      (name.toList ++ (ending.toList ++ after)).takeWhile (fun c => decide (c ∉ stops)) =
        name.toList := by
    intro after free
    rw [begins,List.cons_append]
    exact takeWhile_stopped free stopped
  unfold segmentBetween
  constructor
  · intro found
    split at found
    · next starts =>
      obtain ⟨rest,written⟩ := startsWith_iff.mp starts
      have dropped : path.toList.drop start.toList.length = rest := by
        rw [← written,List.drop_left]
      simp only [dropped] at found
      split at found
      · next shaped =>
        obtain ⟨solid,ends⟩ := shaped
        simp only [Option.some.injEq] at found
        subst found
        have split := @List.takeWhile_append_dropWhile Char (fun c => decide (c ∉ stops)) rest
        have behind := @List.drop_left Char (rest.takeWhile (fun c => decide (c ∉ stops)))
          (rest.dropWhile (fun c => decide (c ∉ stops)))
        rw [split] at behind
        rw [behind] at ends
        refine ⟨?_,?_,?_⟩
        · intro empty
          apply solid
          simpa using congrArg String.toList empty
        · intro c member
          rw [String.toList_ofList] at member
          simpa using List.mem_takeWhile_imp member
        · rw [← split] at written
          rcases ends with plain | newline
          · left
            rw [← String.toList_inj,← written,plain]
            simp
          · right
            rw [← String.toList_inj,← written,newline]
            simp
      · cases found
    · cases found
  · intro written
    obtain ⟨solid,free,shape⟩ := written
    have solid' : name.toList ≠ [] := by
      intro empty
      exact solid (String.toList_inj.mp empty)
    have found : ∀ after, (after = [] ∨ after = ['\n']) →
        path.toList = start.toList ++ (name.toList ++ (ending.toList ++ after)) →
        (if startsWith start path then
          let rest := path.toList.drop start.toList.length
          let name := rest.takeWhile (fun c => decide (c ∉ stops))
          let tail := rest.drop name.length
          if name ≠ [] ∧ (tail = ending.toList ∨ tail = ending.toList ++ ['\n']) then
            some (String.ofList name)
          else none
        else none) = some name := by
      intro after either path_eq
      have starts : startsWith start path = true := by
        rw [startsWith_iff,path_eq]
        exact List.prefix_append ..
      simp only [starts,if_true,path_eq,List.drop_left,reads after free,String.ofList_toList]
      apply if_pos
      refine ⟨solid',?_⟩
      rcases either with rfl | rfl
      · exact .inl (List.append_nil _)
      · exact .inr rfl
    rcases shape with plain | newline
    · apply found [] (.inl rfl)
      simp [plain]
    · apply found ['\n'] (.inr rfl)
      simp [newline]

end Segments

/-- The endpoint that a request to the gateway names. -/
inductive NamesEndpoint (path : String) (body : Option (List (String × JsonValue))) :
    JsonValue → Prop
  | invocations {name : String} (written : Written "/gateway/" "/mlflow/invocations" ['/'] name path) :
      NamesEndpoint path body (.string name)
  | model {fields : List (String × JsonValue)} {value : JsonValue} (listed : path ∈ routesNeedingBody)
      (parsed : body = some fields) (held : fields.lookup "model" = some value)
      (present : value ≠ .null) : NamesEndpoint path body value
  | generate {name : String}
      (written : Written "/gateway/gemini/v1beta/models/" ":generateContent" ['/',':'] name path) :
      NamesEndpoint path body (.string name)
  | stream {name : String} (written :
        Written "/gateway/gemini/v1beta/models/" ":streamGenerateContent" ['/',':'] name path) :
      NamesEndpoint path body (.string name)

section Endpoints
variable {path : String} {body : Option (List (String × JsonValue))} {value : JsonValue}

theorem invocations_iff {name : String} :
    segmentBetween "/gateway/" "/mlflow/invocations" ['/'] path = some name ↔
      Written "/gateway/" "/mlflow/invocations" ['/'] name path := by
  have begins : "/mlflow/invocations".toList = '/' :: "mlflow/invocations".toList := by simp
  exact segmentBetween_iff begins (by simp)

theorem generate_iff {name : String} :
    segmentBetween "/gateway/gemini/v1beta/models/" ":generateContent" ['/',':'] path = some name ↔
      Written "/gateway/gemini/v1beta/models/" ":generateContent" ['/',':'] name path := by
  have begins : ":generateContent".toList = ':' :: "generateContent".toList := by simp
  exact segmentBetween_iff begins (by simp)

theorem stream_iff {name : String} :
    segmentBetween "/gateway/gemini/v1beta/models/" ":streamGenerateContent" ['/',':'] path =
        some name ↔
      Written "/gateway/gemini/v1beta/models/" ":streamGenerateContent" ['/',':'] name path := by
  have begins : ":streamGenerateContent".toList = ':' :: "streamGenerateContent".toList := by simp
  exact segmentBetween_iff begins (by simp)

/-- A model's path has a segment `gemini` where an endpoint would be invoked. -/
theorem gemini_apart {ending name : String} {stops : List Char}
    (written : Written "/gateway/gemini/v1beta/models/" ending stops name path) :
    segmentBetween "/gateway/" "/mlflow/invocations" ['/'] path = none := by
  cases found : segmentBetween "/gateway/" "/mlflow/invocations" ['/'] path with
  | none => rfl
  | some other =>
    obtain ⟨_,free,invoked⟩ := invocations_iff.mp found
    obtain ⟨rest,asked⟩ : ∃ rest, path.toList =
        "/gateway/".toList ++ (other.toList ++ '/' :: 'm' :: rest) := by
      rcases invoked with rfl | rfl
      · exact ⟨"lflow/invocations".toList,by simp⟩
      · exact ⟨"lflow/invocations\n".toList,by simp⟩
    obtain ⟨rest',named⟩ : ∃ rest, path.toList =
        "/gateway/".toList ++ ("gemini".toList ++ '/' :: 'v' :: rest) := by
      rcases written.2.2 with rfl | rfl
      · exact ⟨"1beta/models/".toList ++ name.toList ++ ending.toList,by simp⟩
      · exact ⟨"1beta/models/".toList ++ name.toList ++ ending.toList ++ ['\n'],by simp⟩
    have same := List.append_cancel_left (asked.symm.trans named)
    have plain : '/' ∉ other.toList := fun member => free '/' member (by simp)
    have cut := (@TextSearch.cut_at Char other.toList ('m' :: rest) _ '/' plain).2
    have cut' := (@TextSearch.cut_at Char "gemini".toList ('v' :: rest') _ '/' (by decide)).2
    rw [same,cut'] at cut
    simp at cut

/-- A path streams or it does not. -/
theorem stream_apart {name : String}
    (written : Written "/gateway/gemini/v1beta/models/" ":streamGenerateContent" ['/',':'] name
      path) : segmentBetween "/gateway/gemini/v1beta/models/" ":generateContent" ['/',':'] path =
        none := by
  cases found : segmentBetween "/gateway/gemini/v1beta/models/" ":generateContent" ['/',':'] path with
  | none => rfl
  | some other =>
    obtain ⟨_,free,generated⟩ := generate_iff.mp found
    obtain ⟨rest,asked⟩ : ∃ rest, path.toList =
        "/gateway/gemini/v1beta/models/".toList ++ (other.toList ++ ':' :: 'g' :: rest) := by
      rcases generated with rfl | rfl
      · exact ⟨"enerateContent".toList,by simp⟩
      · exact ⟨"enerateContent\n".toList,by simp⟩
    obtain ⟨rest',named⟩ : ∃ rest, path.toList =
        "/gateway/gemini/v1beta/models/".toList ++ (name.toList ++ ':' :: 's' :: rest) := by
      rcases written.2.2 with rfl | rfl
      · exact ⟨"treamGenerateContent".toList,by simp⟩
      · exact ⟨"treamGenerateContent\n".toList,by simp⟩
    have same := List.append_cancel_left (asked.symm.trans named)
    have plain : ':' ∉ other.toList := fun member => free ':' member (by simp)
    have plain' : ':' ∉ name.toList := fun member => written.2.1 ':' member (by simp)
    have cut := (@TextSearch.cut_at Char other.toList ('g' :: rest) _ ':' plain).2
    have cut' := (@TextSearch.cut_at Char name.toList ('s' :: rest') _ ':' plain').2
    rw [same,cut'] at cut
    simp at cut

theorem listed_apart : ∀ path ∈ routesNeedingBody,
    segmentBetween "/gateway/" "/mlflow/invocations" ['/'] path = none ∧
    segmentBetween "/gateway/gemini/v1beta/models/" ":generateContent" ['/',':'] path = none ∧
    segmentBetween "/gateway/gemini/v1beta/models/" ":streamGenerateContent" ['/',':'] path =
      none := by
  decide +kernel

theorem unparsed_unnamed (listed : path ∈ routesNeedingBody) :
    extractGatewayEndpointName path none = none := by
  simp only [extractGatewayEndpointName,(listed_apart path listed).1,if_pos listed]

theorem names_iff : extractGatewayEndpointName path body = some value ↔
    NamesEndpoint path body value := by
  unfold extractGatewayEndpointName
  constructor
  · intro found
    split at found
    · next name segment =>
      cases found
      exact .invocations (invocations_iff.mp segment)
    split at found
    · next listed =>
      split at found
      · next field rest =>
        obtain ⟨held,present⟩ := Option.filter_eq_some_iff.mp found
        exact .model listed rfl held (of_decide_eq_true present)
      · cases found
    split at found
    · next name segment =>
      cases found
      exact .generate (generate_iff.mp segment)
    · obtain ⟨name,segment,rfl⟩ := Option.map_eq_some_iff.mp found
      exact .stream (stream_iff.mp segment)
  · intro named
    cases named with
    | invocations written => rw [invocations_iff.mpr written]
    | @model fields value listed parsed held present =>
      rw [(listed_apart path listed).1,if_pos listed,parsed]
      cases fields with
      | nil => cases held
      | cons field rest =>
        exact Option.filter_eq_some_iff.mpr ⟨held,decide_eq_true present⟩
    | generate written =>
      have unlisted : path ∉ routesNeedingBody := by
        intro listed
        have absent := (listed_apart path listed).2.1
        rw [generate_iff.mpr written] at absent
        cases absent
      rw [gemini_apart written,if_neg unlisted,generate_iff.mpr written]
    | stream written =>
      have unlisted : path ∉ routesNeedingBody := by
        intro listed
        have absent := (listed_apart path listed).2.2
        rw [stream_iff.mpr written] at absent
        cases absent
      rw [gemini_apart written,if_neg unlisted,stream_apart written,stream_iff.mpr written]
      rfl

end Endpoints

section Served
variable (app : Application) (path : String) (clock : Clock) (t : Tables) (request : WebRequest)

/-- What a route that FastAPI serves itself asks of a user that is no administrator. -/
inductive NativePermits (effective : ResourceRequest → Except Failure PermissionResult)
    (username : String) : Prop
  | elsewhere (unguarded : findFastapiValidator path = none)
  | gateway {value : JsonValue} {result : PermissionResult}
      (guarded : findFastapiValidator path = some .gateway)
      (named : NamesEndpoint path request.body value)
      (resolved : effective ⟨.gatewayEndpoint,value.text,username,none⟩ = .ok result)
      (allowed : result.permission.canUse = true)
  | otel {experimentId : String} {result : PermissionResult}
      (guarded : findFastapiValidator path = some .otel)
      (named : request.header "x-mlflow-experiment-id" = some experimentId)
      (present : experimentId ≠ "")
      (resolved : effective ⟨.experiment,experimentId,username,none⟩ = .ok result)
      (allowed : result.permission.canUpdate = true)
  | authenticated (guarded : findFastapiValidator path = some .requireAuthentication)

/-- What the hook asks of a user that is no administrator, in front of a Flask view. -/
def HookPermits (context : RequestContext) (username : String) : Prop :=
  isUnprotectedRoute (app.flaskRequest request).path = true ∨
    letsIn app.flask (app.services context) (app.flaskRequest request) username = .ok true ∧
      checkQuota (app.services context) (app.flaskRequest request) username = none

/-- The context that the middleware makes for a user. -/
def authContext (username : String) : AuthContext :=
  ⟨username,getUserAdminStatus t username,
    if app.env.resolution.config.mlflowEnableWorkspaces then request.header "x-mlflow-workspace"
    else none⟩

variable {app path clock t request}

theorem map_eq_true {answer : Except Failure PermissionResult} {allows : PermissionResult → Bool} :
    answer.map allows = .ok true ↔ ∃ result, answer = .ok result ∧ allows result = true := by
  cases answer <;> simp [Except.map]

theorem run_iff {effective : ResourceRequest → Except Failure PermissionResult} {username : String}
    {validator : NativeValidator} (guarded : findFastapiValidator path = some validator) :
    validator.run effective path request username = .ok true ↔
      NativePermits path request effective username := by
  constructor
  · intro passed
    cases validator with
    | gateway =>
      simp only [NativeValidator.run] at passed
      split at passed
      · cases passed
      split at passed
      · cases passed
      · next value named =>
        obtain ⟨result,resolved,allowed⟩ := map_eq_true.mp passed
        exact .gateway guarded (names_iff.mp named) resolved allowed
    | otel =>
      simp only [NativeValidator.run] at passed
      split at passed
      · cases passed
      · next experimentId named =>
        obtain ⟨sent,present⟩ := truthy_eq_some.mp named
        obtain ⟨result,resolved,allowed⟩ := map_eq_true.mp passed
        exact .otel guarded sent present resolved allowed
    | requireAuthentication => exact .authenticated guarded
  · intro permits
    cases permits with
    | elsewhere unguarded =>
      rw [unguarded] at guarded
      cases guarded
    | gateway gateway named resolved allowed =>
      rw [gateway,Option.some.injEq] at guarded
      subst guarded
      have found := names_iff.mpr named
      have parsed : ¬ (path ∈ routesNeedingBody ∧ request.body = none) := by
        intro unparsed
        rw [unparsed.2,unparsed_unnamed unparsed.1] at found
        cases found
      simp only [NativeValidator.run,if_neg parsed,found,resolved,Except.map,allowed]
    | otel otel named present resolved allowed =>
      rw [otel,Option.some.injEq] at guarded
      subst guarded
      have sent := truthy_eq_some.mpr ⟨named,present⟩
      simp only [NativeValidator.run,sent,resolved,Except.map,allowed]
    | authenticated authenticated =>
      rw [authenticated,Option.some.injEq] at guarded
      subst guarded
      rfl

theorem nativePermits_iff {effective : ResourceRequest → Except Failure PermissionResult}
    {auth : AuthContext} (solid : auth.username ≠ "") :
    fastapiPermissionMiddleware effective path request (some auth) = none ↔
      auth.isAdmin = true ∨ NativePermits path request effective auth.username := by
  have named : truthy ((some auth).map AuthContext.username) = some auth.username := by
    simp [truthy,solid]
  unfold fastapiPermissionMiddleware
  rw [named]
  simp only [Option.map_some,Option.getD_some]
  cases guarded : findFastapiValidator path with
  | none => exact iff_of_true rfl (.inr (.elsewhere guarded))
  | some validator =>
    simp only
    by_cases admin : auth.isAdmin = true
    · simp [admin]
    · simp only [admin,Bool.false_eq_true,if_false,false_or]
      have answers : ∀ {answer : Except Failure Bool}, (match answer with
          | .ok true => none
          | .ok false => some 403
          | .error _ => some 403 : Option Nat) = none ↔ answer = .ok true := by
        intro answer
        rcases answer with _ | verdict
        · simp
        · cases verdict <;> simp
      rw [answers]
      exact run_iff guarded

theorem authMiddleware_next {auth : Option AuthContext} :
    authMiddleware app.env path clock t request = .next auth ↔
      isOpenRoute path = true ∧ auth = none ∨
        isOpenRoute path = false ∧ ∃ username, username ≠ "" ∧
          Identifies app.env clock t request username ∧
          auth = some (authContext app t request username) := by
  unfold authMiddleware
  cases unguarded : isOpenRoute path with
  | true => simp [eq_comm]
  | false =>
    simp only [Bool.false_eq_true,if_false,false_and,true_and,false_or]
    cases identified : (authenticateUser app.env clock t request).1 with
    | some username =>
      obtain ⟨solid,evidence⟩ := authenticateUser_iff.mp identified
      simp only [Passage.next.injEq]
      constructor
      · intro same
        exact ⟨username,solid,evidence,same.symm⟩
      · intro shown
        obtain ⟨other,solid',evidence',same⟩ := shown
        rw [authenticateUser_iff.mpr ⟨solid',evidence'⟩,Option.some.injEq] at identified
        subst identified
        exact same.symm
    | none =>
      constructor
      · intro passed
        simp only at passed
        split at passed
        · cases passed
        split at passed
        · cases passed
        split at passed
        · cases passed
        · cases passed
      · intro shown
        obtain ⟨username,solid,evidence,_⟩ := shown
        rw [authenticateUser_iff.mpr ⟨solid,evidence⟩] at identified
        cases identified

/-- The permission middleware lets a request without a user through to unguarded routes only. -/
theorem native_anonymous {effective : ResourceRequest → Except Failure PermissionResult} :
    fastapiPermissionMiddleware effective path request none = none ↔
      findFastapiValidator path = none := by
  unfold fastapiPermissionMiddleware
  cases findFastapiValidator path with
  | none => simp
  | some validator => simp [truthy]

theorem hook_anonymous {workspace : Option String} {flaskRequest : FlaskRequest} :
    (beforeRequestHook app.flask (app.services ⟨none,workspace⟩) flaskRequest).2 = none ↔
      isUnprotectedRoute flaskRequest.path = true := by
  have nobody : (app.services ⟨none,workspace⟩).username = none := by
    simp only [HookServices.username,app.context,getAuthContext]
  unfold beforeRequestHook
  rw [nobody]
  split
  · next spared => exact iff_of_true rfl spared
  · next guarded => exact iff_of_false (by simp) guarded

theorem hook_permits {workspace : Option String} {auth : AuthContext} (solid : auth.username ≠ "") :
    (beforeRequestHook app.flask (app.services ⟨some auth,workspace⟩) (app.flaskRequest request)).2 =
        none ↔
      auth.isAdmin = true ∨ HookPermits app request ⟨some auth,workspace⟩ auth.username := by
  have named : (app.services ⟨some auth,workspace⟩).username = some auth.username := by
    simp [HookServices.username,app.context,getAuthContext,truthy,solid]
  have admin : (app.services ⟨some auth,workspace⟩).isAdmin = auth.isAdmin := by
    simp only [HookServices.isAdmin,app.context,getAuthContext]
  unfold beforeRequestHook HookPermits
  rw [named,admin]
  split
  · next spared => exact iff_of_true rfl (.inr (.inl spared))
  · next guarded =>
    simp only [guarded,Bool.false_eq_true,false_or]
    by_cases isAdmin : auth.isAdmin = true
    · simp [isAdmin]
    · simp only [isAdmin,Bool.false_eq_true,if_false,false_or]
      cases entered : letsIn app.flask (app.services ⟨some auth,workspace⟩)
          (app.flaskRequest request) auth.username with
      | error failure => simp
      | ok verdict => cases verdict <;> simp

theorem served_iff {destination : Destination} {auth : Option AuthContext} :
    app.serve request clock t = .handled destination auth ↔
      destination = app.destination (app.proxied request) request ∧ ∃ workspace,
        workspaceContextMiddleware app.env (app.urlPath request.scope) request = .ok workspace ∧
        authMiddleware app.env (app.urlPath request.scope) clock t request = .next auth ∧
        fastapiPermissionMiddleware (app.effective ⟨none,workspace⟩)
          (app.urlPath (app.proxied request)) request auth = none ∧
        (destination = .flask → (beforeRequestHook app.flask (app.services ⟨auth,workspace⟩)
          (app.flaskRequest request)).2 = none) := by
  unfold Application.serve
  cases context : workspaceContextMiddleware app.env (app.urlPath request.scope) request with
  | error status => simp [context]
  | ok workspace =>
    cases passage : authMiddleware app.env (app.urlPath request.scope) clock t request with
    | refused status => simp [context,passage]
    | redirected toLogin => simp [context,passage]
    | next who =>
      cases checked : fastapiPermissionMiddleware (app.effective ⟨none,workspace⟩)
          (app.urlPath (app.proxied request)) request who with
      | some status =>
        simp only [context,passage,checked,Except.ok.injEq,exists_eq_left',Passage.next.injEq]
        constructor
        · intro served
          cases served
        · intro grounds
          obtain ⟨_,rfl,passed,_⟩ := grounds
          rw [checked] at passed
          cases passed
      | none =>
        simp only [context,passage,checked,Except.ok.injEq,exists_eq_left',Passage.next.injEq]
        constructor
        · intro served
          split at served
          · next flask =>
            split at served
            · cases served
            · next passed =>
              cases served
              exact ⟨flask.symm,rfl,checked,fun _ => passed⟩
          · next other =>
            cases served
            exact ⟨rfl,rfl,checked,fun flask => absurd flask other⟩
        · intro grounds
          obtain ⟨rfl,rfl,_,hook⟩ := grounds
          split
          · next flask => rw [hook flask,flask]
          · rfl

/-- The application serves a request exactly on these grounds: the path of its URL is open and,
behind the proxy headers, neither a native route's nor protected by the hook, or the request
shows who it is from and is allowed what it then asks for. -/
theorem handled_iff (app : Application) (clock : Clock) (t : Tables) (request : WebRequest)
    (destination : Destination) (auth : Option AuthContext) :
    app.serve request clock t = .handled destination auth ↔
      destination = app.destination (app.proxied request) request ∧ ∃ workspace,
        workspaceContextMiddleware app.env (app.urlPath request.scope) request = .ok workspace ∧
        (auth = none ∧ isOpenRoute (app.urlPath request.scope) = true ∧
            findFastapiValidator (app.urlPath (app.proxied request)) = none ∧
            (destination = .flask → isUnprotectedRoute (app.flaskRequest request).path = true) ∨
          isOpenRoute (app.urlPath request.scope) = false ∧ ∃ username, username ≠ "" ∧
            Identifies app.env clock t request username ∧
            auth = some (authContext app t request username) ∧
            (getUserAdminStatus t username = true ∨
              NativePermits (app.urlPath (app.proxied request)) request
                (app.effective ⟨none,workspace⟩) username ∧
              (destination = .flask → HookPermits app request
                ⟨some (authContext app t request username),workspace⟩ username))) := by
  rw [served_iff]
  apply and_congr_right
  intro routed
  apply exists_congr
  intro workspace
  apply and_congr_right
  intro resolved
  rw [authMiddleware_next]
  constructor
  · intro grounds
    obtain ⟨passed,checked,hook⟩ := grounds
    rcases passed with ⟨unguarded,rfl⟩ | ⟨guarded,username,solid,evidence,rfl⟩
    · left
      exact ⟨rfl,unguarded,native_anonymous.mp checked,fun flask => hook_anonymous.mp (hook flask)⟩
    · right
      refine ⟨guarded,username,solid,evidence,rfl,?_⟩
      have solid' : (authContext app t request username).username ≠ "" := solid
      rcases (nativePermits_iff solid').mp checked with admin | permits
      · exact .inl admin
      · by_cases admin : getUserAdminStatus t username = true
        · exact .inl admin
        · refine .inr ⟨permits,fun flask => ?_⟩
          exact ((hook_permits solid').mp (hook flask)).resolve_left admin
  · intro grounds
    rcases grounds with
      ⟨rfl,unguarded,unchecked,spared⟩ | ⟨guarded,username,solid,evidence,rfl,allowed⟩
    · exact ⟨.inl ⟨unguarded,rfl⟩,native_anonymous.mpr unchecked,
        fun flask => hook_anonymous.mpr (spared flask)⟩
    · have solid' : (authContext app t request username).username ≠ "" := solid
      refine ⟨.inr ⟨guarded,username,solid,evidence,rfl⟩,?_,?_⟩
      · rw [nativePermits_iff solid']
        exact allowed.imp id And.left
      · intro flask
        rw [hook_permits solid']
        exact allowed.imp id (fun permits => permits.2 flask)

/-- Neither the headers nor the bridge to Flask make another path of the request's. -/
structure Application.Straight (app : Application) (request : WebRequest) : Prop where
  arrives : app.urlPath request.scope = request.path
  proxied : app.urlPath (app.proxied request) = request.path
  flask : (app.flaskRequest request).path = request.path

/-- Such a request is served to nobody in particular where its path is open and, towards Flask,
public for the hook as well. -/
theorem anonymous_iff (straight : app.Straight request) {destination : Destination} :
    app.serve request clock t = .handled destination none ↔
      destination = app.destination (app.proxied request) request ∧
        (∃ workspace, workspaceContextMiddleware app.env request.path request = .ok workspace) ∧
        isOpenRoute request.path = true ∧ (destination = .flask →
          publicPrefixes.any (startsWith · request.path) = true) := by
  rw [handled_iff,straight.arrives,straight.proxied,straight.flask]
  apply and_congr_right
  intro routed
  simp only [reduceCtorEq,false_and,and_false,exists_false,or_false,true_and,exists_and_right]
  apply and_congr_right
  intro resolved
  constructor
  · intro ⟨unguarded,_,spared⟩
    exact ⟨unguarded,fun flask => public_iff.mp ⟨unguarded,spared flask⟩⟩
  · intro ⟨unguarded,spared⟩
    exact ⟨unguarded,native_closed unguarded,fun flask => (public_iff.mpr (spared flask)).2⟩

end Served

end MlflowOidcAuth
