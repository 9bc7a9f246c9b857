import MlflowOidcAuth.Hook.PromptAccess
import MlflowOidcAuth.Library.IsoFormat
import MlflowOidcAuth.Routers.Login

/-! Access tokens: the endpoint that creates one, with the expiry it is asked for, and the
authentication with a token, which reads the stored expiry in UTC. -/
namespace MlflowOidcAuth
open Effects

/-- Instants are microseconds since the first day of year 1, in UTC. -/
structure TokenEnv extends StoreEnv where
  checkPasswordHash : String → String → Bool
  generateToken : String

structure CreateAccessTokenRequest where
  username : Option String
  expiration : Option String
deriving DecidableEq, Repr

structure TokenCall where
  tokenRequest : Option CreateAccessTokenRequest
  currentUsername : String
  isAdmin : Bool
deriving DecidableEq, Repr

namespace TokenCall

def targetUsername (call : TokenCall) : String :=
  (truthy (call.tokenRequest.bind CreateAccessTokenRequest.username)).getD call.currentUsername

/-- The expiration, unless there is none or an empty one. -/
def expirationText (call : TokenCall) : Option String :=
  truthy (call.tokenRequest.bind CreateAccessTokenRequest.expiration)

def Forbidden (call : TokenCall) : Prop :=
  call.targetUsername ≠ call.currentUsername ∧ call.isAdmin = false

instance (call : TokenCall) : Decidable call.Forbidden := by
  unfold Forbidden
  infer_instance

end TokenCall

/-- A `Z` at the end of a text is written as an offset. -/
def utcText (text : String) : String :=
  if text.toList.getLast? = some 'Z' then String.ofList text.toList.dropLast ++ "+00:00" else text

def readExpiration (text : String) : Option DateTime :=
  (IsoFormat.fromisoformat (utcText text)).map (fun read => ⟨read.1,read.2⟩)

def parseExpiration (now : Int) (text : String) : Except Refusal DateTime :=
  match readExpiration text with
  | none => .error (.http 400 "Invalid expiration date format")
  | some expiration =>
    match expiration.utcOffset with
    | none => .error (.raised (.other "can't compare offset-naive and offset-aware datetimes"))
    | some offset =>
      if expiration.wallClock - offset < now then
        .error (.http 400 "Expiration date must be in the future")
      else if now + 366 * IsoFormat.day < expiration.wallClock - offset then
        .error (.http 400 "Expiration date must be less than 1 year in the future")
      else .ok expiration

def requestedExpiration (now : Int) : Option String → Except Refusal (Option DateTime)
  | none => .ok none
  | some text => (parseExpiration now text).map some

/-- A `DateTime` column without time zone keeps the wall-clock fields. -/
def DateTime.inColumn (value : DateTime) : DateTime := { value with utcOffset := none }

section Endpoint
variable (env : TokenEnv) (now : Int) (call : TokenCall)

def tokenChange (expiration : Option DateTime) : UserChange :=
  { password := some env.generateToken, passwordExpiration := expiration.map DateTime.inColumn }

def storeToken (expiration : Option DateTime) : EStateM Failure Database PUnit := do
  UserModule.getUserProfile call.targetUsername
  (Operation.updateUser call.targetUsername (tokenChange env expiration)).run env.toStoreEnv

/-- The new token. Any exception that is no `HTTPException` is answered as a server error. -/
def createAccessToken : EStateM Refusal Database String := fun db =>
  if call.Forbidden then
    .error (.http 403 "Administrator privileges required for this operation") db
  else
    match requestedExpiration now call.expirationText with
    | .error (.http status detail) => .error (.http status detail) db
    | .error (.raised _) => .error (.http 500 "Failed to create access token") db
    | .ok expiration =>
      match storeToken env call expiration db with
      | .ok _ reached => .ok env.generateToken reached
      | .error _ reached => .error (.http 500 "Failed to create access token") reached

/-- The instant that a stored date and time stands for: one without an offset is read in UTC. -/
def DateTime.instant (value : DateTime) : Int := value.wallClock - value.utcOffset.getD 0

/-- `UserRepository.authenticate`; the expiry is written back as it was read. -/
def authenticate (username password : String) (t : Tables) : Except Failure Bool :=
  match t.getUser username with
  | .error (.mlflow _ _) => .ok false
  | .error failure => .error failure
  | .ok user =>
    if user.passwordExpiration.any (fun expiry => decide (expiry.instant < now)) then .ok false
    else .ok (env.checkPasswordHash user.passwordHash password)

end Endpoint

section Accounts
variable {db : Database} {username : String} {user : SqlUser}

/-- Rewriting accounts keeps the schema as long as it keeps ids and names. -/
theorem integrity_mapUsers {t : Tables} (integrity : Integrity t) {rewrite : SqlUser → SqlUser}
    (sameId : ∀ user, (rewrite user).id = user.id)
    (sameName : ∀ user, (rewrite user).username = user.username) :
    Integrity { t with users := t.users.map rewrite } := by
  have ids : (t.users.map rewrite).map SqlUser.id = t.users.map SqlUser.id := by
    rw [List.map_map]
    exact List.map_congr_left (fun user _ => sameId user)
  have names : (t.users.map rewrite).map SqlUser.username = t.users.map SqlUser.username := by
    rw [List.map_map]
    exact List.map_congr_left (fun user _ => sameName user)
  have userIds : ({ t with users := t.users.map rewrite } : Tables).userIds = t.userIds := ids
  exact { integrity with
    userIds := userIds ▸ integrity.userIds
    usernames := names ▸ integrity.usernames
    memberUsers := userIds ▸ integrity.memberUsers
    userPermissions := fun family => userIds ▸ integrity.userPermissions family
    userRegexPermissions := fun family => userIds ▸ integrity.userRegexPermissions family
    workspacePermissions := userIds ▸ integrity.workspacePermissions
    workspaceRegexPermissions := userIds ▸ integrity.workspaceRegexPermissions
    userQuotas := userIds ▸ integrity.userQuotas }

/-- A change that keeps id and name is committed, and the account is then the changed one. -/
theorem changeUser_commits {change : SqlUser → SqlUser}
    (sameId : ∀ user, (change user).id = user.id)
    (sameName : ∀ user, (change user).username = user.username)
    (known : db.tables.getUser username = .ok user) :
    ∃ reached, session rejected (Tables.changeUser change username) db = .ok () reached ∧
      reached.tables.getUser username = .ok (change user) := by
  let rewrite := fun account : SqlUser => if account.id = user.id then change account else account
  have rewriteId : ∀ account, (rewrite account).id = account.id := by
    intro account
    simp only [rewrite]
    split
    · exact sameId account
    · rfl
  have rewriteName : ∀ account, (rewrite account).username = account.username := by
    intro account
    simp only [rewrite]
    split
    · exact sameName account
    · rfl
  have ran : Tables.changeUser change username db.tables =
      .ok { db.tables with users := db.tables.users.map rewrite } := by
    simp only [Tables.changeUser,known]
    rfl
  refine ⟨_,session_commits ran (integrity_mapUsers db.integrity rewriteId rewriteName),?_⟩
  apply Tables.getUser_eq_ok.mpr
  have named : ({ db.tables with users := db.tables.users.map rewrite } : Tables).usersNamed
      username = (db.tables.usersNamed username).map rewrite := by
    simp only [Tables.usersNamed,List.filter_map,Function.comp_def,rewriteName]
  rw [named,Tables.getUser_eq_ok.mp known]
  simp only [List.map_cons,List.map_nil,rewrite,if_true]

end Accounts

section Stored
variable (env : TokenEnv) (now : Int) (call : TokenCall) {db reached : Database} {user : SqlUser}

theorem storeToken_ok (expiration : Option DateTime)
    (known : db.tables.getUser call.targetUsername = .ok user) :
    ∃ reached, storeToken env call expiration db = .ok () reached ∧
      reached.tables.getUser call.targetUsername =
        .ok ((tokenChange env expiration).apply env.generatePasswordHash user) := by
  have committed : ∃ reached,
      session rejected (Tables.changeUser ((tokenChange env expiration).apply
        env.generatePasswordHash) call.targetUsername) db = .ok () reached ∧
      reached.tables.getUser call.targetUsername =
        .ok ((tokenChange env expiration).apply env.generatePasswordHash user) :=
    changeUser_commits (fun _ => rfl) (fun _ => rfl) known
  obtain ⟨reached,ran,changed⟩ := committed
  exact ⟨reached,(bind_of_ok (getUserProfile_of_user known)).trans ran,changed⟩

theorem storeToken_raises (expiration : Option DateTime)
    (unknown : ∀ user, db.tables.getUser call.targetUsername ≠ .ok user) :
    ∃ failure, storeToken env call expiration db = .error failure db := by
  obtain ⟨failure,raised⟩ := getUserProfile_raises unknown
  exact ⟨failure,bind_of_error raised⟩

/-- An accepted request was allowed, its expiration passed, and the account holds the new token. -/
theorem createAccessToken_ok {token : String}
    (ran : createAccessToken env now call db = .ok token reached) :
    token = env.generateToken ∧ ∃ expiration user,
      requestedExpiration now call.expirationText = .ok expiration ∧
      db.tables.getUser call.targetUsername = .ok user ∧
      reached.tables.getUser call.targetUsername =
        .ok ((tokenChange env expiration).apply env.generatePasswordHash user) := by
  unfold createAccessToken at ran
  split at ran
  · cases ran
  · split at ran
    · cases ran
    · cases ran
    · next expiration requested =>
      by_cases account : ∃ user, db.tables.getUser call.targetUsername = .ok user
      · obtain ⟨user,known⟩ := account
        obtain ⟨written,stored,changed⟩ := storeToken_ok env call expiration known
        rw [stored] at ran
        cases ran
        exact ⟨rfl,expiration,user,requested,known,changed⟩
      · obtain ⟨failure,raised⟩ := storeToken_raises env call expiration
          (fun user known => account ⟨user,known⟩)
        rw [raised] at ran
        cases ran

/-- The new token is accepted until the expiry that the account is left with. -/
theorem authenticate_stored {expiration : Option DateTime}
    (verifies : ∀ password,
      env.checkPasswordHash (env.generatePasswordHash password) password = true)
    (stored : reached.tables.getUser call.targetUsername =
      .ok ((tokenChange env expiration).apply env.generatePasswordHash user)) :
    authenticate env now call.targetUsername env.generateToken reached.tables = .ok true ↔
      ∀ expiry, (expiration.map DateTime.inColumn).orElse (fun _ => user.passwordExpiration) =
        some expiry → now ≤ expiry.instant := by
  have verified : env.checkPasswordHash
      ((tokenChange env expiration).apply env.generatePasswordHash user).passwordHash
      env.generateToken = true := verifies env.generateToken
  have left :
      ((tokenChange env expiration).apply env.generatePasswordHash user).passwordExpiration =
        (expiration.map DateTime.inColumn).orElse (fun _ => user.passwordExpiration) := rfl
  unfold authenticate
  rw [stored]
  simp only [verified,left]
  cases (expiration.map DateTime.inColumn).orElse (fun _ => user.passwordExpiration) with
  | none => simp
  | some expiry =>
    simp only [Option.any_some,decide_eq_true_eq,Option.some.injEq,forall_eq']
    split
    · next past => simp [past]
    · next future => simpa using future

end Stored

section Answers
variable {env : TokenEnv} {now : Int} {call : TokenCall} {db : Database}

/-- What is read of the expiration decides the answer, and the account whether it is stored. -/
theorem createAccessToken_of_refused {status : Nat} {detail : String}
    (allowed : ¬call.Forbidden)
    (requested : requestedExpiration now call.expirationText = .error (.http status detail)) :
    createAccessToken env now call db = .error (.http status detail) db := by
  simp only [createAccessToken,if_neg allowed,requested]

theorem createAccessToken_of_raised {failure : Failure}
    (allowed : ¬call.Forbidden)
    (requested : requestedExpiration now call.expirationText = .error (.raised failure)) :
    createAccessToken env now call db = .error (.http 500 "Failed to create access token") db := by
  simp only [createAccessToken,if_neg allowed,requested]

theorem createAccessToken_of_unknown {expiration : Option DateTime}
    (allowed : ¬call.Forbidden)
    (requested : requestedExpiration now call.expirationText = .ok expiration)
    (unknown : ∀ user, db.tables.getUser call.targetUsername ≠ .ok user) :
    createAccessToken env now call db = .error (.http 500 "Failed to create access token") db := by
  obtain ⟨failure,raised⟩ := storeToken_raises env call expiration unknown
  simp only [createAccessToken,if_neg allowed,requested,raised]

theorem createAccessToken_of_known {expiration : Option DateTime} {user : SqlUser}
    (allowed : ¬call.Forbidden)
    (requested : requestedExpiration now call.expirationText = .ok expiration)
    (known : db.tables.getUser call.targetUsername = .ok user) :
    ∃ reached, createAccessToken env now call db = .ok env.generateToken reached ∧
      reached.tables.getUser call.targetUsername =
        .ok ((tokenChange env expiration).apply env.generatePasswordHash user) := by
  obtain ⟨reached,stored,changed⟩ := storeToken_ok env call expiration known
  exact ⟨reached,by simp only [createAccessToken,if_neg allowed,requested,stored],changed⟩

end Answers

section Examples

def plainTokens : TokenEnv :=
  { StoreEnv.bare with
    checkPasswordHash := fun hash password => hash == password
    generateToken := "tkn" }

theorem plainTokens_verifies (password : String) :
    plainTokens.checkPasswordHash (plainTokens.generatePasswordHash password) password = true :=
  beq_self_eq_true password

def alice : SqlUser := ⟨1,"alice","Alice","old",some ⟨0,none⟩,false,false⟩

/-- Alice's earlier token has expired long ago. -/
def expiredAlice : Database := ⟨{ Tables.empty with users := [alice] },by decide⟩

theorem alice_known : expiredAlice.tables.getUser "alice" = .ok alice := by decide

/-- The first of May 2030. -/
def mayFirst : Int := 64039420800000000

def aliceAsks (expiration : Option String) : TokenCall := ⟨some ⟨none,expiration⟩,"alice",false⟩

end Examples

section Immediately
variable (env : TokenEnv) (now t : Int) (call : TokenCall) {db reached : Database}

/-- The instant at which a token of this call expires: the wall-clock fields of the expiration in
UTC, or what an earlier token has left in the account. -/
def LeavesExpiry (tables : Tables) (expiry : Int) : Prop :=
  (∃ text expiration, call.expirationText = some text ∧ readExpiration text = some expiration ∧
    expiration.wallClock = expiry) ∨
  call.expirationText = none ∧ ∃ user old, tables.getUser call.targetUsername = .ok user ∧
    user.passwordExpiration = some old ∧ old.instant = expiry

/-- An expiration is refused as the client's fault, or raises for want of an offset, or lies
within a year from now. -/
theorem parseExpiration_cases (text : String) :
    (∃ detail, parseExpiration now text = .error (.http 400 detail) ∧
      (readExpiration text = none ∨ ∃ wallClock offset,
        readExpiration text = some ⟨wallClock,some offset⟩ ∧
          (wallClock - offset < now ∨ now + 366 * IsoFormat.day < wallClock - offset))) ∨
    (∃ failure, parseExpiration now text = .error (.raised failure) ∧
      ∃ wallClock, readExpiration text = some ⟨wallClock,none⟩) ∨
    ∃ wallClock offset, parseExpiration now text = .ok ⟨wallClock,some offset⟩ ∧
      readExpiration text = some ⟨wallClock,some offset⟩ ∧
      ¬wallClock - offset < now ∧ ¬now + 366 * IsoFormat.day < wallClock - offset := by
  cases read : readExpiration text with
  | none =>
    left
    exact ⟨_,by simp only [parseExpiration,read]; rfl,.inl rfl⟩
  | some expiration =>
    obtain ⟨wallClock,utcOffset⟩ := expiration
    cases utcOffset with
    | none =>
      right
      left
      exact ⟨_,by simp only [parseExpiration,read]; rfl,wallClock,rfl⟩
    | some offset =>
      by_cases past : wallClock - offset < now
      · left
        exact ⟨_,by simp only [parseExpiration,read,if_pos past]; rfl,
          .inr ⟨wallClock,offset,rfl,.inl past⟩⟩
      by_cases far : now + 366 * IsoFormat.day < wallClock - offset
      · left
        exact ⟨_,by simp only [parseExpiration,read,if_neg past,if_pos far]; rfl,
          .inr ⟨wallClock,offset,rfl,.inr far⟩⟩
      right
      right
      exact ⟨wallClock,offset,by simp only [parseExpiration,read,if_neg past,if_neg far],rfl,
        past,far⟩

theorem parseExpiration_ok {text : String} {expiration : DateTime}
    (parsed : parseExpiration now text = .ok expiration) :
    readExpiration text = some expiration := by
  rcases parseExpiration_cases now text with ⟨_,raised,_⟩ | ⟨_,raised,_⟩ | ⟨_,_,passed,read,_⟩
  · rw [parsed] at raised
    cases raised
  · rw [parsed] at raised
    cases raised
  · rw [parsed] at passed
    cases passed
    exact read

theorem requestedExpiration_ok {text : String} {expiration : Option DateTime}
    (requested : requestedExpiration now (some text) = .ok expiration) :
    ∃ asked, parseExpiration now text = .ok asked ∧ expiration = some asked := by
  change (parseExpiration now text).map some = .ok expiration at requested
  cases parsed : parseExpiration now text with
  | error refusal =>
    rw [parsed] at requested
    cases requested
  | ok asked =>
    rw [parsed] at requested
    cases requested
    exact ⟨asked,rfl,rfl⟩

/-- A new token authenticates at a reading of the clock exactly when the account is left with
no expiry or with one that is not before it. -/
theorem token_authenticates_iff {token : String}
    (verifies : ∀ password,
      env.checkPasswordHash (env.generatePasswordHash password) password = true)
    (ran : createAccessToken env now call db = .ok token reached) :
    authenticate env t call.targetUsername token reached.tables = .ok true ↔
      ∀ expiry, LeavesExpiry call db.tables expiry → t ≤ expiry := by
  obtain ⟨rfl,expiration,user,requested,known,stored⟩ := createAccessToken_ok env now call ran
  rw [authenticate_stored env t call verifies stored]
  cases given : call.expirationText with
  | none =>
    rw [given] at requested
    cases requested
    constructor
    · intro lasts expiry leaves
      rcases leaves with ⟨text,_,given',_⟩ | ⟨_,account,old,known',recorded,rfl⟩
      · rw [given] at given'
        cases given'
      · rw [known] at known'
        cases known'
        exact lasts old recorded
    · intro lasts old recorded
      exact lasts old.instant (.inr ⟨given,user,old,known,recorded,rfl⟩)
  | some text =>
    rw [given] at requested
    obtain ⟨asked,parsed,rfl⟩ := requestedExpiration_ok now requested
    have read := parseExpiration_ok now parsed
    have instant : asked.inColumn.instant = asked.wallClock := Int.sub_zero _
    constructor
    · intro lasts expiry leaves
      rcases leaves with ⟨text',asked',given',read',rfl⟩ | ⟨absent,_⟩
      · rw [given,Option.some.injEq] at given'
        subst given'
        rw [read,Option.some.injEq] at read'
        subst read'
        exact instant ▸ lasts asked.inColumn rfl
      · rw [given] at absent
        cases absent
    · intro lasts expiry recorded
      cases recorded
      rw [instant]
      exact lasts asked.wallClock (.inl ⟨text,asked,given,read,rfl⟩)

theorem token_until_june : ∃ reached, createAccessToken plainTokens mayFirst
      (aliceAsks (some "2030-06-01T12:00:00Z")) expiredAlice = .ok "tkn" reached ∧
    authenticate plainTokens mayFirst "alice" "tkn" reached.tables = .ok true := by
  have read : readExpiration "2030-06-01T12:00:00Z" = some ⟨64042142400000000,some 0⟩ := by
    decide +kernel
  have requested : requestedExpiration mayFirst (some "2030-06-01T12:00:00Z") =
      .ok (some ⟨64042142400000000,some 0⟩) := by
    simp only [requestedExpiration,parseExpiration,read]
    rfl
  have created : ∃ reached, createAccessToken plainTokens mayFirst
      (aliceAsks (some "2030-06-01T12:00:00Z")) expiredAlice = .ok "tkn" reached ∧ _ :=
    createAccessToken_of_known (by decide) requested alice_known
  obtain ⟨reached,ran,_⟩ := created
  refine ⟨reached,ran,
    (token_authenticates_iff _ mayFirst mayFirst _ plainTokens_verifies ran).mpr ?_⟩
  intro expiry leaves
  rcases leaves with ⟨text,expiration,given,read',rfl⟩ | ⟨absent,_⟩
  · cases given
    rw [read] at read'
    cases read'
    decide
  · cases absent

/-- A token asked for without an expiration inherits the one of the token before it. -/
theorem expired_at_once : ¬∀ env now call db token reached,
    (∀ password,
      TokenEnv.checkPasswordHash env (env.generatePasswordHash password) password = true) →
    createAccessToken env now call db = .ok token reached →
    authenticate env now call.targetUsername token reached.tables = .ok true := by
  intro accepted
  have created : ∃ reached, createAccessToken plainTokens mayFirst (aliceAsks none) expiredAlice =
      .ok "tkn" reached ∧ reached.tables.getUser "alice" =
        .ok ((tokenChange plainTokens none).apply plainTokens.generatePasswordHash alice) :=
    createAccessToken_of_known (by decide) rfl alice_known
  obtain ⟨reached,ran,stored⟩ := created
  have valid := (authenticate_stored plainTokens mayFirst (aliceAsks none) plainTokens_verifies
    stored).mp (accepted _ _ _ _ _ _ plainTokens_verifies ran) ⟨0,none⟩ rfl
  exact absurd valid (by decide)

end Immediately

section Honoured
variable (env : TokenEnv) (now : Int) (call : TokenCall) (text : String) {db reached : Database}

/-- The instant that an expiration asks for, if it says one. -/
def requestedInstant : Option Int :=
  (readExpiration text).bind (fun read =>
    read.utcOffset.map (fun offset => read.wallClock - offset))

/-- The expiration is refused as the client's fault or the token is accepted until the instant
asked for. -/
structure HonoursExpiration (db : Database) : Prop where
  refused : ∀ refusal reached, createAccessToken env now call db = .error refusal reached →
    ∃ status detail, refusal = .http status detail ∧ 400 ≤ status ∧ status < 500
  stored : ∀ token reached, createAccessToken env now call db = .ok token reached →
    ∃ instant, requestedInstant text = some instant ∧ ∀ t,
      authenticate env t call.targetUsername token reached.tables = .ok true ↔ t ≤ instant

variable {env now call text}

theorem honours_of_refused {status : Nat} {detail : String}
    (refused : createAccessToken env now call db = .error (.http status detail) db)
    (client : 400 ≤ status ∧ status < 500) : HonoursExpiration env now call text db := by
  constructor
  · intro refusal reached raised
    rw [refused] at raised
    cases raised
    exact ⟨status,detail,rfl,client⟩
  · intro token reached ran
    rw [refused] at ran
    cases ran

theorem not_honours_of_failed {detail : String}
    (failed : createAccessToken env now call db = .error (.http 500 detail) db) :
    ¬HonoursExpiration env now call text db := by
  intro honours
  obtain ⟨status,_,same,_,client⟩ := honours.refused _ _ failed
  cases same
  exact absurd client (by omega)

theorem readExpiration_empty : readExpiration "" = none := by decide

/-- An expiration in UTC is kept, one with another offset is not. -/
theorem honours_of_known {user : SqlUser} {wallClock offset : Int} (allowed : ¬call.Forbidden)
    (verifies : ∀ password,
      env.checkPasswordHash (env.generatePasswordHash password) password = true)
    (requested : requestedExpiration now call.expirationText = .ok (some ⟨wallClock,some offset⟩))
    (read : readExpiration text = some ⟨wallClock,some offset⟩)
    (known : db.tables.getUser call.targetUsername = .ok user) :
    HonoursExpiration env now call text db ↔ offset = 0 := by
  obtain ⟨reached,ran,stored⟩ := createAccessToken_of_known allowed requested known
  have asked : requestedInstant text = some (wallClock - offset) := by
    unfold requestedInstant
    rw [read]
    rfl
  have accepted : ∀ t, authenticate env t call.targetUsername env.generateToken reached.tables =
      .ok true ↔ t ≤ wallClock := by
    intro t
    rw [authenticate_stored env t call verifies stored]
    have instant : (DateTime.inColumn ⟨wallClock,some offset⟩).instant = wallClock := Int.sub_zero _
    constructor
    · intro lasts
      exact instant ▸ lasts _ rfl
    · intro early expiry recorded
      cases recorded
      rw [instant]
      exact early
  constructor
  · intro honours
    obtain ⟨instant,asked',lasts⟩ := honours.stored _ _ ran
    rw [asked,Option.some.injEq] at asked'
    have late := (accepted (wallClock - offset)).mp ((lasts _).mpr (by omega))
    have early := (lasts wallClock).mp ((accepted _).mpr (Int.le_refl _))
    omega
  · intro utc
    constructor
    · intro refusal reached' raised
      rw [ran] at raised
      cases raised
    · intro token reached' ran'
      rw [ran] at ran'
      cases ran'
      refine ⟨wallClock - offset,asked,?_⟩
      intro t
      rw [accepted,utc,Int.sub_zero]

theorem not_honours_of_empty (allowed : ¬call.Forbidden) (absent : call.expirationText = none) :
    ¬HonoursExpiration env now call "" db := by
  have requested : requestedExpiration now call.expirationText = .ok none := by
    rw [absent]
    rfl
  by_cases account : ∃ user, db.tables.getUser call.targetUsername = .ok user
  · obtain ⟨user,known⟩ := account
    have created : ∃ reached,
        createAccessToken env now call db = .ok env.generateToken reached ∧ _ :=
      createAccessToken_of_known allowed requested known
    obtain ⟨reached,ran,_⟩ := created
    intro honours
    obtain ⟨instant,asked,_⟩ := honours.stored _ _ ran
    rw [requestedInstant,readExpiration_empty] at asked
    cases asked
  · exact not_honours_of_failed (createAccessToken_of_unknown allowed requested
      (fun user known => account ⟨user,known⟩))

theorem honours_of_parsed {wallClock offset : Int} (allowed : ¬call.Forbidden)
    (verifies : ∀ password,
      env.checkPasswordHash (env.generatePasswordHash password) password = true)
    (requested : requestedExpiration now call.expirationText = .ok (some ⟨wallClock,some offset⟩))
    (read : readExpiration text = some ⟨wallClock,some offset⟩) :
    HonoursExpiration env now call text db ↔
      offset = 0 ∧ ∃ user, db.tables.getUser call.targetUsername = .ok user := by
  by_cases account : ∃ user, db.tables.getUser call.targetUsername = .ok user
  · obtain ⟨user,known⟩ := account
    rw [honours_of_known allowed verifies requested read known]
    exact (and_iff_left ⟨user,known⟩).symm
  · have failed : createAccessToken env now call db =
        .error (.http 500 "Failed to create access token") db :=
      createAccessToken_of_unknown allowed requested (fun user known => account ⟨user,known⟩)
    exact iff_of_false (not_honours_of_failed failed) (fun condition => account condition.2)

/-- An expiration is honoured exactly when the call is forbidden, or the text is not empty and
is malformed, or asks for an instant in the past or too far ahead, or is in UTC and the account
exists. -/
theorem honoursExpiration_iff (env : TokenEnv) (now : Int) (call : TokenCall) (text : String)
    (db : Database) (given : call.tokenRequest.bind CreateAccessTokenRequest.expiration = some text)
    (verifies : ∀ password,
      env.checkPasswordHash (env.generatePasswordHash password) password = true) :
    HonoursExpiration env now call text db ↔ call.Forbidden ∨ text ≠ "" ∧
      (readExpiration text = none ∨
        ∃ wallClock offset, readExpiration text = some ⟨wallClock,some offset⟩ ∧
          (wallClock - offset < now ∨ now + 366 * IsoFormat.day < wallClock - offset ∨
            offset = 0 ∧ ∃ user, db.tables.getUser call.targetUsername = .ok user)) := by
  by_cases forbidden : call.Forbidden
  · have refused : createAccessToken env now call db =
        .error (.http 403 "Administrator privileges required for this operation") db :=
      if_pos forbidden
    exact iff_of_true (honours_of_refused refused (by omega)) (.inl forbidden)
  rw [or_iff_right forbidden]
  by_cases empty : text = ""
  · subst empty
    have absent : call.expirationText = none := by
      unfold TokenCall.expirationText
      rw [given]
      rfl
    exact iff_of_false (not_honours_of_empty forbidden absent) (fun condition => condition.1 rfl)
  rw [and_iff_right empty]
  have asked : call.expirationText = some text := truthy_eq_some.mpr ⟨given,empty⟩
  have requested : requestedExpiration now call.expirationText =
      (parseExpiration now text).map some := by rw [asked]; rfl
  rcases parseExpiration_cases now text with
    ⟨detail,parsed,outside⟩ | ⟨failure,parsed,wallClock,naive⟩ |
    ⟨wallClock,offset,parsed,read,past,far⟩
  · rw [parsed] at requested
    apply iff_of_true
    · exact honours_of_refused (createAccessToken_of_refused forbidden requested) (by omega)
    · rcases outside with unread | ⟨wallClock,offset,read,past | far⟩
      · exact .inl unread
      · exact .inr ⟨wallClock,offset,read,.inl past⟩
      · exact .inr ⟨wallClock,offset,read,.inr (.inl far)⟩
  · rw [parsed] at requested
    apply iff_of_false
    · exact not_honours_of_failed (createAccessToken_of_raised forbidden requested)
    · simp [naive]
  · rw [parsed] at requested
    rw [honours_of_parsed forbidden verifies requested read]
    constructor
    · intro kept
      exact .inr ⟨wallClock,offset,read,.inr (.inr kept)⟩
    · intro condition
      rcases condition with unread | ⟨wallClock',offset',read',outside⟩
      · rw [read] at unread
        cases unread
      · rw [read] at read'
        cases read'
        rcases outside with past' | far' | kept
        · exact absurd past' past
        · exact absurd far' far
        · exact kept

theorem june_honoured : HonoursExpiration plainTokens mayFirst
    (aliceAsks (some "2030-06-01T12:00:00Z")) "2030-06-01T12:00:00Z" expiredAlice :=
  (honoursExpiration_iff _ _ _ _ _ rfl plainTokens_verifies).mpr (.inr ⟨by decide,
    .inr ⟨64042142400000000,0,by decide +kernel,.inr (.inr ⟨rfl,alice,alice_known⟩)⟩⟩)

theorem june_prolonged : ¬∀ env now call text db,
    call.tokenRequest.bind CreateAccessTokenRequest.expiration = some text →
    (∀ password,
      TokenEnv.checkPasswordHash env (env.generatePasswordHash password) password = true) →
    HonoursExpiration env now call text db := by
  intro honours
  have read : readExpiration "2030-06-01T12:00:00+02:00" =
      some ⟨64042142400000000,some 7200000000⟩ := by decide +kernel
  have requested : requestedExpiration mayFirst (some "2030-06-01T12:00:00+02:00") =
      .ok (some ⟨64042142400000000,some 7200000000⟩) := by
    simp only [requestedExpiration,parseExpiration,read]
    rfl
  have honoured := honours plainTokens mayFirst
    (aliceAsks (some "2030-06-01T12:00:00+02:00")) "2030-06-01T12:00:00+02:00" expiredAlice rfl
    plainTokens_verifies
  have allowed : ¬(aliceAsks (some "2030-06-01T12:00:00+02:00")).Forbidden := by decide
  have utc := (honours_of_known allowed plainTokens_verifies requested read alice_known).mp honoured
  exact absurd utc (by decide)

end Honoured
end MlflowOidcAuth
