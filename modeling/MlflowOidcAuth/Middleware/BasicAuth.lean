import MlflowOidcAuth.Library.Base64
import MlflowOidcAuth.Library.TextSearch
import MlflowOidcAuth.Routers.AccessToken

/-! Basic authentication with the accounts that the user API creates: the credentials of the
header, the name that they are looked up under, and which accounts their tokens reach. -/
namespace MlflowOidcAuth
open Effects

/-- Lower case is the language's own; it makes no colon out of another character. -/
structure AuthEnv extends TokenEnv where
  lower : String → String
  lower_plain : ∀ text, ':' ∉ text.toList → ':' ∉ (lower text).toList

def AuthEnv.toLoginEnv (env : AuthEnv) : LoginEnv where
  toStoreEnv := env.toStoreEnv
  generateToken := env.generateToken
  lower := env.lower

structure CreateUserRequest where
  username : String
  displayName : String
  isAdmin : Bool := false
  isServiceAccount : Bool := false
deriving DecidableEq, Repr

section Creation

namespace UserModule

/-- The user that a store method returns. -/
def userNamed (username : String) : EStateM Failure Database SqlUser := fun db =>
  match db.tables.getUser username with
  | .error failure => .error failure db
  | .ok user => .ok user db

def createUserMessage (user : SqlUser) (outcome : String) : String :=
  "User " ++ user.username ++ " (ID: " ++ toString user.id ++ ") " ++ outcome

section Account
variable (env : LoginEnv) (username displayName : String) (isAdmin isServiceAccount : Bool)

def updateAccount : EStateM Failure Database (Bool × String) := do
  getUserProfile username
  let user ← userNamed username
  (Operation.updateUser username
    { isAdmin := some isAdmin, isServiceAccount := some isServiceAccount }).run env.toStoreEnv
  return (false,createUserMessage user "already exists")

def insertAccount : EStateM Failure Database (Bool × String) := do
  (Operation.createUser username env.generateToken displayName isAdmin isServiceAccount).run
    env.toStoreEnv
  let user ← userNamed username
  return (true,createUserMessage user "successfully created")

/-- `create_user` with the account type and what it returns. -/
def createAccount : EStateM Failure Database (Bool × String) := fun db =>
  match updateAccount env username isAdmin isServiceAccount db with
  | .error (.mlflow _ _) reached =>
    insertAccount env username displayName isAdmin isServiceAccount reached
  | result => result

end Account
end UserModule

/-- The status code and the message of the answer. -/
def createNewUser (env : LoginEnv) (request : CreateUserRequest) :
    EStateM Refusal Database (Nat × String) := fun db =>
  match UserModule.createAccount env request.username request.displayName request.isAdmin
      request.isServiceAccount db with
  | .ok (created,message) reached => .ok (if created then 201 else 200,message) reached
  | .error _ reached => .error (.http 500 "Failed to create user") reached

end Creation

section Credentials

/-- `text.split(separator, 1)`, when it makes two pieces. -/
def splitOnce (separator : Char) (text : String) : Option (String × String) :=
  match text.toList.dropWhile (fun c => c != separator) with
  | [] => none
  | _ :: rest => some (String.ofList (text.toList.takeWhile (fun c => c != separator)),
      String.ofList rest)

/-- `base64.b64decode` of a text and the decoding of its bytes. -/
def b64decode (encoded : String) : Option String :=
  if encoded.toList.all (fun c => decide (c.toNat < 128)) then
    (Base64.decode encoded.toList).bind (fun bytes => String.fromUTF8? ⟨bytes.toArray⟩)
  else none

def basicCredentials (authHeader : String) : Option (String × String) := do
  let (_,encodedCredentials) ← splitOnce ' ' authHeader
  let decodedCredentials ← b64decode encodedCredentials
  splitOnce ':' decodedCredentials

/-- What a client sends for a username and a password. -/
def basicHeader (username password : String) : String :=
  "Basic " ++ String.ofList (Base64.encode (username ++ ":" ++ password).toByteArray.data.toList)

variable (env : AuthEnv) (now : Int)

/-- Whether the credentials are accepted, who they identify, and the error message. -/
def authenticateBasicAuth (authHeader : String) (t : Tables) : Bool × Option String × String :=
  match basicCredentials authHeader with
  | none => (false,none,"Invalid basic auth format")
  | some (username,password) =>
    match authenticate env.toTokenEnv now (env.lower username) password t with
    | .error _ => (false,none,"Invalid basic auth format")
    | .ok false => (false,none,"Invalid basic auth credentials")
    | .ok true => (true,some (env.lower username),"")

end Credentials

section Splitting
variable {separator : Char} {text left right : String}

theorem splitOnce_plain (plain : separator ∉ left.toList)
    (written : text.toList = left.toList ++ separator :: right.toList) :
    splitOnce separator text = some (left,right) := by
  obtain ⟨before,after⟩ := @TextSearch.cut_at Char left.toList right.toList _ separator plain
  simp only [splitOnce,written,before,after,String.ofList_toList]

theorem splitOnce_left (split : splitOnce separator text = some (left,right)) :
    separator ∉ left.toList := by
  unfold splitOnce at split
  split at split
  · cases split
  · cases split
    intro member
    rw [String.toList_ofList] at member
    have differs := List.mem_takeWhile_imp member
    simp at differs

theorem b64decode_encode (text : String) :
    b64decode (String.ofList (Base64.encode text.toByteArray.data.toList)) = some text := by
  have ascii : (String.ofList (Base64.encode text.toByteArray.data.toList)).toList.all
      (fun c => decide (c.toNat < 128)) = true := by
    rw [String.toList_ofList,List.all_eq_true]
    intro c member
    exact decide_eq_true (Base64.encode_ascii _ c member)
  have decoded : Base64.decode (Base64.encode text.toByteArray.data.toList) =
      some text.toByteArray.data.toList := Base64.decode_encode _ 0 0
  have bytes : (⟨text.toByteArray.data.toList.toArray⟩ : ByteArray) = text.toByteArray := by
    rw [Array.toArray_toList]
  have valid : text.toByteArray.IsValidUTF8 := text.isValidUTF8
  rw [b64decode,if_pos ascii,String.toList_ofList,decoded,Option.bind_some,bytes,
    String.fromUTF8?,dif_pos valid]
  rfl

/-- What a client sends is read as the text that it made of its credentials, up to the first
colon and from there on. -/
theorem basicCredentials_header (username password : String) :
    basicCredentials (basicHeader username password) =
      splitOnce ':' (username ++ ":" ++ password) := by
  have scheme : splitOnce ' ' (basicHeader username password) = some ("Basic",
      String.ofList (Base64.encode (username ++ ":" ++ password).toByteArray.data.toList)) :=
    splitOnce_plain (by decide) (by simp [basicHeader])
  simp only [basicCredentials,scheme,Option.bind_eq_bind,Option.bind_some,b64decode_encode]

end Splitting

section Accounts
variable {env : LoginEnv} {username displayName passwordHash : String}
  {isAdmin isServiceAccount : Bool} {db : Database} {user : SqlUser}

/-- A user of an unused name may be added. -/
theorem Integrity.createUser {t : Tables} (integrity : Integrity t)
    (unused : t.usersNamed username = []) :
    Integrity (t.createUser username displayName passwordHash isAdmin isServiceAccount) := by
  have grown : ∀ id ∈ t.userIds,
      id ∈ (t.createUser username displayName passwordHash isAdmin isServiceAccount).userIds := by
    intro id member
    exact List.mem_map.mpr (by
      obtain ⟨account,listed,same⟩ := List.mem_map.mp member
      exact ⟨account,List.mem_append_left _ listed,same⟩)
  have owned : ∀ {Row Id Key : Type} {id : Row → Id} {constraint : Row → Key} {owner : Row → Nat}
      {rows : List Row}, TableIntegrity id constraint owner t.userIds rows →
      TableIntegrity id constraint owner
        (t.createUser username displayName passwordHash isAdmin isServiceAccount).userIds rows :=
    fun valid => ⟨valid.1,valid.2.1,fun row member => grown _ (valid.2.2 row member)⟩
  have newName : username ∉ t.users.map SqlUser.username := by
    intro member
    obtain ⟨account,listed,same⟩ := List.mem_map.mp member
    have named : account ∈ t.usersNamed username :=
      List.mem_filter.mpr ⟨listed,decide_eq_true same⟩
    rw [unused] at named
    cases named
  exact { integrity with
    userIds := (nodup_map_concat integrity.userIds).mpr (nextId_not_mem _)
    usernames := (nodup_map_concat integrity.usernames).mpr newName
    memberUsers := owned integrity.memberUsers
    userPermissions := fun family =>
      ⟨owned (integrity.userPermissions family).1,(integrity.userPermissions family).2⟩
    userRegexPermissions := fun family => owned (integrity.userRegexPermissions family)
    workspacePermissions := owned integrity.workspacePermissions
    workspaceRegexPermissions := owned integrity.workspaceRegexPermissions
    userQuotas := owned integrity.userQuotas }

theorem userNamed_of_user (known : db.tables.getUser username = .ok user) :
    UserModule.userNamed username db = .ok user db := by
  simp only [UserModule.userNamed,known]

/-- An account of the name is updated. -/
theorem createAccount_of_known (known : db.tables.getUser username = .ok user) :
    ∃ reached changed, reached.tables.getUser username = .ok changed ∧
      (Operation.updateUser username
        { isAdmin := some isAdmin, isServiceAccount := some isServiceAccount }).run env.toStoreEnv
          db = .ok () reached ∧
      UserModule.createAccount env username displayName isAdmin isServiceAccount db =
        .ok (false,UserModule.createUserMessage user "already exists") reached := by
  let change : UserChange := { isAdmin := some isAdmin, isServiceAccount := some isServiceAccount }
  have committed : ∃ reached,
      (Operation.updateUser username change).run env.toStoreEnv db = .ok () reached ∧
      reached.tables.getUser username = .ok (change.apply env.generatePasswordHash user) :=
    changeUser_commits (fun _ => rfl) (fun _ => rfl) known
  obtain ⟨reached,ran,changed⟩ := committed
  have updated : UserModule.updateAccount env username isAdmin isServiceAccount db =
      .ok (false,UserModule.createUserMessage user "already exists") reached := by
    unfold UserModule.updateAccount
    rw [bind_of_ok (getUserProfile_of_user known),bind_of_ok (userNamed_of_user known),
      bind_of_ok ran]
    rfl
  refine ⟨reached,_,changed,ran,?_⟩
  simp only [UserModule.createAccount,updated]

theorem createAccount_of_absent (absent : db.tables.usersNamed username = []) :
    UserModule.createAccount env username displayName isAdmin isServiceAccount db =
      UserModule.insertAccount env username displayName isAdmin isServiceAccount db := by
  have raised : UserModule.getUserProfile username db =
      .error (.mlflow .resourceDoesNotExist ("User '" ++ username ++ "' not found")) db := by
    simp only [UserModule.getUserProfile,absent,oneOrNone]
  have updated : UserModule.updateAccount env username isAdmin isServiceAccount db =
      .error (.mlflow .resourceDoesNotExist ("User '" ++ username ++ "' not found")) db :=
    bind_of_error raised
  simp only [UserModule.createAccount,updated]

/-- Whoever is told that the account exists or was created has one. -/
theorem createAccount_ok {answer : Bool × String} {reached : Database}
    (ran : UserModule.createAccount env username displayName isAdmin isServiceAccount db =
      .ok answer reached) : ∃ user, reached.tables.getUser username = .ok user := by
  rcases usersNamed_unique db username with absent | ⟨user,named⟩
  · rw [createAccount_of_absent absent] at ran
    obtain ⟨_,created,_,later⟩ := bind_eq_ok ran
    obtain ⟨user,between,found,returns⟩ := bind_eq_ok later
    cases returns
    unfold UserModule.userNamed at found
    split at found
    · cases found
    · next known =>
      cases found
      exact ⟨_,known⟩
  · obtain ⟨updated,changed,known,_,ran'⟩ := @createAccount_of_known env username displayName
      isAdmin isServiceAccount db user (Tables.getUser_eq_ok.mpr named)
    rw [ran'] at ran
    cases ran
    exact ⟨changed,known⟩

theorem insertUser_known {reached : Database}
    (ran : (Operation.createUser username env.generateToken displayName isAdmin
      isServiceAccount).run env.toStoreEnv db = .ok () reached) :
    ∃ user, reached.tables.getUser username = .ok user := by
  obtain ⟨_,_,written⟩ := bind_ok (session_ok ran)
  have same : db.tables.createUser username displayName
      (env.generatePasswordHash env.generateToken) isAdmin isServiceAccount = reached.tables :=
    Except.ok.inj written
  obtain ⟨_,user,known,_⟩ := createUser_new (same ▸ reached.integrity)
  exact ⟨user,Tables.getUser_eq_ok.mpr (same ▸ known)⟩

/-- A name that passes the validation is accepted. -/
theorem createAccount_of_valid (valid : env.validateUsername username = .ok ()) :
    ∃ answer reached, UserModule.createAccount env username displayName isAdmin isServiceAccount db =
      .ok answer reached := by
  rcases usersNamed_unique db username with absent | ⟨user,named⟩
  · have integrity : Integrity (db.tables.createUser username displayName
        (env.generatePasswordHash env.generateToken) isAdmin isServiceAccount) :=
      db.integrity.createUser absent
    have created : (Operation.createUser username env.generateToken displayName isAdmin
        isServiceAccount).run env.toStoreEnv db = .ok () ⟨_,integrity⟩ := by
      apply session_commits
      rw [valid]
      rfl
    obtain ⟨user,known⟩ := insertUser_known created
    refine ⟨(true,UserModule.createUserMessage user "successfully created"),⟨_,integrity⟩,?_⟩
    rw [createAccount_of_absent absent,UserModule.insertAccount,bind_of_ok created,
      bind_of_ok (userNamed_of_user known)]
    rfl
  · obtain ⟨updated,_,_,_,ran⟩ := createAccount_of_known (Tables.getUser_eq_ok.mpr named)
    exact ⟨_,_,ran⟩

/-- A login creates and updates accounts as the API does for people. -/
theorem createUser_eq : UserModule.createUser env username displayName isAdmin db =
    (UserModule.createAccount env username displayName isAdmin false >>= fun _ => pure ()) db := by
  rcases usersNamed_unique db username with absent | ⟨user,named⟩
  · have raised : UserModule.getUserProfile username db =
        .error (.mlflow .resourceDoesNotExist ("User '" ++ username ++ "' not found")) db := by
      simp only [UserModule.getUserProfile,absent,oneOrNone]
    have creates : UserModule.createUser env username displayName isAdmin db =
        (Operation.createUser username env.generateToken displayName isAdmin false).run
          env.toStoreEnv db := by
      simp only [UserModule.createUser,bind_of_error raised]
    rw [creates]
    cases ran : (Operation.createUser username env.generateToken displayName isAdmin false).run
        env.toStoreEnv db with
    | error failure reached =>
      have failed : UserModule.createAccount env username displayName isAdmin false db =
          .error failure reached := by
        rw [createAccount_of_absent absent,UserModule.insertAccount,bind_of_error ran]
      rw [bind_of_error failed]
    | ok _ reached =>
      obtain ⟨user,known⟩ := insertUser_known ran
      have inserted : UserModule.createAccount env username displayName isAdmin false db =
          .ok (true,UserModule.createUserMessage user "successfully created") reached := by
        rw [createAccount_of_absent absent,UserModule.insertAccount,bind_of_ok ran,
          bind_of_ok (userNamed_of_user known)]
        rfl
      rw [bind_of_ok inserted]
      rfl
  · have known := Tables.getUser_eq_ok.mpr named
    obtain ⟨reached,_,_,ran,updated⟩ := @createAccount_of_known env username displayName isAdmin
      false db user known
    rw [bind_of_ok updated]
    simp only [UserModule.createUser,bind_of_ok (getUserProfile_of_user known),ran]
    rfl

end Accounts

section Tokens
variable (env : AuthEnv) (username : String)

/-- The user API has answered a request for the name with success. -/
def Accepts : Prop :=
  ∃ request db answer reached, request.username = username ∧
    createNewUser env.toLoginEnv request db = .ok answer reached

def Unexpired (later : Int) (t : Tables) : Prop :=
  ∀ user expiry, t.getUser username = .ok user → user.passwordExpiration = some expiry →
    later ≤ expiry.instant

/-- Every token that is issued to the user authenticates this user, while the account stays as
the token left it and has not expired. -/
def TokensAuthenticate : Prop :=
  ∀ now call (db reached : Database) token, call.targetUsername = username →
    createAccessToken env.toTokenEnv now call db = .ok token reached →
    ∀ later (current : Database),
      current.tables.getUser username = reached.tables.getUser username →
      Unexpired username later current.tables →
      authenticateBasicAuth env later (basicHeader username token) current.tables =
        (true,some username,"")

variable {env username}

theorem accepts_of_valid (valid : env.validateUsername username = .ok ()) (db : Database) :
    Accepts env username := by
  let request : CreateUserRequest := { username := username, displayName := username }
  obtain ⟨⟨created,message⟩,reached,ran⟩ := @createAccount_of_valid env.toLoginEnv username username
    false false db valid
  refine ⟨request,db,(if created then 201 else 200,message),reached,rfl,?_⟩
  simp only [createNewUser,request,ran]

theorem account_of_accepted (accepted : Accepts env username) :
    ∃ (db : Database) (user : SqlUser), db.tables.getUser username = .ok user := by
  obtain ⟨request,db,answer,reached,rfl,answered⟩ := accepted
  unfold createNewUser at answered
  split at answered
  · next ran =>
    obtain ⟨user,known⟩ := createAccount_ok ran
    exact ⟨_,user,known⟩
  · cases answered

/-- An accepted name is the lower-case form of what precedes the first colon. -/
theorem authenticateBasicAuth_ok {authHeader message : String} {now : Int} {t : Tables}
    (ran : authenticateBasicAuth env now authHeader t = (true,some username,message)) :
    ∃ asked password, basicCredentials authHeader = some (asked,password) ∧
      env.lower asked = username := by
  unfold authenticateBasicAuth at ran
  split at ran
  · cases ran
  · next asked password read =>
    split at ran
    · cases ran
    · cases ran
    · cases ran
      exact ⟨asked,password,read,rfl⟩

theorem splitOnce_credentials (plain : ':' ∉ username.toList) (password : String) :
    splitOnce ':' (username ++ ":" ++ password) = some (username,password) :=
  splitOnce_plain plain (by simp)

/-- The tokens of an account are only looked up under its name when nothing is cut off or
rewritten. -/
theorem plain_of_authenticates (accepted : Accepts env username)
    (authenticates : TokensAuthenticate env username) :
    ':' ∉ username.toList ∧ env.lower username = username := by
  obtain ⟨db,user,known⟩ := account_of_accepted accepted
  let call : TokenCall := ⟨none,username,false⟩
  let expiry := (user.passwordExpiration.map DateTime.instant).getD 0
  have created : ∃ reached, createAccessToken env.toTokenEnv 0 call db =
      .ok env.generateToken reached ∧ reached.tables.getUser username =
        .ok ((tokenChange env.toTokenEnv none).apply env.generatePasswordHash user) :=
    createAccessToken_of_known (fun forbidden => forbidden.1 rfl) rfl known
  obtain ⟨reached,ran,stored⟩ := created
  have unexpired : Unexpired username expiry reached.tables := by
    intro account recorded found expires
    rw [stored,Except.ok.injEq] at found
    subst found
    have kept : user.passwordExpiration = some recorded := expires
    simp only [expiry,kept,Option.map_some,Option.getD_some,Int.le_refl]
  obtain ⟨asked,password,read,lowered⟩ := authenticateBasicAuth_ok
    (authenticates 0 call db reached env.generateToken rfl ran expiry reached rfl unexpired)
  rw [basicCredentials_header] at read
  have plain : ':' ∉ username.toList := lowered ▸ env.lower_plain asked (splitOnce_left read)
  rw [splitOnce_credentials plain,Option.some.injEq,Prod.mk.injEq] at read
  exact ⟨plain,read.1 ▸ lowered⟩

/-- The tokens of an accepted name authenticate its user exactly when the name has no colon and
is in lower case. -/
theorem tokensAuthenticate_iff (env : AuthEnv)
    (verifies : ∀ password,
      env.checkPasswordHash (env.generatePasswordHash password) password = true)
    (username : String) (accepted : Accepts env username) :
    TokensAuthenticate env username ↔ ':' ∉ username.toList ∧ env.lower username = username := by
  constructor
  · intro authenticates
    exact plain_of_authenticates accepted authenticates
  · intro ⟨plain,lowered⟩ now call db reached token target ran later current same unexpired
    subst target
    obtain ⟨rfl,expiration,user,_,_,stored⟩ := createAccessToken_ok env.toTokenEnv now call ran
    have accepts : authenticate env.toTokenEnv later call.targetUsername env.generateToken
        reached.tables = .ok true := by
      apply (authenticate_stored env.toTokenEnv later call verifies stored).mpr
      intro expiry recorded
      exact unexpired _ expiry (same.trans stored) recorded
    have current_accepts : authenticate env.toTokenEnv later call.targetUsername env.generateToken
        current.tables = .ok true := by
      rw [← accepts]
      simp only [authenticate,same]
    simp only [authenticateBasicAuth,basicCredentials_header,splitOnce_credentials plain,lowered,
      current_accepts]

section MixedCase

theorem toLower_colon {c : Char} (colon : c.toLower = ':') : c = ':' := by
  unfold Char.toLower at colon
  split at colon
  · next upper =>
    have shifted : c.val + 32 = 58 := congrArg Char.val colon
    have values : 65 ≤ c.val.toNat ∧ c.val.toNat ≤ 90 := upper
    have sum : (c.val.toNat + 32) % 4294967296 = 58 := congrArg UInt32.toNat shifted
    omega
  · exact colon

/-- Names in ASCII, hashes that keep the password. -/
def plainAuth : AuthEnv :=
  { plainTokens with
    lower := fun text => String.ofList (text.toList.map Char.toLower)
    lower_plain := by
      intro text plain member
      rw [String.toList_ofList,List.mem_map] at member
      obtain ⟨c,written,colon⟩ := member
      exact plain (toLower_colon colon ▸ written) }

theorem alice_authenticates : TokensAuthenticate plainAuth "alice" :=
  (tokensAuthenticate_iff plainAuth plainTokens_verifies "alice"
    (accepts_of_valid rfl expiredAlice)).mpr ⟨by decide,by decide⟩

/-- Basic authentication looks for the tokens of `Alice` under `alice`. -/
theorem mixed_case_locked_out : ¬∀ env username,
    (∀ password,
      env.checkPasswordHash (env.generatePasswordHash password) password = true) →
    Accepts env username → TokensAuthenticate env username := by
  intro authenticate
  have accepted : Accepts plainAuth "Alice" := accepts_of_valid rfl expiredAlice
  have lowered := (plain_of_authenticates accepted
    (authenticate plainAuth "Alice" plainTokens_verifies accepted)).2
  exact absurd lowered (by decide)

end MixedCase
end Tokens
end MlflowOidcAuth
