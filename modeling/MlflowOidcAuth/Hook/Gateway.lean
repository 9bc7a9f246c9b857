import MlflowOidcAuth.Hook.Parameters

/-! Updates and deletions of gateway resources: the name the validator authorises, the
name stashed for the cascade that follows, and the resource that the id in the body
identifies. -/
namespace MlflowOidcAuth

inductive GatewayKind
  | endpoint
  | secret
  | modelDefinition
deriving DecidableEq, Repr

inductive GatewayOperation
  | update
  | delete
deriving DecidableEq, Repr

namespace GatewayKind

def nameField : GatewayKind → String
  | endpoint => "name"
  | secret => "secret_name"
  | modelDefinition => "name"

def idField : GatewayKind → String
  | endpoint => "endpoint_id"
  | secret => "secret_id"
  | modelDefinition => "model_definition_id"

end GatewayKind

/-- `flask.g` as the before-request hook leaves it. -/
structure GatewayContext where
  updatingEndpointOldName : Option JsonValue
  deletingEndpointName : Option JsonValue
  deletingSecretName : Option JsonValue
  deletingModelDefinitionName : Option JsonValue
deriving DecidableEq

def GatewayContext.empty : GatewayContext := ⟨none,none,none,none⟩

/-- What the after-request handlers do to the permission rows of a name. -/
inductive CascadeCall
  | rename (oldName : JsonValue) (newName : String)
  | wipe (kind : GatewayKind) (name : JsonValue)
deriving DecidableEq

def CascadeCall.name : CascadeCall → JsonValue
  | .rename oldName _ => oldName
  | .wipe _ name => name

/-- The names of the resources that the tracking store finds by id. -/
abbrev NameOfId := GatewayKind → JsonValue → Except Failure String

section Hook
variable (nameOfId : NameOfId) (request : FlaskRequest)

/-- `_resolve_…_name_from_id`: a failed lookup resolves to no name. -/
def resolveNameFromId (kind : GatewayKind) (id : JsonValue) : Option JsonValue :=
  match nameOfId kind id with
  | .ok name => some (.string name)
  | .error _ => none

def nameFromIdParam (kind : GatewayKind) : Option JsonValue :=
  match request.getRequestParam kind.idField with
  | .ok id => resolveNameFromId nameOfId kind id
  | .error _ => none

/-- The name parameter first, the id after it. -/
def nameParamOrId (kind : GatewayKind) : Option JsonValue :=
  match request.getRequestParam kind.nameField with
  | .ok name => some name
  | .error _ => nameFromIdParam nameOfId request kind

def getGatewayEndpointName : Option JsonValue := nameParamOrId nameOfId request .endpoint

/-- An update's `name` is the new name, so only the id counts. -/
def getGatewayEndpointNameForUpdate : Option JsonValue := nameFromIdParam nameOfId request .endpoint

def getGatewaySecretName : Option JsonValue := nameParamOrId nameOfId request .secret

def getGatewayModelDefinitionName : Option JsonValue := nameParamOrId nameOfId request .modelDefinition

/-- The name that each validator asks for. -/
def requestedName : GatewayKind → GatewayOperation → Option JsonValue
  | .endpoint, .update => getGatewayEndpointNameForUpdate nameOfId request
  | .endpoint, .delete => getGatewayEndpointName nameOfId request
  | .secret, _ => getGatewaySecretName nameOfId request
  | .modelDefinition, _ => getGatewayModelDefinitionName nameOfId request

/-- The name a validator authorises; it denies at once without one. -/
def authorisedName (kind : GatewayKind) (operation : GatewayOperation) : Option JsonValue :=
  (requestedName nameOfId request kind operation).filter JsonValue.truthy

/-- `validate_can_update_…` and `validate_can_delete_…`, given the user's permissions. -/
def validateGateway (permission : JsonValue → Except Failure Permission) (kind : GatewayKind)
    (operation : GatewayOperation) : Except Failure Bool :=
  match authorisedName nameOfId request kind operation with
  | none => .ok false
  | some name => do
    let permission ← permission name
    match operation with
    | .update => return permission.canUpdate
    | .delete => return permission.canManage

/-- `data.get(field)`, when it is truthy. -/
def truthyField (field : String) : Option JsonValue :=
  (request.forcedField field).filter JsonValue.truthy

def stashedFromId (kind : GatewayKind) : Option JsonValue :=
  ((truthyField request kind.idField).bind (resolveNameFromId nameOfId kind)).filter JsonValue.truthy

def stashedNameOrId (kind : GatewayKind) : Option JsonValue :=
  (truthyField request kind.nameField).orElse (fun _ => stashedFromId nameOfId request kind)

def stashGatewayContext : GatewayKind → GatewayOperation → GatewayContext
  | .endpoint, .update =>
    { GatewayContext.empty with
      updatingEndpointOldName := stashedFromId nameOfId request .endpoint }
  | .endpoint, .delete =>
    { GatewayContext.empty with deletingEndpointName := stashedFromId nameOfId request .endpoint }
  | .secret, .delete =>
    { GatewayContext.empty with deletingSecretName := stashedNameOrId nameOfId request .secret }
  | .modelDefinition, .delete =>
    { GatewayContext.empty with
      deletingModelDefinitionName := stashedNameOrId nameOfId request .modelDefinition }
  | _, .update => GatewayContext.empty

/-- The after-request handlers; `newName` is the name in the response to an update. -/
def cascade (g : GatewayContext) (newName : String) : GatewayKind → GatewayOperation → Option CascadeCall
  | .endpoint, .update =>
    match g.updatingEndpointOldName with
    | none => none
    | some oldName =>
      if newName = "" ∨ .string newName = oldName then none else some (.rename oldName newName)
  | .endpoint, .delete => g.deletingEndpointName.map (.wipe .endpoint)
  | .secret, .delete => g.deletingSecretName.map (.wipe .secret)
  | .modelDefinition, .delete => g.deletingModelDefinitionName.map (.wipe .modelDefinition)
  | _, .update => none

end Hook

section Agreement
variable (nameOfId : NameOfId) (request : FlaskRequest)

/-- Whichever resource the id identifies, the check and the cascade look at it. -/
def LooksAtIdentified (kind : GatewayKind) (operation : GatewayOperation) : Prop :=
  ∀ id name, request.forcedField kind.idField = some id → nameOfId kind id = .ok name →
    (∀ authorised, authorisedName nameOfId request kind operation = some authorised →
      authorised = .string name) ∧
    ∀ newName call,
      cascade (stashGatewayContext nameOfId request kind operation) newName kind operation =
        some call → call.name = .string name

/-- The body has no name to be led astray by: the operation ignores it, or it is absent,
empty or the resource's own. -/
def NameHarmless (name : String) : GatewayKind → GatewayOperation → Prop
  | .endpoint, .update => True
  | .endpoint, .delete => ∀ given, request.forcedField "name" = some given →
      given.isBlank = false → given = .string name
  | .secret, .update => ∀ given, request.forcedField "secret_name" = some given →
      given.isBlank = false → given = .string name
  | .modelDefinition, .update => ∀ given, request.forcedField "name" = some given →
      given.isBlank = false → given = .string name
  | .secret, .delete => ∀ given, request.forcedField "secret_name" = some given →
      given.truthy = true → given = .string name
  | .modelDefinition, .delete => ∀ given, request.forcedField "name" = some given →
      given.truthy = true → given = .string name

variable {nameOfId request} {kind : GatewayKind} {operation : GatewayOperation}

theorem truthy_of_not_blank {value : JsonValue} (notBlank : value.isBlank = false) :
    value.truthy = true := by
  cases truth : value.truthy with
  | true => rfl
  | false => simp [JsonValue.isBlank,truth] at notBlank

theorem getRequestParam_of_body (json : request.isJson = true)
    (write : request.method ∈ [.post,.patch,.delete]) {param : String} (plain : param ≠ "run_id")
    {value : JsonValue} :
    request.getRequestParam param = .ok value ↔
      request.forcedField param = some value ∧ value.isBlank = false := by
  have source : request.paramSource param = .ok (request.forcedField param) := by
    simp only [List.mem_cons,List.not_mem_nil,or_false] at write
    rcases write with method | method | method <;> simp [FlaskRequest.paramSource,method,json]
  rw [getRequestParam_eq_ok plain,source,Except.ok.injEq]

theorem fields_plain (kind : GatewayKind) : kind.idField ≠ "run_id" ∧ kind.nameField ≠ "run_id" := by
  cases kind <;> decide

theorem wiped_iff {stash : Option JsonValue} {resource : JsonValue} :
    (∀ (_ : String) call, stash.map (CascadeCall.wipe kind) = some call → call.name = resource) ↔
      ∀ stashed, stash = some stashed → stashed = resource := by
  constructor
  · rintro wiped stashed rfl
    exact wiped "" (.wipe kind stashed) rfl
  · intro same _ call called
    obtain ⟨stashed,found,rfl⟩ := Option.map_eq_some_iff.mp called
    exact same stashed found

section Identified
variable {id : JsonValue} {name : String} (json : request.isJson = true)
  (write : request.method ∈ [.post,.patch,.delete])
  (field : request.forcedField kind.idField = some id) (identified : nameOfId kind id = .ok name)

include json write field identified

theorem nameFromIdParam_identified {value : JsonValue}
    (found : nameFromIdParam nameOfId request kind = some value) : value = .string name := by
  unfold nameFromIdParam at found
  cases param : request.getRequestParam kind.idField with
  | error failure => simp [param] at found
  | ok asked =>
    have same := ((getRequestParam_of_body json write (fields_plain kind).1).mp param).1
    rw [field] at same
    cases same
    simp only [param,resolveNameFromId,identified,Option.some.injEq] at found
    exact found.symm

/-- The check by name or id looks at the name in the body unless that is blank. -/
theorem nameParamOrId_identified :
    (∀ given, request.forcedField kind.nameField = some given → given.isBlank = false →
      nameParamOrId nameOfId request kind = some given) ∧
    ∀ value, nameParamOrId nameOfId request kind = some value →
      (request.forcedField kind.nameField = some value ∧ value.isBlank = false) ∨
        value = .string name := by
  have body : ∀ value, request.getRequestParam kind.nameField = .ok value ↔
      request.forcedField kind.nameField = some value ∧ value.isBlank = false :=
    fun value => getRequestParam_of_body json write (fields_plain kind).2
  constructor
  · intro given isGiven notBlank
    simp only [nameParamOrId,(body given).mpr ⟨isGiven,notBlank⟩]
  · intro value found
    unfold nameParamOrId at found
    cases param : request.getRequestParam kind.nameField with
    | ok asked =>
      simp only [param,Option.some.injEq] at found
      subst found
      exact .inl ((body asked).mp param)
    | error failure =>
      simp only [param] at found
      exact .inr (nameFromIdParam_identified json write field identified found)

omit json write in
theorem stashedFromId_identified {value : JsonValue}
    (found : stashedFromId nameOfId request kind = some value) : value = .string name := by
  unfold stashedFromId truthyField at found
  rw [field,Option.filter_some] at found
  split at found
  · simp only [Option.bind_some,resolveNameFromId,identified,Option.filter_some] at found
    split at found
    · exact (Option.some.inj found).symm
    · cases found
  · cases found

omit json write in
/-- The stash by name or id takes the name in the body unless that is falsy. -/
theorem stashedNameOrId_identified :
    (∀ given, request.forcedField kind.nameField = some given → given.truthy = true →
      stashedNameOrId nameOfId request kind = some given) ∧
    ∀ value, stashedNameOrId nameOfId request kind = some value →
      (request.forcedField kind.nameField = some value ∧ value.truthy = true) ∨
        value = .string name := by
  constructor
  · intro given isGiven truth
    simp [stashedNameOrId,truthyField,isGiven,truth]
  · intro value found
    unfold stashedNameOrId at found
    cases named : truthyField request kind.nameField with
    | some given =>
      simp only [named,Option.orElse_some,Option.some.injEq] at found
      subst found
      exact .inl (Option.filter_eq_some_iff.mp named)
    | none =>
      simp only [named,Option.orElse_none] at found
      exact .inr (stashedFromId_identified field identified found)

/-- The check, in every operation but an update of an endpoint, looks at the identified
resource exactly when no other name is given. -/
theorem authorised_iff (operation : GatewayOperation)
    (byName : requestedName nameOfId request kind operation = nameParamOrId nameOfId request kind) :
    (∀ authorised, authorisedName nameOfId request kind operation = some authorised →
        authorised = .string name) ↔
      ∀ given, request.forcedField kind.nameField = some given → given.isBlank = false →
        given = .string name := by
  obtain ⟨nonBlank,either⟩ := nameParamOrId_identified json write field identified
  simp only [authorisedName,byName,Option.filter_eq_some_iff]
  constructor
  · intro same given isGiven notBlank
    exact same given ⟨nonBlank given isGiven notBlank,truthy_of_not_blank notBlank⟩
  · rintro harmless authorised ⟨found,_⟩
    rcases either authorised found with ⟨isGiven,notBlank⟩ | same
    · exact harmless authorised isGiven notBlank
    · exact same

omit json write in
theorem stashed_iff :
    (∀ stashed, stashedNameOrId nameOfId request kind = some stashed → stashed = .string name) ↔
      ∀ given, request.forcedField kind.nameField = some given → given.truthy = true →
        given = .string name := by
  obtain ⟨truthy,either⟩ := stashedNameOrId_identified field identified
  constructor
  · intro same given isGiven truth
    exact same given (truthy given isGiven truth)
  · intro harmless stashed found
    rcases either stashed found with ⟨isGiven,truth⟩ | same
    · exact harmless stashed isGiven truth
    · exact same

omit json write in
/-- A name that misleads the check also misleads the stash, which takes blank names too. -/
theorem deletes_iff :
    ((∀ given, request.forcedField kind.nameField = some given → given.isBlank = false →
        given = .string name) ∧
      ∀ (_ : String) call, (stashedNameOrId nameOfId request kind).map (CascadeCall.wipe kind) =
        some call → call.name = .string name) ↔
      ∀ given, request.forcedField kind.nameField = some given → given.truthy = true →
        given = .string name := by
  rw [wiped_iff,stashed_iff field identified]
  refine ⟨fun both => both.2,fun harmless => ⟨fun given isGiven notBlank => ?_,harmless⟩⟩
  exact harmless given isGiven (truthy_of_not_blank notBlank)

end Identified

/-- For every JSON body of an update or deletion, the check and the cascade look at the
resource that the id identifies exactly when the name in the body is harmless. -/
theorem looksAtIdentified_iff (nameOfId : NameOfId) (request : FlaskRequest)
    (json : request.isJson = true) (write : request.method ∈ [.post,.patch,.delete])
    (kind : GatewayKind) (operation : GatewayOperation) :
    LooksAtIdentified nameOfId request kind operation ↔
      ∀ id name, request.forcedField kind.idField = some id → nameOfId kind id = .ok name →
        NameHarmless request name kind operation := by
  refine forall₂_congr fun id name => forall₂_congr fun field identified => ?_
  cases kind with
  | endpoint =>
    cases operation with
    | update =>
      simp only [NameHarmless,iff_true]
      constructor
      · intro authorised found
        exact nameFromIdParam_identified json write field identified
          (Option.filter_eq_some_iff.mp found).1
      · intro newName call called
        simp only [cascade,stashGatewayContext] at called
        split at called
        · cases called
        · next oldName stashed =>
          split at called
          · cases called
          · cases called
            exact stashedFromId_identified field identified stashed
    | delete =>
      rw [authorised_iff json write field identified .delete rfl]
      refine ⟨fun both => both.1,fun harmless => ⟨harmless,wiped_iff.mpr fun stashed found => ?_⟩⟩
      exact stashedFromId_identified field identified found
  | secret =>
    rw [authorised_iff json write field identified operation (by cases operation <;> rfl)]
    cases operation with
    | update => simp [NameHarmless,cascade,GatewayKind.nameField]
    | delete => exact deletes_iff field identified
  | modelDefinition =>
    rw [authorised_iff json write field identified operation (by cases operation <;> rfl)]
    cases operation with
    | update => simp [NameHarmless,cascade,GatewayKind.nameField]
    | delete => exact deletes_iff field identified

/-- Deleting the secret `s2` under the name of another one. -/
def deleteRequest : FlaskRequest where
  path := "/api/3.0/mlflow/gateway/secrets/delete"
  method := .delete
  viewArgs := some []
  args := []
  form := []
  isJson := true
  body := some [("secret_name",.string "mine"),("secret_id",.string "s2")]

def twoSecrets : NameOfId := fun kind id =>
  if kind = .secret ∧ id = .string "s1" then .ok "mine"
  else if kind = .secret ∧ id = .string "s2" then .ok "theirs"
  else .error (.mlflow .resourceDoesNotExist "not found")

theorem looksAt_other_secret : ¬ ∀ nameOfId request kind operation, request.isJson = true →
    request.method ∈ [.post,.patch,.delete] → LooksAtIdentified nameOfId request kind operation := by
  intro looks
  have same := (looks twoSecrets deleteRequest .secret .delete rfl (by decide) (.string "s2") "theirs"
    rfl (by decide)).1 (.string "mine") (by decide)
  exact absurd (JsonValue.string.inj same) (by decide)

theorem looksAtIdentified_iff_own : LooksAtIdentified twoSecrets
    { deleteRequest with body := some [("secret_name",.string "theirs"),("secret_id",.string "s2")] }
    .secret .delete :=
  (looksAtIdentified_iff twoSecrets _ rfl (by decide) .secret .delete).mpr (by
    intro id name isId identified given isGiven _
    cases isId
    cases isGiven
    have named : twoSecrets .secret (.string "s2") = .ok "theirs" := by decide
    rw [named] at identified
    cases identified
    rfl)

end Agreement
end MlflowOidcAuth
