import MlflowOidcAuth.Resolution.Sources
import MlflowOidcAuth.Store.Mutators

/-! The methods of the store that write. Each is an operation on the tables it names, and
a hand-kept list says which of them flush the permission cache when they succeed. -/
namespace MlflowOidcAuth
open Effects

/-- A resolution's environment with what the user repository asks of its libraries. -/
structure StoreEnv where
  resolution : Env
  generatePasswordHash : String → String
  validateUsername : String → Except Failure Unit

/-- Literal patterns, passwords kept as they are, no tracking store. -/
def StoreEnv.bare : StoreEnv where
  resolution := ⟨.default,.literal,fun _ => .error (.other "no such experiment")⟩
  generatePasswordHash := id
  validateUsername := fun _ => .ok ()

/-- The optional arguments of `update_user`; what is `None` stays as it is. -/
structure UserChange where
  password : Option String := none
  passwordExpiration : Option DateTime := none
  isAdmin : Option Bool := none
  isServiceAccount : Option Bool := none

inductive QuotaWrite
  | set (quotaBytes : Option Int) (softCapFraction : Option PyFloat)
  | email (address : Option String)
  | delete
  | usedBytes (now : DateTime) (bytes : Int)
  | increment (delta : Int)
  | hardBlocked (blocked : Bool)
  | softNotifiedAt (value : Option DateTime)

def QuotaWrite.body (username : String) : QuotaWrite → Tables → Except Failure Tables
  | .set quotaBytes softCapFraction => Tables.setQuota username quotaBytes softCapFraction
  | .email address => Tables.updateQuotaEmail username address
  | .delete => Tables.deleteQuota username
  | .usedBytes now bytes => Tables.changeQuota (fun quota =>
      { quota with usedBytes := bytes, lastReconciledAt := some now }) username
  | .increment delta => Tables.changeQuota (fun quota =>
      { quota with usedBytes := max 0 (quota.usedBytes + delta) }) username
  | .hardBlocked blocked => Tables.changeQuota (fun quota =>
      { quota with hardBlocked := blocked }) username
  | .softNotifiedAt value => Tables.changeQuota (fun quota =>
      { quota with softNotifiedAt := value }) username

/-- The writes of the store, up to the tables and values they are applied to. -/
inductive Operation
  | grant (holder : Holder) (family : Family) (key : ResourceKey) (owner permission : String)
  | update (holder : Holder) (family : Family) (key : ResourceKey) (owner permission : String)
  | revoke (holder : Holder) (family : Family) (key : ResourceKey) (owner : String)
  | grantPrompt (name groupName permission : String)
  | updatePrompt (name groupName permission : String)
  | revokePrompt (name groupName : String)
  | grantRegex (holder : Holder) (family : Family) (prompt : Bool) (regex : String)
      (priority : Int) (permission owner : String)
  | updateRegex (holder : Holder) (family : Family) (prompt : Bool) (id : Nat) (regex : String)
      (priority : Int) (permission owner : String)
  | revokeRegex (holder : Holder) (family : Family) (prompt : Bool) (id owner : String)
  | renameModel (holder : Holder) (oldName newName : String)
  | renameEndpoint (oldName newName : String)
  | wipe (holder : Holder) (family : Family) (resourceId : String)
  | wipeBoth (family : Family) (resourceId : String)
  | deleteScorer (experimentId scorerName : String)
  | setUserGroups (username : String) (groupNames : List String)
  | addUserToGroup (username groupName : String)
  | removeUserFromGroup (username groupName : String)
  | populateGroups (groupNames : List String)
  | createUser (username password displayName : String) (isAdmin isServiceAccount : Bool)
  | updateUser (username : String) (change : UserChange)
  | renameUser (oldUsername newUsername : String)
  | setUserDisplayname (username displayName : String)
  | deleteUser (username : String)
  | quota (username : String) (write : QuotaWrite)

/-- What a repository makes of a constraint that a grant violates; the group repositories
of scorers and prompts leave it to the session. -/
def grantViolation (holder : Holder) (family : Family) (key : ResourceKey) (owner : String) :
    Failure :=
  match holder,family with
  | .user,.scorer => alreadyExists ("Scorer permission already exists (" ++ key.resourceId ++ ", " ++
      key.scorer ++ ", " ++ owner ++ ")")
  | .user,_ => alreadyExists ("Permission already exists (" ++ key.resourceId ++ ", " ++ owner ++ ")")
  | .group,.scorer => rejected
  | .group,_ =>
    alreadyExists ("Group permission already exists (" ++ key.resourceId ++ ", " ++ owner ++ ")")

def regexViolation (holder : Holder) (family : Family) (regex owner : String) : Failure :=
  match holder,family with
  | .user,.registeredModel =>
    alreadyExists ("Registered model perm exists (" ++ regex ++ "," ++ owner ++ ")")
  | .user,_ => alreadyExists ("Regex perm exists (" ++ regex ++ "," ++ owner ++ ")")
  | .group,.registeredModel => rejected
  | .group,_ => alreadyExists ("Group regex perm exists (" ++ regex ++ "," ++ owner ++ ")")

def UserChange.apply (change : UserChange) (hash : String → String) (user : SqlUser) : SqlUser :=
  { user with
    passwordHash := (change.password.map hash).getD user.passwordHash
    passwordExpiration := change.passwordExpiration.orElse (fun _ => user.passwordExpiration)
    isAdmin := change.isAdmin.getD user.isAdmin
    isServiceAccount := change.isServiceAccount.getD user.isServiceAccount }

namespace Operation

def run (env : StoreEnv) : Operation → EStateM Failure Database PUnit
  | grant holder family key owner permission =>
    session (grantViolation holder family key owner)
      (Tables.grantPermission holder family key owner permission false)
  | update holder family key owner permission =>
    session rejected (Tables.updatePermission holder family
      (Tables.directRow holder family key owner) permission)
  | revoke holder family key owner =>
    session rejected (Tables.revokePermission holder family
      (Tables.directRow holder family key owner))
  | grantPrompt name groupName permission =>
    session rejected
      (Tables.grantPermission .group .registeredModel ⟨name,none⟩ groupName permission true)
  | updatePrompt name groupName permission =>
    session rejected (Tables.updatePermission .group .registeredModel
      (Tables.promptRow name groupName) permission)
  | revokePrompt name groupName =>
    session rejected (Tables.revokePermission .group .registeredModel
      (Tables.promptRow name groupName))
  | grantRegex holder family prompt regex priority permission owner =>
    session (regexViolation holder family regex owner)
      (Tables.grantRegex env.resolution.regex holder family prompt regex priority permission owner)
  | updateRegex holder family prompt id regex priority permission owner =>
    session rejected (Tables.updateRegex env.resolution.regex holder family prompt id regex
      priority permission owner)
  | revokeRegex holder family prompt id owner =>
    session rejected (Tables.revokeRegex holder family prompt id owner)
  | renameModel holder oldName newName =>
    session rejected (Tables.renameModelRows holder oldName newName)
  | renameEndpoint oldName newName => do
    session rejected (fun t => .ok (t.renameRows .user .gatewayEndpoint oldName newName))
    session rejected (fun t => .ok (t.renameRows .group .gatewayEndpoint oldName newName))
  | wipe holder family resourceId => MlflowOidcAuth.wipe holder family resourceId
  | wipeBoth family resourceId => do
    MlflowOidcAuth.wipe .user family resourceId
    MlflowOidcAuth.wipe .group family resourceId
  | deleteScorer experimentId scorerName =>
    session rejected (fun t => .ok (t.deleteScorerRows experimentId scorerName))
  | setUserGroups username groupNames =>
    session rejected (Tables.setGroupsForUser username groupNames)
  | addUserToGroup username groupName =>
    session rejected (Tables.addUserToGroup username groupName)
  | removeUserFromGroup username groupName =>
    session rejected (Tables.removeUserFromGroup username groupName)
  | populateGroups groupNames => session rejected (fun t => .ok (t.createGroups groupNames))
  | createUser username password displayName isAdmin isServiceAccount =>
    session (alreadyExists ("User '" ++ username ++ "' already exists")) (fun t => do
      env.validateUsername username
      return t.createUser username displayName (env.generatePasswordHash password) isAdmin
        isServiceAccount)
  | updateUser username change =>
    session rejected (Tables.changeUser (change.apply env.generatePasswordHash) username)
  | renameUser oldUsername newUsername =>
    session (alreadyExists ("User '" ++ newUsername ++ "' already exists")) (fun t => do
      env.validateUsername newUsername
      t.changeUser (fun user => { user with username := newUsername }) oldUsername)
  | setUserDisplayname username displayName =>
    session (alreadyExists ("Could not update '" ++ username ++ "' display name"))
      (Tables.changeUser (fun user => { user with displayName := displayName }) username)
  | deleteUser username => session rejected (Tables.deleteUser username)
  | quota username write => session rejected (write.body username)

end Operation

/-- The keyword arguments of a call; each method reads those that it has. -/
structure Arguments where
  experimentId : String := ""
  name : String := ""
  gatewayName : String := ""
  scorerName : String := ""
  oldName : String := ""
  newName : String := ""
  username : String := ""
  oldUsername : String := ""
  newUsername : String := ""
  groupName : String := ""
  groupNames : List String := []
  permission : String := ""
  regex : String := ""
  priority : Int := 0
  id : Nat := 0
  prompt : Bool := true
  password : String := ""
  displayName : String := ""
  isAdmin : Bool := false
  isServiceAccount : Bool := false
  userChange : UserChange := {}
  quotaBytes : Option Int := none
  softCapFraction : Option PyFloat := none
  email : Option String := none
  usedBytes : Int := 0
  delta : Int := 0
  blocked : Bool := false
  value : Option DateTime := none
  now : DateTime := ⟨0,none⟩

def Arguments.scorerKey (args : Arguments) : ResourceKey := ⟨args.experimentId,some args.scorerName⟩

inductive StoreMethod
  | createExperimentPermission | updateExperimentPermission | deleteExperimentPermission
  | createGroupExperimentPermission | updateGroupExperimentPermission
  | deleteGroupExperimentPermission | createExperimentRegexPermission
  | updateExperimentRegexPermission | deleteExperimentRegexPermission
  | createGroupExperimentRegexPermission | updateGroupExperimentRegexPermission
  | deleteGroupExperimentRegexPermission | createRegisteredModelPermission
  | updateRegisteredModelPermission | deleteRegisteredModelPermission
  | renameRegisteredModelPermissions | wipeRegisteredModelPermissions
  | createGroupModelPermission | updateGroupModelPermission | deleteGroupModelPermission
  | renameGroupModelPermissions | wipeGroupModelPermissions
  | createRegisteredModelRegexPermission | updateRegisteredModelRegexPermission
  | deleteRegisteredModelRegexPermission | createGroupRegisteredModelRegexPermission
  | updateGroupRegisteredModelRegexPermission | deleteGroupRegisteredModelRegexPermission
  | createGroupPromptPermission | updateGroupPromptPermission | deleteGroupPromptPermission
  | createPromptRegexPermission | updatePromptRegexPermission | deletePromptRegexPermission
  | createGroupPromptRegexPermission | updateGroupPromptRegexPermission
  | deleteGroupPromptRegexPermission | createScorerPermission | updateScorerPermission
  | deleteScorerPermission | deleteScorerPermissionsForScorer | createGroupScorerPermission
  | updateGroupScorerPermission | deleteGroupScorerPermission | createScorerRegexPermission
  | updateScorerRegexPermission | deleteScorerRegexPermission | createGroupScorerRegexPermission
  | updateGroupScorerRegexPermission | deleteGroupScorerRegexPermission
  | createGatewayEndpointPermission | updateGatewayEndpointPermission
  | deleteGatewayEndpointPermission | renameGatewayEndpointPermissions
  | wipeGatewayEndpointPermissions | createGroupGatewayEndpointPermission
  | updateGroupGatewayEndpointPermission | deleteGroupGatewayEndpointPermission
  | createGatewayEndpointRegexPermission | updateGatewayEndpointRegexPermission
  | deleteGatewayEndpointRegexPermission | createGroupGatewayEndpointRegexPermission
  | updateGroupGatewayEndpointRegexPermission | deleteGroupGatewayEndpointRegexPermission
  | createGatewaySecretPermission | updateGatewaySecretPermission
  | deleteGatewaySecretPermission | wipeGatewaySecretPermissions
  | createGroupGatewaySecretPermission | updateGroupGatewaySecretPermission
  | deleteGroupGatewaySecretPermission | createGatewaySecretRegexPermission
  | updateGatewaySecretRegexPermission | deleteGatewaySecretRegexPermission
  | createGroupGatewaySecretRegexPermission | updateGroupGatewaySecretRegexPermission
  | deleteGroupGatewaySecretRegexPermission | createGatewayModelDefinitionPermission
  | updateGatewayModelDefinitionPermission | deleteGatewayModelDefinitionPermission
  | wipeGatewayModelDefinitionPermissions | createGroupGatewayModelDefinitionPermission
  | updateGroupGatewayModelDefinitionPermission | deleteGroupGatewayModelDefinitionPermission
  | createGatewayModelDefinitionRegexPermission | updateGatewayModelDefinitionRegexPermission
  | deleteGatewayModelDefinitionRegexPermission
  | createGroupGatewayModelDefinitionRegexPermission
  | updateGroupGatewayModelDefinitionRegexPermission
  | deleteGroupGatewayModelDefinitionRegexPermission | setUserGroups | addUserToGroup
  | removeUserFromGroup | wipeExperimentPermissions | createUser | updateUser | renameUser
  | setUserDisplayname | deleteUser | populateGroups | setUserQuota | updateQuotaEmail
  | deleteUserQuota | updateUserQuotaUsedBytes | incrementUserQuotaUsedBytes
  | setQuotaHardBlocked | setQuotaSoftNotifiedAt
deriving DecidableEq, Repr

/-- `_PERMISSION_CUD_METHODS`: the methods wrapped so that a success flushes the cache. -/
def permissionCudMethods : List StoreMethod :=
  [.createExperimentPermission,.updateExperimentPermission,.deleteExperimentPermission,
    .createGroupExperimentPermission,.updateGroupExperimentPermission,
    .deleteGroupExperimentPermission,.createExperimentRegexPermission,
    .updateExperimentRegexPermission,.deleteExperimentRegexPermission,
    .createGroupExperimentRegexPermission,.updateGroupExperimentRegexPermission,
    .deleteGroupExperimentRegexPermission,.createRegisteredModelPermission,
    .updateRegisteredModelPermission,.deleteRegisteredModelPermission,
    .renameRegisteredModelPermissions,.wipeRegisteredModelPermissions,
    .createGroupModelPermission,.updateGroupModelPermission,.deleteGroupModelPermission,
    .renameGroupModelPermissions,.wipeGroupModelPermissions,
    .createRegisteredModelRegexPermission,.updateRegisteredModelRegexPermission,
    .deleteRegisteredModelRegexPermission,.createGroupRegisteredModelRegexPermission,
    .updateGroupRegisteredModelRegexPermission,.deleteGroupRegisteredModelRegexPermission,
    .createGroupPromptPermission,.updateGroupPromptPermission,.deleteGroupPromptPermission,
    .createPromptRegexPermission,.updatePromptRegexPermission,.deletePromptRegexPermission,
    .createGroupPromptRegexPermission,.updateGroupPromptRegexPermission,
    .deleteGroupPromptRegexPermission,.createScorerPermission,.updateScorerPermission,
    .deleteScorerPermission,.deleteScorerPermissionsForScorer,.createGroupScorerPermission,
    .updateGroupScorerPermission,.deleteGroupScorerPermission,.createScorerRegexPermission,
    .updateScorerRegexPermission,.deleteScorerRegexPermission,.createGroupScorerRegexPermission,
    .updateGroupScorerRegexPermission,.deleteGroupScorerRegexPermission,
    .createGatewayEndpointPermission,.updateGatewayEndpointPermission,
    .deleteGatewayEndpointPermission,.renameGatewayEndpointPermissions,
    .wipeGatewayEndpointPermissions,.createGroupGatewayEndpointPermission,
    .updateGroupGatewayEndpointPermission,.deleteGroupGatewayEndpointPermission,
    .createGatewayEndpointRegexPermission,.updateGatewayEndpointRegexPermission,
    .deleteGatewayEndpointRegexPermission,.createGroupGatewayEndpointRegexPermission,
    .updateGroupGatewayEndpointRegexPermission,.deleteGroupGatewayEndpointRegexPermission,
    .createGatewaySecretPermission,.updateGatewaySecretPermission,
    .deleteGatewaySecretPermission,.wipeGatewaySecretPermissions,
    .createGroupGatewaySecretPermission,.updateGroupGatewaySecretPermission,
    .deleteGroupGatewaySecretPermission,.createGatewaySecretRegexPermission,
    .updateGatewaySecretRegexPermission,.deleteGatewaySecretRegexPermission,
    .createGroupGatewaySecretRegexPermission,.updateGroupGatewaySecretRegexPermission,
    .deleteGroupGatewaySecretRegexPermission,.createGatewayModelDefinitionPermission,
    .updateGatewayModelDefinitionPermission,.deleteGatewayModelDefinitionPermission,
    .wipeGatewayModelDefinitionPermissions,.createGroupGatewayModelDefinitionPermission,
    .updateGroupGatewayModelDefinitionPermission,.deleteGroupGatewayModelDefinitionPermission,
    .createGatewayModelDefinitionRegexPermission,.updateGatewayModelDefinitionRegexPermission,
    .deleteGatewayModelDefinitionRegexPermission,
    .createGroupGatewayModelDefinitionRegexPermission,
    .updateGroupGatewayModelDefinitionRegexPermission,
    .deleteGroupGatewayModelDefinitionRegexPermission,.setUserGroups,.addUserToGroup,
    .removeUserFromGroup]

/-- What each method of the store does with its arguments. The gateway methods that delete a
group's regex pass the id where the repository expects the group, and the group as the id. -/
def StoreMethod.operation (method : StoreMethod) (args : Arguments) : Operation :=
  match method with
  | .createExperimentPermission =>
    .grant .user .experiment ⟨args.experimentId,none⟩ args.username args.permission
  | .updateExperimentPermission =>
    .update .user .experiment ⟨args.experimentId,none⟩ args.username args.permission
  | .deleteExperimentPermission => .revoke .user .experiment ⟨args.experimentId,none⟩ args.username
  | .createGroupExperimentPermission =>
    .grant .group .experiment ⟨args.experimentId,none⟩ args.groupName args.permission
  | .updateGroupExperimentPermission =>
    .update .group .experiment ⟨args.experimentId,none⟩ args.groupName args.permission
  | .deleteGroupExperimentPermission =>
    .revoke .group .experiment ⟨args.experimentId,none⟩ args.groupName
  | .createExperimentRegexPermission =>
    .grantRegex .user .experiment false args.regex args.priority args.permission args.username
  | .updateExperimentRegexPermission =>
    .updateRegex .user .experiment false args.id args.regex args.priority args.permission
      args.username
  | .deleteExperimentRegexPermission =>
    .revokeRegex .user .experiment false (toString args.id) args.username
  | .createGroupExperimentRegexPermission =>
    .grantRegex .group .experiment false args.regex args.priority args.permission args.groupName
  | .updateGroupExperimentRegexPermission =>
    .updateRegex .group .experiment false args.id args.regex args.priority args.permission
      args.groupName
  | .deleteGroupExperimentRegexPermission =>
    .revokeRegex .group .experiment false (toString args.id) args.groupName
  | .createRegisteredModelPermission =>
    .grant .user .registeredModel ⟨args.name,none⟩ args.username args.permission
  | .updateRegisteredModelPermission =>
    .update .user .registeredModel ⟨args.name,none⟩ args.username args.permission
  | .deleteRegisteredModelPermission =>
    .revoke .user .registeredModel ⟨args.name,none⟩ args.username
  | .renameRegisteredModelPermissions => .renameModel .user args.oldName args.newName
  | .wipeRegisteredModelPermissions => .wipe .user .registeredModel args.name
  | .createGroupModelPermission =>
    .grant .group .registeredModel ⟨args.name,none⟩ args.groupName args.permission
  | .updateGroupModelPermission =>
    .update .group .registeredModel ⟨args.name,none⟩ args.groupName args.permission
  | .deleteGroupModelPermission => .revoke .group .registeredModel ⟨args.name,none⟩ args.groupName
  | .renameGroupModelPermissions => .renameModel .group args.oldName args.newName
  | .wipeGroupModelPermissions => .wipe .group .registeredModel args.name
  | .createRegisteredModelRegexPermission =>
    .grantRegex .user .registeredModel false args.regex args.priority args.permission args.username
  | .updateRegisteredModelRegexPermission =>
    .updateRegex .user .registeredModel false args.id args.regex args.priority args.permission
      args.username
  | .deleteRegisteredModelRegexPermission =>
    .revokeRegex .user .registeredModel false (toString args.id) args.username
  | .createGroupRegisteredModelRegexPermission =>
    .grantRegex .group .registeredModel false args.regex args.priority args.permission
      args.groupName
  | .updateGroupRegisteredModelRegexPermission =>
    .updateRegex .group .registeredModel false args.id args.regex args.priority args.permission
      args.groupName
  | .deleteGroupRegisteredModelRegexPermission =>
    .revokeRegex .group .registeredModel false (toString args.id) args.groupName
  | .createGroupPromptPermission => .grantPrompt args.name args.groupName args.permission
  | .updateGroupPromptPermission => .updatePrompt args.name args.groupName args.permission
  | .deleteGroupPromptPermission => .revokePrompt args.name args.groupName
  | .createPromptRegexPermission =>
    .grantRegex .user .registeredModel args.prompt args.regex args.priority args.permission
      args.username
  | .updatePromptRegexPermission =>
    .updateRegex .user .registeredModel args.prompt args.id args.regex args.priority
      args.permission args.username
  | .deletePromptRegexPermission =>
    .revokeRegex .user .registeredModel true (toString args.id) args.username
  | .createGroupPromptRegexPermission =>
    .grantRegex .group .registeredModel args.prompt args.regex args.priority args.permission
      args.groupName
  | .updateGroupPromptRegexPermission =>
    .updateRegex .group .registeredModel args.prompt args.id args.regex args.priority
      args.permission args.groupName
  | .deleteGroupPromptRegexPermission =>
    .revokeRegex .group .registeredModel true (toString args.id) args.groupName
  | .createScorerPermission => .grant .user .scorer args.scorerKey args.username args.permission
  | .updateScorerPermission => .update .user .scorer args.scorerKey args.username args.permission
  | .deleteScorerPermission => .revoke .user .scorer args.scorerKey args.username
  | .deleteScorerPermissionsForScorer => .deleteScorer args.experimentId args.scorerName
  | .createGroupScorerPermission =>
    .grant .group .scorer args.scorerKey args.groupName args.permission
  | .updateGroupScorerPermission =>
    .update .group .scorer args.scorerKey args.groupName args.permission
  | .deleteGroupScorerPermission => .revoke .group .scorer args.scorerKey args.groupName
  | .createScorerRegexPermission =>
    .grantRegex .user .scorer false args.regex args.priority args.permission args.username
  | .updateScorerRegexPermission =>
    .updateRegex .user .scorer false args.id args.regex args.priority args.permission args.username
  | .deleteScorerRegexPermission =>
    .revokeRegex .user .scorer false (toString args.id) args.username
  | .createGroupScorerRegexPermission =>
    .grantRegex .group .scorer false args.regex args.priority args.permission args.groupName
  | .updateGroupScorerRegexPermission =>
    .updateRegex .group .scorer false args.id args.regex args.priority args.permission
      args.groupName
  | .deleteGroupScorerRegexPermission =>
    .revokeRegex .group .scorer false (toString args.id) args.groupName
  | .createGatewayEndpointPermission =>
    .grant .user .gatewayEndpoint ⟨args.gatewayName,none⟩ args.username args.permission
  | .updateGatewayEndpointPermission =>
    .update .user .gatewayEndpoint ⟨args.gatewayName,none⟩ args.username args.permission
  | .deleteGatewayEndpointPermission =>
    .revoke .user .gatewayEndpoint ⟨args.gatewayName,none⟩ args.username
  | .renameGatewayEndpointPermissions => .renameEndpoint args.oldName args.newName
  | .wipeGatewayEndpointPermissions => .wipeBoth .gatewayEndpoint args.gatewayName
  | .createGroupGatewayEndpointPermission =>
    .grant .group .gatewayEndpoint ⟨args.gatewayName,none⟩ args.groupName args.permission
  | .updateGroupGatewayEndpointPermission =>
    .update .group .gatewayEndpoint ⟨args.gatewayName,none⟩ args.groupName args.permission
  | .deleteGroupGatewayEndpointPermission =>
    .revoke .group .gatewayEndpoint ⟨args.gatewayName,none⟩ args.groupName
  | .createGatewayEndpointRegexPermission =>
    .grantRegex .user .gatewayEndpoint false args.regex args.priority args.permission args.username
  | .updateGatewayEndpointRegexPermission =>
    .updateRegex .user .gatewayEndpoint false args.id args.regex args.priority args.permission
      args.username
  | .deleteGatewayEndpointRegexPermission =>
    .revokeRegex .user .gatewayEndpoint false (toString args.id) args.username
  | .createGroupGatewayEndpointRegexPermission =>
    .grantRegex .group .gatewayEndpoint false args.regex args.priority args.permission
      args.groupName
  | .updateGroupGatewayEndpointRegexPermission =>
    .updateRegex .group .gatewayEndpoint false args.id args.regex args.priority args.permission
      args.groupName
  | .deleteGroupGatewayEndpointRegexPermission =>
    .revokeRegex .group .gatewayEndpoint false args.groupName (toString args.id)
  | .createGatewaySecretPermission =>
    .grant .user .gatewaySecret ⟨args.gatewayName,none⟩ args.username args.permission
  | .updateGatewaySecretPermission =>
    .update .user .gatewaySecret ⟨args.gatewayName,none⟩ args.username args.permission
  | .deleteGatewaySecretPermission =>
    .revoke .user .gatewaySecret ⟨args.gatewayName,none⟩ args.username
  | .wipeGatewaySecretPermissions => .wipeBoth .gatewaySecret args.gatewayName
  | .createGroupGatewaySecretPermission =>
    .grant .group .gatewaySecret ⟨args.gatewayName,none⟩ args.groupName args.permission
  | .updateGroupGatewaySecretPermission =>
    .update .group .gatewaySecret ⟨args.gatewayName,none⟩ args.groupName args.permission
  | .deleteGroupGatewaySecretPermission =>
    .revoke .group .gatewaySecret ⟨args.gatewayName,none⟩ args.groupName
  | .createGatewaySecretRegexPermission =>
    .grantRegex .user .gatewaySecret false args.regex args.priority args.permission args.username
  | .updateGatewaySecretRegexPermission =>
    .updateRegex .user .gatewaySecret false args.id args.regex args.priority args.permission
      args.username
  | .deleteGatewaySecretRegexPermission =>
    .revokeRegex .user .gatewaySecret false (toString args.id) args.username
  | .createGroupGatewaySecretRegexPermission =>
    .grantRegex .group .gatewaySecret false args.regex args.priority args.permission args.groupName
  | .updateGroupGatewaySecretRegexPermission =>
    .updateRegex .group .gatewaySecret false args.id args.regex args.priority args.permission
      args.groupName
  | .deleteGroupGatewaySecretRegexPermission =>
    .revokeRegex .group .gatewaySecret false args.groupName (toString args.id)
  | .createGatewayModelDefinitionPermission =>
    .grant .user .gatewayModelDefinition ⟨args.gatewayName,none⟩ args.username args.permission
  | .updateGatewayModelDefinitionPermission =>
    .update .user .gatewayModelDefinition ⟨args.gatewayName,none⟩ args.username args.permission
  | .deleteGatewayModelDefinitionPermission =>
    .revoke .user .gatewayModelDefinition ⟨args.gatewayName,none⟩ args.username
  | .wipeGatewayModelDefinitionPermissions => .wipeBoth .gatewayModelDefinition args.gatewayName
  | .createGroupGatewayModelDefinitionPermission =>
    .grant .group .gatewayModelDefinition ⟨args.gatewayName,none⟩ args.groupName args.permission
  | .updateGroupGatewayModelDefinitionPermission =>
    .update .group .gatewayModelDefinition ⟨args.gatewayName,none⟩ args.groupName args.permission
  | .deleteGroupGatewayModelDefinitionPermission =>
    .revoke .group .gatewayModelDefinition ⟨args.gatewayName,none⟩ args.groupName
  | .createGatewayModelDefinitionRegexPermission =>
    .grantRegex .user .gatewayModelDefinition false args.regex args.priority args.permission
      args.username
  | .updateGatewayModelDefinitionRegexPermission =>
    .updateRegex .user .gatewayModelDefinition false args.id args.regex args.priority
      args.permission args.username
  | .deleteGatewayModelDefinitionRegexPermission =>
    .revokeRegex .user .gatewayModelDefinition false (toString args.id) args.username
  | .createGroupGatewayModelDefinitionRegexPermission =>
    .grantRegex .group .gatewayModelDefinition false args.regex args.priority args.permission
      args.groupName
  | .updateGroupGatewayModelDefinitionRegexPermission =>
    .updateRegex .group .gatewayModelDefinition false args.id args.regex args.priority
      args.permission args.groupName
  | .deleteGroupGatewayModelDefinitionRegexPermission =>
    .revokeRegex .group .gatewayModelDefinition false args.groupName (toString args.id)
  | .setUserGroups => .setUserGroups args.username args.groupNames
  | .addUserToGroup => .addUserToGroup args.username args.groupName
  | .removeUserFromGroup => .removeUserFromGroup args.username args.groupName
  | .wipeExperimentPermissions => .wipeBoth .experiment args.experimentId
  | .createUser =>
    .createUser args.username args.password args.displayName args.isAdmin args.isServiceAccount
  | .updateUser => .updateUser args.username args.userChange
  | .renameUser => .renameUser args.oldUsername args.newUsername
  | .setUserDisplayname => .setUserDisplayname args.username args.displayName
  | .deleteUser => .deleteUser args.username
  | .populateGroups => .populateGroups args.groupNames
  | .setUserQuota => .quota args.username (.set args.quotaBytes args.softCapFraction)
  | .updateQuotaEmail => .quota args.username (.email args.email)
  | .deleteUserQuota => .quota args.username .delete
  | .updateUserQuotaUsedBytes => .quota args.username (.usedBytes args.now args.usedBytes)
  | .incrementUserQuotaUsedBytes => .quota args.username (.increment args.delta)
  | .setQuotaHardBlocked => .quota args.username (.hardBlocked args.blocked)
  | .setQuotaSoftNotifiedAt => .quota args.username (.softNotifiedAt args.value)

end MlflowOidcAuth
