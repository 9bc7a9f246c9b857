import MlflowOidcAuth.Grants.Entries
import MlflowOidcAuth.Resolution.Invalidation

/-! The endpoints of the two permission routers that write: the dependency that guards each, and
the method of the store it calls. -/
namespace MlflowOidcAuth
open KeyedCache Effects

/-- The handlers behind POST, PATCH and DELETE. -/
inductive WriteEndpoint
  | createUserExperimentPermission | updateUserExperimentPermission
  | deleteUserExperimentPermission | createUserExperimentPatternPermission
  | updateUserExperimentPatternPermission | deleteUserExperimentPatternPermission
  | createUserPromptPermission | updateUserPromptPermission | deleteUserPromptPermission
  | createUserPromptRegexPermission | updateUserPromptRegexPermission
  | deleteUserPromptRegexPermission | createUserRegisteredModelPermission
  | updateUserRegisteredModelPermission | deleteUserRegisteredModelPermission
  | createUserScorerPermission | updateUserScorerPermission | deleteUserScorerPermission
  | createUserScorerRegexPermission | updateUserScorerPatternPermission
  | deleteUserScorerPatternPermission | createUserRegisteredModelRegexPermission
  | updateUserRegisteredModelRegexPermission | deleteUserRegisteredModelRegexPermission
  | createUserGatewayEndpointPermission | updateUserGatewayEndpointPermission
  | deleteUserGatewayEndpointPermission | createUserGatewayEndpointPatternPermission
  | updateUserGatewayEndpointPatternPermission | deleteUserGatewayEndpointPatternPermission
  | createUserGatewayModelDefinitionPermission | updateUserGatewayModelDefinitionPermission
  | deleteUserGatewayModelDefinitionPermission | createUserGatewayModelDefinitionPatternPermission
  | updateUserGatewayModelDefinitionPatternPermission
  | deleteUserGatewayModelDefinitionPatternPermission | createUserGatewaySecretPermission
  | updateUserGatewaySecretPermission | deleteUserGatewaySecretPermission
  | createUserGatewaySecretPatternPermission | updateUserGatewaySecretPatternPermission
  | deleteUserGatewaySecretPatternPermission | createGroupExperimentPermission
  | updateGroupExperimentPermission | deleteGroupExperimentPermission
  | createGroupRegisteredModelPermission | updateGroupRegisteredModelPermission
  | deleteGroupRegisteredModelPermission | createGroupPromptPermission
  | updateGroupPromptPermission | deleteGroupPromptPermission
  | createGroupExperimentPatternPermission | updateGroupExperimentPatternPermission
  | deleteGroupExperimentPatternPermission | createGroupRegisteredModelPatternPermission
  | updateGroupRegisteredModelPatternPermission | deleteGroupRegisteredModelPatternPermission
  | createGroupPromptPatternPermission | updateGroupPromptPatternPermission
  | deleteGroupPromptPatternPermission | createGroupScorerPermission | updateGroupScorerPermission
  | deleteGroupScorerPermission | createGroupScorerPatternPermission
  | updateGroupScorerPatternPermission | deleteGroupScorerPatternPermission
  | createGroupGatewayEndpointPermission | updateGroupGatewayEndpointPermission
  | deleteGroupGatewayEndpointPermission | createGroupGatewayEndpointPatternPermission
  | updateGroupGatewayEndpointPatternPermission | deleteGroupGatewayEndpointPatternPermission
  | createGroupGatewayModelDefinitionPermission | updateGroupGatewayModelDefinitionPermission
  | deleteGroupGatewayModelDefinitionPermission
  | createGroupGatewayModelDefinitionPatternPermission
  | updateGroupGatewayModelDefinitionPatternPermission
  | deleteGroupGatewayModelDefinitionPatternPermission | createGroupGatewaySecretPermission
  | updateGroupGatewaySecretPermission | deleteGroupGatewaySecretPermission
  | createGroupGatewaySecretPatternPermission | updateGroupGatewaySecretPatternPermission
  | deleteGroupGatewaySecretPatternPermission
deriving DecidableEq, Repr

/-- Who may call a handler: an administrator, or also who manages the resource of the path. The
handlers of groups ask for registered models and prompts in their own bodies. -/
inductive WriteGuard
  | checkAdminPermission
  | checkExperimentManagePermission
  | checkRegisteredModelManagePermission
  | effectiveRegisteredModelPermission
  | effectivePromptPermission
deriving DecidableEq, Repr

namespace WriteEndpoint

def guard : WriteEndpoint → WriteGuard
  | .createUserExperimentPermission | .updateUserExperimentPermission
  | .deleteUserExperimentPermission | .createUserScorerPermission | .updateUserScorerPermission
  | .deleteUserScorerPermission | .createGroupExperimentPermission
  | .updateGroupExperimentPermission | .deleteGroupExperimentPermission
  | .createGroupScorerPermission | .updateGroupScorerPermission | .deleteGroupScorerPermission =>
    .checkExperimentManagePermission
  | .createUserPromptPermission | .updateUserPromptPermission | .deleteUserPromptPermission
  | .createUserRegisteredModelPermission | .updateUserRegisteredModelPermission
  | .deleteUserRegisteredModelPermission => .checkRegisteredModelManagePermission
  | .createGroupRegisteredModelPermission | .updateGroupRegisteredModelPermission
  | .deleteGroupRegisteredModelPermission => .effectiveRegisteredModelPermission
  | .createGroupPromptPermission | .updateGroupPromptPermission | .deleteGroupPromptPermission =>
    .effectivePromptPermission
  | _ => .checkAdminPermission

def method : WriteEndpoint → StoreMethod
  | .createUserExperimentPermission => .createExperimentPermission
  | .updateUserExperimentPermission => .updateExperimentPermission
  | .deleteUserExperimentPermission => .deleteExperimentPermission
  | .createUserExperimentPatternPermission => .createExperimentRegexPermission
  | .updateUserExperimentPatternPermission => .updateExperimentRegexPermission
  | .deleteUserExperimentPatternPermission => .deleteExperimentRegexPermission
  | .createUserPromptPermission => .createRegisteredModelPermission
  | .updateUserPromptPermission => .updateRegisteredModelPermission
  | .deleteUserPromptPermission => .deleteRegisteredModelPermission
  | .createUserPromptRegexPermission => .createPromptRegexPermission
  | .updateUserPromptRegexPermission => .updatePromptRegexPermission
  | .deleteUserPromptRegexPermission => .deletePromptRegexPermission
  | .createUserRegisteredModelPermission => .createRegisteredModelPermission
  | .updateUserRegisteredModelPermission => .updateRegisteredModelPermission
  | .deleteUserRegisteredModelPermission => .deleteRegisteredModelPermission
  | .createUserScorerPermission => .createScorerPermission
  | .updateUserScorerPermission => .updateScorerPermission
  | .deleteUserScorerPermission => .deleteScorerPermission
  | .createUserScorerRegexPermission => .createScorerRegexPermission
  | .updateUserScorerPatternPermission => .updateScorerRegexPermission
  | .deleteUserScorerPatternPermission => .deleteScorerRegexPermission
  | .createUserRegisteredModelRegexPermission => .createRegisteredModelRegexPermission
  | .updateUserRegisteredModelRegexPermission => .updateRegisteredModelRegexPermission
  | .deleteUserRegisteredModelRegexPermission => .deleteRegisteredModelRegexPermission
  | .createUserGatewayEndpointPermission => .createGatewayEndpointPermission
  | .updateUserGatewayEndpointPermission => .updateGatewayEndpointPermission
  | .deleteUserGatewayEndpointPermission => .deleteGatewayEndpointPermission
  | .createUserGatewayEndpointPatternPermission => .createGatewayEndpointRegexPermission
  | .updateUserGatewayEndpointPatternPermission => .updateGatewayEndpointRegexPermission
  | .deleteUserGatewayEndpointPatternPermission => .deleteGatewayEndpointRegexPermission
  | .createUserGatewayModelDefinitionPermission => .createGatewayModelDefinitionPermission
  | .updateUserGatewayModelDefinitionPermission => .updateGatewayModelDefinitionPermission
  | .deleteUserGatewayModelDefinitionPermission => .deleteGatewayModelDefinitionPermission
  | .createUserGatewayModelDefinitionPatternPermission =>
    .createGatewayModelDefinitionRegexPermission
  | .updateUserGatewayModelDefinitionPatternPermission =>
    .updateGatewayModelDefinitionRegexPermission
  | .deleteUserGatewayModelDefinitionPatternPermission =>
    .deleteGatewayModelDefinitionRegexPermission
  | .createUserGatewaySecretPermission => .createGatewaySecretPermission
  | .updateUserGatewaySecretPermission => .updateGatewaySecretPermission
  | .deleteUserGatewaySecretPermission => .deleteGatewaySecretPermission
  | .createUserGatewaySecretPatternPermission => .createGatewaySecretRegexPermission
  | .updateUserGatewaySecretPatternPermission => .updateGatewaySecretRegexPermission
  | .deleteUserGatewaySecretPatternPermission => .deleteGatewaySecretRegexPermission
  | .createGroupExperimentPermission => .createGroupExperimentPermission
  | .updateGroupExperimentPermission => .updateGroupExperimentPermission
  | .deleteGroupExperimentPermission => .deleteGroupExperimentPermission
  | .createGroupRegisteredModelPermission => .createGroupModelPermission
  | .updateGroupRegisteredModelPermission => .updateGroupModelPermission
  | .deleteGroupRegisteredModelPermission => .deleteGroupModelPermission
  | .createGroupPromptPermission => .createGroupPromptPermission
  | .updateGroupPromptPermission => .updateGroupPromptPermission
  | .deleteGroupPromptPermission => .deleteGroupPromptPermission
  | .createGroupExperimentPatternPermission => .createGroupExperimentRegexPermission
  | .updateGroupExperimentPatternPermission => .updateGroupExperimentRegexPermission
  | .deleteGroupExperimentPatternPermission => .deleteGroupExperimentRegexPermission
  | .createGroupRegisteredModelPatternPermission => .createGroupRegisteredModelRegexPermission
  | .updateGroupRegisteredModelPatternPermission => .updateGroupRegisteredModelRegexPermission
  | .deleteGroupRegisteredModelPatternPermission => .deleteGroupRegisteredModelRegexPermission
  | .createGroupPromptPatternPermission => .createGroupPromptRegexPermission
  | .updateGroupPromptPatternPermission => .updateGroupPromptRegexPermission
  | .deleteGroupPromptPatternPermission => .deleteGroupPromptRegexPermission
  | .createGroupScorerPermission => .createGroupScorerPermission
  | .updateGroupScorerPermission => .updateGroupScorerPermission
  | .deleteGroupScorerPermission => .deleteGroupScorerPermission
  | .createGroupScorerPatternPermission => .createGroupScorerRegexPermission
  | .updateGroupScorerPatternPermission => .updateGroupScorerRegexPermission
  | .deleteGroupScorerPatternPermission => .deleteGroupScorerRegexPermission
  | .createGroupGatewayEndpointPermission => .createGroupGatewayEndpointPermission
  | .updateGroupGatewayEndpointPermission => .updateGroupGatewayEndpointPermission
  | .deleteGroupGatewayEndpointPermission => .deleteGroupGatewayEndpointPermission
  | .createGroupGatewayEndpointPatternPermission => .createGroupGatewayEndpointRegexPermission
  | .updateGroupGatewayEndpointPatternPermission => .updateGroupGatewayEndpointRegexPermission
  | .deleteGroupGatewayEndpointPatternPermission => .deleteGroupGatewayEndpointRegexPermission
  | .createGroupGatewayModelDefinitionPermission => .createGroupGatewayModelDefinitionPermission
  | .updateGroupGatewayModelDefinitionPermission => .updateGroupGatewayModelDefinitionPermission
  | .deleteGroupGatewayModelDefinitionPermission => .deleteGroupGatewayModelDefinitionPermission
  | .createGroupGatewayModelDefinitionPatternPermission =>
    .createGroupGatewayModelDefinitionRegexPermission
  | .updateGroupGatewayModelDefinitionPatternPermission =>
    .updateGroupGatewayModelDefinitionRegexPermission
  | .deleteGroupGatewayModelDefinitionPatternPermission =>
    .deleteGroupGatewayModelDefinitionRegexPermission
  | .createGroupGatewaySecretPermission => .createGroupGatewaySecretPermission
  | .updateGroupGatewaySecretPermission => .updateGroupGatewaySecretPermission
  | .deleteGroupGatewaySecretPermission => .deleteGroupGatewaySecretPermission
  | .createGroupGatewaySecretPatternPermission => .createGroupGatewaySecretRegexPermission
  | .updateGroupGatewaySecretPatternPermission => .updateGroupGatewaySecretRegexPermission
  | .deleteGroupGatewaySecretPatternPermission => .deleteGroupGatewaySecretRegexPermission

end WriteEndpoint

/-- A call of a handler: who calls, and the parameters of its path and body. -/
structure WriteRequest where
  endpoint : WriteEndpoint
  caller : String
  args : Arguments

namespace WriteRequest

/-- The permission that the guard asks for, unless administrators alone may call. -/
def asked (request : WriteRequest) : Option ResourceRequest :=
  match request.endpoint.guard with
  | .checkAdminPermission => none
  | .checkExperimentManagePermission =>
    some ⟨.experiment,request.args.experimentId,request.caller,none⟩
  | .checkRegisteredModelManagePermission | .effectiveRegisteredModelPermission =>
    some ⟨.registeredModel,request.args.name,request.caller,none⟩
  | .effectivePromptPermission => some ⟨.prompt,request.args.name,request.caller,none⟩

def insufficient (request : WriteRequest) : String :=
  match request.endpoint.guard with
  | .checkAdminPermission => "Administrator privileges required for this operation"
  | .checkExperimentManagePermission =>
    "Insufficient permissions to manage experiment " ++ request.args.experimentId
  | .checkRegisteredModelManagePermission =>
    "Insufficient permissions to manage " ++ request.args.name
  | .effectiveRegisteredModelPermission =>
    "Insufficient permissions to manage registered model " ++ request.args.name
  | .effectivePromptPermission => "Insufficient permissions to manage prompt " ++ request.args.name

end WriteRequest

/-- `get_is_admin`, on the profile that the store returns. -/
def Tables.getIsAdmin (t : Tables) (username : String) : Except Failure Bool := do
  match ← oneOrNone (t.usersNamed username) with
  | some user => return user.isAdmin
  | none => .error (.mlflow .resourceDoesNotExist ("User '" ++ username ++ "' not found"))

/-- The guard of a handler. An administrator is asked for no permission, and whoever cannot be
looked up is refused, with the exception itself unless administrators alone may call. -/
def checkWrite (env : Env) (t : Tables) (context : RequestContext) (request : WriteRequest)
    (cached : TracedCaches) : Except Refusal Unit × TracedCaches :=
  match t.getIsAdmin request.caller,request.asked with
  | .ok true,_ => (.ok (),cached)
  | _,none => (.error (.http 403 request.insufficient),cached)
  | .error failure,some _ => (.error (.raised failure),cached)
  | .ok false,some question =>
    match cached.ask env t ⟨context,question⟩ with
    | (.error failure,cached) => (.error (.raised failure),cached)
    | (.ok result,cached) =>
      if result.permission.canManage then (.ok (),cached)
      else (.error (.http 403 request.insufficient),cached)

end MlflowOidcAuth
