import Mathlib.Logic.Function.Basic
import MlflowOidcAuth.Store.Methods

/-! What the tables of direct grants are for: a partial map from an owner and a resource to a
grant, with the names that may own one. The writes of the store are updates of this map. -/
namespace MlflowOidcAuth

structure Grant where
  permission : String
  prompt : Bool
deriving DecidableEq, Repr

/-- The table, the resource and the name of the owner. -/
abbrev EntryKey := Holder × Family × ResourceKey × String

structure GrantMap where
  owners : Holder → String → Prop
  entry : EntryKey → Option Grant

def ResourceKey.renamed (key : ResourceKey) (name : String) : ResourceKey :=
  ⟨name,key.scorerName⟩

namespace GrantMap

theorem ext_entries {map map' : GrantMap}
    (owners : ∀ holder owner, map'.owners holder owner ↔ map.owners holder owner)
    (entries : ∀ holder family key owner,
      map'.entry (holder,family,key,owner) = map.entry (holder,family,key,owner)) : map' = map := by
  obtain ⟨known,entry⟩ := map
  obtain ⟨known',entry'⟩ := map'
  congr 1
  · funext holder owner
    exact propext (owners holder owner)
  · funext key
    exact entries key.1 key.2.1 key.2.2.1 key.2.2.2

def put (map : GrantMap) (key : EntryKey) (grant : Option Grant) : GrantMap :=
  { map with entry := Function.update map.entry key grant }

def erase (map : GrantMap) (doomed : EntryKey → Bool) : GrantMap :=
  { map with entry := fun key => if doomed key then none else map.entry key }

/-- The grants on one name become grants on another. -/
def rename (map : GrantMap) (holder : Holder) (family : Family) (oldName newName : String) :
    GrantMap :=
  { map with entry := fun (other,table,key,owner) =>
      if other = holder ∧ table = family then
        if key.resourceId = newName then
          (map.entry (other,table,key.renamed oldName,owner)).or (map.entry (other,table,key,owner))
        else if key.resourceId = oldName then none
        else map.entry (other,table,key,owner)
      else map.entry (other,table,key,owner) }

/-- Somebody holds grants on both names. -/
def Collides (map : GrantMap) (holder : Holder) (family : Family) (oldName newName : String) :
    Prop :=
  oldName ≠ newName ∧ ∃ owner, map.entry (holder,family,⟨oldName,none⟩,owner) ≠ none ∧
    map.entry (holder,family,⟨newName,none⟩,owner) ≠ none

/-- The grants of a user follow the user's name. -/
def renameOwner (map : GrantMap) (oldName newName : String) : GrantMap where
  owners holder owner := match holder with
    | .user => owner = newName ∨ map.owners .user owner ∧ owner ≠ oldName
    | .group => map.owners .group owner
  entry := fun (holder,family,key,owner) => match holder with
    | .user =>
      if owner = newName then map.entry (.user,family,key,oldName)
      else if owner = oldName then none
      else map.entry (.user,family,key,owner)
    | .group => map.entry (.group,family,key,owner)

def addOwners (map : GrantMap) (holder : Holder) (names : List String) : GrantMap :=
  { map with owners := fun other owner =>
      map.owners other owner ∨ other = holder ∧ owner ∈ names }

def removeUser (map : GrantMap) (username : String) : GrantMap where
  owners holder owner := map.owners holder owner ∧ ¬ (holder = .user ∧ owner = username)
  entry key := if key.1 = .user ∧ key.2.2.2 = username then none else map.entry key

/-- The map after an operation that succeeds. -/
def after (map : GrantMap) : Operation → GrantMap
  | .grant holder family key owner permission =>
    map.put (holder,family,key,owner) (some ⟨permission,false⟩)
  | .update holder family key owner permission =>
    map.put (holder,family,key,owner) ((map.entry (holder,family,key,owner)).map (fun grant =>
      { grant with permission := permission }))
  | .revoke holder family key owner => map.put (holder,family,key,owner) none
  | .grantPrompt name groupName permission =>
    map.put (.group,.registeredModel,⟨name,none⟩,groupName) (some ⟨permission,true⟩)
  | .updatePrompt name groupName permission =>
    map.put (.group,.registeredModel,⟨name,none⟩,groupName) (some ⟨permission,true⟩)
  | .revokePrompt name groupName => map.put (.group,.registeredModel,⟨name,none⟩,groupName) none
  | .renameModel holder oldName newName => map.rename holder .registeredModel oldName newName
  | .renameEndpoint oldName newName =>
    (map.rename .user .gatewayEndpoint oldName newName).rename .group .gatewayEndpoint oldName newName
  | .wipe holder family resourceId => map.erase (fun (other,table,key,_) =>
      decide (other = holder ∧ table = family ∧ key.resourceId = resourceId))
  | .wipeBoth family resourceId => map.erase (fun (_,table,key,_) =>
      decide (table = family ∧ key.resourceId = resourceId))
  | .deleteScorer experimentId scorerName => map.erase (fun (_,table,key,_) =>
      decide (table = .scorer ∧ key = ⟨experimentId,some scorerName⟩))
  | .populateGroups groupNames => map.addOwners .group groupNames
  | .createUser username _ _ _ _ => map.addOwners .user [username]
  | .renameUser oldUsername newUsername => map.renameOwner oldUsername newUsername
  | .deleteUser username => map.removeUser username
  | _ => map

/-- What the map says about whether an operation succeeds. The writes of patterns, memberships
and quotas depend on other tables. -/
def Allows (env : StoreEnv) (map : GrantMap) : Operation → Prop
  | .grant holder family key owner permission => validatePermission permission = .ok () ∧
      key.scorerName.isSome = decide (family = .scorer) ∧ map.owners holder owner ∧
      map.entry (holder,family,key,owner) = none
  | .update holder family key owner permission => validatePermission permission = .ok () ∧
      map.entry (holder,family,key,owner) ≠ none
  | .revoke holder family key owner => map.entry (holder,family,key,owner) ≠ none
  | .grantPrompt name groupName permission => validatePermission permission = .ok () ∧
      map.owners .group groupName ∧ map.entry (.group,.registeredModel,⟨name,none⟩,groupName) = none
  | .updatePrompt name groupName permission => validatePermission permission = .ok () ∧
      ∃ grant, map.entry (.group,.registeredModel,⟨name,none⟩,groupName) = some grant ∧
        grant.prompt = true
  | .revokePrompt name groupName =>
      ∃ grant, map.entry (.group,.registeredModel,⟨name,none⟩,groupName) = some grant ∧
        grant.prompt = true
  | .renameModel holder oldName newName =>
      (∃ owner, map.entry (holder,.registeredModel,⟨oldName,none⟩,owner) ≠ none) ∧
        ¬ map.Collides holder .registeredModel oldName newName
  | .renameEndpoint oldName newName => ¬ map.Collides .user .gatewayEndpoint oldName newName ∧
      ¬ map.Collides .group .gatewayEndpoint oldName newName
  | .createUser username _ _ _ _ =>
      env.validateUsername username = .ok () ∧ ¬ map.owners .user username
  | .updateUser username _ | .setUserDisplayname username _ | .deleteUser username =>
      map.owners .user username
  | .renameUser oldUsername newUsername => env.validateUsername newUsername = .ok () ∧
      map.owners .user oldUsername ∧ (oldUsername = newUsername ∨ ¬ map.owners .user newUsername)
  | _ => True

open Classical in
/-- The map after an operation that raises. Only the rename of an endpoint leaves something
behind: the users' grants, when it is those of the groups that collide. -/
noncomputable def afterRefusal (map : GrantMap) : Operation → GrantMap
  | .renameEndpoint oldName newName =>
    if map.Collides .user .gatewayEndpoint oldName newName then map
    else map.rename .user .gatewayEndpoint oldName newName
  | _ => map

open Classical in
noncomputable def next (env : StoreEnv) (map : GrantMap) (operation : Operation) : GrantMap :=
  if map.Allows env operation then map.after operation else map.afterRefusal operation

end GrantMap

/-- The operations whose success depends on more than direct grants and their owners. -/
def Operation.besideGrants : Operation → Bool
  | .grantRegex .. | .updateRegex .. | .revokeRegex .. | .setUserGroups .. | .addUserToGroup ..
  | .removeUserFromGroup .. | .quota .. => true
  | _ => false

end MlflowOidcAuth
