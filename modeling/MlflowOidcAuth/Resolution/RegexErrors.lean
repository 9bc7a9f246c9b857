import MlflowOidcAuth.Batch.Agreement
import MlflowOidcAuth.Library.Effects
import MlflowOidcAuth.Resolution.Locality
import MlflowOidcAuth.Store.WorkspaceRegex

/-! On tables whose patterns compile no resolution raises a compilation error: neither of one
resource, nor in bulk, nor of a workspace. -/
namespace MlflowOidcAuth
open Effects OrderedSources KeyedCache

/-- Any failure but a pattern that does not compile. -/
def Failure.NotRegex (failure : Failure) : Prop := ∀ pattern, failure ≠ .reError pattern

theorem mlflow_notRegex (code : ErrorCode) (message : String) :
    (Failure.mlflow code message).NotRegex := by
  intro pattern same
  cases same

theorem keyError_notRegex (key : String) : (Failure.keyError key).NotRegex := by
  intro pattern same
  cases same

def Compiles (engine : RegexEngine) (pattern : String) : Prop :=
  ∃ warnings, engine.compile pattern = .ok warnings

theorem compiles_of_accepted {engine : RegexEngine} {pattern : String}
    (accepted : validateRegex engine pattern = .ok ()) : Compiles engine pattern := by
  cases compiled : engine.compile pattern with
  | ok warnings => exact ⟨warnings,compiled⟩
  | error problem =>
    unfold validateRegex at accepted
    rw [compiled] at accepted
    split at accepted
    · cases accepted
    · split at accepted <;> cases accepted

section Lookups
variable {Row : Type} {rows : List Row} {permission permission2 : String}

theorem one_notRegex {missing multiple : Failure} (plain : missing.NotRegex)
    (plain' : multiple.NotRegex) : RaisesOnly Failure.NotRegex (one missing multiple rows) := by
  unfold one
  split
  · exact raisesOnly_error plain
  · exact raisesOnly_ok _
  · exact raisesOnly_error plain'

theorem oneOrNone_notRegex : RaisesOnly Failure.NotRegex (oneOrNone rows) := by
  unfold oneOrNone
  split
  · exact raisesOnly_ok _
  · exact raisesOnly_ok _
  · exact raisesOnly_error (mlflow_notRegex _ _)

theorem getPermission_notRegex : RaisesOnly Failure.NotRegex (getPermission permission) := by
  unfold getPermission
  split
  · exact raisesOnly_ok _
  · exact raisesOnly_error (keyError_notRegex _)

theorem validatePermission_notRegex :
    RaisesOnly Failure.NotRegex (validatePermission permission) := by
  apply RaisesOnly.ite
  · exact raisesOnly_ok _
  · exact raisesOnly_error (mlflow_notRegex _ _)

theorem comparePermissions_notRegex :
    RaisesOnly Failure.NotRegex (comparePermissions permission permission2) := by
  apply validatePermission_notRegex.bind
  intro _ _
  apply validatePermission_notRegex.bind
  intro _ _
  apply getPermission_notRegex.bind
  intro _ _
  apply getPermission_notRegex.bind
  intro _ _
  exact raisesOnly_ok _

end Lookups

section Matching
variable {engine : RegexEngine} {name label : String} {rows : List SqlRegexPermission}
  (compile : ∀ row ∈ rows, Compiles engine row.regex)

theorem reMatch_of_compiles {pattern : String} (compiles : Compiles engine pattern) :
    reMatch engine pattern name = .ok (engine.matchesStart pattern name) := by
  obtain ⟨warnings,compiled⟩ := compiles
  simp only [reMatch,compiled]

include compile

theorem matchRegexPermission_notRegex :
    RaisesOnly Failure.NotRegex (matchRegexPermission engine name label rows) := by
  induction rows with
  | nil => exact raisesOnly_error (mlflow_notRegex _ _)
  | cons row rest ih =>
    have later := ih (fun other member => compile other (List.mem_cons_of_mem _ member))
    simp only [matchRegexPermission,reMatch_of_compiles (compile row List.mem_cons_self)]
    exact RaisesOnly.ite (raisesOnly_ok _) later

theorem findRegexPermission_notRegex :
    RaisesOnly Failure.NotRegex (findRegexPermission engine name rows) := by
  induction rows with
  | nil => exact raisesOnly_ok _
  | cons row rest ih =>
    have later := ih (fun other member => compile other (List.mem_cons_of_mem _ member))
    simp only [findRegexPermission,reMatch_of_compiles (compile row List.mem_cons_self)]
    exact RaisesOnly.ite (raisesOnly_ok _) later

theorem matchWorkspaceRegexPermission_notRegex (best : Option (Permission × Int)) :
    RaisesOnly Failure.NotRegex (matchWorkspaceRegexPermission engine name best rows) := by
  induction rows generalizing best with
  | nil => exact raisesOnly_ok _
  | cons row rest ih =>
    have later := ih (fun other member => compile other (List.mem_cons_of_mem _ member))
    simp only [matchWorkspaceRegexPermission,
      reMatch_of_compiles (compile row List.mem_cons_self)]
    split
    · apply RaisesOnly.ite
      · exact raisesOnly_ok _
      · apply RaisesOnly.ite
        · apply getPermission_notRegex.bind
          intro _ _
          exact RaisesOnly.ite (later _) (later _)
        · exact later _
    · apply RaisesOnly.ite
      · exact getPermission_notRegex.bind (fun _ _ => later _)
      · exact later _

end Matching

/-- Every stored pattern compiles. -/
structure PatternsCompile (engine : RegexEngine) (t : Tables) : Prop where
  regex : ∀ holder family, ∀ row ∈ t.regex holder family, Compiles engine row.regex
  workspaceRegex : ∀ holder, ∀ row ∈ t.workspaceRegex holder, Compiles engine row.regex

section Tables
variable {t : Tables} {family : Family} {prompt : Bool} {key : ResourceKey} {username : String}

theorem mem_orderByPriority {rows : List SqlRegexPermission} {row : SqlRegexPermission} :
    row ∈ Tables.orderByPriority rows ↔ row ∈ rows :=
  (List.perm_insertionSort _ rows).mem_iff

theorem listRegexPermissions_stored {rows : List SqlRegexPermission}
    (listed : t.listRegexPermissions family prompt username = .ok rows) :
    ∀ row ∈ rows, row ∈ t.regex .user family := by
  obtain ⟨user,_,read⟩ := bind_ok listed
  cases read
  intro row member
  exact List.mem_of_mem_filter (mem_orderByPriority.mp member)

theorem listGroupRegexPermissions_stored {groupIds : List Nat} :
    ∀ row ∈ t.listGroupRegexPermissionsForGroupsIds family prompt groupIds,
      row ∈ t.regex .group family := by
  intro row member
  exact List.mem_of_mem_filter (mem_orderByPriority.mp member)

theorem getUser_notRegex : RaisesOnly Failure.NotRegex (t.getUser username) :=
  one_notRegex (mlflow_notRegex _ _) (mlflow_notRegex _ _)

theorem getGroupsIdsForUser_notRegex :
    RaisesOnly Failure.NotRegex (t.getGroupsIdsForUser username) :=
  getUser_notRegex.bind (fun _ _ => raisesOnly_ok _)

theorem listRegexPermissions_notRegex :
    RaisesOnly Failure.NotRegex (t.listRegexPermissions family prompt username) :=
  getUser_notRegex.bind (fun _ _ => raisesOnly_ok _)

theorem getUserPermission_notRegex :
    RaisesOnly Failure.NotRegex (t.getUserPermission family key username) :=
  one_notRegex (mlflow_notRegex _ _) (mlflow_notRegex _ _)

theorem getGroupPermission_notRegex {groupName : String} :
    RaisesOnly Failure.NotRegex (t.getGroupPermission family key groupName) :=
  one_notRegex (mlflow_notRegex _ _) (mlflow_notRegex _ _)

theorem higherRow_notRegex {best perms : Option SqlPermission} :
    RaisesOnly Failure.NotRegex (Tables.higherRow best perms) := by
  unfold Tables.higherRow
  split
  · exact raisesOnly_ok _
  · exact raisesOnly_ok _
  · apply comparePermissions_notRegex.bind
    intro _ _
    exact RaisesOnly.ite (raisesOnly_ok _) (raisesOnly_ok _)

theorem getGroupPermissionOrNone_notRegex {groupName : String} :
    RaisesOnly Failure.NotRegex (t.getGroupPermissionOrNone family key groupName) := by
  apply oneOrNone_notRegex.bind
  intro found _
  cases found with
  | none => exact raisesOnly_ok _
  | some group => exact oneOrNone_notRegex

theorem getUserGroupsPermission_notRegex :
    RaisesOnly Failure.NotRegex (t.getUserGroupsPermission family key username) := by
  apply RaisesOnly.bind
  · exact getUser_notRegex.bind (fun _ _ => raisesOnly_ok _)
  · intro userGroups _
    apply RaisesOnly.bind
    · apply raisesOnly_foldlM
      intro best groupName _
      exact getGroupPermissionOrNone_notRegex.bind (fun _ _ => higherRow_notRegex)
    · intro best _
      cases best with
      | none => exact raisesOnly_error (mlflow_notRegex _ _)
      | some row => exact raisesOnly_ok _

end Tables

/-- What the plugin relies on of the tracking store: an experiment that it cannot read is no
matter of patterns. -/
def TrackingStorePlain (env : Env) : Prop :=
  ∀ experimentId, RaisesOnly Failure.NotRegex (env.experimentName experimentId)

section Resolutions
variable {env : Env} {t : Tables} (compile : PatternsCompile env.regex t)

theorem askSource_notRegex {sources : SourcesConfig} {name : String} {failure : Failure}
    (plain : ∀ source, RaisesOnly Failure.NotRegex (sources source))
    (failed : askSource sources name = .failed failure) : failure.NotRegex := by
  unfold askSource at failed
  split at failed
  · cases failed
  · next source _ =>
    split at failed
    · split at failed <;> cases failed
      next raised => exact getPermission_notRegex _ raised
    · next raised =>
      split at failed <;> cases failed
      exact plain source _ raised

theorem walk_notRegex {sources : SourcesConfig}
    (plain : ∀ source, RaisesOnly Failure.NotRegex (sources source)) :
    RaisesOnly Failure.NotRegex (getPermissionFromStoreOrDefault env.config sources) := by
  unfold getPermissionFromStoreOrDefault
  split
  · exact raisesOnly_ok _
  · next failure walked =>
    obtain ⟨name,_,failed⟩ := reaches_of_failed walked
    exact raisesOnly_error (askSource_notRegex plain failed)
  · exact getPermission_notRegex.bind (fun _ _ => raisesOnly_ok _)

theorem shape_notRegex {request : ResourceRequest} :
    RaisesOnly Failure.NotRegex (request.shape env) := by
  unfold ResourceRequest.shape
  cases request.resourceType
  case scorer =>
    cases request.scorerName
    · exact raisesOnly_error (keyError_notRegex _)
    · exact raisesOnly_ok _
  all_goals exact raisesOnly_ok _

include compile

theorem shape_sources_notRegex {shape : SourceShape}
    (subject : RaisesOnly Failure.NotRegex shape.subject) (username : String) (source : Source) :
    RaisesOnly Failure.NotRegex (shape.sources env t username source) := by
  cases source with
  | user => exact getUserPermission_notRegex.bind (fun _ _ => raisesOnly_ok _)
  | group =>
    have groupRow : RaisesOnly Failure.NotRegex (shape.groupRow t username) :=
      RaisesOnly.ite getGroupPermission_notRegex getUserGroupsPermission_notRegex
    exact groupRow.bind (fun _ _ => raisesOnly_ok _)
  | regex =>
    apply listRegexPermissions_notRegex.bind
    intro regexes listed
    apply subject.bind
    intro name _
    apply matchRegexPermission_notRegex
    intro row member
    exact compile.regex .user shape.family row (listRegexPermissions_stored listed row member)
  | groupRegex =>
    apply getGroupsIdsForUser_notRegex.bind
    intro ids _
    apply subject.bind
    intro name _
    apply matchRegexPermission_notRegex
    intro row member
    exact compile.regex .group shape.family row (listGroupRegexPermissions_stored row member)

theorem resourcePermission_notRegex (tracking : TrackingStorePlain env)
    (request : ResourceRequest) :
    RaisesOnly Failure.NotRegex (resourcePermission env t request) := by
  unfold resourcePermission
  rw [permissionRegistry_eq]
  cases shaped : request.shape env with
  | error failure => exact raisesOnly_error (shape_notRegex failure shaped)
  | ok shape =>
    have subject : RaisesOnly Failure.NotRegex shape.subject := by
      obtain ⟨_,_,_,⟨named,_⟩ | ⟨name,named⟩⟩ := shape_of_request shaped
      · rw [named]
        exact tracking _
      · rw [named]
        exact raisesOnly_ok _
    exact walk_notRegex (shape_sources_notRegex compile subject request.username)

theorem resolveMiss_notRegex (tracking : TrackingStorePlain env) (context : RequestContext)
    (request : ResourceRequest) (cache : Cache String Permission) :
    RaisesOnly Failure.NotRegex (resolveMiss env t context request cache).1 := by
  unfold resolveMiss
  split
  · next failure resolved =>
    exact raisesOnly_error (resourcePermission_notRegex compile tracking request failure resolved)
  · split <;> exact raisesOnly_ok _

theorem resolvePermission_notRegex (tracking : TrackingStorePlain env) (context : RequestContext)
    (request : ResourceRequest) (caches : Caches) :
    RaisesOnly Failure.NotRegex (resolvePermission env t context request caches).1 := by
  have miss := resolveMiss_notRegex compile tracking context request caches.workspace
  unfold resolvePermission
  split
  · exact raisesOnly_ok _
  · split
    · next failure _ missed =>
      rw [missed] at miss
      exact miss
    · exact raisesOnly_ok _

end Resolutions

section Bulk
variable {env : Env} {t : Tables} {context : RequestContext}

theorem buildUserPermissionContext_notRegex (username : String) :
    RaisesOnly Failure.NotRegex (buildUserPermissionContext t username) := by
  have listed : ∀ family, RaisesOnly Failure.NotRegex (t.listPermissionsForUser family username) :=
    fun family => getUser_notRegex.bind (fun _ _ => raisesOnly_ok _)
  have grouped : ∀ family,
      RaisesOnly Failure.NotRegex (t.listUserGroupsPermissions family username) :=
    fun family => getUser_notRegex.bind (fun _ _ => raisesOnly_ok _)
  apply getGroupsIdsForUser_notRegex.bind
  intro _ _
  apply (listed .experiment).bind
  intro _ _
  apply (grouped .experiment).bind
  intro _ _
  apply listRegexPermissions_notRegex.bind
  intro _ _
  apply (listed .registeredModel).bind
  intro _ _
  apply (grouped .registeredModel).bind
  intro _ _
  apply listRegexPermissions_notRegex.bind
  intro _ _
  apply listRegexPermissions_notRegex.bind
  intro _ _
  exact raisesOnly_ok _

theorem resolvePermissionFromContext_notRegex (config : AppConfig)
    (sourceMap : Source → Option String) :
    RaisesOnly Failure.NotRegex (resolvePermissionFromContext config sourceMap) := by
  unfold resolvePermissionFromContext
  split
  · exact raisesOnly_ok _
  · next failure walked =>
    obtain ⟨name,_,failed⟩ := reaches_of_failed walked
    unfold askContext at failed
    split at failed
    · cases failed
    · split at failed
      · cases failed
      · split at failed <;> cases failed
        next raised => exact raisesOnly_error (getPermission_notRegex _ raised)
  · exact getPermission_notRegex.bind (fun _ _ => raisesOnly_ok _)

theorem resolveFetched_notRegex {fetched : FetchedPermissions}
    (regexes : ∀ row ∈ fetched.regexPermissions, Compiles env.regex row.regex)
    (groupRegexes : ∀ row ∈ fetched.groupRegexPermissions, Compiles env.regex row.regex)
    (username resourceId name : String) (cache : Cache String Permission) :
    RaisesOnly Failure.NotRegex
      (resolveFetched env t context fetched username resourceId name cache).1 := by
  have mapped : RaisesOnly Failure.NotRegex (fetched.sourceMap env resourceId name) := by
    apply (findRegexPermission_notRegex regexes).bind
    intro _ _
    apply (findRegexPermission_notRegex groupRegexes).bind
    intro _ _
    exact raisesOnly_ok _
  have resolved := mapped.bind (fun sourceMap _ =>
    resolvePermissionFromContext_notRegex env.config sourceMap)
  unfold resolveFetched
  split
  · next failure raised => exact raisesOnly_error (resolved failure raised)
  · exact raisesOnly_ok _

theorem batchResolve_notRegex {Item : Type} {key : Item → String}
    {resolveItem : Item → Cache String Permission →
      Except Failure PermissionResult × Cache String Permission}
    (each : ∀ item cache, RaisesOnly Failure.NotRegex (resolveItem item cache).1)
    (items : List Item) (cache : Cache String Permission) :
    RaisesOnly Failure.NotRegex (batchResolve key resolveItem items cache).1 := by
  induction items generalizing cache with
  | nil => exact raisesOnly_ok _
  | cons item rest ih =>
    have first := each item cache
    unfold batchResolve
    split
    · next failure _ resolved =>
      rw [resolved] at first
      exact raisesOnly_error (first failure rfl)
    · next after _ =>
      have later := ih after
      split
      · next failure _ resolved =>
        rw [resolved] at later
        exact raisesOnly_error (later failure rfl)
      · exact raisesOnly_ok _

theorem batchResolvePermissions_notRegex (compile : PatternsCompile env.regex t) (kind : BatchKind)
    (username : String) (items : List BatchItem) (cache : Cache String Permission) :
    RaisesOnly Failure.NotRegex
      (kind.batchResolvePermissions env t context username items cache).1 := by
  cases built : buildUserPermissionContext t username with
  | error failure =>
    have plain := buildUserPermissionContext_notRegex username failure built
    cases kind <;>
      simp only [BatchKind.batchResolvePermissions,batchResolveExperimentPermissions,
        batchResolveModelPermissions,batchResolvePromptPermissions,withContext,built] <;>
      exact raisesOnly_error plain
  | ok ctx =>
    obtain ⟨user,known⟩ := buildUserPermissionContext_user built
    obtain ⟨_,_,_,listed,listedGroup⟩ := fetched_of_built known built kind
    have regexes : ∀ row ∈ (kind.fetched ctx).regexPermissions, Compiles env.regex row.regex := by
      intro row member
      exact compile.regex .user kind.family row (listRegexPermissions_stored listed row member)
    have groupRegexes : ∀ row ∈ (kind.fetched ctx).groupRegexPermissions,
        Compiles env.regex row.regex := by
      intro row member
      rw [← listedGroup] at member
      exact compile.regex .group kind.family row (listGroupRegexPermissions_stored row member)
    cases kind <;>
      simp only [BatchKind.batchResolvePermissions,batchResolveExperimentPermissions,
        batchResolveModelPermissions,batchResolvePromptPermissions,withContext,built] <;>
      exact batchResolve_notRegex (fun _ _ => resolveFetched_notRegex regexes groupRegexes _ _ _ _) _ _

end Bulk
end MlflowOidcAuth
