import MlflowOidcAuth.Batch.Agreement

/-! When the bulk and the single resolver agree: unless the walk gets to the group
source while the user's last group row for the item is not a highest one. -/
namespace MlflowOidcAuth
open OrderedSources KeyedCache

/-- No source listed before the groups grants the item. -/
def GroupSourceReached (env : Env) (t : Tables) (request : ResourceRequest) : Prop :=
  ∃ sources, permissionRegistry env t request = .ok sources ∧
    Reaches (askSource sources) env.config.permissionSourceOrder "group"

/-- Of the rows the user's groups hold for the item, none ranks above the last. -/
def LastGroupRowHighest (t : Tables) (kind : BatchKind) (username : String) (item : BatchItem) :
    Prop :=
  ∀ user last, t.getUser username = .ok user →
    (t.userGroupRows kind.family (BatchKind.resourceKey item) user).getLast? = some last →
    ∀ row ∈ t.userGroupRows kind.family (BatchKind.resourceKey item) user,
      row = last ∨ RanksAtMost row last

section Walks

theorem getPermissionFromStoreOrDefault_congr {config : AppConfig} {sources : SourcesConfig}
    {sourceMap : Source → Option String}
    (same : firstGrant (askSource sources) config.permissionSourceOrder =
      firstGrant (askContext sourceMap) config.permissionSourceOrder) :
    getPermissionFromStoreOrDefault config sources =
      resolvePermissionFromContext config sourceMap := by
  unfold getPermissionFromStoreOrDefault resolvePermissionFromContext
  cases walked : firstGrant (askContext sourceMap) config.permissionSourceOrder <;>
    simp only [same,walked]

/-- The level of a highest row is that of the last row exactly when no row ranks
above the last. -/
theorem level_eq_iff_last_highest {rows : List SqlPermission} {best last : SqlPermission}
    {bestLevel lastLevel : Permission} (chosen : best ∈ rows)
    (highest : ∀ row ∈ rows, row = best ∨ RanksAtMost row best)
    (final : rows.getLast? = some last)
    (okBest : getPermission best.permission = .ok bestLevel)
    (okLast : getPermission last.permission = .ok lastLevel) :
    lastLevel = bestLevel ↔ ∀ row ∈ rows, row = last ∨ RanksAtMost row last := by
  constructor
  · intro same
    subst same
    have below : RanksAtMost best last := ranksAtMost_iff.mpr ⟨_,_,okBest,okLast,le_refl _⟩
    intro row member
    rcases highest row member with rfl | ranks
    · exact .inr below
    · exact .inr (ranks.trans below)
  · intro last_highest
    have levels : ∀ {low high : SqlPermission} {a b : Permission},
        getPermission low.permission = .ok a → getPermission high.permission = .ok b →
        low = high ∨ RanksAtMost low high → a.priority ≤ b.priority := by
      intro low high a b okLow okHigh ranks
      rcases ranks with rfl | ranks
      · rw [okLow] at okHigh
        cases okHigh
        exact le_refl _
      · obtain ⟨a',b',okLow',okHigh',le⟩ := ranksAtMost_iff.mp ranks
        rw [okLow] at okLow'
        rw [okHigh] at okHigh'
        cases okLow'
        cases okHigh'
        exact le
    have up := levels okLast okBest (highest last (List.mem_of_getLast? final))
    have down := levels okBest okLast (last_highest best chosen)
    exact permission_of_priority (getPermission_eq_ok.mp okLast).1
      (getPermission_eq_ok.mp okBest).1 (le_antisymm up down)

section Answers
variable {sources : SourcesConfig} {sourceMap : Source → Option String} {name perm : String}
  {source : Source} {permission : Permission} {failure : Failure}
  (listed : Source.ofName? name = some source)
include listed

theorem askSource_granted (answers : sources source = .ok perm)
    (level : getPermission perm = .ok permission) :
    askSource sources name = .granted ⟨permission,.source source⟩ := by
  simp only [askSource,listed,answers,level]

theorem askSource_failed (answers : sources source = .ok perm)
    (unknown : getPermission perm = .error failure) : askSource sources name = .failed failure := by
  simp only [askSource,listed,answers,unknown]

theorem askContext_granted (answers : sourceMap source = some perm)
    (level : getPermission perm = .ok permission) :
    askContext sourceMap name = .granted ⟨permission,.source source⟩ := by
  simp only [askContext,listed,answers,level]

theorem askContext_failed (answers : sourceMap source = some perm)
    (unknown : getPermission perm = .error failure) : askContext sourceMap name = .failed failure := by
  simp only [askContext,listed,answers,unknown]

end Answers

section Results
variable {config : AppConfig} {sources : SourcesConfig} {sourceMap : Source → Option String}
  {name : String} {answer result : PermissionResult} {failure : Failure}

theorem singleWalk_granted (reached : Reaches (askSource sources) config.permissionSourceOrder name)
    (granted : askSource sources name = .granted answer)
    (walked : getPermissionFromStoreOrDefault config sources = .ok result) : result = answer := by
  rw [getPermissionFromStoreOrDefault,firstGrant_granted_iff.mpr ⟨reached,granted⟩] at walked
  exact (Except.ok.inj walked).symm

theorem singleWalk_failed (reached : Reaches (askSource sources) config.permissionSourceOrder name)
    (failed : askSource sources name = .failed failure) :
    getPermissionFromStoreOrDefault config sources ≠ .ok result := by
  rw [getPermissionFromStoreOrDefault,firstGrant_of_failed reached failed]
  simp

theorem bulkWalk_granted (reached : Reaches (askContext sourceMap) config.permissionSourceOrder name)
    (granted : askContext sourceMap name = .granted answer)
    (walked : resolvePermissionFromContext config sourceMap = .ok result) : result = answer := by
  rw [resolvePermissionFromContext,firstGrant_granted_iff.mpr ⟨reached,granted⟩] at walked
  exact (Except.ok.inj walked).symm

theorem bulkWalk_failed (reached : Reaches (askContext sourceMap) config.permissionSourceOrder name)
    (failed : askContext sourceMap name = .failed failure) :
    resolvePermissionFromContext config sourceMap ≠ .ok result := by
  rw [resolvePermissionFromContext,firstGrant_of_failed reached failed]
  simp

end Results

variable {env : Env} {db : Database} {username : String} {user : SqlUser} {kind : BatchKind}
  {item : BatchItem} {ctx : UserPermissionContext}

theorem groupSourceReached_iff {t : Tables} {request : ResourceRequest} {sources : SourcesConfig}
    (registered : permissionRegistry env t request = .ok sources) :
    GroupSourceReached env t request ↔
      Reaches (askSource sources) env.config.permissionSourceOrder "group" := by
  constructor
  · rintro ⟨other,registered',reached⟩
    rw [registered] at registered'
    cases registered'
    exact reached
  · intro reached
    exact ⟨sources,registered,reached⟩

theorem lastGroupRowHighest_iff (known : db.tables.getUser username = .ok user) :
    LastGroupRowHighest db.tables kind username item ↔
      ∀ last,
        (db.tables.userGroupRows kind.family (BatchKind.resourceKey item) user).getLast? = some last →
        ∀ row ∈ db.tables.userGroupRows kind.family (BatchKind.resourceKey item) user,
          row = last ∨ RanksAtMost row last := by
  constructor
  · intro highest last final
    exact highest user last known final
  · intro highest other last known' final
    rw [known] at known'
    cases known'
    exact highest last final

theorem sourceMap_group (known : db.tables.getUser username = .ok user)
    (built : buildUserPermissionContext db.tables username = .ok ctx)
    {sourceMap : Source → Option String}
    (mapped : (kind.fetched ctx).sourceMap env item.resourceId item.name = .ok sourceMap) :
    sourceMap .group = (db.tables.userGroupRows kind.family (BatchKind.resourceKey item)
      user).getLast?.map SqlPermission.permission := by
  obtain ⟨_,_,groupDict,_,_⟩ := fetched_of_built known built kind
  have bulkRows := dictGet_groupRows db kind item user
  rw [← groupDict] at bulkRows
  rw [← bulkRows]
  simp only [FetchedPermissions.sourceMap,bind,Except.bind,pure,Except.pure] at mapped
  split at mapped
  · cases mapped
  · split at mapped <;> cases mapped
    rfl

/-- At the level of the resource the two walks agree, or both take a group row and
agree exactly when the last one is a highest one. -/
theorem walks_compare (known : db.tables.getUser username = .ok user)
    (built : buildUserPermissionContext db.tables username = .ok ctx)
    (stored : kind.StoredName env item) {sourceMap : Source → Option String}
    (mapped : (kind.fetched ctx).sourceMap env item.resourceId item.name = .ok sourceMap)
    {bulk single : PermissionResult}
    (bulkWalk : resolvePermissionFromContext env.config sourceMap = .ok bulk)
    (singleWalk : resourcePermission env db.tables (kind.request username item) = .ok single) :
    (bulk = single ∧ (GroupSourceReached env db.tables (kind.request username item) →
        LastGroupRowHighest db.tables kind username item)) ∨
      (bulk.kind = .source .group ∧ single.kind = .source .group ∧
        GroupSourceReached env db.tables (kind.request username item) ∧
        (bulk.permission = single.permission ↔
          LastGroupRowHighest db.tables kind username item)) := by
  obtain ⟨label,registered⟩ := kind.registry username stored db.tables
  have others : ∀ name, name ≠ "group" → askSource (buildSources env db.tables kind.family
      kind.resourceType.isPrompt (BatchKind.resourceKey item) username label
      (db.tables.getUserGroupsPermission kind.family (BatchKind.resourceKey item) username)
      (.ok item.name)) name = askContext sourceMap name := by
    intro name notGroup
    refine askSource_of_mirrors fun source named => ?_
    refine mirrors_of_built known built mapped label _ ?_
    rintro rfl
    exact notGroup (Source.ofName?_name named)
  generalize sourcesAre : buildSources env db.tables kind.family kind.resourceType.isPrompt
    (BatchKind.resourceKey item) username label
    (db.tables.getUserGroupsPermission kind.family (BatchKind.resourceKey item) username)
    (.ok item.name) = sources at registered others
  have groupSource : sources .group = (do
      let row ← db.tables.getUserGroupsPermission kind.family (BatchKind.resourceKey item) username
      return row.permission) := by
    rw [← sourcesAre]
    rfl
  simp only [resourcePermission,registered,bind,Except.bind] at singleWalk
  have reached_iff := groupSourceReached_iff registered
  have groupMap := sourceMap_group known built mapped
  rw [lastGroupRowHighest_iff known]
  generalize userRows : db.tables.userGroupRows kind.family (BatchKind.resourceKey item) user =
    rows at groupMap ⊢
  have isGroup : Source.ofName? "group" = some .group := rfl
  -- the two walks differ at most in what they are told about the groups
  have agree_of_same : firstGrant (askSource sources) env.config.permissionSourceOrder =
      firstGrant (askContext sourceMap) env.config.permissionSourceOrder → bulk = single := by
    intro same
    rw [getPermissionFromStoreOrDefault_congr same,bulkWalk] at singleWalk
    exact Except.ok.inj singleWalk
  by_cases reached : Reaches (askSource sources) env.config.permissionSourceOrder "group"
  · rcases getUserGroupsPermission_spec db known kind.family (BatchKind.resourceKey item) with
      ⟨best,found,chosen,highest⟩ | ⟨empty,failure,found,missing⟩ | ⟨failure,found,raised⟩
    · -- a best row exists: both walks stop at the groups
      rw [userRows] at chosen highest
      obtain ⟨last,final⟩ : ∃ last, rows.getLast? = some last :=
        ⟨_,List.getLast?_eq_some_getLast (List.ne_nil_of_mem chosen)⟩
      have tellsSingle : sources .group = .ok best.permission := by
        rw [groupSource,found]
        rfl
      have tellsBulk : sourceMap .group = some last.permission := by
        rw [groupMap,final]
        rfl
      cases okBest : getPermission best.permission with
      | error failure =>
        exact absurd singleWalk (singleWalk_failed reached (askSource_failed isGroup tellsSingle okBest))
      | ok bestLevel =>
        have asked := askSource_granted isGroup tellsSingle okBest
        have single_is := singleWalk_granted reached asked singleWalk
        have reached' := reaches_congr others (by simp [asked]) reached
        cases okLast : getPermission last.permission with
        | error failure =>
          exact absurd bulkWalk (bulkWalk_failed reached' (askContext_failed isGroup tellsBulk okLast))
        | ok lastLevel =>
          have bulk_is := bulkWalk_granted reached' (askContext_granted isGroup tellsBulk okLast) bulkWalk
          subst bulk_is single_is
          refine .inr ⟨rfl,rfl,reached_iff.mpr reached,?_⟩
          rw [level_eq_iff_last_highest chosen highest final okBest okLast]
          constructor
          · intro highest_last other final'
            rw [final] at final'
            cases final'
            exact highest_last
          · intro highest_last
            exact highest_last last final
    · -- no group row: the groups report absence to both
      rw [userRows] at empty
      refine .inl ⟨agree_of_same ?_,fun _ => by simp [empty]⟩
      have group : askSource sources "group" = askContext sourceMap "group" := by
        have none_last : sourceMap .group = none := by
          rw [groupMap,empty]
          rfl
        simp only [askSource,askContext,Source.ofName?,none_last,groupSource,found,bind,
          Except.bind,missing,if_true]
      refine firstGrant_congr fun name _ => ?_
      by_cases named : name = "group"
      · rw [named,group]
      · exact others name named
    · -- another exception of the group source ends the single walk
      have asked : askSource sources "group" = .failed failure := by
        simp only [askSource,Source.ofName?,groupSource,found,bind,Except.bind,raised]
        rfl
      exact absurd singleWalk (singleWalk_failed reached asked)
  · refine .inl ⟨agree_of_same (firstGrant_congr_of_unreached others reached),?_⟩
    intro isReached
    exact absurd (reached_iff.mp isReached) reached

end Walks

section Fallback
variable {env : Env} {t : Tables} {context : RequestContext} {username : String}

theorem getWorkspacePermissionCached_again (username workspace : String)
    (cache : Cache String Permission) :
    (getWorkspacePermissionCached env t username workspace
        (getWorkspacePermissionCached env t username workspace cache).2).1 =
      (getWorkspacePermissionCached env t username workspace cache).1 := by
  by_cases enabled : env.config.mlflowEnableWorkspaces = true
  · cases hit : cache.get (workspaceCacheKey username workspace) with
    | some cached => simp [getWorkspacePermissionCached,enabled,hit]
    | none =>
      cases found : lookupWorkspacePermission env t username workspace <;>
        simp [getWorkspacePermissionCached,enabled,hit,found]
  · simp [getWorkspacePermissionCached,enabled]

/-- The workspace cache still answers this user in this request's workspace as it did
when the batch started. -/
def AnswersAlike (env : Env) (t : Tables) (context : RequestContext) (username : String)
    (start cache : Cache String Permission) : Prop :=
  ∀ workspace, truthy context.mlflowWorkspace = some workspace →
    (getWorkspacePermissionCached env t username workspace cache).1 =
      (getWorkspacePermissionCached env t username workspace start).1

theorem applyWorkspaceFallback_alike {start cache : Cache String Permission}
    (alike : AnswersAlike env t context username start cache) (result : PermissionResult) :
    (applyWorkspaceFallback env t context result username cache).1 =
        (applyWorkspaceFallback env t context result username start).1 ∧
      AnswersAlike env t context username start
        (applyWorkspaceFallback env t context result username cache).2 := by
  unfold applyWorkspaceFallback
  cases falls : batchWorkspace env context result with
  | none => exact ⟨rfl,alike⟩
  | some workspace =>
    have named : truthy context.mlflowWorkspace = some workspace := by
      unfold batchWorkspace at falls
      split at falls
      · exact falls
      · cases falls
    refine ⟨by simp only [alike workspace named],fun other named' => ?_⟩
    rw [named] at named'
    cases named'
    exact (getWorkspacePermissionCached_again username workspace cache).trans (alike workspace named)

theorem applyWorkspaceFallback_eq (sameWorkspace : truthy context.mlflowWorkspace =
      truthy (getRequestWorkspace context)) (result : PermissionResult)
    (cache : Cache String Permission) :
    (applyWorkspaceFallback env t context result username cache).1 =
      match fallbackWorkspace env context result with
      | none => result
      | some workspace =>
        workspaceResult (getWorkspacePermissionCached env t username workspace cache).1 := by
  have same : batchWorkspace env context result = fallbackWorkspace env context result := by
    simp only [batchWorkspace,fallbackWorkspace,sameWorkspace]
  unfold applyWorkspaceFallback
  rw [same]
  cases fallbackWorkspace env context result <;> rfl

theorem applyWorkspaceFallback_of_source {result : PermissionResult} {source : Source}
    (granted : result.kind = .source source) (cache : Cache String Permission) :
    (applyWorkspaceFallback env t context result username cache).1 = result := by
  simp [applyWorkspaceFallback,batchWorkspace,granted]

theorem resolveFetched_keeps {start cache : Cache String Permission}
    (alike : AnswersAlike env t context username start cache) (fetched : FetchedPermissions)
    (resourceId name : String) :
    AnswersAlike env t context username start
      (resolveFetched env t context fetched username resourceId name cache).2 := by
  unfold resolveFetched
  split
  · exact alike
  · exact (applyWorkspaceFallback_alike alike _).2

end Fallback

section Item
variable {env : Env} {db : Database} {context : RequestContext} {username : String}
  {kind : BatchKind} {item : BatchItem} {ctx : UserPermissionContext} {caches : Caches}

/-- The bulk answer for one item against the single resolver on a cache miss. -/
theorem resolveFetched_agrees_iff
    (built : buildUserPermissionContext db.tables username = .ok ctx)
    (stored : kind.StoredName env item)
    (sameWorkspace : truthy context.mlflowWorkspace = truthy (getRequestWorkspace context))
    {cache : Cache String Permission}
    (alike : AnswersAlike env db.tables context username caches.workspace cache)
    {bulk single : PermissionResult}
    (bulkAnswer : (resolveFetched env db.tables context (kind.fetched ctx) username
      item.resourceId item.name cache).1 = .ok bulk)
    (miss : caches.permission.get (kind.request username item).cacheKey = none)
    (singleAnswer : (resolvePermission env db.tables context (kind.request username item) caches).1 =
      .ok single) :
    bulk.permission = single.permission ↔
      (GroupSourceReached env db.tables (kind.request username item) →
        LastGroupRowHighest db.tables kind username item) := by
  obtain ⟨user,known⟩ := buildUserPermissionContext_user built
  cases mapped : (kind.fetched ctx).sourceMap env item.resourceId item.name with
  | error failure => simp [resolveFetched,mapped,bind,Except.bind] at bulkAnswer
  | ok sourceMap =>
    cases bulkWalk : resolvePermissionFromContext env.config sourceMap with
    | error failure => simp [resolveFetched,mapped,bulkWalk,bind,Except.bind] at bulkAnswer
    | ok bulkResult =>
      simp only [resolveFetched,mapped,bulkWalk,bind,Except.bind,Except.ok.injEq] at bulkAnswer
      rw [(applyWorkspaceFallback_alike alike bulkResult).1] at bulkAnswer
      simp only [resolvePermission,miss,resolveMiss] at singleAnswer
      cases singleWalk : resourcePermission env db.tables (kind.request username item) with
      | error failure => simp [singleWalk] at singleAnswer
      | ok singleResult =>
        have final : single = (applyWorkspaceFallback env db.tables context singleResult username
            caches.workspace).1 := by
          rw [applyWorkspaceFallback_eq sameWorkspace]
          simp only [singleWalk] at singleAnswer
          cases falls : fallbackWorkspace env context singleResult with
          | none =>
            simp only [falls,Except.ok.injEq] at singleAnswer
            exact singleAnswer.symm
          | some workspace =>
            simp only [falls,Except.ok.injEq] at singleAnswer
            exact singleAnswer.symm
        rcases walks_compare known built stored mapped bulkWalk singleWalk with
          ⟨rfl,highest⟩ | ⟨bulkKind,singleKind,reached,agree⟩
        · rw [final,← bulkAnswer]
          exact ⟨fun _ => highest,fun _ => rfl⟩
        · rw [applyWorkspaceFallback_of_source bulkKind] at bulkAnswer
          rw [applyWorkspaceFallback_of_source singleKind] at final
          rw [final,← bulkAnswer,agree]
          exact ⟨fun highest _ => highest,fun highest => highest reached⟩

end Item

theorem mem_batchResolve {Item : Type*} {key : Item → String}
    {resolveItem : Item → Cache String Permission →
      Except Failure PermissionResult × Cache String Permission}
    (Inv : Cache String Permission → Prop)
    (keeps : ∀ item cache, Inv cache → Inv (resolveItem item cache).2)
    {items : List Item} {cache : Cache String Permission} (start : Inv cache)
    {entries : List (String × PermissionResult)}
    (batch : (batchResolve key resolveItem items cache).1 = .ok entries)
    {entry : String × PermissionResult} (member : entry ∈ entries) :
    ∃ item ∈ items, key item = entry.1 ∧
      ∃ before, Inv before ∧ (resolveItem item before).1 = .ok entry.2 := by
  induction items generalizing cache entries with
  | nil =>
    cases batch
    cases member
  | cons item rest ih =>
    rcases resolved : resolveItem item cache with ⟨answer,after⟩
    cases answer with
    | error failure => simp [batchResolve,resolved] at batch
    | ok result =>
      rcases tail : batchResolve key resolveItem rest after with ⟨others,last⟩
      cases others with
      | error failure => simp [batchResolve,resolved,tail] at batch
      | ok others =>
        simp only [batchResolve,resolved,tail,Except.ok.injEq] at batch
        subst batch
        rcases List.mem_cons.mp member with rfl | later
        · exact ⟨item,List.mem_cons_self,rfl,cache,start,by rw [resolved]⟩
        · have kept : Inv after := by
            have := keeps item cache start
            rwa [resolved] at this
          obtain ⟨found,listed,sameKey,before,held,answered⟩ := ih kept (by rw [tail]) later
          exact ⟨found,List.mem_cons_of_mem _ listed,sameKey,before,held,answered⟩

theorem mem_of_dictGet {Key Value : Type*} [DecidableEq Key] {pairs : List (Key × Value)}
    {key : Key} {value : Value} (found : dictGet pairs key = some value) : (key,value) ∈ pairs := by
  simp only [dictGet,Option.map_eq_some_iff] at found
  obtain ⟨⟨other,held⟩,last,rfl⟩ := found
  have member := List.mem_filter.mp (List.mem_of_getLast? last)
  have same : other = key := by simpa using member.2
  exact same ▸ member.1

namespace BatchKind

/-- What a batch keys its entries by. -/
def itemKey (kind : BatchKind) (item : BatchItem) : String :=
  match kind with
  | .experiment => item.resourceId
  | _ => item.name

/-- The three batches are one loop over the permissions fetched for their kind. -/
theorem batch_of_built {kind : BatchKind} {env : Env} {t : Tables} {context : RequestContext}
    {username : String} {ctx : UserPermissionContext}
    (built : buildUserPermissionContext t username = .ok ctx) (items : List BatchItem)
    (cache : Cache String Permission) :
    kind.batchResolvePermissions env t context username items cache =
      batchResolve kind.itemKey (fun item => resolveFetched env t context (kind.fetched ctx) username
        (kind.itemKey item) item.name) items cache := by
  have owner : ctx.username = username := by
    obtain ⟨user,known⟩ := buildUserPermissionContext_user built
    exact (fetched_of_built known built kind).1
  subst owner
  cases kind <;>
    simp only [batchResolvePermissions,batchResolveExperimentPermissions,
      batchResolveModelPermissions,batchResolvePromptPermissions,withContext,built] <;> rfl

theorem itemKey_of_stored {kind : BatchKind} {env : Env} {item : BatchItem}
    (stored : kind.StoredName env item) : kind.itemKey item = item.resourceId := by
  cases kind with
  | experiment => rfl
  | model => exact Eq.symm stored
  | prompt => exact Eq.symm stored

theorem name_of_stored {kind : BatchKind} {env : Env} {first second : BatchItem}
    (stored : kind.StoredName env first) (stored' : kind.StoredName env second)
    (same : first.resourceId = second.resourceId) : first.name = second.name := by
  cases kind with
  | experiment =>
    simp only [StoredName] at stored stored'
    rw [same,stored'] at stored
    exact (Except.ok.inj stored).symm
  | model => exact stored.symm.trans (same.trans stored')
  | prompt => exact stored.symm.trans (same.trans stored')

/-- An entry of a bulk resolution is the answer for its item, on a workspace cache
that answers as it did at the start. -/
theorem entry_of_batch {kind : BatchKind} {env : Env} {t : Tables}
    {context : RequestContext} {username : String} {items : List BatchItem}
    {cache : Cache String Permission} {entries : List (String × PermissionResult)}
    (stored : ∀ item ∈ items, kind.StoredName env item)
    (batch : (kind.batchResolvePermissions env t context username items cache).1 = .ok entries)
    {item : BatchItem} (listed : item ∈ items) {bulk : PermissionResult}
    (entry : dictGet entries item.resourceId = some bulk) :
    ∃ ctx before, buildUserPermissionContext t username = .ok ctx ∧
      AnswersAlike env t context username cache before ∧
      (resolveFetched env t context (kind.fetched ctx) username item.resourceId item.name
        before).1 = .ok bulk := by
  cases built : buildUserPermissionContext t username with
  | error failure =>
    cases kind <;> simp [batchResolvePermissions,batchResolveExperimentPermissions,
      batchResolveModelPermissions,batchResolvePromptPermissions,withContext,built] at batch
  | ok ctx =>
    have alike : AnswersAlike env t context username cache cache := fun _ _ => rfl
    rw [batch_of_built built] at batch
    obtain ⟨found,listed',sameKey,before,held,answered⟩ := mem_batchResolve
      (AnswersAlike env t context username cache)
      (fun item _ held => resolveFetched_keeps held (kind.fetched ctx) (kind.itemKey item) item.name)
      alike batch (mem_of_dictGet entry)
    have sameId : found.resourceId = item.resourceId :=
      (itemKey_of_stored (stored found listed')).symm.trans sameKey
    refine ⟨ctx,before,rfl,held,?_⟩
    rw [itemKey_of_stored (stored found listed'),sameId,
      name_of_stored (stored found listed') (stored item listed) sameId] at answered
    exact answered

end BatchKind

/-- For every store, user, source order and list of stored items, the bulk entry of an
item has the permission of the single resolver exactly when the walk does not get to
the groups or the last of the user's group rows is a highest one. -/
theorem batch_agrees_iff (env : Env) (db : Database) (kind : BatchKind) (username : String)
    (items : List BatchItem) (context : RequestContext) (caches : Caches)
    (stored : ∀ item ∈ items, kind.StoredName env item)
    (sameWorkspace : truthy context.mlflowWorkspace = truthy (getRequestWorkspace context))
    (entries : List (String × PermissionResult))
    (batch : (kind.batchResolvePermissions env db.tables context username items
      caches.workspace).1 = .ok entries)
    (item : BatchItem) (listed : item ∈ items) (bulk single : PermissionResult)
    (entry : dictGet entries item.resourceId = some bulk)
    (miss : caches.permission.get (kind.request username item).cacheKey = none)
    (resolved : (resolvePermission env db.tables context (kind.request username item) caches).1 =
      .ok single) :
    bulk.permission = single.permission ↔
      (GroupSourceReached env db.tables (kind.request username item) →
        LastGroupRowHighest db.tables kind username item) := by
  obtain ⟨ctx,before,built,alike,answered⟩ := kind.entry_of_batch stored batch listed entry
  exact resolveFetched_agrees_iff built (stored item listed) sameWorkspace alike answered miss resolved

section Divergence

def groupsEnv : Env := ⟨.default,.literal,fun _ => .ok "churn"⟩

/-- Alice is in two groups; the one listed last may only read the experiment. -/
def groupsDatabase : Database where
  tables := { Tables.empty with
    users := [⟨1,"alice","Alice","",none,false,false⟩]
    groups := [⟨1,"admins"⟩,⟨2,"readers"⟩]
    userGroups := [⟨1,1,1⟩,⟨2,1,2⟩]
    groupPermissions := fun
      | .experiment => [⟨1,⟨"7",none⟩,1,"MANAGE",false⟩,⟨2,⟨"7",none⟩,2,"READ",false⟩,
          ⟨3,⟨"8",none⟩,1,"READ",false⟩,⟨4,⟨"8",none⟩,2,"EDIT",false⟩]
      | _ => [] }
  integrity := by decide

def noWorkspace : RequestContext := ⟨none,none⟩

/-- The single resolver takes the highest group row, the bulk one the last. -/
theorem batch_last_row_wins :
    (BatchKind.experiment.batchResolvePermissions groupsEnv groupsDatabase.tables noWorkspace
        "alice" [⟨"7","churn"⟩] .empty).1 = .ok [("7",⟨.read,.source .group⟩)] ∧
      (resolvePermission groupsEnv groupsDatabase.tables noWorkspace
        (BatchKind.experiment.request "alice" ⟨"7","churn"⟩) .empty).1 =
          .ok ⟨.manage,.source .group⟩ ∧
      Permission.read ≠ Permission.manage := by
  decide

theorem batch_agrees_iff_eight :
    LastGroupRowHighest groupsDatabase.tables .experiment "alice" ⟨"8","churn"⟩ :=
  (batch_agrees_iff groupsEnv groupsDatabase .experiment "alice" [⟨"8","churn"⟩] noWorkspace .empty
    (by simp [BatchKind.StoredName,groupsEnv]) rfl [("8",⟨.edit,.source .group⟩)] (by decide)
    ⟨"8","churn"⟩ (by simp) ⟨.edit,.source .group⟩ ⟨.edit,.source .group⟩ (by decide) rfl
    (by decide)).mp rfl ⟨_,rfl,["user"],["regex","group-regex"],rfl,by decide⟩

end Divergence
end MlflowOidcAuth
