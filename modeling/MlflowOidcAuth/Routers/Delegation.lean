import MlflowOidcAuth.Resolution.CacheKeys
import MlflowOidcAuth.Routers.WriteEndpoints

/-! Runs of the permission endpoints. A request whose guard lets it through writes at some later
moment, and in between others are guarded, answered and written. -/
namespace MlflowOidcAuth
open KeyedCache OrderedSources Effects

structure DelegationState where
  db : Database
  cached : TracedCaches
  admitted : List WriteRequest

inductive DelegationEvent
  | submit (mlflowWorkspace : Option String) (request : WriteRequest)
  /-- An admitted request gets to its call of the store. -/
  | perform (index : Nat)
  /-- A permission is resolved for some other request. -/
  | look (resolution : Resolution)
  | evict (key : String)
  | evictWorkspace (key : String)

namespace DelegationEvent

/-- The resolution that an event may make; a dependency runs outside of Flask. -/
def resolution : DelegationEvent → Option Resolution
  | submit mlflowWorkspace request => request.asked.map (Resolution.mk ⟨none,mlflowWorkspace⟩)
  | look resolution => some resolution
  | _ => none

end DelegationEvent

def delegationStep (env : StoreEnv) (state : DelegationState) :
    DelegationEvent → Option (Except Refusal Unit) × DelegationState
  | .submit mlflowWorkspace request =>
    match checkWrite env.resolution state.db.tables ⟨none,mlflowWorkspace⟩ request state.cached with
    | (.ok _,cached) => (some (.ok ()),⟨state.db,cached,state.admitted ++ [request]⟩)
    | (.error refusal,cached) => (some (.error refusal),⟨state.db,cached,state.admitted⟩)
  | .perform index =>
    match state.admitted[index]? with
    | none => (none,state)
    | some request =>
      let (db,cached) :=
        callMethod env request.endpoint.method request.args state.db state.cached
      (none,⟨db,cached,state.admitted.eraseIdx index⟩)
  | .look resolution =>
    (none,{ state with
      cached := (state.cached.ask env.resolution state.db.tables resolution).2 })
  | .evict key => (none,{ state with cached := state.cached.evict key })
  | .evictWorkspace key => (none,{ state with cached := state.cached.evictWorkspace key })

section Caches
variable {env : Env} {t : Tables} {liveWorkspace : String × String → Prop} {cached : TracedCaches}

/-- An answer is the fresh one of the question itself or of the one that filled its entry. -/
theorem ask_answered (sound : cached.Sound env t liveWorkspace)
    (separate : WorkspaceKeysSeparate liveWorkspace) {resolution : Resolution}
    (asked : MayLookUp liveWorkspace resolution) {result : PermissionResult}
    (answered : (cached.ask env t resolution).1 = .ok result) :
    ∃ holder, (holder = resolution ∨ cached.origin.get resolution.cacheKey = some holder) ∧
      holder.fresh env t = .ok result := by
  rw [TracedCaches.ask_answer,Resolution.resolve,resolvePermission] at answered
  cases hit : cached.caches.permission.get resolution.request.cacheKey with
  | some known =>
    simp only [hit,Except.ok.injEq] at answered
    obtain ⟨holder,filled,sameKey,_⟩ := sound.permission _ _ hit
    have sameKey : holder.cacheKey = resolution.cacheKey := sameKey
    have held : cached.Holds holder known := by
      refine ⟨filled,?_⟩
      rw [sameKey]
      exact hit
    rw [Filled,sameKey] at filled
    exact ⟨holder,.inr filled,answered ▸ sound.holds held⟩
  | none =>
    have miss := (resolveMiss_fresh separate resolution asked sound.workspace).1
    simp only [hit] at answered
    rcases computed : resolveMiss env t resolution.context resolution.request
      cached.caches.workspace with ⟨answer,cache⟩
    rw [computed] at miss answered
    cases answer with
    | error failure => cases answered
    | ok known =>
      cases answered
      exact ⟨resolution,.inl rfl,miss.symm⟩

end Caches

section Guards
variable {env : Env} {t : Tables} {context : RequestContext} {request : WriteRequest}
  {cached : TracedCaches}

theorem checkWrite_caches : (checkWrite env t context request cached).2 = cached ∨
    ∃ question, request.asked = some question ∧
      (checkWrite env t context request cached).2 = (cached.ask env t ⟨context,question⟩).2 := by
  unfold checkWrite
  split
  · exact .inl rfl
  · exact .inl rfl
  · exact .inl rfl
  · next question _ asked =>
    refine .inr ⟨question,asked,?_⟩
    split
    · next answered => rw [answered]
    · next answered =>
      rw [answered]
      split <;> rfl

theorem checkWrite_ok (admitted : (checkWrite env t context request cached).1 = .ok ()) :
    t.getIsAdmin request.caller = .ok true ∨ ∃ question result, request.asked = some question ∧
      (cached.ask env t ⟨context,question⟩).1 = .ok result ∧
      result.permission.canManage = true := by
  unfold checkWrite at admitted
  split at admitted
  · next _ admin => exact .inl admin
  · cases admitted
  · cases admitted
  · next question _ asked =>
    split at admitted
    · cases admitted
    · next result _ answered =>
      split at admitted
      · next manages => exact .inr ⟨question,result,asked,by rw [answered],manages⟩
      · cases admitted

end Guards

section Sound
variable {env : StoreEnv} {asked : Resolution → Prop}

/-- The caches are sound, and their entries were filled by resolutions of the run. -/
structure CachesFilled (env : StoreEnv) (asked : Resolution → Prop) (state : DelegationState) :
    Prop where
  sound : state.cached.Sound env.resolution state.db.tables PlainLookup
  filled : ∀ key holder, state.cached.origin.get key = some holder →
    holder.cacheKey = key ∧ asked holder

theorem endpoint_spares (env : StoreEnv) (db : Database) (cached : TracedCaches)
    (endpoint : WriteEndpoint) (args : Arguments) :
    Spares env db cached (endpoint.method.operation args) := by
  cases endpoint <;> trivial

theorem callMethod_origin {method : StoreMethod} {args : Arguments} {db : Database}
    {cached : TracedCaches} {key : String} {holder : Resolution}
    (found : (callMethod env method args db cached).2.origin.get key = some holder) :
    cached.origin.get key = some holder := by
  unfold callMethod at found
  split at found
  · split at found
    · cases found
    · exact found
  · exact found

theorem filled_ask {state : DelegationState} (filled : CachesFilled env asked state)
    {resolution : Resolution} (plain : ':' ∉ resolution.request.username.toList)
    (now : asked resolution) :
    CachesFilled env asked { state with
      cached := (state.cached.ask env.resolution state.db.tables resolution).2 } := by
  refine ⟨filled.sound.ask_sound plainLookups_separate resolution (fun _ _ => plain),?_⟩
  intro key holder found
  rcases ask_origin state.cached resolution found with earlier | ⟨rfl,rfl⟩
  · exact filled.filled key holder earlier
  · exact ⟨rfl,now⟩

/-- The step lemma of the caches: a write flushes them, and a resolution fills its own entry. -/
theorem filled_step {state : DelegationState} (filled : CachesFilled env asked state)
    {event : DelegationEvent}
    (allowed : ∀ resolution, event.resolution = some resolution →
      ':' ∉ resolution.request.username.toList ∧ asked resolution) :
    CachesFilled env asked (delegationStep env state event).2 := by
  cases event with
  | submit mlflowWorkspace request =>
    have kept : CachesFilled env asked { state with
        cached := (checkWrite env.resolution state.db.tables ⟨none,mlflowWorkspace⟩ request
          state.cached).2 } := by
      have either : (checkWrite env.resolution state.db.tables ⟨none,mlflowWorkspace⟩ request
          state.cached).2 = state.cached ∨ ∃ question, request.asked = some question ∧
            (checkWrite env.resolution state.db.tables ⟨none,mlflowWorkspace⟩ request
              state.cached).2 = (state.cached.ask env.resolution state.db.tables
                ⟨⟨none,mlflowWorkspace⟩,question⟩).2 := checkWrite_caches
      rcases either with same | ⟨question,named,answered⟩
      · rw [same]
        exact filled
      · rw [answered]
        obtain ⟨plain,now⟩ := allowed ⟨⟨none,mlflowWorkspace⟩,question⟩
          (by simp [DelegationEvent.resolution,named])
        exact filled_ask filled plain now
    simp only [delegationStep]
    split
    · next cached checked =>
      rw [checked] at kept
      exact ⟨kept.sound,kept.filled⟩
    · next refusal cached checked =>
      rw [checked] at kept
      exact ⟨kept.sound,kept.filled⟩
  | perform index =>
    simp only [delegationStep]
    split
    · exact filled
    · next request _ =>
      refine ⟨callMethod_sound (endpoint_spares ..) filled.sound,?_⟩
      intro key holder found
      exact filled.filled key holder (callMethod_origin found)
  | look resolution =>
    obtain ⟨plain,now⟩ := allowed resolution rfl
    exact filled_ask filled plain now
  | evict removed =>
    refine ⟨filled.sound.evict removed,?_⟩
    intro key holder found
    exact filled.filled key holder (delete_origin state.cached.origin removed found)
  | evictWorkspace removed => exact ⟨filled.sound.evictWorkspace removed,filled.filled⟩

theorem filler_lookup {holder resolution : Resolution}
    (plain : ':' ∉ holder.request.username.toList)
    (plain' : ':' ∉ resolution.request.username.toList)
    (sameKey : holder.cacheKey = resolution.cacheKey) :
    holder.request.lookup = resolution.request.lookup := by
  have keys : holder.request.lookup.key = resolution.request.lookup.key := sameKey
  rcases permissionKey_iff.mp keys with same | overlaps | overlaps
  · exact same
  · exact absurd overlaps (request_apart_of_plain plain _)
  · exact absurd overlaps (request_apart_of_plain plain' _)

/-- The step lemma of the guards. -/
theorem admitted_manages {state : DelegationState} (filled : CachesFilled env asked state)
    (plain : ∀ resolution, asked resolution → ':' ∉ resolution.request.username.toList)
    {context : RequestContext} {request : WriteRequest}
    (own : ∀ question, request.asked = some question → asked ⟨context,question⟩)
    (admitted : (checkWrite env.resolution state.db.tables context request state.cached).1 =
      .ok ()) :
    state.db.tables.getIsAdmin request.caller = .ok true ∨
      ∃ question resolution result, request.asked = some question ∧ asked resolution ∧
        resolution.request.lookup = question.lookup ∧
        resolution.fresh env.resolution state.db.tables = .ok result ∧
        result.permission.canManage = true := by
  rcases checkWrite_ok admitted with admin | ⟨question,result,named,granted,manages⟩
  · exact .inl admin
  · have now := own question named
    obtain ⟨holder,filler,fresh⟩ := ask_answered filled.sound plainLookups_separate
      (fun _ _ => plain _ now) granted
    rcases filler with rfl | entry
    · exact .inr ⟨question,_,result,named,now,rfl,fresh,manages⟩
    · obtain ⟨sameKey,earlier⟩ := filled.filled _ _ entry
      have same := filler_lookup (plain _ earlier) (plain _ now) sameKey
      exact .inr ⟨question,holder,result,named,earlier,same,fresh,manages⟩

theorem filled_empty (db : Database) : CachesFilled env asked ⟨db,.empty,[]⟩ := by
  refine ⟨TracedCaches.sound_empty,?_⟩
  intro key holder found
  cases found

end Sound

section Runs
variable {env : StoreEnv} {db : Database} {events : List DelegationEvent}

/-- No name that a resolution of the run asks for holds a colon. -/
def PlainNames (events : List DelegationEvent) : Prop :=
  ∀ event ∈ events, ∀ resolution, event.resolution = some resolution →
    ':' ∉ resolution.request.username.toList

/-- A resolution that the run makes. -/
def AskedIn (events : List DelegationEvent) (resolution : Resolution) : Prop :=
  ∃ event ∈ events, event.resolution = some resolution

theorem asked_plain (plain : PlainNames events) (resolution : Resolution)
    (asked : AskedIn events resolution) : ':' ∉ resolution.request.username.toList := by
  obtain ⟨event,listed,named⟩ := asked
  exact plain event listed resolution named

theorem filled_run (env : StoreEnv) (db : Database) (plain : PlainNames events) :
    (∀ moment ∈ Run.moments (delegationStep env) ⟨db,.empty,[]⟩ events,
        CachesFilled env (AskedIn events) moment.before) ∧
      CachesFilled env (AskedIn events) (Run.final (delegationStep env) ⟨db,.empty,[]⟩ events) := by
  have keeps : ∀ state event, CachesFilled env (AskedIn events) state → event ∈ events →
      CachesFilled env (AskedIn events) (delegationStep env state event).2 := by
    intro state event filled listed
    apply filled_step filled
    intro resolution named
    exact ⟨plain event listed resolution named,event,listed,named⟩
  apply Run.invariant_of_moments keeps (filled_empty db)
  intro moment member
  exact Run.event_of_moment _ member

/-- Whoever a guard lets through is an administrator, or manages the resource at that moment: so
says the database itself, to a resolution of the run about that resource and caller. -/
theorem submitted_manages (plain : PlainNames events) :
    ∀ moment ∈ Run.moments (delegationStep env) ⟨db,.empty,[]⟩ events,
      ∀ mlflowWorkspace request, moment.event = .submit mlflowWorkspace request →
        moment.answer = some (.ok ()) →
        moment.before.db.tables.getIsAdmin request.caller = .ok true ∨
          ∃ question resolution result, request.asked = some question ∧
            AskedIn events resolution ∧ resolution.request.lookup = question.lookup ∧
            resolution.fresh env.resolution moment.before.db.tables = .ok result ∧
            result.permission.canManage = true := by
  intro moment member mlflowWorkspace request submitted answered
  have filled := (filled_run env db plain).1 moment member
  have listed := Run.event_of_moment _ member
  rw [Run.answer_of_moment _ member,submitted] at answered
  have admitted : (checkWrite env.resolution moment.before.db.tables ⟨none,mlflowWorkspace⟩ request
      moment.before.cached).1 = .ok () := by
    simp only [delegationStep] at answered
    split at answered
    · next checked => rw [checked]
    · cases answered
  apply admitted_manages filled (asked_plain plain) _ admitted
  intro question named
  exact ⟨moment.event,listed,by simp [submitted,DelegationEvent.resolution,named]⟩

end Runs

/-- Alice submits a grant to Bob. -/
def aliceGrants (experimentId : String) : DelegationEvent :=
  .submit none ⟨.createUserExperimentPermission,"alice",
    { experimentId := experimentId, username := "bob", permission := "MANAGE" }⟩

theorem plain_aliceGrants : PlainNames [aliceGrants "1",aliceGrants "2",.perform 0] := by
  intro event listed resolution named
  simp only [List.mem_cons,List.not_mem_nil,or_false] at listed
  rcases listed with rfl | rfl | rfl
  · cases named
    decide
  · cases named
    decide
  · cases named

/-- The store that Alice's requests meet. -/
def aliceStart : DelegationState := ⟨experimentDatabase,.empty,[]⟩

theorem submitted_manages_alice :
    (delegationStep strictEnv aliceStart (aliceGrants "1")).1 = some (.ok ()) ∧
      (experimentDatabase.tables.getIsAdmin "alice" = .ok true ∨
        ∃ question resolution result, (WriteRequest.mk .createUserExperimentPermission "alice"
            { experimentId := "1", username := "bob", permission := "MANAGE" }).asked = some question ∧
          AskedIn [aliceGrants "1",aliceGrants "2",.perform 0] resolution ∧
          resolution.request.lookup = question.lookup ∧
          resolution.fresh strictEnv.resolution experimentDatabase.tables = .ok result ∧
          result.permission.canManage = true) := by
  have admitted : (delegationStep strictEnv aliceStart (aliceGrants "1")).1 = some (.ok ()) := by
    decide
  refine ⟨admitted,?_⟩
  have managed := @submitted_manages strictEnv experimentDatabase _ plain_aliceGrants
    ⟨aliceStart,aliceGrants "1",_⟩ List.mem_cons_self
  exact managed none _ rfl admitted

/-- What a manager may delegate: an experiment with its scorers, or a name of registered models
and prompts. -/
inductive Target
  | experiment (experimentId : String)
  | model (name : String)
deriving DecidableEq, Repr

namespace Target

/-- The direct grants that a manager of the target may write. -/
def covers : Target → Family → ResourceKey → Bool
  | experiment experimentId,family,key =>
    decide (family = .experiment ∨ family = .scorer) && decide (key.resourceId = experimentId)
  | model name,family,key => decide (family = .registeredModel) && decide (key.resourceId = name)

/-- The requests whose answer decides who manages the target. -/
def guards : Target → ResourceRequest → Prop
  | experiment experimentId,request =>
    request.resourceType = .experiment ∧ request.resourceId = experimentId
  | model name,request =>
    (request.resourceType = .registeredModel ∨ request.resourceType = .prompt) ∧
      request.resourceId = name

/-- The requests about the target: those that guard it, and those for an experiment's scorers. -/
def concerns (target : Target) (request : ResourceRequest) : Prop :=
  target.guards request ∨
    request.resourceType = .scorer ∧ target = .experiment request.resourceId

end Target

/-- Only direct grants differ, and none that the target covers. -/
structure Untouched (target : Target) (t t' : Tables) : Prop where
  rest : t' = { t with
    userPermissions := t'.userPermissions
    groupPermissions := t'.groupPermissions }
  rows : ∀ holder family, (t'.direct holder family).filter (fun row => target.covers family row.key) =
    (t.direct holder family).filter (fun row => target.covers family row.key)

section Locality
variable {env : Env} {target : Target} {t t' t'' : Tables}

theorem untouched_refl (target : Target) (t : Tables) : Untouched target t t := ⟨rfl,fun _ _ => rfl⟩

theorem Untouched.trans (first : Untouched target t t') (second : Untouched target t' t'') :
    Untouched target t t'' := by
  refine ⟨?_,fun holder family => (second.rows holder family).trans (first.rows holder family)⟩
  rw [second.rest,first.rest]

/-- The direct tables are read by the rows of one resource. -/
theorem sources_of_rows {shape : SourceShape} (rest : t' = { t with
      userPermissions := t'.userPermissions
      groupPermissions := t'.groupPermissions })
    (rows : ∀ holder, (t'.direct holder shape.family).filter (fun row => decide (row.key = shape.key)) =
      (t.direct holder shape.family).filter (fun row => decide (row.key = shape.key)))
    (username : String) : shape.sources env t' username = shape.sources env t username := by
  have users : t'.users = t.users := by rw [rest]
  have groups : t'.groups = t.groups := by rw [rest]
  have own : (t'.userPermissions shape.family).filter (fun row => decide (row.key = shape.key)) =
      (t.userPermissions shape.family).filter (fun row => decide (row.key = shape.key)) := rows .user
  have grouped : (t'.groupPermissions shape.family).filter (fun row =>
        decide (row.key = shape.key)) =
      (t.groupPermissions shape.family).filter (fun row => decide (row.key = shape.key)) :=
    rows .group
  have ofGroup : ∀ groupName, t'.getGroupPermissionOrNone shape.family shape.key groupName =
      t.getGroupPermissionOrNone shape.family shape.key groupName := by
    intro groupName
    have ofId : ∀ groupId, t'.groupRows shape.family shape.key groupId =
        t.groupRows shape.family shape.key groupId := by
      intro groupId
      rw [groupRows_eq,groupRows_eq,rows .group]
    simp only [Tables.getGroupPermissionOrNone,Tables.groupsNamed,groups,ofId]
  have names : t'.getGroupsForUser username = t.getGroupsForUser username := by
    rw [rest]
    rfl
  have highest : t'.getUserGroupsPermission shape.family shape.key username =
      t.getUserGroupsPermission shape.family shape.key username := by
    simp only [Tables.getUserGroupsPermission,names,ofGroup]
  funext source
  cases source with
  | user =>
    simp only [SourceShape.sources,buildSources,Tables.getUserPermission,Tables.usersNamed,users,own]
  | group =>
    simp only [SourceShape.sources,buildSources,SourceShape.groupRow,Tables.getGroupPermission,
      Tables.groupsNamed,groups,grouped,highest]
  | regex =>
    rw [rest]
    rfl
  | groupRegex =>
    rw [rest]
    rfl

theorem covers_shape {request : ResourceRequest} {shape : SourceShape}
    (concerned : target.concerns request) (shaped : request.shape env = .ok shape) :
    target.covers shape.family shape.key = true := by
  have family := shape_family shaped
  have id := shape_resourceId shaped
  rcases concerned with guarded | ⟨isScorer,rfl⟩
  · cases target with
    | experiment experimentId =>
      obtain ⟨isExperiment,named⟩ := guarded
      simp [Target.covers,family,id,isExperiment,named,ResourceType.family]
    | model name =>
      obtain ⟨isModel | isPrompt,named⟩ := guarded
      · simp [Target.covers,family,id,isModel,named,ResourceType.family]
      · simp [Target.covers,family,id,isPrompt,named,ResourceType.family]
  · simp [Target.covers,family,id,isScorer,ResourceType.family]

/-- What is answered about an untouched target is what was answered. -/
theorem Untouched.fresh (untouched : Untouched target t t') {resolution : Resolution}
    (concerned : target.concerns resolution.request) :
    resolution.fresh env t' = resolution.fresh env t := by
  apply fresh_congr
  · intro shape shaped name
    have covered := covers_shape concerned shaped
    rw [sources_of_rows untouched.rest]
    intro holder
    have narrowed : ∀ rows : List SqlPermission, rows.filter (fun row => decide (row.key = shape.key)) =
        (rows.filter (fun row => target.covers shape.family row.key)).filter
          (fun row => decide (row.key = shape.key)) := by
      intro rows
      rw [List.filter_filter]
      apply List.filter_congr
      intro row _
      by_cases same : row.key = shape.key
      · simp [same,covered]
      · simp [same]
    rw [narrowed,untouched.rows,← narrowed]
  · intro workspace
    apply lookupWorkspacePermission_congr
    rw [untouched.rest]
    rfl

end Locality

section Writes
variable {env : StoreEnv} {db db' : Database} {target : Target} {request : WriteRequest}
  {question : ResourceRequest}

/-- The store method behind the request writes one direct grant, outside of the target. -/
def WriteRequest.spares (request : WriteRequest) (target : Target) : Bool :=
  match (request.endpoint.method.operation request.args).entry with
  | some (_,family,key,_) => !target.covers family key
  | none => false

/-- A handler that asks for a permission writes a direct grant of the very resource. -/
theorem asked_entry (asked : request.asked = some question) :
    ∃ holder family key owner, (request.endpoint.method.operation request.args).entry =
        some (holder,family,key,owner) ∧ key.resourceId = question.resourceId ∧
      (question.resourceType = .experiment ∧ (family = .experiment ∨ family = .scorer) ∨
        (question.resourceType = .registeredModel ∨ question.resourceType = .prompt) ∧
          family = .registeredModel) := by
  obtain ⟨endpoint,caller,args⟩ := request
  cases endpoint
  all_goals first
    | cases asked
      done
    | cases asked
      exact ⟨_,_,_,_,rfl,rfl,.inl ⟨rfl,.inl rfl⟩⟩
    | cases asked
      exact ⟨_,_,_,_,rfl,rfl,.inl ⟨rfl,.inr rfl⟩⟩
    | cases asked
      exact ⟨_,_,_,_,rfl,rfl,.inr ⟨.inl rfl,rfl⟩⟩
    | cases asked
      exact ⟨_,_,_,_,rfl,rfl,.inr ⟨.inr rfl,rfl⟩⟩

theorem spares_or_guards (asked : request.asked = some question) (target : Target) :
    request.spares target = true ∨ target.guards question := by
  obtain ⟨holder,family,key,owner,entry,named,kind⟩ := asked_entry asked
  simp only [WriteRequest.spares,entry,Bool.not_eq_true']
  cases covered : target.covers family key with
  | false => exact .inl rfl
  | true =>
    right
    cases target with
    | experiment experimentId =>
      simp only [Target.covers,Bool.and_eq_true,decide_eq_true_eq] at covered
      rcases kind with ⟨isExperiment,_⟩ | ⟨_,isModel⟩
      · exact ⟨isExperiment,named.symm.trans covered.2⟩
      · simp [isModel] at covered
    | model name =>
      simp only [Target.covers,Bool.and_eq_true,decide_eq_true_eq] at covered
      rcases kind with ⟨_,isExperiment | isScorer⟩ | ⟨isModel,_⟩
      · simp [isExperiment] at covered
      · simp [isScorer] at covered
      · exact ⟨isModel,named.symm.trans covered.2⟩

theorem guards_of_lookup {other : ResourceRequest} (guarded : target.guards question)
    (same : other.lookup = question.lookup) : target.guards other := by
  simp only [ResourceRequest.lookup,PermissionLookup.mk.injEq] at same
  obtain ⟨types,ids,_⟩ := same
  have sameType := resourceType_value types
  cases target with
  | experiment experimentId => exact ⟨sameType.trans guarded.1,ids.trans guarded.2⟩
  | model name =>
    rw [Target.guards,sameType,ids]
    exact guarded

theorem untouched_of_write {holder : Holder} {family : Family} {key : ResourceKey} {id : Nat}
    {after : Option Grant} {t t' : Tables} (write : DirectWrite t t' holder family key id after)
    (apart : target.covers family key = false) : Untouched target t t' := by
  obtain ⟨rows,written⟩ := write.tables
  refine ⟨?_,?_⟩
  · rw [written]
    cases holder <;> rfl
  · intro other otherFamily
    by_cases here : other = holder ∧ otherFamily = family
    · obtain ⟨rfl,rfl⟩ := here
      exact write.others (fun key _ => target.covers otherFamily key) apart
    · rw [written,Tables.direct_withDirect,if_neg here]

theorem untouched_of_spares {cached : TracedCaches} (spared : request.spares target = true) :
    Untouched target db.tables
      (callMethod env request.endpoint.method request.args db cached).1.tables := by
  cases about : (request.endpoint.method.operation request.args).entry with
  | none => simp [WriteRequest.spares,about] at spared
  | some entry =>
    obtain ⟨holder,family,key,owner⟩ := entry
    simp only [WriteRequest.spares,about,Bool.not_eq_true'] at spared
    unfold callMethod
    cases ran : (request.endpoint.method.operation request.args).run env db with
    | ok _ written =>
      obtain ⟨id,after,_,_,write⟩ := entry_writes about ran
      exact untouched_of_write write spared
    | error failure reached =>
      rcases run_error ran with same | ⟨oldName,newName,isRename,_⟩
      · rw [same]
        exact untouched_refl target db.tables
      · rw [isRename] at about
        cases about

end Writes

section Containment
variable {env : StoreEnv} {db : Database} {events : List DelegationEvent} {target : Target}

/-- What a run carries while nobody in it manages the target. -/
structure Contained (env : StoreEnv) (db : Database) (events : List DelegationEvent)
    (target : Target) (state : DelegationState) : Prop where
  caches : CachesFilled env (AskedIn events) state
  untouched : Untouched target db.tables state.db.tables
  admitted : ∀ request ∈ state.admitted, request.spares target = true

theorem contained_submit (plain : PlainNames events) {state : DelegationState}
    (contained : Contained env db events target state) {context : RequestContext}
    {request : WriteRequest}
    (own : ∀ question, request.asked = some question → AskedIn events ⟨context,question⟩)
    (spared : db.tables.getIsAdmin request.caller = .ok true → request.spares target = true)
    (unmanaged : ∀ resolution, AskedIn events resolution → target.guards resolution.request →
      ∀ result, resolution.fresh env.resolution db.tables = .ok result →
        result.permission.canManage = false)
    (admitted : (checkWrite env.resolution state.db.tables context request state.cached).1 =
      .ok ()) : request.spares target = true := by
  rcases admitted_manages contained.caches (asked_plain plain) own admitted with
    admin | ⟨question,resolution,result,named,asked,same,fresh,manages⟩
  · apply spared
    rw [contained.untouched.rest] at admin
    exact admin
  · rcases spares_or_guards named target with spares | guarded
    · exact spares
    · have guarded' := guards_of_lookup guarded same
      rw [contained.untouched.fresh (.inl guarded')] at fresh
      rw [unmanaged resolution asked guarded' result fresh] at manages
      cases manages

theorem contained_step (plain : PlainNames events) {state : DelegationState}
    (contained : Contained env db events target state) {event : DelegationEvent}
    (listed : event ∈ events)
    (spared : ∀ mlflowWorkspace request, event = .submit mlflowWorkspace request →
      db.tables.getIsAdmin request.caller = .ok true → request.spares target = true)
    (unmanaged : ∀ resolution, AskedIn events resolution → target.guards resolution.request →
      ∀ result, resolution.fresh env.resolution db.tables = .ok result →
        result.permission.canManage = false) :
    Contained env db events target (delegationStep env state event).2 := by
  have caches : CachesFilled env (AskedIn events) (delegationStep env state event).2 := by
    apply filled_step contained.caches
    intro resolution named
    exact ⟨plain event listed resolution named,event,listed,named⟩
  refine ⟨caches,?_,?_⟩
  · cases event with
    | submit mlflowWorkspace request =>
      simp only [delegationStep]
      split <;> exact contained.untouched
    | perform index =>
      simp only [delegationStep]
      split
      · exact contained.untouched
      · next request found =>
        have spares := contained.admitted request (List.mem_of_getElem? found)
        exact contained.untouched.trans (untouched_of_spares spares)
    | look resolution => exact contained.untouched
    | evict key => exact contained.untouched
    | evictWorkspace key => exact contained.untouched
  · cases event with
    | submit mlflowWorkspace request =>
      simp only [delegationStep]
      split
      · next cached checked =>
        have own : ∀ question, request.asked = some question →
            AskedIn events ⟨⟨none,mlflowWorkspace⟩,question⟩ := by
          intro question named
          exact ⟨_,listed,by simp [DelegationEvent.resolution,named]⟩
        have spares := contained_submit plain contained own (spared mlflowWorkspace request rfl)
          unmanaged (by rw [checked])
        intro other member
        rcases List.mem_append.mp member with earlier | last
        · exact contained.admitted other earlier
        · rw [List.mem_singleton.mp last]
          exact spares
      · exact contained.admitted
    | perform index =>
      simp only [delegationStep]
      split
      · exact contained.admitted
      · intro other member
        exact contained.admitted other (List.mem_of_mem_eraseIdx member)
    | look resolution => exact contained.admitted
    | evict key => exact contained.admitted
    | evictWorkspace key => exact contained.admitted

/-- Nobody gets to manage what nobody in the run manages: as long as administrators write
elsewhere, whatever the others submit, in whatever order it is carried out, the grants of the
target and every answer about it stay those of the start. -/
theorem unmanaged_untouched (plain : PlainNames events)
    (spared : ∀ mlflowWorkspace request, .submit mlflowWorkspace request ∈ events →
      db.tables.getIsAdmin request.caller = .ok true → request.spares target = true)
    (unmanaged : ∀ resolution, AskedIn events resolution → target.guards resolution.request →
      ∀ result, resolution.fresh env.resolution db.tables = .ok result →
        result.permission.canManage = false) :
    ∀ moment ∈ Run.moments (delegationStep env) ⟨db,.empty,[]⟩ events,
      Untouched target db.tables moment.before.db.tables ∧
        ∀ resolution : Resolution, target.concerns resolution.request →
          resolution.fresh env.resolution moment.before.db.tables =
            resolution.fresh env.resolution db.tables := by
  have start : Contained env db events target ⟨db,.empty,[]⟩ := by
    refine ⟨filled_empty db,untouched_refl target db.tables,?_⟩
    intro request member
    cases member
  have keeps : ∀ state event, Contained env db events target state → event ∈ events →
      Contained env db events target (delegationStep env state event).2 := by
    intro state event contained listed
    apply contained_step plain contained listed _ unmanaged
    intro mlflowWorkspace request submitted
    exact spared mlflowWorkspace request (submitted ▸ listed)
  have kept := (Run.invariant_of_moments keeps start
    (fun moment member => Run.event_of_moment _ member)).1
  intro moment member
  have untouched := (kept moment member).untouched
  exact ⟨untouched,fun resolution concerned => untouched.fresh concerned⟩

/-- Alice, who manages experiment 1, asks for both and gains nothing on experiment 2. -/
theorem alice_contained :
    Untouched (.experiment "2") experimentDatabase.tables
        (Run.final (delegationStep strictEnv) aliceStart [aliceGrants "1",aliceGrants "2"]).db.tables ∧
      Resolution.fresh strictEnv.resolution (Run.final (delegationStep strictEnv) aliceStart
          [aliceGrants "1",aliceGrants "2"]).db.tables ⟨⟨none,none⟩,⟨.experiment,"2","alice",none⟩⟩ =
        Resolution.fresh strictEnv.resolution experimentDatabase.tables
          ⟨⟨none,none⟩,⟨.experiment,"2","alice",none⟩⟩ := by
  have third : ⟨Run.final (delegationStep strictEnv) aliceStart [aliceGrants "1",aliceGrants "2"],
      .perform 0,_⟩ ∈ Run.moments (delegationStep strictEnv) aliceStart
        [aliceGrants "1",aliceGrants "2",.perform 0] :=
    List.mem_cons_of_mem _ (List.mem_cons_of_mem _ List.mem_cons_self)
  suffices contained : ∀ moment ∈ Run.moments (delegationStep strictEnv) aliceStart
      [aliceGrants "1",aliceGrants "2",.perform 0],
      Untouched (.experiment "2") experimentDatabase.tables moment.before.db.tables ∧
        ∀ resolution : Resolution, Target.concerns (.experiment "2") resolution.request →
          resolution.fresh strictEnv.resolution moment.before.db.tables =
            resolution.fresh strictEnv.resolution experimentDatabase.tables by
    obtain ⟨untouched,same⟩ := contained _ third
    exact ⟨untouched,same ⟨⟨none,none⟩,⟨.experiment,"2","alice",none⟩⟩ (.inl ⟨rfl,rfl⟩)⟩
  apply unmanaged_untouched plain_aliceGrants
  · intro mlflowWorkspace request listed admin
    have isAlice : request.caller = "alice" := by
      simp only [aliceGrants,List.mem_cons,DelegationEvent.submit.injEq,List.not_mem_nil,or_false,
        reduceCtorEq] at listed
      rcases listed with ⟨_,rfl⟩ | ⟨_,rfl⟩ <;> rfl
    have decided : experimentDatabase.tables.getIsAdmin "alice" = .ok false := by decide
    rw [isAlice,decided] at admin
    cases admin
  · intro resolution asked guarded result fresh
    obtain ⟨event,listed,named⟩ := asked
    simp only [List.mem_cons,List.not_mem_nil,or_false] at listed
    rcases listed with rfl | rfl | rfl
    · cases named
      exact absurd guarded.2 (by decide)
    · cases named
      have decided : Resolution.fresh strictEnv.resolution experimentDatabase.tables
          ⟨⟨none,none⟩,⟨.experiment,"2","alice",none⟩⟩ = .ok ⟨.noPermissions,.fallback⟩ := by decide
      rw [decided] at fresh
      cases fresh
      rfl
    · cases named

end Containment
end MlflowOidcAuth
