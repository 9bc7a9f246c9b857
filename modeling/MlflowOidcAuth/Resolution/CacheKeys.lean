import MlflowOidcAuth.Resolution.ContextRuns

/-! The keys of the two caches. Names are joined with a colon that they may hold themselves,
so lookups between which a piece slides over a colon share an entry. -/
namespace MlflowOidcAuth
open KeyedCache SeparatedText

/-- The parameters of `_make_cache_key`. -/
structure PermissionLookup where
  resourceType : String
  resourceId : String
  username : String
deriving DecidableEq, Repr

namespace PermissionLookup

def key (lookup : PermissionLookup) : String :=
  lookup.resourceType ++ ":" ++ lookup.resourceId ++ ":" ++ lookup.username

/-- What follows the type in the key. -/
def rest (lookup : PermissionLookup) : List Char :=
  lookup.resourceId.toList ++ ':' :: lookup.username.toList

/-- A piece slides over the colon behind the type, or over the one before the username. -/
def Overlaps (p q : PermissionLookup) : Prop :=
  Slides ':' p.resourceType.toList p.rest q.resourceType.toList q.rest ∨
    p.resourceType = q.resourceType ∧
      Slides ':' p.resourceId.toList p.username.toList q.resourceId.toList q.username.toList

end PermissionLookup

def ResourceRequest.lookup (request : ResourceRequest) : PermissionLookup :=
  ⟨request.resourceType.value,request.resourceId,request.username⟩

theorem ResourceRequest.lookup_key (request : ResourceRequest) :
    request.lookup.key = request.cacheKey := rfl

structure WorkspaceLookup where
  username : String
  workspace : String
deriving DecidableEq, Repr

namespace WorkspaceLookup

def key (lookup : WorkspaceLookup) : String := workspaceCacheKey lookup.username lookup.workspace

def Overlaps (p q : WorkspaceLookup) : Prop :=
  Slides ':' p.username.toList p.workspace.toList q.username.toList q.workspace.toList

end WorkspaceLookup

section Keys
variable {p q : PermissionLookup}

theorem PermissionLookup.key_toList (p : PermissionLookup) :
    p.key.toList = p.resourceType.toList ++ ':' :: p.rest := by
  simp [PermissionLookup.key,PermissionLookup.rest]

theorem WorkspaceLookup.key_toList (p : WorkspaceLookup) :
    p.key.toList = p.username.toList ++ ':' :: p.workspace.toList := by
  simp [WorkspaceLookup.key,workspaceCacheKey]

theorem rest_iff : p.rest = q.rest ↔
    (p.resourceId = q.resourceId ∧ p.username = q.username) ∨
      Slides ':' p.resourceId.toList p.username.toList q.resourceId.toList q.username.toList ∨
      Slides ':' q.resourceId.toList q.username.toList p.resourceId.toList p.username.toList := by
  rw [PermissionLookup.rest,PermissionLookup.rest,joined_iff,String.toList_inj,String.toList_inj]

theorem permissionKey_iff : p.key = q.key ↔ p = q ∨ p.Overlaps q ∨ q.Overlaps p := by
  rw [← String.toList_inj,PermissionLookup.key_toList,PermissionLookup.key_toList,joined_iff,
    String.toList_inj,rest_iff]
  obtain ⟨resourceType,resourceId,username⟩ := p
  obtain ⟨resourceType',resourceId',username'⟩ := q
  simp only [PermissionLookup.Overlaps,PermissionLookup.mk.injEq]
  constructor
  · rintro (⟨sameType,same | slides | slides⟩ | slides | slides)
    · exact .inl ⟨sameType,same⟩
    · exact .inr (.inl (.inr ⟨sameType,slides⟩))
    · exact .inr (.inr (.inr ⟨sameType.symm,slides⟩))
    · exact .inr (.inl (.inl slides))
    · exact .inr (.inr (.inl slides))
  · rintro (⟨sameType,same⟩ | (slides | ⟨sameType,slides⟩) | slides | ⟨sameType,slides⟩)
    · exact .inl ⟨sameType,.inl same⟩
    · exact .inr (.inl slides)
    · exact .inl ⟨sameType,.inr (.inl slides)⟩
    · exact .inr (.inr slides)
    · exact .inl ⟨sameType.symm,.inr (.inr slides)⟩

theorem PermissionLookup.Overlaps.ne (overlaps : p.Overlaps q) : p ≠ q := by
  rintro rfl
  rcases overlaps with slides | ⟨_,slides⟩
  · exact slides.left_ne rfl
  · exact slides.left_ne rfl

theorem workspaceKey_iff {p q : WorkspaceLookup} :
    p.key = q.key ↔ p = q ∨ p.Overlaps q ∨ q.Overlaps p := by
  rw [← String.toList_inj,WorkspaceLookup.key_toList,WorkspaceLookup.key_toList,joined_iff,
    String.toList_inj,String.toList_inj]
  obtain ⟨username,workspace⟩ := p
  obtain ⟨username',workspace'⟩ := q
  simp only [WorkspaceLookup.Overlaps,WorkspaceLookup.mk.injEq]

theorem WorkspaceLookup.Overlaps.ne {p q : WorkspaceLookup} (overlaps : p.Overlaps q) : p ≠ q := by
  rintro rfl
  exact Slides.left_ne overlaps rfl

/-- The workspace lookups of users whose names hold no colon. -/
def PlainLookup (question : String × String) : Prop := ':' ∉ question.1.toList

theorem plainLookups_separate : WorkspaceKeysSeparate PlainLookup := by
  intro p q plain plain' same
  have keys : (WorkspaceLookup.mk p.1 p.2).key = (WorkspaceLookup.mk q.1 q.2).key := same
  rw [← String.toList_inj,WorkspaceLookup.key_toList,WorkspaceLookup.key_toList] at keys
  obtain ⟨users,workspaces⟩ := joined_of_plain plain plain' keys
  exact Prod.ext (String.toList_inj.mp users) (String.toList_inj.mp workspaces)

/-- Two lookups of one key are one lookup, and what is stored for the one serves no other. -/
structure KeysApart (p q : PermissionLookup) (w w' : WorkspaceLookup) : Prop where
  permission : p.key = q.key → p = q
  workspace : w.key = w'.key → w = w'
  servedPermission : ∀ (cache : Cache String PermissionResult) result, cache.get q.key = none →
    (cache.set p.key result).get q.key = some result → p = q
  servedWorkspace : ∀ (cache : Cache String Permission) permission, cache.get w'.key = none →
    (cache.set w.key permission).get w'.key = some permission → w = w'

theorem key_of_served {Value : Type} {cache : Cache String Value} {stored asked : String}
    {value : Value} (missed : cache.get asked = none)
    (served : (cache.set stored value).get asked = some value) : stored = asked := by
  by_contra distinct
  rw [Cache.get_set_of_ne _ _ (Ne.symm distinct),missed] at served
  cases served

/-- The keys tell two lookups apart exactly where no piece slides between them. -/
theorem keysApart_iff (p q : PermissionLookup) (w w' : WorkspaceLookup) :
    KeysApart p q w w' ↔
      (¬ p.Overlaps q ∧ ¬ q.Overlaps p) ∧ ¬ w.Overlaps w' ∧ ¬ w'.Overlaps w := by
  constructor
  · intro apart
    refine ⟨⟨?_,?_⟩,?_,?_⟩
    · exact fun overlaps => overlaps.ne (apart.permission (permissionKey_iff.mpr (.inr (.inl overlaps))))
    · exact fun overlaps =>
        overlaps.ne (apart.permission (permissionKey_iff.mpr (.inr (.inr overlaps)))).symm
    · exact fun overlaps => overlaps.ne (apart.workspace (workspaceKey_iff.mpr (.inr (.inl overlaps))))
    · exact fun overlaps =>
        overlaps.ne (apart.workspace (workspaceKey_iff.mpr (.inr (.inr overlaps)))).symm
  · rintro ⟨⟨here,there⟩,here',there'⟩
    have permission : p.key = q.key → p = q := fun same =>
      (permissionKey_iff.mp same).resolve_right (not_or.mpr ⟨here,there⟩)
    have workspace : w.key = w'.key → w = w' := fun same =>
      (workspaceKey_iff.mp same).resolve_right (not_or.mpr ⟨here',there'⟩)
    exact ⟨permission,workspace,fun _ _ missed served => permission (key_of_served missed served),
      fun _ _ missed served => workspace (key_of_served missed served)⟩

/-- `alice` on the model `fraud:eu`, and the user `eu:alice` on the model `fraud`. -/
theorem fraud_served : ¬ ∀ p q w w', KeysApart p q w w' := by
  intro apart
  have same := (apart ⟨"registered_model","fraud:eu","alice"⟩
    ⟨"registered_model","fraud","eu:alice"⟩ ⟨"alice","prod"⟩ ⟨"bob","prod"⟩).permission rfl
  exact absurd same (by decide)

/-- No type holds a colon, so two requests overlap over the colon before the username only. -/
theorem request_overlaps_iff (request other : ResourceRequest) :
    request.lookup.Overlaps other.lookup ↔ request.resourceType = other.resourceType ∧
      Slides ':' request.resourceId.toList request.username.toList other.resourceId.toList
        other.username.toList := by
  constructor
  · rintro (slides | ⟨sameType,slides⟩)
    · exact absurd slides.mem_left (resourceType_separator other.resourceType)
    · exact ⟨resourceType_value sameType,slides⟩
  · rintro ⟨sameType,slides⟩
    exact .inr ⟨congrArg ResourceType.value sameType,slides⟩

/-- Nothing slides into a username without a colon. -/
theorem request_apart_of_plain {request : ResourceRequest} (plain : ':' ∉ request.username.toList)
    (other : ResourceRequest) : ¬ request.lookup.Overlaps other.lookup := by
  intro overlaps
  exact plain ((request_overlaps_iff request other).mp overlaps).2.mem_right

end Keys

section Runs
variable {Question : Type} {env : Env} {t : Tables} {resolution : Question → Resolution}

/-- Whatever holds the key of a question was filled for the question's own type, resource and
user. -/
def ServesOwn (env : Env) (t : Tables) (resolution : Question → Resolution)
    (events : List (LookupEvent Question)) : Prop :=
  ∀ moment ∈ Run.moments (lookupStep env t resolution) .empty events, ∀ question holder,
    moment.event = .ask question →
    moment.before.origin.get (resolution question).cacheKey = some holder →
      holder.request.lookup = (resolution question).request.lookup

/-- Every live entry was filled under its own key by a question of the run. -/
def FilledByRun (resolution : Question → Resolution) (events : List (LookupEvent Question))
    (state : TracedCaches) : Prop :=
  ∀ key holder, state.origin.get key = some holder →
    holder.cacheKey = key ∧ ∃ question, .ask question ∈ events ∧ holder = resolution question

theorem filledByRun_step {events : List (LookupEvent Question)} (state : TracedCaches)
    (event : LookupEvent Question) (filled : FilledByRun resolution events state)
    (member : event ∈ events) :
    FilledByRun resolution events (lookupStep env t resolution state event).2 := by
  intro key holder found
  refine origin_step filled event ?_ found
  rintro question rfl
  exact ⟨rfl,question,member,rfl⟩

/-- A run whose questions do not overlap serves everyone their own. -/
theorem servesOwn_of_apart {events : List (LookupEvent Question)}
    (apart : ∀ question other, .ask question ∈ events → .ask other ∈ events →
      ¬ (resolution question).request.lookup.Overlaps (resolution other).request.lookup) :
    ServesOwn env t resolution events := by
  have start : FilledByRun resolution events .empty := by
    intro key holder found
    cases found
  have kept : ∀ moment ∈ Run.moments (lookupStep env t resolution) .empty events,
      FilledByRun resolution events moment.before :=
    (Run.invariant_of_moments filledByRun_step start
      (fun _ member => Run.event_of_moment _ member)).1
  intro moment member question holder isAsk found
  obtain ⟨sameKey,earlier,asked,rfl⟩ := kept moment member _ _ found
  have now : .ask question ∈ events := isAsk ▸ Run.event_of_moment _ member
  have sameKey : (resolution earlier).request.lookup.key =
      (resolution question).request.lookup.key := sameKey
  rcases permissionKey_iff.mp sameKey with same | overlaps | overlaps
  · exact same
  · exact absurd overlaps (apart earlier question asked now)
  · exact absurd overlaps (apart question earlier now asked)

end Runs

end MlflowOidcAuth
