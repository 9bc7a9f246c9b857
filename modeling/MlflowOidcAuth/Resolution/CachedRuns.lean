import MlflowOidcAuth.Library.Run
import MlflowOidcAuth.Resolution.Cached

/-! Runs of cached resolutions over a fixed store, with entries expiring at any
time. An answer is fresh when the entry it could come from was filled by a
resolution with the same answer; which ones these are is where the cache key,
which knows neither the scorer nor the workspace, leaves room for a leak. -/
namespace MlflowOidcAuth
open KeyedCache

/-- An event of a run: a question asked, or an entry that expires. -/
inductive LookupEvent (Question : Type)
  | ask (question : Question)
  | evict (key : String)
  | evictWorkspace (key : String)
deriving DecidableEq, Repr

section Runs
variable {Question : Type} (env : Env) (t : Tables) (resolution : Question → Resolution)

def lookupStep (state : TracedCaches) :
    LookupEvent Question → Option (Except Failure PermissionResult) × TracedCaches
  | .ask question =>
    let (answer,after) := state.ask env t (resolution question)
    (some answer,after)
  | .evict key => (none,state.evict key)
  | .evictWorkspace key => (none,state.evictWorkspace key)

/-- What every answer of a run should be. -/
def AnsweredFresh : LookupEvent Question → Option (Except Failure PermissionResult) → Prop
  | .ask question,answer => answer = some ((resolution question).fresh env t)
  | _,_ => True

/-- Every answer of the run, from empty caches, is the fresh one. -/
def RunFresh (events : List (LookupEvent Question)) : Prop :=
  ∀ moment ∈ Run.moments (lookupStep env t resolution) .empty events,
    AnsweredFresh env t resolution moment.event moment.answer

/-- The live entry under a question's key, if there is one, was filled by a
resolution that is related to the question. -/
def HeldBy (related : Resolution → Question → Prop) (state : TracedCaches) :
    LookupEvent Question → Prop
  | .ask question =>
    ∀ holder, state.origin.get (resolution question).cacheKey = some holder →
      related holder question
  | _ => True

instance (related : Resolution → Question → Prop) [∀ p q, Decidable (related p q)]
    (state : TracedCaches) : (event : LookupEvent Question) →
      Decidable (HeldBy resolution related state event)
  | .ask question =>
    match held : state.origin.get (resolution question).cacheKey with
    | none => .isTrue (fun holder found => by simp [held] at found)
    | some holder => decidable_of_iff (related holder question) (by simp [HeldBy,held])
  | .evict _ => .isTrue trivial
  | .evictWorkspace _ => .isTrue trivial

variable {env t resolution} {live : Question → Prop} {liveWorkspace : String × String → Prop}

/-- The invariant of a run: sound caches whose entries were filled by questions of
the run, each under its own key. -/
structure RunInvariant (env : Env) (t : Tables) (resolution : Question → Resolution)
    (live : Question → Prop) (liveWorkspace : String × String → Prop)
    (state : TracedCaches) : Prop where
  sound : state.Sound env t liveWorkspace
  filled : ∀ key holder, state.origin.get key = some holder →
    holder.cacheKey = key ∧ ∃ question, live question ∧ holder = resolution question

theorem runInvariant_empty : RunInvariant env t resolution live liveWorkspace .empty :=
  ⟨TracedCaches.sound_empty,by intro key holder found; simp [TracedCaches.empty,Cache.get,Cache.empty] at found⟩

theorem ask_origin (state : TracedCaches) (r : Resolution) {key : String}
    {holder : Resolution} (found : (state.ask env t r).2.origin.get key = some holder) :
    state.origin.get key = some holder ∨ (key = r.cacheKey ∧ holder = r) := by
  rcases resolved : r.resolve env t state.caches with ⟨answer,caches⟩
  cases hit : state.caches.permission.get r.cacheKey with
  | some cached =>
    simp only [TracedCaches.ask,resolved,hit] at found
    exact .inl found
  | none =>
    cases answer with
    | error failure =>
      simp only [TracedCaches.ask,resolved,hit] at found
      exact .inl found
    | ok result =>
      simp only [TracedCaches.ask,resolved,hit] at found
      by_cases same : key = r.cacheKey
      · subst same
        rw [Cache.get_set_self] at found
        exact .inr ⟨rfl,(Option.some.inj found).symm⟩
      · rw [Cache.get_set_of_ne _ _ same] at found
        exact .inl found

theorem delete_origin (origin : Cache String Resolution) (removed : String)
    {key : String} {holder : Resolution} (found : (origin.delete removed).get key = some holder) :
    origin.get key = some holder := by
  by_cases same : key = removed
  · subst same
    simp at found
  · rwa [Cache.get_delete_of_ne _ same] at found

/-- A step keeps what holds of every live entry, if it holds of the entry it may fill. -/
theorem origin_step {Held : String → Resolution → Prop} {state : TracedCaches}
    (held : ∀ key holder, state.origin.get key = some holder → Held key holder)
    (event : LookupEvent Question)
    (asked : ∀ question, event = .ask question →
      Held (resolution question).cacheKey (resolution question)) {key : String} {holder : Resolution}
    (found : (lookupStep env t resolution state event).2.origin.get key = some holder) :
    Held key holder := by
  cases event with
  | ask question =>
    rcases ask_origin state (resolution question) found with earlier | ⟨rfl,rfl⟩
    · exact held key holder earlier
    · exact asked question rfl
  | evict removed => exact held key holder (delete_origin state.origin removed found)
  | evictWorkspace removed => exact held key holder found

/-- A step is answered afresh and keeps the invariant when whatever holds the
question's key has the question's fresh answer. -/
theorem RunInvariant.step {state : TracedCaches}
    (invariant : RunInvariant env t resolution live liveWorkspace state)
    (separate : WorkspaceKeysSeparate liveWorkspace) (event : LookupEvent Question)
    (asked : ∀ question, event = .ask question →
      live question ∧ MayLookUp liveWorkspace (resolution question))
    (agree : ∀ question holder, event = .ask question →
      state.origin.get (resolution question).cacheKey = some holder →
      holder.fresh env t = (resolution question).fresh env t) :
    AnsweredFresh env t resolution event (lookupStep env t resolution state event).1 ∧
      RunInvariant env t resolution live liveWorkspace
        (lookupStep env t resolution state event).2 := by
  have filled : ∀ key holder,
      (lookupStep env t resolution state event).2.origin.get key = some holder →
        holder.cacheKey = key ∧ ∃ question, live question ∧ holder = resolution question :=
    fun _ _ found => origin_step invariant.filled event
      (fun question isAsk => ⟨rfl,question,(asked question isAsk).1,rfl⟩) found
  cases event with
  | ask question =>
    have answered := invariant.sound.ask separate (resolution question) (asked question rfl).2
      (fun holder held => agree question holder rfl held)
    exact ⟨congrArg some answered.1,answered.2,filled⟩
  | evict removed => exact ⟨trivial,invariant.sound.evict removed,filled⟩
  | evictWorkspace removed => exact ⟨trivial,invariant.sound.evictWorkspace removed,filled⟩

/-- The run lemma: a run is answered afresh throughout when, at every question, the
holder of its key has its fresh answer. -/
theorem runFresh_of_agree {events : List (LookupEvent Question)}
    (separate : WorkspaceKeysSeparate liveWorkspace)
    (asked : ∀ question, .ask question ∈ events → MayLookUp liveWorkspace (resolution question))
    (agree : ∀ moment ∈ Run.moments (lookupStep env t resolution) .empty events,
      ∀ question holder, moment.event = .ask question →
        moment.before.origin.get (resolution question).cacheKey = some holder →
        holder.cacheKey = (resolution question).cacheKey →
        (∃ earlier, .ask earlier ∈ events ∧ holder = resolution earlier) →
        holder.fresh env t = (resolution question).fresh env t) :
    RunFresh env t resolution events := by
  -- Carried along the run: the invariant, with the questions of this run as the live ones.
  refine Run.moments_satisfy
    (RunInvariant env t resolution (fun question => .ask question ∈ events) liveWorkspace)
    (fun state event => event ∈ events ∧ ∀ question holder, event = .ask question →
      state.origin.get (resolution question).cacheKey = some holder →
      holder.cacheKey = (resolution question).cacheKey →
      (∃ earlier, .ask earlier ∈ events ∧ holder = resolution earlier) →
      holder.fresh env t = (resolution question).fresh env t)
    (fun _ event answer => AnsweredFresh env t resolution event answer)
    ?_ runInvariant_empty ?_
  · intro state event invariant allowed
    apply invariant.step separate event
    · rintro question rfl
      exact ⟨allowed.1,asked question allowed.1⟩
    · intro question holder isAsk held
      have filled := invariant.filled _ _ held
      exact allowed.2 question holder isAsk held filled.1 filled.2
  · intro moment member
    exact ⟨Run.event_of_moment _ member,agree moment member⟩

end Runs
end MlflowOidcAuth
