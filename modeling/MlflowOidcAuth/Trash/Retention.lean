import MlflowOidcAuth.Quota.Ownership
import MlflowOidcAuth.Quota.Reconcile
import MlflowOidcAuth.Trash.PagedRuns

/-! The retention sweep over the trash of every workspace. It reads one page of each
listing, so what it leaves behind is what lies beyond the first page. -/
namespace MlflowOidcAuth
open Effects

/-- What one run of the job meets. The tracking store is seen from inside a workspace. -/
structure RetentionJob (State : Type) where
  store : TrackingStore State
  around : Surroundings
  /-- What the reconciliation of an owner meets once the workspaces are in these states. -/
  reconciling : (Option String → State) → String → Surroundings
  now : ℚ
  retentionDays : Int

structure RetentionProgress (State : Type) where
  states : Option String → State
  affectedOwners : List String

/-- When the experiment was deleted; zero also where MLflow gives no time. -/
def Experiment.deletionTime (experiment : Experiment) : Int :=
  match experiment.lastUpdateTime with
  | some updated => if updated ≠ 0 then updated else experiment.creationTime.getD 0
  | none => experiment.creationTime.getD 0

namespace RetentionJob
variable {State : Type} (job : RetentionJob State)

def cutoffMs : ℚ :=
  job.around.rounded (job.around.rounded (job.now - (job.retentionDays * 86400 : Int)) * 1000)

def expired (experiment : Experiment) : Bool :=
  decide (experiment.deletionTime ≠ 0 ∧ (experiment.deletionTime : ℚ) < job.cutoffMs)

/-- One experiment of the listing; a deletion that raises is only logged. -/
def retire (t : Tables) (workspaceName : Option String) (progress : RetentionProgress State)
    (experiment : Experiment) : RetentionProgress State :=
  if job.expired experiment then
    let owner := t.getExperimentOwner job.around.rowOrder experiment.experimentId
    match hardDeleteExperimentWithRuns job.store experiment.experimentId
        (progress.states workspaceName) with
    | (some _,after) =>
      { progress with states := Function.update progress.states workspaceName after }
    | (none,after) =>
      { states := Function.update progress.states workspaceName after
        affectedOwners := progress.affectedOwners ++ (truthy owner).toList }
  else progress

def sweepWorkspace (t : Tables) (progress : RetentionProgress State)
    (workspaceName : Option String) : RetentionProgress State :=
  match job.store.searchExperiments (progress.states workspaceName) none none with
  | .error _ => progress
  | .ok (deletedExperiments,_) => deletedExperiments.foldl (job.retire t workspaceName) progress

def cleanupTrash (states : Option String → State) (quota : QuotaState) :
    (Option String → State) × QuotaState :=
  let swept := (iterWorkspaceNames job.around).foldl (job.sweepWorkspace quota.db.tables) ⟨states,[]⟩
  (swept.states,after (swept.affectedOwners.dedup.forM (fun owner =>
    quietly (reconcileUserQuota (job.reconciling swept.states owner) owner))) quota)

end RetentionJob

section Sweep
variable {State : Type} {job : RetentionJob State}

def RetentionJob.retired (job : RetentionJob State) (experiments : List Experiment)
    (state : State) : State :=
  (((experiments.filter job.expired).map Experiment.experimentId).foldl
    (cleanupExperiment job.store) (⟨[],[],[],[]⟩,state)).2

def RetentionJob.swept (job : RetentionJob State) (state : State) : State :=
  match job.store.searchExperiments state none none with
  | .error _ => state
  | .ok (deletedExperiments,_) => job.retired deletedExperiments state

theorem cleaned_state (store : TrackingStore State) (ids : List String)
    (progress : CleanupReport × State) :
    (ids.foldl (cleanupExperiment store) progress).2 =
      ids.foldl (fun state id => (hardDeleteExperimentWithRuns store id state).2) progress.2 := by
  induction ids generalizing progress with
  | nil => rfl
  | cons id rest ih => rw [List.foldl_cons,ih,cleanupExperiment_state,List.foldl_cons]

theorem retired_cons (experiment : Experiment) (rest : List Experiment) (state : State) :
    job.retired (experiment :: rest) state =
      job.retired rest (if job.expired experiment then
        (hardDeleteExperimentWithRuns job.store experiment.experimentId state).2 else state) := by
  unfold RetentionJob.retired
  cases old : job.expired experiment <;> simp [cleaned_state,cleanupExperiment_state,old]

theorem retire_states (t : Tables) (workspaceName : Option String)
    (progress : RetentionProgress State) (experiment : Experiment) :
    (job.retire t workspaceName progress experiment).states =
      Function.update progress.states workspaceName (if job.expired experiment then
        (hardDeleteExperimentWithRuns job.store experiment.experimentId
          (progress.states workspaceName)).2 else progress.states workspaceName) := by
  unfold RetentionJob.retire
  split
  · split
    · next _ after ran => simp only [ran]
    · next after ran => simp only [ran]
  · rw [Function.update_eq_self]

theorem retires_states (t : Tables) (workspaceName : Option String)
    (experiments : List Experiment) (progress : RetentionProgress State) :
    (experiments.foldl (job.retire t workspaceName) progress).states =
      Function.update progress.states workspaceName
        (job.retired experiments (progress.states workspaceName)) := by
  induction experiments generalizing progress with
  | nil => exact (Function.update_eq_self _ _).symm
  | cons experiment rest ih =>
    rw [List.foldl_cons,ih,retire_states,retired_cons,Function.update_idem,Function.update_self]

theorem sweepWorkspace_states (t : Tables) (progress : RetentionProgress State)
    (workspaceName : Option String) :
    (job.sweepWorkspace t progress workspaceName).states =
      Function.update progress.states workspaceName
        (job.swept (progress.states workspaceName)) := by
  unfold RetentionJob.sweepWorkspace RetentionJob.swept
  cases job.store.searchExperiments (progress.states workspaceName) none none with
  | error failure => exact (Function.update_eq_self _ _).symm
  | ok answer => exact retires_states t workspaceName answer.1 progress

/-- Each workspace is swept once, from the state that it started in. -/
theorem sweeps_states (t : Tables) {workspaces : List (Option String)}
    (distinct : workspaces.Nodup) (progress : RetentionProgress State)
    (workspaceName : Option String) :
    (workspaces.foldl (job.sweepWorkspace t) progress).states workspaceName =
      if workspaceName ∈ workspaces then job.swept (progress.states workspaceName)
      else progress.states workspaceName := by
  induction workspaces generalizing progress with
  | nil => rfl
  | cons first rest ih =>
    obtain ⟨fresh,distinct⟩ := List.nodup_cons.mp distinct
    rw [List.foldl_cons,ih distinct,sweepWorkspace_states]
    by_cases same : workspaceName = first
    · subst same
      simp [fresh]
    · simp [same]

theorem cleanupTrash_states (states : Option String → State) (quota : QuotaState)
    (distinct : (iterWorkspaceNames job.around).Nodup) (workspaceName : Option String) :
    (job.cleanupTrash states quota).1 workspaceName =
      if workspaceName ∈ iterWorkspaceNames job.around then job.swept (states workspaceName)
      else states workspaceName :=
  sweeps_states quota.db.tables distinct ⟨states,[]⟩ workspaceName

end Sweep

section Retention
variable {State : Type} (job : RetentionJob State)

def RetentionJob.Old (experiment : Experiment) : Prop :=
  ∃ updated, experiment.lastUpdateTime = some updated ∧ (updated : ℚ) < job.cutoffMs

/-- After the sweep no old experiment is in the trash of a workspace, and every experiment that is
active or not old is still there. -/
def RetainsYoung (states : Option String → State) (quota : QuotaState) : Prop :=
  (∀ workspaceName ∈ iterWorkspaceNames job.around, ∀ experiment,
    job.store.getExperiment ((job.cleanupTrash states quota).1 workspaceName)
      experiment.experimentId = .ok experiment →
    experiment.lifecycleStage = .deleted → ¬ job.Old experiment) ∧
  ∀ workspaceName experiment,
    job.store.getExperiment (states workspaceName) experiment.experimentId = .ok experiment →
    experiment.lifecycleStage = .active ∨ ¬ job.Old experiment →
    job.store.getExperiment ((job.cleanupTrash states quota).1 workspaceName)
      experiment.experimentId = .ok experiment

/-- The trash of a workspace, stamped by MLflow, and a listing that returns the first page of it;
the token for the next page is not read. -/
structure TrashPage (store : TrackingStore State) (state : State) (pageSize : Nat)
    (trashed : List Experiment) : Prop where
  distinct : (trashed.map Experiment.experimentId).Nodup
  complete : ∀ experiment, experiment ∈ trashed ↔
    store.getExperiment state experiment.experimentId = .ok experiment ∧
      experiment.lifecycleStage = .deleted
  stamped : ∀ experiment ∈ trashed,
    ∃ updated, experiment.lastUpdateTime = some updated ∧ updated ≠ 0
  searched : ∃ token, store.searchExperiments state none none = .ok (trashed.take pageSize,token)

variable {job} {state : State} {pageSize : Nat} {trashed : List Experiment}

theorem expired_iff_old {experiment : Experiment}
    (stamped : ∃ updated, experiment.lastUpdateTime = some updated ∧ updated ≠ 0) :
    job.expired experiment = true ↔ job.Old experiment := by
  obtain ⟨updated,stamp,given⟩ := stamped
  simp [RetentionJob.expired,Experiment.deletionTime,RetentionJob.Old,stamp,given]

theorem TrashPage.swept (page : TrashPage job.store state pageSize trashed) :
    job.swept state = job.retired (trashed.take pageSize) state := by
  obtain ⟨token,searched⟩ := page.searched
  simp only [RetentionJob.swept,searched]

theorem TrashPage.keeps (documented : Documented job.store)
    (page : TrashPage job.store state pageSize trashed) {experiment : Experiment}
    (found : job.store.getExperiment state experiment.experimentId = .ok experiment)
    (spared : ∀ other ∈ trashed.take pageSize, job.Old other →
      other.experimentId ≠ experiment.experimentId) :
    job.store.getExperiment (job.swept state) experiment.experimentId = .ok experiment := by
  rw [page.swept]
  apply (cleanupExperiments_removed documented _).experimentsKept _ _ found
  intro target
  obtain ⟨other,listed,same⟩ := List.mem_map.mp target
  obtain ⟨onPage,old⟩ := List.mem_filter.mp listed
  have stamped := page.stamped other (List.mem_of_mem_take onPage)
  exact spared other onPage ((expired_iff_old stamped).mp old) same

theorem TrashPage.removes (documented : Documented job.store)
    (page : TrashPage job.store state pageSize trashed) {experiment : Experiment}
    (onPage : experiment ∈ trashed.take pageSize) (old : job.Old experiment) :
    ∀ other, job.store.getExperiment (job.swept state) experiment.experimentId ≠ .ok other := by
  have member := List.mem_of_mem_take onPage
  obtain ⟨found,deleted⟩ := (page.complete experiment).mp member
  rw [page.swept]
  refine cleanupExperiments_gone documented ?_ found deleted
  have expired := (expired_iff_old (page.stamped experiment member)).mpr old
  exact List.mem_map_of_mem (List.mem_filter.mpr ⟨onPage,expired⟩)

theorem TrashPage.same (page : TrashPage job.store state pageSize trashed)
    {experiment other : Experiment} (member : other ∈ trashed)
    (found : job.store.getExperiment state experiment.experimentId = .ok experiment)
    (sameId : other.experimentId = experiment.experimentId) : other = experiment := by
  have stored := ((page.complete other).mp member).1
  rw [sameId,found] at stored
  cases stored
  rfl

/-- The trash of one workspace is swept of the old exactly when none is beyond the page. -/
theorem TrashPage.clean_iff (documented : Documented job.store)
    (page : TrashPage job.store state pageSize trashed) :
    (∀ experiment, job.store.getExperiment (job.swept state) experiment.experimentId =
        .ok experiment → experiment.lifecycleStage = .deleted → ¬ job.Old experiment) ↔
      ∀ experiment ∈ trashed.drop pageSize, ¬ job.Old experiment := by
  constructor
  · intro clean experiment beyond old
    obtain ⟨found,deleted⟩ := (page.complete experiment).mp (List.mem_of_mem_drop beyond)
    refine clean experiment (page.keeps documented found ?_) deleted old
    intro other onPage _ same
    have taken : experiment.experimentId ∈ (trashed.map Experiment.experimentId).take pageSize := by
      rw [← same,← List.map_take]
      exact List.mem_map_of_mem onPage
    have dropped : experiment.experimentId ∈ (trashed.map Experiment.experimentId).drop pageSize := by
      rw [← List.map_drop]
      exact List.mem_map_of_mem beyond
    exact List.disjoint_take_drop page.distinct le_rfl taken dropped
  · intro young experiment survives deleted old
    have before : job.store.getExperiment state experiment.experimentId = .ok experiment := by
      rw [page.swept] at survives
      exact (cleanupExperiments_removed documented (⟨[],[],[],[]⟩,state)).experimentsOld _ _ survives
    have member := (page.complete experiment).mpr ⟨before,deleted⟩
    rw [← List.take_append_drop pageSize trashed] at member
    rcases List.mem_append.mp member with onPage | beyond
    · exact page.removes documented onPage old experiment survives
    · exact young experiment beyond old

/-- For any workspaces and any trash, the sweep meets its retention exactly when no listing has an
old experiment beyond its first page. -/
theorem retainsYoung_iff (job : RetentionJob State) (documented : Documented job.store)
    (states : Option String → State) (quota : QuotaState)
    (distinct : (iterWorkspaceNames job.around).Nodup) (pageSize : Nat)
    (trashed : Option String → List Experiment)
    (pages : ∀ workspaceName ∈ iterWorkspaceNames job.around,
      TrashPage job.store (states workspaceName) pageSize (trashed workspaceName)) :
    RetainsYoung job states quota ↔
      ∀ workspaceName ∈ iterWorkspaceNames job.around,
        ∀ experiment ∈ (trashed workspaceName).drop pageSize, ¬ job.Old experiment := by
  have final := cleanupTrash_states states quota distinct
  have kept : ∀ workspaceName experiment,
      job.store.getExperiment (states workspaceName) experiment.experimentId = .ok experiment →
      experiment.lifecycleStage = .active ∨ ¬ job.Old experiment →
      job.store.getExperiment ((job.cleanupTrash states quota).1 workspaceName)
        experiment.experimentId = .ok experiment := by
    intro workspaceName experiment found spared
    rw [final]
    split
    · next listed =>
      have page := pages workspaceName listed
      refine page.keeps documented found ?_
      intro other onPage old sameId
      have member := List.mem_of_mem_take onPage
      have same := page.same member found sameId
      subst same
      rcases spared with active | young
      · rw [((page.complete other).mp member).2] at active
        cases active
      · exact young old
    · exact found
  have clean : ∀ workspaceName ∈ iterWorkspaceNames job.around,
      ((∀ experiment, job.store.getExperiment ((job.cleanupTrash states quota).1 workspaceName)
          experiment.experimentId = .ok experiment →
        experiment.lifecycleStage = .deleted → ¬ job.Old experiment) ↔
      ∀ experiment ∈ (trashed workspaceName).drop pageSize, ¬ job.Old experiment) := by
    intro workspaceName listed
    rw [final,if_pos listed]
    exact (pages workspaceName listed).clean_iff documented
  exact (and_iff_left kept).trans (forall₂_congr clean)

end Retention

section Memory
namespace Trash

/-- Every experiment is listed, and those in the trash were stamped on their deletion. -/
def Stamped (trash : Trash) : Prop :=
  ∀ id stage updated, trash.experiments id = some (stage,updated) → id ∈ trash.experimentIds ∧
    (stage = .deleted → ∃ time, updated = some time ∧ time ≠ 0)

theorem getExperiment_eq_ok {trash : Trash} {experiment : Experiment} {id : String} :
    trash.getExperiment id = .ok experiment ↔ ∃ stage updated,
      trash.experiments id = some (stage,updated) ∧
        experiment = ⟨id,none,stage,updated,none⟩ := by
  cases stored : trash.experiments id with
  | none => simp [getExperiment,stored]
  | some known =>
    obtain ⟨stage,updated⟩ := known
    simp [getExperiment,stored,eq_comm]

theorem keys_sublist {A B : Type*} {pick : A → Option B} {key : B → A}
    (keyed : ∀ item picked, pick item = some picked → key picked = item) (items : List A) :
    ((items.filterMap pick).map key).Sublist items := by
  induction items with
  | nil => exact .slnil
  | cons item rest ih =>
    cases picks : pick item with
    | none =>
      rw [List.filterMap_cons_none picks]
      exact ih.cons item
    | some picked =>
      rw [List.filterMap_cons_some picks,List.map_cons,keyed item picked picks]
      exact ih.cons_cons item

theorem mem_trashed {trash : Trash} {experiment : Experiment} :
    experiment ∈ trash.trashedExperiments ↔ ∃ id ∈ trash.experimentIds, ∃ updated,
      trash.experiments id = some (.deleted,updated) ∧
        experiment = ⟨id,none,.deleted,updated,none⟩ := by
  simp only [trashedExperiments,List.mem_filterMap,List.mem_dedup]
  constructor
  · rintro ⟨id,listed,made⟩
    split at made
    · next updated stored =>
      cases made
      exact ⟨id,listed,updated,stored,rfl⟩
    · cases made
  · rintro ⟨id,listed,updated,stored,rfl⟩
    exact ⟨id,listed,by simp only [stored]⟩

theorem trashed_distinct (trash : Trash) :
    (trash.trashedExperiments.map Experiment.experimentId).Nodup := by
  unfold trashedExperiments
  refine (List.nodup_dedup trash.experimentIds).sublist (keys_sublist ?_ _)
  intro id experiment made
  split at made
  · cases made
    rfl
  · cases made

theorem trashPage_paged {trash : Trash} (stamped : trash.Stamped) (pageSize : Nat) :
    TrashPage (paged pageSize) trash pageSize trash.trashedExperiments where
  distinct := trashed_distinct trash
  searched := ⟨_,rfl⟩
  complete := by
    intro experiment
    constructor
    · intro member
      exact documented.experimentsFound trash none none _ none rfl experiment member
    · rintro ⟨found,deleted⟩
      obtain ⟨stage,updated,stored,same⟩ := getExperiment_eq_ok.mp found
      rw [same] at deleted
      cases deleted
      exact mem_trashed.mpr ⟨_,(stamped _ _ _ stored).1,updated,stored,same⟩
  stamped := by
    intro experiment member
    obtain ⟨id,_,updated,stored,rfl⟩ := mem_trashed.mp member
    exact (stamped id _ _ stored).2 rfl

def aged (count : Nat) : Trash where
  runIds := []
  runs := fun _ => none
  experimentIds := names count
  experiments := fun id => if id ∈ names count then some (.deleted,some 5) else none

theorem aged_eq_some {count : Nat} {id : String} {stage : LifecycleStage} {updated : Option Int} :
    (aged count).experiments id = some (stage,updated) ↔
      id ∈ names count ∧ stage = .deleted ∧ updated = some 5 := by
  simp only [aged]
  split
  · next member => simp [member,eq_comm]
  · next unknown => simp [unknown]

theorem stamped_aged (count : Nat) : (aged count).Stamped := by
  intro id stage updated stored
  obtain ⟨member,_,stamp⟩ := aged_eq_some.mp stored
  exact ⟨member,fun _ => ⟨5,stamp,by decide⟩⟩

theorem length_aged (count : Nat) : (aged count).trashedExperiments.length = count := by
  have ids : ((aged count).trashedExperiments.map Experiment.experimentId).Perm (names count) := by
    refine (List.perm_ext_iff_of_nodup (trashed_distinct _) (names_nodup count)).mpr ?_
    intro id
    constructor
    · intro member
      obtain ⟨experiment,listed,rfl⟩ := List.mem_map.mp member
      obtain ⟨id,known,updated,stored,rfl⟩ := mem_trashed.mp listed
      exact known
    · intro member
      have listed := mem_trashed.mpr ⟨id,member,some 5,aged_eq_some.mpr ⟨member,rfl,rfl⟩,rfl⟩
      exact List.mem_map.mpr ⟨_,listed,rfl⟩
  have lengths := ids.length_eq
  rwa [List.length_map,names,List.length_map,List.length_range] at lengths

/-- A week is retained, in a deployment without workspaces. -/
def weekly : RetentionJob Trash where
  store := paged 1000
  around := { outage with enableWorkspaces := false }
  reconciling := fun _ _ => outage
  now := 1000000
  retentionDays := 7

theorem old_aged {count : Nat} {experiment : Experiment}
    (member : experiment ∈ (aged count).trashedExperiments) : weekly.Old experiment := by
  obtain ⟨id,_,updated,stored,rfl⟩ := mem_trashed.mp member
  refine ⟨5,(aged_eq_some.mp stored).2.2,?_⟩
  norm_num [RetentionJob.cutoffMs,weekly,outage]

end Trash

theorem retainsYoung_two : RetainsYoung Trash.weekly (fun _ => Trash.aged 2) ownerState := by
  refine (retainsYoung_iff Trash.weekly (Trash.documented_paged 1000) _ ownerState (by decide) 1000
    (fun _ => (Trash.aged 2).trashedExperiments)
    (fun _ _ => Trash.trashPage_paged (Trash.stamped_aged 2) 1000)).mpr ?_
  intro workspaceName listed experiment beyond
  have short : (Trash.aged 2).trashedExperiments.length ≤ 1000 := by
    rw [Trash.length_aged]
    omega
  rw [List.drop_eq_nil_of_le short] at beyond
  cases beyond

/-- The last of 1001 old experiments survives the sweep. -/
theorem leaves_last_experiment : Documented Trash.weekly.store ∧
    TrashPage Trash.weekly.store (Trash.aged 1001) 1000 (Trash.aged 1001).trashedExperiments ∧
    ¬ RetainsYoung Trash.weekly (fun _ => Trash.aged 1001) ownerState := by
  have page : TrashPage Trash.weekly.store (Trash.aged 1001) 1000
      (Trash.aged 1001).trashedExperiments :=
    Trash.trashPage_paged (Trash.stamped_aged 1001) 1000
  refine ⟨Trash.documented_paged 1000,page,?_⟩
  rintro ⟨clean,_⟩
  have listed : none ∈ iterWorkspaceNames Trash.weekly.around := by decide
  have swept := clean none listed
  rw [cleanupTrash_states _ _ (by decide),if_pos listed] at swept
  have young := (page.clean_iff (Trash.documented_paged 1000)).mp swept
  have beyond : 0 < ((Trash.aged 1001).trashedExperiments.drop 1000).length := by
    rw [List.length_drop,Trash.length_aged]
    omega
  obtain ⟨experiment,member⟩ := List.exists_mem_of_length_pos beyond
  exact young experiment member (Trash.old_aged (List.mem_of_mem_drop member))

end Memory
end MlflowOidcAuth
