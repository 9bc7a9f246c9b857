import MlflowOidcAuth.Trash.Cleanup

/-! What a cleanup deletes and what it leaves. A parameter that is absent widens its
target list to the whole trash, also when the other parameter names something. -/
namespace MlflowOidcAuth

section Store
variable {State : Type} {store : TrackingStore State}

/-- The documented effects of the store's deletions and searches. -/
structure Documented (store : TrackingStore State) : Prop where
  runDeletable : ∀ state id run, store.getRun state id = .ok run →
    ∃ after, store.hardDeleteRun state id = .ok after
  runDeleted : ∀ state id after, store.hardDeleteRun state id = .ok after →
    (∀ run, store.getRun after id ≠ .ok run) ∧
      (∀ other, other ≠ id → store.getRun after other = store.getRun state other) ∧
      ∀ other, store.getExperiment after other = store.getExperiment state other
  experimentDeletable : ∀ state id experiment, store.getExperiment state id = .ok experiment →
    experiment.lifecycleStage = .deleted → ∃ after, store.hardDeleteExperiment state id = .ok after
  experimentDeleted : ∀ state id after, store.hardDeleteExperiment state id = .ok after →
    (∀ experiment, store.getExperiment after id ≠ .ok experiment) ∧
      (∀ other, other ≠ id → store.getExperiment after other = store.getExperiment state other) ∧
      (∀ runId run, store.getRun after runId = .ok run → store.getRun state runId = .ok run) ∧
      ∀ runId run, store.getRun state runId = .ok run → run.experimentId ≠ id →
        store.getRun after runId = .ok run
  runsSearched : ∀ state id experiment, store.getExperiment state id = .ok experiment →
    ∃ runs, store.searchRuns state id = .ok runs
  runsFound : ∀ state id runs, store.searchRuns state id = .ok runs →
    (runs.map RunInfo.runId).Nodup ∧
      ∀ run ∈ runs, store.getRun state run.runId = .ok run ∧ run.experimentId = id
  experimentsFound : ∀ state filter token page next,
    store.searchExperiments state filter token = .ok (page,next) →
      ∀ experiment ∈ page, store.getExperiment state experiment.experimentId = .ok experiment ∧
        experiment.lifecycleStage = .deleted

/-- Hard deletion of an experiment takes whatever runs it still has along. -/
def TakesRunsAlong (store : TrackingStore State) : Prop :=
  ∀ state id after, store.hardDeleteExperiment state id = .ok after →
    ∀ runId run, store.getRun after runId = .ok run → run.experimentId ≠ id

/-- Between two states only runs and experiments of the given kinds have gone, and
nothing has come. -/
structure Removed (store : TrackingStore State) (runs : String → RunInfo → Prop)
    (experiments : String → Prop) (state after : State) : Prop where
  runsKept : ∀ id run, store.getRun state id = .ok run → ¬ runs id run →
    store.getRun after id = .ok run
  runsOld : ∀ id run, store.getRun after id = .ok run → store.getRun state id = .ok run
  experimentsKept : ∀ id experiment, store.getExperiment state id = .ok experiment →
    ¬ experiments id → store.getExperiment after id = .ok experiment
  experimentsOld : ∀ id experiment, store.getExperiment after id = .ok experiment →
    store.getExperiment state id = .ok experiment

namespace Removed
variable {runs runs' : String → RunInfo → Prop} {experiments experiments' : String → Prop}
  {state middle after : State}

theorem refl (store : TrackingStore State) (runs : String → RunInfo → Prop)
    (experiments : String → Prop) (state : State) : Removed store runs experiments state state :=
  ⟨fun _ _ found _ => found,fun _ _ found => found,fun _ _ found _ => found,fun _ _ found => found⟩

theorem trans (first : Removed store runs experiments state middle)
    (second : Removed store runs experiments middle after) :
    Removed store runs experiments state after where
  runsKept id run found kept := second.runsKept id run (first.runsKept id run found kept) kept
  runsOld id run found := first.runsOld id run (second.runsOld id run found)
  experimentsKept id experiment found kept :=
    second.experimentsKept id experiment (first.experimentsKept id experiment found kept) kept
  experimentsOld id experiment found :=
    first.experimentsOld id experiment (second.experimentsOld id experiment found)

theorem mono (removed : Removed store runs experiments state after)
    (moreRuns : ∀ id run, runs id run → runs' id run)
    (more : ∀ id, experiments id → experiments' id) :
    Removed store runs' experiments' state after where
  runsKept id run found kept := removed.runsKept id run found (fun gone => kept (moreRuns id run gone))
  runsOld := removed.runsOld
  experimentsKept id experiment found kept :=
    removed.experimentsKept id experiment found (fun gone => kept (more id gone))
  experimentsOld := removed.experimentsOld

theorem foldl {Progress Item : Type} (current : Progress → State) {pass : Progress → Item → Progress}
    {items : List Item}
    (each : ∀ item ∈ items, ∀ progress,
      Removed store runs experiments (current progress) (current (pass progress item)))
    (start : Progress) :
    Removed store runs experiments (current start) (current (items.foldl pass start)) := by
  induction items generalizing start with
  | nil => exact refl _ _ _ _
  | cons item rest ih =>
    have first := each item List.mem_cons_self start
    exact first.trans (ih (fun later member => each later (List.mem_cons_of_mem _ member)) _)

end Removed

theorem removed_run (documented : Documented store) {state after : State} {id : String}
    (deleted : store.hardDeleteRun state id = .ok after) :
    Removed store (fun other _ => other = id) (fun _ => False) state after := by
  obtain ⟨gone,others,experiments⟩ := documented.runDeleted state id after deleted
  refine ⟨fun other run found kept => ?_,fun other run found => ?_,fun other experiment found _ => ?_,
    fun other experiment found => ?_⟩
  · rw [others other kept]
    exact found
  · by_cases same : other = id
    · subst same
      exact absurd found (gone run)
    · rw [← others other same]
      exact found
  · rw [experiments]
    exact found
  · rw [← experiments]
    exact found

theorem removed_experiment (documented : Documented store) {state after : State} {id : String}
    (deleted : store.hardDeleteExperiment state id = .ok after) :
    Removed store (fun _ run => run.experimentId = id) (fun other => other = id) state after := by
  obtain ⟨gone,others,old,kept⟩ := documented.experimentDeleted state id after deleted
  refine ⟨fun runId run found other => kept runId run found other,old,
    fun other experiment found distinct => ?_,fun other experiment found => ?_⟩
  · rw [others other distinct]
    exact found
  · by_cases same : other = id
    · subst same
      exact absurd found (gone experiment)
    · rw [← others other same]
      exact found

end Store

section Passes
variable {State : Type} {store : TrackingStore State}

theorem cleanupRun_removed (documented : Documented store) (request : CleanupRequest)
    (olderRuns : List String) (id : String) (progress : CleanupReport × State) :
    Removed store (fun other run => other = id ∧ run.lifecycleStage = .deleted) (fun _ => False)
      progress.2 (cleanupRun store request olderRuns progress id).2 := by
  obtain ⟨report,state⟩ := progress
  cases found : store.getRun state id with
  | error failure =>
    simp only [cleanupRun,found]
    exact .refl _ _ _ _
  | ok run =>
    by_cases active : run.lifecycleStage ≠ .deleted
    · simp only [cleanupRun,found,if_pos active]
      exact .refl _ _ _ _
    by_cases young : given request.olderThan = true ∧ id ∉ olderRuns
    · simp only [cleanupRun,found,if_neg active,if_pos young]
      exact .refl _ _ _ _
    simp only [cleanupRun,found,if_neg active,if_neg young]
    cases deleted : store.hardDeleteRun state id with
    | error failure => exact .refl _ _ _ _
    | ok after =>
      have removed := removed_run documented deleted
      refine { removed with runsKept := fun other known here kept => ?_ }
      apply removed.runsKept other known here
      rintro rfl
      rw [found] at here
      cases here
      exact kept ⟨rfl,not_not.mp active⟩

theorem cleanupRun_gone (documented : Documented store) {request : CleanupRequest}
    {olderRuns : List String} {id : String} {progress : CleanupReport × State} {run : RunInfo}
    (found : store.getRun progress.2 id = .ok run) (trashed : run.lifecycleStage = .deleted)
    (older : given request.olderThan = true → id ∈ olderRuns) :
    ∀ other, store.getRun (cleanupRun store request olderRuns progress id).2 id ≠ .ok other := by
  obtain ⟨report,state⟩ := progress
  obtain ⟨after,deleted⟩ := documented.runDeletable state id run found
  have active : ¬ run.lifecycleStage ≠ .deleted := not_not.mpr trashed
  have young : ¬ (given request.olderThan = true ∧ id ∉ olderRuns) :=
    fun young => young.2 (older young.1)
  simp only [cleanupRun,found,if_neg active,if_neg young,deleted]
  exact (documented.runDeleted state id after deleted).1

theorem hardDeleteRuns_removed (documented : Documented store) (runs : List RunInfo) (state : State) :
    Removed store (fun id _ => id ∈ runs.map RunInfo.runId) (fun _ => False) state
      (hardDeleteRuns store state runs).2 := by
  induction runs generalizing state with
  | nil => exact .refl _ _ _ _
  | cons run rest ih =>
    cases deleted : store.hardDeleteRun state run.runId with
    | error failure =>
      simp only [hardDeleteRuns,deleted]
      exact .refl _ _ _ _
    | ok after =>
      simp only [hardDeleteRuns,deleted]
      have first : Removed store (fun id _ => id ∈ (run :: rest).map RunInfo.runId) (fun _ => False)
          state after :=
        (removed_run documented deleted).mono (fun id _ same => by simp [same]) (fun _ never => never)
      apply first.trans
      exact (ih after).mono (fun id _ member => List.mem_cons_of_mem _ member) (fun _ never => never)

theorem hardDeleteRuns_completes (documented : Documented store) {runs : List RunInfo} {state : State}
    (distinct : (runs.map RunInfo.runId).Nodup)
    (present : ∀ run ∈ runs, store.getRun state run.runId = .ok run) :
    (hardDeleteRuns store state runs).1 = none := by
  induction runs generalizing state with
  | nil => rfl
  | cons run rest ih =>
    obtain ⟨after,deleted⟩ :=
      documented.runDeletable state run.runId run (present run List.mem_cons_self)
    obtain ⟨fresh,distinct⟩ := List.nodup_cons.mp distinct
    simp only [hardDeleteRuns,deleted]
    apply ih distinct
    intro later member
    have other : later.runId ≠ run.runId := by
      intro same
      exact fresh (same ▸ List.mem_map_of_mem member)
    rw [(documented.runDeleted state run.runId after deleted).2.1 later.runId other]
    exact present later (List.mem_cons_of_mem _ member)

theorem hardDeleteExperimentWithRuns_removed (documented : Documented store) (experimentId : String)
    (state : State) :
    Removed store (fun _ run => run.experimentId = experimentId) (fun id => id = experimentId) state
      (hardDeleteExperimentWithRuns store experimentId state).2 := by
  cases searched : store.searchRuns state experimentId with
  | error failure =>
    simp only [hardDeleteExperimentWithRuns,searched]
    exact .refl _ _ _ _
  | ok runs =>
    obtain ⟨_,own⟩ := documented.runsFound state experimentId runs searched
    have ofRuns : Removed store (fun _ run => run.experimentId = experimentId)
        (fun id => id = experimentId) state (hardDeleteRuns store state runs).2 := by
      have removed := hardDeleteRuns_removed documented runs state
      refine { removed with
        runsKept := fun id run found kept => removed.runsKept id run found ?_
        experimentsKept := fun id experiment found _ => removed.experimentsKept id experiment found not_false }
      rintro member
      obtain ⟨listed,isListed,rfl⟩ := List.mem_map.mp member
      obtain ⟨there,inside⟩ := own listed isListed
      rw [found] at there
      cases there
      exact kept inside
    cases ran : hardDeleteRuns store state runs with
    | mk outcome middle =>
      rw [ran] at ofRuns
      cases outcome with
      | some failure =>
        simp only [hardDeleteExperimentWithRuns,searched,ran]
        exact ofRuns
      | none =>
        cases deleted : store.hardDeleteExperiment middle experimentId with
        | error failure =>
          simp only [hardDeleteExperimentWithRuns,searched,ran,deleted]
          exact ofRuns
        | ok after =>
          simp only [hardDeleteExperimentWithRuns,searched,ran,deleted]
          exact ofRuns.trans (removed_experiment documented deleted)

theorem hardDeleteExperimentWithRuns_deletes (documented : Documented store) {experimentId : String}
    {state : State} {experiment : Experiment}
    (found : store.getExperiment state experimentId = .ok experiment)
    (trashed : experiment.lifecycleStage = .deleted) :
    ∃ middle, store.hardDeleteExperiment middle experimentId =
      .ok (hardDeleteExperimentWithRuns store experimentId state).2 := by
  obtain ⟨runs,searched⟩ := documented.runsSearched state experimentId experiment found
  obtain ⟨distinct,own⟩ := documented.runsFound state experimentId runs searched
  have removed := hardDeleteRuns_removed documented runs state
  have completes := hardDeleteRuns_completes documented distinct (fun run member => (own run member).1)
  cases ran : hardDeleteRuns store state runs with
  | mk outcome middle =>
    rw [ran] at removed completes
    cases completes
    have still := removed.experimentsKept experimentId experiment found not_false
    obtain ⟨after,deleted⟩ := documented.experimentDeletable middle experimentId experiment still trashed
    simp only [hardDeleteExperimentWithRuns,searched,ran,deleted]
    exact ⟨middle,deleted⟩

theorem hardDeleteExperimentWithRuns_gone (documented : Documented store) {experimentId : String}
    {state : State} {experiment : Experiment}
    (found : store.getExperiment state experimentId = .ok experiment)
    (trashed : experiment.lifecycleStage = .deleted) :
    ∀ other, store.getExperiment (hardDeleteExperimentWithRuns store experimentId state).2
      experimentId ≠ .ok other := by
  obtain ⟨middle,deleted⟩ := hardDeleteExperimentWithRuns_deletes documented found trashed
  exact (documented.experimentDeleted middle experimentId _ deleted).1

theorem cleanupExperiment_state (progress : CleanupReport × State) (experimentId : String) :
    (cleanupExperiment store progress experimentId).2 =
      (hardDeleteExperimentWithRuns store experimentId progress.2).2 := by
  obtain ⟨report,state⟩ := progress
  cases ran : hardDeleteExperimentWithRuns store experimentId state with
  | mk outcome after => cases outcome <;> simp only [cleanupExperiment,ran]

end Passes

section Loops
variable {State : Type} {store : TrackingStore State} {request : CleanupRequest}
  {olderRuns ids : List String}

theorem cleanupRuns_removed (documented : Documented store) (progress : CleanupReport × State) :
    Removed store (fun id run => id ∈ ids ∧ run.lifecycleStage = .deleted) (fun _ => False)
      progress.2 (ids.foldl (cleanupRun store request olderRuns) progress).2 := by
  apply Removed.foldl Prod.snd
  intro id member between
  refine (cleanupRun_removed documented request olderRuns id between).mono ?_ (fun _ never => never)
  rintro other run ⟨rfl,trashed⟩
  exact ⟨member,trashed⟩

theorem cleanupExperiments_removed (documented : Documented store)
    (progress : CleanupReport × State) :
    Removed store (fun _ run => run.experimentId ∈ ids) (fun id => id ∈ ids) progress.2
      (ids.foldl (cleanupExperiment store) progress).2 := by
  apply Removed.foldl Prod.snd
  intro experimentId member between
  rw [cleanupExperiment_state]
  refine (hardDeleteExperimentWithRuns_removed documented experimentId between.2).mono ?_ ?_
  · rintro _ run rfl
    exact member
  · rintro _ rfl
    exact member

/-- A trashed run among the targets is gone after the loop, whatever was deleted before
and after it. -/
theorem cleanupRuns_gone (documented : Documented store) {progress : CleanupReport × State}
    {id : String} {run : RunInfo} (target : id ∈ ids) (found : store.getRun progress.2 id = .ok run)
    (trashed : run.lifecycleStage = .deleted)
    (older : given request.olderThan = true → id ∈ olderRuns) :
    ∀ other, store.getRun (ids.foldl (cleanupRun store request olderRuns) progress).2 id ≠ .ok other := by
  obtain ⟨before,later,rfl⟩ := List.append_of_mem target
  intro other survives
  rw [List.foldl_append,List.foldl_cons] at survives
  have passed := (cleanupRuns_removed documented _).runsOld id other survives
  have removed := cleanupRun_removed documented request olderRuns id
    (before.foldl (cleanupRun store request olderRuns) progress)
  have between := removed.runsOld id other passed
  have start := (cleanupRuns_removed documented progress).runsOld id other between
  rw [found] at start
  cases start
  exact cleanupRun_gone documented between trashed older _ passed

theorem cleanupExperiments_gone (documented : Documented store) {progress : CleanupReport × State}
    {id : String} {experiment : Experiment} (target : id ∈ ids)
    (found : store.getExperiment progress.2 id = .ok experiment)
    (trashed : experiment.lifecycleStage = .deleted) :
    ∀ other, store.getExperiment (ids.foldl (cleanupExperiment store) progress).2 id ≠ .ok other := by
  obtain ⟨before,later,rfl⟩ := List.append_of_mem target
  intro other survives
  rw [List.foldl_append,List.foldl_cons] at survives
  have passed := (cleanupExperiments_removed documented _).experimentsOld id other survives
  rw [cleanupExperiment_state] at passed
  have removed := hardDeleteExperimentWithRuns_removed documented id
    (before.foldl (cleanupExperiment store) progress).2
  have between := removed.experimentsOld id other passed
  have start := (cleanupExperiments_removed documented progress).experimentsOld id other between
  rw [found] at start
  cases start
  exact hardDeleteExperimentWithRuns_gone documented between trashed _ passed

theorem cleanupExperiments_takeAlong (documented : Documented store) (along : TakesRunsAlong store)
    {progress : CleanupReport × State} {experiment : Experiment} {id : String} {run : RunInfo}
    (target : run.experimentId ∈ ids)
    (found : store.getExperiment progress.2 run.experimentId = .ok experiment)
    (trashed : experiment.lifecycleStage = .deleted) :
    store.getRun (ids.foldl (cleanupExperiment store) progress).2 id ≠ .ok run := by
  -- Up to its first occurrence among the targets the experiment is still there.
  obtain ⟨before,later,rfl,first⟩ := List.eq_append_cons_of_mem target
  intro survives
  rw [List.foldl_append,List.foldl_cons] at survives
  have passed := (cleanupExperiments_removed documented _).runsOld id run survives
  rw [cleanupExperiment_state] at passed
  have still := (cleanupExperiments_removed documented progress).experimentsKept _ _ found first
  obtain ⟨middle,deleted⟩ := hardDeleteExperimentWithRuns_deletes documented still trashed
  exact along middle run.experimentId _ deleted id run passed rfl

end Loops

section Targets
variable {State : Type} {store : TrackingStore State} {request : CleanupRequest} {delta : Int}
  {state : State}

/-- Each named experiment is in the trash and old enough. -/
def ExperimentsAdmitted (store : TrackingStore State) (request : CleanupRequest) (delta : Int)
    (state : State) : Prop :=
  store.hasHardDeleteExperiment = true → given request.experimentIds = true →
    ∀ id ∈ splitCsv request.experimentIds, ∃ experiment,
      store.getExperiment state id = .ok experiment ∧ experiment.lifecycleStage = .deleted ∧
        (given request.olderThan = true → request.tooYoung delta experiment = false)

theorem namedExperiments_ok {ids : List String} {experiments : List Experiment}
    (fetched : CleanupRequest.namedExperiments store state ids = .ok experiments) :
    (∀ id ∈ ids, ∃ experiment ∈ experiments, store.getExperiment state id = .ok experiment) ∧
      ∀ experiment ∈ experiments, ∃ id ∈ ids, store.getExperiment state id = .ok experiment := by
  induction ids generalizing experiments with
  | nil =>
    cases fetched
    simp
  | cons first rest ih =>
    unfold CleanupRequest.namedExperiments at fetched
    cases found : store.getExperiment state first with
    | error failure => simp [found] at fetched
    | ok experiment =>
      cases others : CleanupRequest.namedExperiments store state rest with
      | error id => simp [found,others,bind,Except.bind] at fetched
      | ok later =>
        simp only [found,others,bind,Except.bind,pure,Except.pure,Except.ok.injEq] at fetched
        subst fetched
        obtain ⟨forth,back⟩ := ih others
        constructor
        · intro id member
          rcases List.mem_cons.mp member with rfl | later
          · exact ⟨experiment,List.mem_cons_self,found⟩
          · obtain ⟨known,listed,here⟩ := forth id later
            exact ⟨known,List.mem_cons_of_mem _ listed,here⟩
        · intro known listed
          rcases List.mem_cons.mp listed with rfl | later
          · exact ⟨first,List.mem_cons_self,found⟩
          · obtain ⟨id,member,here⟩ := back known later
            exact ⟨id,List.mem_cons_of_mem _ member,here⟩

theorem namedExperiments_error {ids : List String} {id : String}
    (failed : CleanupRequest.namedExperiments store state ids = .error id) :
    id ∈ ids ∧ ∀ experiment, store.getExperiment state id ≠ .ok experiment := by
  induction ids with
  | nil => cases failed
  | cons first rest ih =>
    unfold CleanupRequest.namedExperiments at failed
    cases found : store.getExperiment state first with
    | error failure =>
      simp only [found,Except.error.injEq] at failed
      subst failed
      exact ⟨List.mem_cons_self,fun experiment here => by rw [found] at here; cases here⟩
    | ok experiment =>
      cases others : CleanupRequest.namedExperiments store state rest with
      | error other =>
        simp only [found,others,bind,Except.bind,Except.error.injEq] at failed
        subst failed
        obtain ⟨member,missing⟩ := ih others
        exact ⟨List.mem_cons_of_mem _ member,missing⟩
      | ok later => simp [found,others,bind,Except.bind,pure,Except.pure] at failed

/-- The experiments the handler sets out to delete. -/
def experimentTargets (store : TrackingStore State) (request : CleanupRequest) (delta : Int)
    (state : State) : List String :=
  if store.hasHardDeleteExperiment = false then []
  else if given request.experimentIds then splitCsv request.experimentIds
  else request.trashedExperimentIds store delta state

theorem admitted_iff_fetched (supported : store.hasHardDeleteExperiment = true)
    (named : given request.experimentIds = true) {experiments : List Experiment}
    (fetched : CleanupRequest.namedExperiments store state (splitCsv request.experimentIds) =
      .ok experiments) :
    ExperimentsAdmitted store request delta state ↔
      CleanupRequest.activeExperiments experiments = [] ∧
        (given request.olderThan = true → request.nonOldExperiments delta experiments = []) := by
  obtain ⟨forth,back⟩ := namedExperiments_ok fetched
  simp only [CleanupRequest.activeExperiments,CleanupRequest.nonOldExperiments,List.filter_eq_nil_iff,decide_eq_true_eq,not_not,Bool.not_eq_true]
  constructor
  · intro admitted
    have checked : ∀ experiment ∈ experiments, experiment.lifecycleStage = .deleted ∧
        (given request.olderThan = true → request.tooYoung delta experiment = false) := by
      intro experiment listed
      obtain ⟨id,member,found⟩ := back experiment listed
      obtain ⟨known,found',passes⟩ := admitted supported named id member
      rw [found] at found'
      cases found'
      exact passes
    exact ⟨fun experiment listed => (checked experiment listed).1,
      fun old experiment listed => (checked experiment listed).2 old⟩
  · rintro ⟨trashed,old⟩ _ _ id member
    obtain ⟨experiment,listed,found⟩ := forth id member
    exact ⟨experiment,found,trashed experiment listed,fun older => old older experiment listed⟩

theorem targetExperimentIds_cases (store : TrackingStore State) (request : CleanupRequest)
    (delta : Int) (state : State) :
    (ExperimentsAdmitted store request delta state ∧
      request.targetExperimentIds store delta state =
        .ok (experimentTargets store request delta state)) ∨
    (¬ ExperimentsAdmitted store request delta state ∧
      ∃ refusal, request.targetExperimentIds store delta state = .error refusal) := by
  cases supported : store.hasHardDeleteExperiment with
  | false =>
    refine .inl ⟨fun supported' => ?_,?_⟩
    · rw [supported] at supported'
      cases supported'
    · simp [CleanupRequest.targetExperimentIds,experimentTargets,supported]
  | true =>
    by_cases named : given request.experimentIds = true
    · cases fetched : CleanupRequest.namedExperiments store state (splitCsv request.experimentIds) with
      | error id =>
        obtain ⟨member,missing⟩ := namedExperiments_error fetched
        refine .inr ⟨fun admitted => ?_,?_⟩
        · obtain ⟨experiment,found,_⟩ := admitted supported named id member
          exact missing experiment found
        · simp [CleanupRequest.targetExperimentIds,supported,named,fetched]
      | ok experiments =>
        rw [admitted_iff_fetched supported named fetched]
        simp only [CleanupRequest.targetExperimentIds,experimentTargets,supported,named,fetched]
        by_cases active : CleanupRequest.activeExperiments experiments = []
        · by_cases young : given request.olderThan = true ∧
              request.nonOldExperiments delta experiments ≠ []
          · refine .inr ⟨fun passed => young.2 (passed.2 young.1),?_⟩
            simp [active,young]
          · refine .inl ⟨⟨active,fun old => by_contra fun nonempty => young ⟨old,nonempty⟩⟩,?_⟩
            simp only [ne_eq] at young
            simp [active,young]
        · refine .inr ⟨fun passed => active passed.1,?_⟩
          simp [active]
    · refine .inl ⟨fun _ named' => absurd named' named,?_⟩
      simp [CleanupRequest.targetExperimentIds,experimentTargets,supported,named]

theorem fetchExperiments_trashed (documented : Documented store) {filter : Option String}
    {depth : Nat} {token : Option String} {experiment : Experiment}
    (listed : experiment ∈ CleanupRequest.fetchExperiments store filter state depth token) :
    store.getExperiment state experiment.experimentId = .ok experiment ∧
      experiment.lifecycleStage = .deleted := by
  induction depth generalizing token with
  | zero => cases listed
  | succ depth ih =>
    unfold CleanupRequest.fetchExperiments at listed
    cases searched : store.searchExperiments state filter token with
    | error failure => simp [searched] at listed
    | ok answer =>
      obtain ⟨page,next⟩ := answer
      have own := documented.experimentsFound state filter token page next searched
      simp only [searched] at listed
      split at listed
      · rcases List.mem_append.mp listed with here | later
        · exact own experiment here
        · exact ih later
      · exact own experiment listed

end Targets

section Cleanup
variable {State : Type}

/-- Whatever is neither named nor inside a named experiment is in both states, and so is
whatever is active. -/
structure KeepsOthers (store : TrackingStore State) (request : CleanupRequest)
    (state after : State) : Prop where
  runs : ∀ id run, store.getRun state id = .ok run → id ∉ splitCsv request.runIds →
    run.experimentId ∉ splitCsv request.experimentIds → store.getRun after id = .ok run
  experiments : ∀ id experiment, store.getExperiment state id = .ok experiment →
    id ∉ splitCsv request.experimentIds → store.getExperiment after id = .ok experiment
  activeRuns : ∀ id run, store.getRun state id = .ok run → run.lifecycleStage ≠ .deleted →
    store.getRun after id = .ok run
  activeExperiments : ∀ id experiment, store.getExperiment state id = .ok experiment →
    experiment.lifecycleStage ≠ .deleted → store.getExperiment after id = .ok experiment

theorem KeepsOthers.refl (store : TrackingStore State) (request : CleanupRequest) (state : State) :
    KeepsOthers store request state state :=
  ⟨fun _ _ found _ _ => found,fun _ _ found _ => found,fun _ _ found _ => found,
    fun _ _ found _ => found⟩

/-- Run ids or experiment ids are sent along, be it an empty text. -/
def CleanupRequest.Names (request : CleanupRequest) : Prop :=
  request.runIds ≠ none ∨ request.experimentIds ≠ none

/-- A cleanup that is given ids deletes nothing but the trash they stand for. -/
def DeletesOnlyNamed (store : TrackingStore State) (request : CleanupRequest) (state : State) :
    Prop :=
  request.Names →
    KeepsOthers store request state (permanentlyDeleteAllTrashedEntities store request state).2

/-- Run ids are named, or every deleted run the store reports is inside a named experiment. -/
def RunsNamed (store : TrackingStore State) (request : CleanupRequest) (delta : Int)
    (state : State) : Prop :=
  given request.runIds = true ∨
    ∀ id ∈ CleanupRequest.deletedRunIdsOlderThan store delta state, ∀ run,
      store.getRun state id = .ok run → run.lifecycleStage = .deleted →
        run.experimentId ∈ splitCsv request.experimentIds

/-- Experiments are named, or there are none to delete. -/
def ExperimentsNamed (store : TrackingStore State) (request : CleanupRequest) (delta : Int)
    (state : State) : Prop :=
  given request.experimentIds = true ∨ store.hasHardDeleteExperiment = false ∨
    request.trashedExperimentIds store delta state = []

/-- No active run is inside a named experiment, or experiments are not deleted. -/
def ActiveOutside (store : TrackingStore State) (request : CleanupRequest) (state : State) : Prop :=
  store.hasHardDeleteExperiment = true → ∀ id run, store.getRun state id = .ok run →
    run.lifecycleStage ≠ .deleted → run.experimentId ∉ splitCsv request.experimentIds

theorem splitCsv_of_not_given {raw : Option String} (absent : given raw ≠ true) : splitCsv raw = [] := by
  cases raw with
  | none => rfl
  | some text =>
    have empty : text = "" := by simpa [given] using absent
    subst empty
    decide

variable {store : TrackingStore State} {request : CleanupRequest} {delta : Int} {state : State}

theorem experimentTargets_named (confined : ExperimentsNamed store request delta state) :
    ∀ id ∈ experimentTargets store request delta state, id ∈ splitCsv request.experimentIds := by
  intro id target
  unfold experimentTargets at target
  split at target
  · cases target
  · next supported =>
    split at target
    · exact target
    · next absent =>
      rcases confined with named | unsupported | empty
      · exact absurd named absent
      · exact absurd unsupported supported
      · rw [empty] at target
        cases target

theorem experimentTargets_supported {id : String}
    (target : id ∈ experimentTargets store request delta state) :
    store.hasHardDeleteExperiment = true := by
  by_contra unsupported
  rw [experimentTargets,if_pos (Bool.eq_false_iff.mpr unsupported)] at target
  cases target

/-- A named experiment that was admitted is a target and in the trash. -/
theorem named_target (supported : store.hasHardDeleteExperiment = true)
    (admitted : ExperimentsAdmitted store request delta state) {id : String}
    (named : id ∈ splitCsv request.experimentIds) :
    id ∈ experimentTargets store request delta state ∧
      ∃ experiment, store.getExperiment state id = .ok experiment ∧
        experiment.lifecycleStage = .deleted := by
  have present : given request.experimentIds = true := by
    by_contra absent
    rw [splitCsv_of_not_given absent] at named
    cases named
  obtain ⟨experiment,found,trashed,_⟩ := admitted supported present id named
  refine ⟨?_,experiment,found,trashed⟩
  simp only [experimentTargets,supported,present]
  exact named

/-- What the loops leave is confined to the named exactly when their targets are, and
keeps what is active exactly when no active run is inside a target. -/
theorem loops_iff (documented : Documented store) (along : TakesRunsAlong store)
    (admitted : ExperimentsAdmitted store request delta state) (report : CleanupReport)
    {final : State}
    (ran : final = ((experimentTargets store request delta state).foldl (cleanupExperiment store)
      ((request.targetRunIds store delta state).dedup.foldl (cleanupRun store request
        (CleanupRequest.deletedRunIdsOlderThan store delta state)) (report,state))).2) :
    KeepsOthers store request state final ↔
      RunsNamed store request delta state ∧ ExperimentsNamed store request delta state ∧
        ActiveOutside store request state := by
  let olderRuns := CleanupRequest.deletedRunIdsOlderThan store delta state
  let runTargets := (request.targetRunIds store delta state).dedup
  let middle := runTargets.foldl (cleanupRun store request olderRuns) (report,state)
  have runs : Removed store (fun id run => id ∈ runTargets ∧ run.lifecycleStage = .deleted)
      (fun _ => False) state middle.2 := cleanupRuns_removed documented (report,state)
  have experiments : Removed store
      (fun _ run => run.experimentId ∈ experimentTargets store request delta state)
      (fun id => id ∈ experimentTargets store request delta state) middle.2 final := by
    rw [ran]
    exact cleanupExperiments_removed documented middle
  have runTarget : ∀ id, id ∈ runTargets ↔ id ∈ request.targetRunIds store delta state :=
    fun id => List.mem_dedup
  constructor
  · rintro ⟨runsKept,experimentsKept,activeRuns,_⟩
    refine ⟨?_,?_,?_⟩
    · by_cases named : given request.runIds = true
      · exact .inl named
      · refine .inr fun id listed run found trashed => by_contra fun outside => ?_
        have unnamed : id ∉ splitCsv request.runIds := by
          rw [splitCsv_of_not_given named]
          exact List.not_mem_nil
        have survives := experiments.runsOld id run (runsKept id run found unnamed outside)
        have target : id ∈ runTargets := by
          rw [runTarget,CleanupRequest.targetRunIds,if_neg named]
          exact listed
        exact cleanupRuns_gone documented target found trashed (fun _ => listed) run survives
    · by_cases named : given request.experimentIds = true
      · exact .inl named
      cases supported : store.hasHardDeleteExperiment with
      | false => exact .inr (.inl supported)
      | true =>
        refine .inr (.inr (List.eq_nil_iff_forall_not_mem.mpr fun id listed => ?_))
        obtain ⟨experiment,fetched,rfl⟩ := List.mem_map.mp listed
        obtain ⟨found,trashed⟩ := fetchExperiments_trashed documented fetched
        have unnamed : experiment.experimentId ∉ splitCsv request.experimentIds := by
          rw [splitCsv_of_not_given named]
          exact List.not_mem_nil
        have survives := experimentsKept _ experiment found unnamed
        have target : experiment.experimentId ∈ experimentTargets store request delta state := by
          simp only [experimentTargets,supported,named]
          exact listed
        have still := runs.experimentsKept _ experiment found not_false
        rw [ran] at survives
        exact cleanupExperiments_gone documented target still trashed experiment survives
    · intro supported id run found active named
      obtain ⟨target,experiment,known,trashed⟩ := named_target supported admitted named
      have survives := activeRuns id run found active
      have still := runs.experimentsKept _ experiment known not_false
      rw [ran] at survives
      exact cleanupExperiments_takeAlong documented along target still trashed survives
  · rintro ⟨runsNamed,experimentsNamed,activeOutside⟩
    have confined := experimentTargets_named experimentsNamed
    refine ⟨?_,?_,?_,?_⟩
    · intro id run found unnamed outside
      refine experiments.runsKept id run (runs.runsKept id run found ?_)
        (fun inside => outside (confined _ inside))
      rintro ⟨target,trashed⟩
      rw [runTarget,CleanupRequest.targetRunIds] at target
      by_cases named : given request.runIds = true
      · rw [if_pos named] at target
        exact unnamed target
      · rw [if_neg named] at target
        exact outside (runsNamed.resolve_left named id target run found trashed)
    · intro id experiment found unnamed
      exact experiments.experimentsKept id experiment
        (runs.experimentsKept id experiment found not_false) (fun target => unnamed (confined id target))
    · intro id run found active
      refine experiments.runsKept id run (runs.runsKept id run found (fun gone => active gone.2)) ?_
      intro target
      exact activeOutside (experimentTargets_supported target) id run found active
        (confined _ target)
    · intro id experiment found active
      refine experiments.experimentsKept id experiment
        (runs.experimentsKept id experiment found not_false) ?_
      intro target
      obtain ⟨_,known,found',trashed⟩ :=
        named_target (experimentTargets_supported target) admitted (confined id target)
      rw [found] at found'
      cases found'
      exact active trashed

/-- For every trash and every combination of the parameters, a cleanup that is given ids
deletes only what they stand for exactly when it is refused, or both target lists are
confined to the named and no active run is inside a named experiment. -/
theorem deletesOnlyNamed_iff (store : TrackingStore State) (documented : Documented store)
    (along : TakesRunsAlong store) (request : CleanupRequest) (state : State) :
    DeletesOnlyNamed store request state ↔
      (request.Names → ∀ delta, store.hasHardDeleteRun = true → request.timeDelta = .ok delta →
        ExperimentsAdmitted store request delta state →
          RunsNamed store request delta state ∧ ExperimentsNamed store request delta state ∧
            ActiveOutside store request state) := by
  refine imp_congr_right fun _ => ?_
  -- A refused request leaves the state alone and satisfies both sides.
  have untouched : (permanentlyDeleteAllTrashedEntities store request state).2 = state →
      KeepsOthers store request state
        (permanentlyDeleteAllTrashedEntities store request state).2 := by
    intro same
    rw [same]
    exact .refl store request state
  cases supported : store.hasHardDeleteRun with
  | false =>
    have same : (permanentlyDeleteAllTrashedEntities store request state).2 = state := by
      simp [permanentlyDeleteAllTrashedEntities,supported]
    simp [untouched same]
  | true =>
    cases parsed : request.timeDelta with
    | error failure =>
      have same : (permanentlyDeleteAllTrashedEntities store request state).2 = state := by
        simp only [permanentlyDeleteAllTrashedEntities,supported,parsed]
        by_cases mlflow : failure.isMlflow = true <;> simp [mlflow]
      simp [untouched same]
    | ok delta =>
      have proceeds : permanentlyDeleteAllTrashedEntities store request state =
          cleanupTargets store request delta state := by
        simp [permanentlyDeleteAllTrashedEntities,supported,parsed]
      simp only [Except.ok.injEq,forall_const,forall_eq']
      obtain ⟨admitted,targets⟩ | ⟨refused,refusal,targets⟩ :=
        targetExperimentIds_cases store request delta state
      · have ran : (permanentlyDeleteAllTrashedEntities store request state).2 = _ :=
          congrArg Prod.snd (by rw [proceeds,cleanupTargets,targets])
        rw [loops_iff documented along admitted _ ran]
        exact ⟨fun confined _ => confined,fun confined => confined admitted⟩
      · have same : (permanentlyDeleteAllTrashedEntities store request state).2 = state := by
          rw [proceeds,cleanupTargets,targets]
        simp [untouched same,refused]

end Cleanup

section Memory

/-- A store in memory: for each id the experiment and stage of the run, or the stage and
update time of the experiment. -/
structure Trash where
  runIds : List String
  runs : String → Option (String × LifecycleStage)
  experimentIds : List String
  experiments : String → Option (LifecycleStage × Option Int)

namespace Trash

def getRun (trash : Trash) (id : String) : Except Failure RunInfo :=
  match trash.runs id with
  | some (experimentId,stage) => .ok ⟨id,experimentId,stage⟩
  | none => .error (.mlflow .resourceDoesNotExist ("Run '" ++ id ++ "' not found"))

def getExperiment (trash : Trash) (id : String) : Except Failure Experiment :=
  match trash.experiments id with
  | some (stage,updated) => .ok ⟨id,none,stage,updated,none⟩
  | none => .error (.mlflow .resourceDoesNotExist ("No Experiment with id=" ++ id ++ " exists"))

def runsIn (trash : Trash) (experimentId : String) : List RunInfo :=
  (trash.runIds.dedup.filter
    (fun id => decide (trash.runs id = some (experimentId,.deleted)))).map
      (fun id => ⟨id,experimentId,.deleted⟩)

def trashedExperiments (trash : Trash) : List Experiment :=
  trash.experimentIds.dedup.filterMap (fun id =>
    match trash.experiments id with
    | some (.deleted,updated) => some ⟨id,none,.deleted,updated,none⟩
    | _ => none)

def trashedRunIds (trash : Trash) : List String :=
  trash.runIds.dedup.filter (fun id => (trash.runs id).any (fun run => decide (run.2 = .deleted)))

def store : TrackingStore Trash where
  hasHardDeleteRun := true
  hasHardDeleteExperiment := true
  getDeletedRuns := fun trash _ => .ok trash.trashedRunIds
  getRun := getRun
  getExperiment := getExperiment
  searchExperiments := fun trash _ _ => .ok (trash.trashedExperiments,none)
  searchRuns := fun trash experimentId => .ok (trash.runsIn experimentId)
  hardDeleteRun := fun trash id =>
    match trash.getRun id with
    | .error failure => .error failure
    | .ok _ => .ok { trash with runs := Function.update trash.runs id none }
  hardDeleteExperiment := fun trash id =>
    match trash.getExperiment id with
    | .error failure => .error failure
    | .ok _ => .ok { trash with
        runs := fun runId => (trash.runs runId).filter (fun run => decide (run.1 ≠ id))
        experiments := Function.update trash.experiments id none }

theorem getRun_eq_ok {trash : Trash} {id : String} {run : RunInfo} :
    trash.getRun id = .ok run ↔
      run.runId = id ∧ trash.runs id = some (run.experimentId,run.lifecycleStage) := by
  obtain ⟨runId,experimentId,stage⟩ := run
  cases found : trash.runs id with
  | none => simp [getRun,found]
  | some known =>
    obtain ⟨inside,stage'⟩ := known
    simp [getRun,found,eq_comm]

theorem documented : Documented store where
  runDeletable trash id run found := by
    simp only [store] at found ⊢
    simp [found]
  runDeleted trash id after deleted := by
    simp only [store] at deleted ⊢
    cases found : trash.getRun id with
    | error failure => simp [found] at deleted
    | ok run =>
      simp only [found,Except.ok.injEq] at deleted
      subst deleted
      refine ⟨fun other => by simp [getRun],fun other distinct => ?_,fun other => rfl⟩
      simp [getRun,Function.update_of_ne distinct]
  experimentDeletable trash id experiment found _ := by
    simp only [store] at found ⊢
    simp [found]
  experimentDeleted trash id after deleted := by
    simp only [store] at deleted ⊢
    cases found : trash.getExperiment id with
    | error failure => simp [found] at deleted
    | ok experiment =>
      simp only [found,Except.ok.injEq] at deleted
      subst deleted
      refine ⟨fun other => by simp [getExperiment],fun other distinct => ?_,fun runId run => ?_,
        fun runId run => ?_⟩
      · simp [getExperiment,Function.update_of_ne distinct]
      · simp only [getRun_eq_ok,Option.filter_eq_some_iff]
        exact fun here => ⟨here.1,here.2.1⟩
      · simp only [getRun_eq_ok,Option.filter_eq_some_iff]
        exact fun here outside => ⟨here.1,here.2,by simpa using outside⟩
  runsSearched trash id experiment _ := ⟨_,rfl⟩
  runsFound trash experimentId runs searched := by
    simp only [store,Except.ok.injEq] at searched
    subst searched
    constructor
    · rw [runsIn,List.map_map]
      change (List.map id _).Nodup
      rw [List.map_id]
      exact (List.nodup_dedup _).filter _
    · intro run listed
      obtain ⟨runId,member,rfl⟩ := List.mem_map.mp listed
      have stored := of_decide_eq_true (List.mem_filter.mp member).2
      exact ⟨getRun_eq_ok.mpr ⟨rfl,stored⟩,rfl⟩
  experimentsFound trash filter token page next searched := by
    simp only [store,Except.ok.injEq,Prod.mk.injEq] at searched
    obtain ⟨rfl,rfl⟩ := searched
    intro experiment listed
    obtain ⟨id,_,made⟩ := List.mem_filterMap.mp listed
    split at made
    · next updated found =>
      cases made
      exact ⟨by simp [store,getExperiment,found],rfl⟩
    · cases made

theorem takesRunsAlong : TakesRunsAlong store := by
  intro trash id after deleted runId run
  simp only [store] at deleted ⊢
  cases found : trash.getExperiment id with
  | error failure => simp [found] at deleted
  | ok experiment =>
    simp only [found,Except.ok.injEq] at deleted
    subst deleted
    simp only [getRun_eq_ok,Option.filter_eq_some_iff]
    exact fun here => by simpa using here.2.2

/-- Experiment 1 and run r1 inside it are in the trash, and so is run r2 of the active
experiment 2. -/
def twoRuns : Trash where
  runIds := ["r1","r2"]
  runs := fun
    | "r1" => some ("1",.deleted)
    | "r2" => some ("2",.deleted)
    | _ => none
  experimentIds := ["1","2"]
  experiments := fun
    | "1" => some (.deleted,none)
    | "2" => some (.active,none)
    | _ => none

def cleanup (runIds experimentIds : Option String) : CleanupRequest where
  olderThan := none
  runIds := runIds
  experimentIds := experimentIds
  parseTimeDelta := fun _ => .ok 0
  currentTimeMillis := 0
  recursionLimit := 1000

end Trash

/-- Deleting experiment 1 alone, as the trash page does, also deletes run r2. -/
theorem cleanup_deletes_unnamed : Documented Trash.store ∧ TakesRunsAlong Trash.store ∧
    ¬ DeletesOnlyNamed Trash.store (Trash.cleanup none (some "1")) Trash.twoRuns := by
  refine ⟨Trash.documented,Trash.takesRunsAlong,fun only => ?_⟩
  have kept := (only (.inr (by decide))).runs "r2" ⟨"r2","2",.deleted⟩ rfl (by decide) (by decide)
  revert kept
  decide

theorem deletesOnlyNamed_iff_both :
    DeletesOnlyNamed Trash.store (Trash.cleanup (some "r1") (some "1")) Trash.twoRuns := by
  refine (deletesOnlyNamed_iff Trash.store Trash.documented Trash.takesRunsAlong _ _).mpr ?_
  intro _ delta _ _ _
  refine ⟨.inl rfl,.inl rfl,?_⟩
  intro _ id run found active
  have stored := (Trash.getRun_eq_ok.mp found).2
  simp only [Trash.twoRuns] at stored
  split at stored <;> simp_all

end Memory
end MlflowOidcAuth
