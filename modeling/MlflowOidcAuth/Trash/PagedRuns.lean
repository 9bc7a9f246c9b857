import MlflowOidcAuth.Library.Paging
import MlflowOidcAuth.Trash.Frame

/-! The permanent deletion of an experiment with its runs, over a search that returns one
page. What is deleted, and in which order, is read off a log. -/
namespace MlflowOidcAuth

inductive Deletion
  | run (runId : String)
  | experiment (experimentId : String)
deriving DecidableEq, Repr

section Log
variable {State : Type} (store : TrackingStore State)

/-- The store with a log of the deletions that went through. -/
def TrackingStore.logged : TrackingStore (State × List Deletion) where
  hasHardDeleteRun := store.hasHardDeleteRun
  hasHardDeleteExperiment := store.hasHardDeleteExperiment
  getDeletedRuns := fun state => store.getDeletedRuns state.1
  getRun := fun state => store.getRun state.1
  getExperiment := fun state => store.getExperiment state.1
  searchExperiments := fun state => store.searchExperiments state.1
  searchRuns := fun state => store.searchRuns state.1
  hardDeleteRun := fun state id =>
    (store.hardDeleteRun state.1 id).map (fun after => (after,state.2 ++ [.run id]))
  hardDeleteExperiment := fun state id =>
    (store.hardDeleteExperiment state.1 id).map (fun after => (after,state.2 ++ [.experiment id]))

variable {store} {state : State}

theorem hardDeleteRuns_logged {runs : List RunInfo} {done : State}
    (completed : hardDeleteRuns store state runs = (none,done)) (log : List Deletion) :
    hardDeleteRuns store.logged (state,log) runs =
      (none,(done,log ++ runs.map (fun run => .run run.runId))) := by
  induction runs generalizing state log with
  | nil =>
    cases completed
    simp [hardDeleteRuns]
  | cons run rest ih =>
    cases deleted : store.hardDeleteRun state run.runId with
    | error failure => simp [hardDeleteRuns,deleted] at completed
    | ok after =>
      have went : store.logged.hardDeleteRun (state,log) run.runId =
          .ok (after,log ++ [.run run.runId]) := by
        simp only [TrackingStore.logged,deleted]
        rfl
      simp only [hardDeleteRuns,deleted] at completed
      simp only [hardDeleteRuns,went,ih completed,List.map_cons,List.append_assoc,List.cons_append,
        List.nil_append]

end Log

section Page
variable {State : Type} {store : TrackingStore State} {state : State} {experimentId : String}
  {pageSize : Nat} {deletedRuns : List RunInfo}

/-- The deleted runs of the experiment, and a search that returns the first page of them; the
token for the next page is not read. -/
structure FirstPage (store : TrackingStore State) (state : State) (experimentId : String)
    (pageSize : Nat) (deletedRuns : List RunInfo) : Prop where
  distinct : (deletedRuns.map RunInfo.runId).Nodup
  complete : ∀ run, run ∈ deletedRuns ↔ store.getRun state run.runId = .ok run ∧
    run.experimentId = experimentId ∧ run.lifecycleStage = .deleted
  searched : store.searchRuns state experimentId = .ok (deletedRuns.take pageSize)

/-- A call that does not fail deletes every deleted run of the experiment before the experiment,
and no run of another. -/
def DeletesWhole (store : TrackingStore State) (experimentId : String) (state : State) : Prop :=
  ∀ done log, hardDeleteExperimentWithRuns store.logged experimentId (state,[]) =
      (none,(done,log)) →
    (∀ run, store.getRun state run.runId = .ok run → run.experimentId = experimentId →
      run.lifecycleStage = .deleted →
      ∃ earlier later, log = earlier ++ .experiment experimentId :: later ∧
        .run run.runId ∈ earlier) ∧
    ∀ id run, store.getRun state id = .ok run → run.experimentId ≠ experimentId →
      .run id ∉ log ∧ store.getRun done id = .ok run

theorem FirstPage.present (page : FirstPage store state experimentId pageSize deletedRuns) :
    ∀ run ∈ deletedRuns.take pageSize, store.getRun state run.runId = .ok run ∧
      run.experimentId = experimentId := by
  intro run member
  obtain ⟨found,inside,_⟩ := (page.complete run).mp (List.mem_of_mem_take member)
  exact ⟨found,inside⟩

/-- The call goes through, and logs the first page and then the experiment. -/
theorem FirstPage.deletes (documented : Documented store)
    (page : FirstPage store state experimentId pageSize deletedRuns) {experiment : Experiment}
    (found : store.getExperiment state experimentId = .ok experiment)
    (trashed : experiment.lifecycleStage = .deleted) :
    ∃ done, hardDeleteExperimentWithRuns store experimentId state = (none,done) ∧
      hardDeleteExperimentWithRuns store.logged experimentId (state,[]) =
        (none,(done,(deletedRuns.take pageSize).map (fun run => .run run.runId) ++
          [.experiment experimentId])) := by
  have distinct : ((deletedRuns.take pageSize).map RunInfo.runId).Nodup := by
    rw [List.map_take]
    exact page.distinct.sublist (List.take_sublist _ _)
  have completes := hardDeleteRuns_completes documented distinct
    (fun run member => (page.present run member).1)
  have removed := hardDeleteRuns_removed documented (deletedRuns.take pageSize) state
  cases ran : hardDeleteRuns store state (deletedRuns.take pageSize) with
  | mk outcome middle =>
    rw [ran] at completes removed
    cases completes
    have still := removed.experimentsKept experimentId experiment found not_false
    obtain ⟨done,deleted⟩ := documented.experimentDeletable middle experimentId experiment still trashed
    have loggedSearch : store.logged.searchRuns (state,[]) experimentId =
        .ok (deletedRuns.take pageSize) := page.searched
    have went : ∀ log, store.logged.hardDeleteExperiment (middle,log) experimentId =
        .ok (done,log ++ [.experiment experimentId]) := by
      intro log
      simp only [TrackingStore.logged,deleted]
      rfl
    refine ⟨done,?_,?_⟩
    · simp only [hardDeleteExperimentWithRuns,page.searched,ran,deleted]
    · simp only [hardDeleteExperimentWithRuns,loggedSearch,hardDeleteRuns_logged ran [],went,
        List.nil_append]

theorem run_mem_log (experimentId : String) {runs : List RunInfo} {id : String} :
    .run id ∈ runs.map (fun run => Deletion.run run.runId) ++ [.experiment experimentId] ↔
      id ∈ runs.map RunInfo.runId := by
  simp

theorem deletesWhole_of_page (documented : Documented store)
    (page : FirstPage store state experimentId pageSize deletedRuns) {experiment : Experiment}
    (found : store.getExperiment state experimentId = .ok experiment)
    (trashed : experiment.lifecycleStage = .deleted) :
    DeletesWhole store experimentId state ↔
      ∀ run ∈ deletedRuns, run.runId ∈ (deletedRuns.take pageSize).map RunInfo.runId := by
  obtain ⟨done,ran,logged⟩ := page.deletes documented found trashed
  constructor
  · intro whole run member
    obtain ⟨there,inside,deleted⟩ := (page.complete run).mp member
    obtain ⟨earlier,later,same,before⟩ := (whole _ _ logged).1 run there inside deleted
    apply (run_mem_log experimentId).mp
    rw [same]
    exact List.mem_append_left _ before
  · intro paged other log went
    rw [logged] at went
    cases went
    constructor
    · intro run there inside deleted
      have member := paged run ((page.complete run).mpr ⟨there,inside,deleted⟩)
      refine ⟨_,[],rfl,?_⟩
      obtain ⟨listed,isListed,same⟩ := List.mem_map.mp member
      exact List.mem_map.mpr ⟨listed,isListed,congrArg Deletion.run same⟩
    · intro id run there outside
      constructor
      · intro member
        obtain ⟨listed,isListed,rfl⟩ := List.mem_map.mp ((run_mem_log experimentId).mp member)
        obtain ⟨stored,inside⟩ := page.present listed isListed
        rw [there] at stored
        cases stored
        exact outside inside
      · have removed := hardDeleteExperimentWithRuns_removed documented experimentId state
        rw [ran] at removed
        exact removed.runsKept id run there outside

/-- The call deletes every deleted run exactly when one page holds them. -/
theorem deletesWhole_iff (store : TrackingStore State) (documented : Documented store)
    (state : State) (experimentId : String) (experiment : Experiment)
    (found : store.getExperiment state experimentId = .ok experiment)
    (trashed : experiment.lifecycleStage = .deleted) (pageSize : Nat) (deletedRuns : List RunInfo)
    (page : FirstPage store state experimentId pageSize deletedRuns) :
    DeletesWhole store experimentId state ↔ deletedRuns.length ≤ pageSize :=
  (deletesWhole_of_page documented page found trashed).trans
    (Paging.first_page_iff page.distinct pageSize)

end Page

section Memory
namespace Trash

/-- The store in memory, searched page by page. -/
def paged (pageSize : Nat) : TrackingStore Trash :=
  { store with
    searchExperiments := fun trash _ token =>
      match token with
      | none => .ok (trash.trashedExperiments.take pageSize,
          if pageSize < trash.trashedExperiments.length then some "rest" else none)
      | some _ => .ok (trash.trashedExperiments.drop pageSize,none)
    searchRuns := fun trash experimentId => .ok ((trash.runsIn experimentId).take pageSize) }

theorem documented_paged (pageSize : Nat) : Documented (paged pageSize) where
  runDeletable := documented.runDeletable
  runDeleted := documented.runDeleted
  experimentDeletable := documented.experimentDeletable
  experimentDeleted := documented.experimentDeleted
  runsSearched := fun _ _ _ _ => ⟨_,rfl⟩
  runsFound := by
    intro trash id runs searched
    cases searched
    obtain ⟨distinct,own⟩ := documented.runsFound trash id _ rfl
    refine ⟨?_,fun run member => own run (List.mem_of_mem_take member)⟩
    rw [List.map_take]
    exact distinct.sublist (List.take_sublist _ _)
  experimentsFound := by
    intro trash filter token page next searched
    have all := documented.experimentsFound trash filter none _ none rfl
    cases token with
    | none =>
      cases searched
      exact fun experiment member => all experiment (List.mem_of_mem_take member)
    | some later =>
      cases searched
      exact fun experiment member => all experiment (List.mem_of_mem_drop member)

/-- Every run is listed, so that the searches find it. -/
def Listed (trash : Trash) : Prop :=
  ∀ id, (trash.runs id).isSome = true → id ∈ trash.runIds

theorem firstPage_paged {trash : Trash} (listed : trash.Listed) (pageSize : Nat)
    (experimentId : String) :
    FirstPage (paged pageSize) trash experimentId pageSize (trash.runsIn experimentId) where
  distinct := (documented.runsFound trash experimentId _ rfl).1
  searched := rfl
  complete := by
    intro run
    constructor
    · intro member
      obtain ⟨found,inside⟩ := (documented.runsFound trash experimentId _ rfl).2 run member
      obtain ⟨id,_,rfl⟩ := List.mem_map.mp member
      exact ⟨found,inside,rfl⟩
    · rintro ⟨found,inside,deleted⟩
      obtain ⟨_,stored⟩ := getRun_eq_ok.mp found
      obtain ⟨runId,experimentId',stage⟩ := run
      simp only at stored inside deleted
      subst inside deleted
      refine List.mem_map.mpr ⟨runId,List.mem_filter.mpr ⟨?_,by simp [stored]⟩,rfl⟩
      exact List.mem_dedup.mpr (listed runId (by simp [stored]))

def nameOf (n : Nat) : String := String.ofList (List.replicate n 'r')

def names (count : Nat) : List String := (List.range count).map nameOf

theorem names_nodup (count : Nat) : (names count).Nodup := by
  refine List.Nodup.map ?_ List.nodup_range
  intro n m same
  have lists := congrArg String.toList same
  simpa [nameOf] using lists

/-- Experiment 1 is in the trash with so many runs. -/
def crowded (count : Nat) : Trash where
  runIds := names count
  runs := fun id => if id ∈ names count then some ("1",.deleted) else none
  experimentIds := ["1"]
  experiments := fun id => if id = "1" then some (.deleted,some 5) else none

theorem getExperiment_crowded (pageSize count : Nat) :
    (paged pageSize).getExperiment (crowded count) "1" =
      .ok ⟨"1",none,.deleted,some 5,none⟩ := rfl

theorem listed_crowded (count : Nat) : (crowded count).Listed := by
  intro id known
  by_contra unknown
  simp only [crowded] at unknown known
  rw [if_neg unknown] at known
  cases known

theorem length_crowded (count : Nat) : ((crowded count).runsIn "1").length = count := by
  have all : (names count).filter
      (fun id => decide ((crowded count).runs id = some ("1",.deleted))) = names count := by
    apply List.filter_eq_self.mpr
    intro id member
    simp [crowded,member]
  have names : ((crowded count).runIds.dedup).filter
      (fun id => decide ((crowded count).runs id = some ("1",.deleted))) = names count := by
    rw [← all]
    exact congrArg _ (names_nodup count).dedup
  rw [runsIn,names,List.length_map,Trash.names,List.length_map,List.length_range]

end Trash

theorem deletesWhole_two : DeletesWhole (Trash.paged 1000) "1" (Trash.crowded 2) :=
  (deletesWhole_iff _ (Trash.documented_paged 1000) _ "1" _ (Trash.getExperiment_crowded 1000 2) rfl
    1000 _ (Trash.firstPage_paged (Trash.listed_crowded 2) 1000 "1")).mpr
    (by rw [Trash.length_crowded]; omega)

/-- The last of 1001 runs is left behind with its artifacts. -/
theorem leaves_last_run : Documented (Trash.paged 1000) ∧
    FirstPage (Trash.paged 1000) (Trash.crowded 1001) "1" 1000
      ((Trash.crowded 1001).runsIn "1") ∧
    ¬ DeletesWhole (Trash.paged 1000) "1" (Trash.crowded 1001) := by
  have page := Trash.firstPage_paged (Trash.listed_crowded 1001) 1000 "1"
  refine ⟨Trash.documented_paged 1000,page,?_⟩
  intro whole
  have paged := (deletesWhole_of_page (Trash.documented_paged 1000) page
    (Trash.getExperiment_crowded 1000 1001) rfl).mp whole
  have fits := (Paging.first_page_iff page.distinct 1000).mp paged
  rw [Trash.length_crowded] at fits
  omega

end Memory
end MlflowOidcAuth
