import Mathlib.Data.List.Dedup
import MlflowOidcAuth.Quota.Reconcile

/-! Which permission rows a reconciliation deletes: those of the owned experiments
that no visited workspace showed, whether or not they still exist. -/
namespace MlflowOidcAuth
open Effects KeyedCache Sweep

section Visits
variable (around : Surroundings)

def probeOf {α : Type} : Except Failure α → Probe
  | .ok _ => .located
  | .error failure => if failure.isMlflow then .elsewhere else .raised

/-- What asking for an experiment or a model from inside a workspace comes to. -/
def probe (workspaceName : Option String) : String ⊕ String → Probe
  | .inl experimentId => probeOf (around.getExperiment workspaceName experimentId)
  | .inr modelName => probeOf (around.searchModelVersions workspaceName (modelFilter modelName))

/-- A visit raises, finds nothing, or strikes one item off its list and touches
neither the database nor the other list. -/
theorem visitExperiment_cases (workspaceName : Option String) (id : String) (state : SweepState) :
    (probe around workspaceName (.inl id) = .raised ∧
      ∃ failure, visitExperiment around workspaceName id state = .error failure state) ∨
    (probe around workspaceName (.inl id) = .elsewhere ∧
      visitExperiment around workspaceName id state = .ok () state) ∨
    (probe around workspaceName (.inl id) = .located ∧
      ∃ reached, visitExperiment around workspaceName id state = .ok () reached ∧
        reached.db = state.db ∧ reached.remainingModels = state.remainingModels ∧
        reached.remainingExperiments =
          state.remainingExperiments.filter (fun other => decide (other ≠ id))) := by
  cases answer : around.getExperiment workspaceName id with
  | error failure =>
    by_cases mlflow : failure.isMlflow = true
    · refine .inr (.inl ⟨by simp [probe,probeOf,answer,mlflow],?_⟩)
      simp only [visitExperiment,answer,if_pos mlflow]
    · refine .inl ⟨by simp [probe,probeOf,answer,mlflow],failure,?_⟩
      simp only [visitExperiment,answer,if_neg mlflow]
  | ok experiment =>
    refine .inr (.inr ⟨by simp [probe,probeOf,answer],?_⟩)
    simp only [visitExperiment,answer]
    cases experiment.lifecycleStage <;> exact ⟨_,rfl,rfl,rfl,rfl⟩

theorem visitModel_cases (workspaceName : Option String) (name : String) (state : SweepState) :
    (probe around workspaceName (.inr name) = .raised ∧
      ∃ failure, visitModel around workspaceName name state = .error failure state) ∨
    (probe around workspaceName (.inr name) = .elsewhere ∧
      visitModel around workspaceName name state = .ok () state) ∨
    (probe around workspaceName (.inr name) = .located ∧
      ∃ reached, visitModel around workspaceName name state = .ok () reached ∧
        reached.db = state.db ∧ reached.remainingExperiments = state.remainingExperiments ∧
        reached.remainingModels =
          state.remainingModels.filter (fun other => decide (other ≠ name))) := by
  cases answer : around.searchModelVersions workspaceName (modelFilter name) with
  | error failure =>
    by_cases mlflow : failure.isMlflow = true
    · refine .inr (.inl ⟨by simp [probe,probeOf,answer,mlflow],?_⟩)
      simp only [visitModel,answer,if_pos mlflow]
    · refine .inl ⟨by simp [probe,probeOf,answer,mlflow],failure,?_⟩
      simp only [visitModel,answer,if_neg mlflow]
  | ok versions =>
    refine .inr (.inr ⟨by simp [probe,probeOf,answer],?_⟩)
    simp only [visitModel,answer]
    exact ⟨_,rfl,rfl,rfl,rfl⟩

theorem visits_experiments (workspaceName : Option String) :
    Visits (visitExperiment around workspaceName) (fun state => state.remainingExperiments)
      (fun id => probe around workspaceName (.inl id)) := by
  intro id state
  obtain ⟨raises,failure,ran⟩ | ⟨elsewhere,ran⟩ | ⟨located,reached,ran,_,_,left⟩ :=
    visitExperiment_cases around workspaceName id state
  · exact .inl ⟨raises,failure,state,ran⟩
  · exact .inr ⟨by simp [elsewhere],state,ran,by simp [elsewhere]⟩
  · exact .inr ⟨by simp [located],reached,ran,by simp [located,left]⟩

theorem visits_models (workspaceName : Option String) :
    Visits (visitModel around workspaceName) (fun state => state.remainingModels)
      (fun name => probe around workspaceName (.inr name)) := by
  intro name state
  obtain ⟨raises,failure,ran⟩ | ⟨elsewhere,ran⟩ | ⟨located,reached,ran,_,_,left⟩ :=
    visitModel_cases around workspaceName name state
  · exact .inl ⟨raises,failure,state,ran⟩
  · exact .inr ⟨by simp [elsewhere],state,ran,by simp [elsewhere]⟩
  · exact .inr ⟨by simp [located],reached,ran,by simp [located,left]⟩

theorem keeps_visitExperiment (workspaceName : Option String) (id : String) :
    Keeps (fun state : SweepState => (state.db,state.remainingModels))
      (visitExperiment around workspaceName id) := by
  intro state
  obtain ⟨_,failure,ran⟩ | ⟨_,ran⟩ | ⟨_,reached,ran,db,models,_⟩ :=
    visitExperiment_cases around workspaceName id state
  · simp only [after,finish,ran]
  · simp only [after,finish,ran]
  · simp only [after,finish,ran,db,models]

theorem keeps_visitModel (workspaceName : Option String) (name : String) :
    Keeps (fun state : SweepState => (state.db,state.remainingExperiments))
      (visitModel around workspaceName name) := by
  intro state
  obtain ⟨_,failure,ran⟩ | ⟨_,ran⟩ | ⟨_,reached,ran,db,experiments,_⟩ :=
    visitModel_cases around workspaceName name state
  · simp only [after,finish,ran]
  · simp only [after,finish,ran]
  · simp only [after,finish,ran,db,experiments]

theorem visitWorkspace_eq (workspaceName : Option String) (state : SweepState) :
    visitWorkspace around workspaceName state =
      (state.remainingExperiments.forM (visitExperiment around workspaceName) >>= fun _ => do
        let reached ← get
        reached.remainingModels.forM (visitModel around workspaceName)) state := rfl

/-- One workspace strikes off what it shows, experiments first. -/
theorem visitWorkspace_passed (workspaceName : Option String) (state : SweepState) :
    Passed SweepState.remaining (visitWorkspace around workspaceName state)
      (∃ item ∈ state.remaining, probe around workspaceName item = .raised)
      (state.remaining.filter
        (fun item => decide (probe around workspaceName item ≠ .located))) := by
  have frame : Keeps (fun state : SweepState => (state.db,state.remainingModels))
      (state.remainingExperiments.forM (visitExperiment around workspaceName)) :=
    Keeps.forM (keeps_visitExperiment around workspaceName)
  rw [visitWorkspace_eq]
  rcases (visits_experiments around workspaceName).forM state.remainingExperiments state with
    ⟨⟨id,member,raises⟩,failure,reached,ran⟩ | ⟨none,reached,ran,left⟩
  · rw [bind_of_error ran]
    exact .inl ⟨⟨.inl id,by simp [SweepState.remaining,member],raises⟩,failure,reached,rfl⟩
  rw [bind_of_ok ran]
  have models : reached.remainingModels = state.remainingModels :=
    congrArg Prod.snd (frame.of_ok ran)
  have second : (do
        let reached ← get
        reached.remainingModels.forM (visitModel around workspaceName) :
          EStateM Failure SweepState PUnit) reached =
      reached.remainingModels.forM (visitModel around workspaceName) reached := rfl
  rw [second]
  have frame' : Keeps (fun state : SweepState => (state.db,state.remainingExperiments))
      (reached.remainingModels.forM (visitModel around workspaceName)) :=
    Keeps.forM (keeps_visitModel around workspaceName)
  rcases (visits_models around workspaceName).forM reached.remainingModels reached with
    ⟨⟨name,member,raises⟩,failure,stopped,ran'⟩ | ⟨none',done,ran',left'⟩
  · rw [models] at member
    exact .inl ⟨⟨.inr name,by simp [SweepState.remaining,member],raises⟩,failure,stopped,ran'⟩
  · have experiments : done.remainingExperiments = reached.remainingExperiments :=
      congrArg Prod.snd (frame'.of_ok ran')
    refine .inr ⟨?_,done,ran',?_⟩
    · rintro ⟨item,member,raises⟩
      rcases List.mem_append.mp member with inl | inr
      · obtain ⟨id,asked,rfl⟩ := List.mem_map.mp inl
        exact none ⟨id,asked,raises⟩
      · obtain ⟨name,asked,rfl⟩ := List.mem_map.mp inr
        exact none' ⟨name,models ▸ asked,raises⟩
    · simp only [SweepState.remaining,experiments,left,left',models,List.filter_append,
        List.filter_map]
      congr 2
      · exact List.filter_congr (fun id member => by simp [member])
      · exact List.filter_congr (fun name member => by simp [member])

theorem keeps_visitWorkspace (workspaceName : Option String) :
    Keeps (fun state : SweepState => state.db) (visitWorkspace around workspaceName) := by
  refine keeps_get.bind fun entered => Keeps.bind (Keeps.forM fun id => ?_)
    (fun _ => keeps_get.bind fun reached => Keeps.forM fun name => ?_)
  · exact fun state => congrArg Prod.fst (keeps_visitExperiment around workspaceName id state)
  · exact fun state => congrArg Prod.fst (keeps_visitModel around workspaceName name state)

end Visits

section Rows

/-- The rows that grant an experiment to users and to groups. -/
def permissionRows (db : Database) (experimentId : String) (holder : Holder) :
    List SqlPermission :=
  (directRows db holder .experiment).filter
    (fun row => decide (row.key.resourceId = experimentId))

theorem wipeOrphan_rows (id : String) (state : QuotaState) :
    ∃ reached, wipeOrphan id state = .ok () reached ∧ permissionRows reached.db id = (fun _ => []) ∧
      ∀ other, other ≠ id → permissionRows reached.db other = permissionRows state.db other := by
  obtain ⟨wiped,ran,rows⟩ := wipeExperimentPermissions_commits id state.db
  refine ⟨⟨wiped,state.sizeCache.delete id⟩,by simp only [wipeOrphan,ran],?_,?_⟩
  · funext holder
    simp [permissionRows,directRows,rows]
  · intro other distinct
    funext holder
    simp only [permissionRows,directRows,rows,List.filter_filter]
    refine List.filter_congr fun row _ => ?_
    by_cases same : row.key.resourceId = other
    · simp [same,distinct]
    · simp [same]

/-- Wiping a list of experiments empties their rows and keeps every other. -/
theorem wipeOrphans_rows (ids : List String) (state : QuotaState) :
    ∃ reached, ids.forM wipeOrphan state = .ok () reached ∧
      (∀ id ∈ ids, permissionRows reached.db id = (fun _ => [])) ∧
      ∀ id, id ∉ ids → permissionRows reached.db id = permissionRows state.db id := by
  induction ids generalizing state with
  | nil => exact ⟨state,rfl,by simp,by simp⟩
  | cons first rest ih =>
    obtain ⟨middle,ran,emptied,others⟩ := wipeOrphan_rows first state
    obtain ⟨reached,ran',emptied',others'⟩ := ih middle
    refine ⟨reached,(bind_of_ok ran).trans ran',fun id member => ?_,fun id absent => ?_⟩
    · by_cases later : id ∈ rest
      · exact emptied' id later
      · have same : id = first := (List.mem_cons.mp member).resolve_right later
        rw [others' id later,same,emptied]
    · have distinct : id ≠ first := fun same => absent (same ▸ List.mem_cons_self)
      rw [others' id (fun later => absent (List.mem_cons_of_mem _ later)),others id distinct]

end Rows

section Calculation
variable (around : Surroundings)

/-- The resources of a family that the user holds `MANAGE` on. -/
def ownedBy (db : Database) (family : Family) (username : String) : List String :=
  match db.tables.listPermissionsForUser family username with
  | .ok rows => ownedNames rows
  | .error _ => []

/-- The owned experiments whose size is not cached. -/
def unsized (state : QuotaState) (username : String) : List String :=
  (ownedBy state.db .experiment username).filter (fun id => (state.sizeCache.get id).isNone)

/-- What a calculation looks for in the workspaces. -/
def lookedFor (state : QuotaState) (username : String) : List (String ⊕ String) :=
  (state.startSweep (ownedBy state.db .experiment username)
    (ownedBy state.db .registeredModel username)).remaining

theorem mem_lookedFor {state : QuotaState} {username id : String} :
    .inl id ∈ lookedFor state username ↔ id ∈ unsized state username := by
  simp [lookedFor,SweepState.remaining,QuotaState.startSweep,unsized]

/-- The experiments a calculation takes for orphans: no raise ended the sweep, and no
workspace it visited showed them. -/
def Orphaned (state : QuotaState) (username id : String) : Prop :=
  ¬ Interrupted (probe around) (iterWorkspaceNames around) (lookedFor state username) ∧
    id ∈ unsized state username ∧
    Unlocated (probe around) (iterWorkspaceNames around) (.inl id)

theorem mem_remainingExperiments {state : SweepState} {id : String} :
    id ∈ state.remainingExperiments ↔ .inl id ∈ state.remaining := by
  simp [SweepState.remaining]

theorem listPermissions_of_user {t : Tables} {family : Family} (other : Family)
    {username : String} {rows : List SqlPermission} (listed : t.listPermissionsForUser family username = .ok rows) :
    ∃ rows', t.listPermissionsForUser other username = .ok rows' := by
  unfold Tables.listPermissionsForUser at listed ⊢
  cases user : t.getUser username with
  | error failure => simp [user,bind,Except.bind] at listed
  | ok user' => exact ⟨_,rfl⟩

/-- The database `db` that a calculation leaves: no rows for the orphans, and every
row of the others. -/
def OrphansWiped (username : String) (state : QuotaState) (db : Database) : Prop :=
  ∀ id, (Orphaned around state username id → permissionRows db id = (fun _ => [])) ∧
    (¬ Orphaned around state username id → permissionRows db id = permissionRows state.db id)

theorem orphansWiped_unchanged {username : String} {state : QuotaState}
    (nothing : unsized state username = []) :
    OrphansWiped around username state state.db := by
  intro id
  refine ⟨fun orphaned => ?_,fun _ => rfl⟩
  have member := orphaned.2.1
  rw [nothing] at member
  exact absurd member List.not_mem_nil

theorem calculateUsedBytes_rows (username : String) (state : QuotaState) :
    OrphansWiped around username state (after (calculateUsedBytes around username) state).db := by
  cases experiments : state.db.tables.listPermissionsForUser .experiment username with
  | error failure =>
    have same : after (calculateUsedBytes around username) state = state := by
      simp only [after,finish,calculateUsedBytes,experiments]
    rw [same]
    apply orphansWiped_unchanged
    simp [unsized,ownedBy,experiments]
  | ok expPerms =>
    obtain ⟨modelPerms,models⟩ := listPermissions_of_user .registeredModel experiments
    by_cases empty : ownedNames expPerms = [] ∧ ownedNames modelPerms = []
    · have same : after (calculateUsedBytes around username) state = state := by
        simp only [after,finish,calculateUsedBytes,experiments,models,if_pos empty]
      rw [same]
      apply orphansWiped_unchanged
      simp [unsized,ownedBy,experiments,empty.1]
    have looked : (state.startSweep (ownedNames expPerms) (ownedNames modelPerms)).remaining =
        lookedFor state username := by
      simp only [lookedFor,ownedBy,experiments,models]
    have kept : Keeps (fun state : SweepState => state.db)
        (sweep (visitWorkspace around) SweepState.remaining (iterWorkspaceNames around)) :=
      keeps_sweep (keeps_visitWorkspace around) _
    intro id
    rcases sweep_passed (visitWorkspace_passed around) (iterWorkspaceNames around)
        (state.startSweep (ownedNames expPerms) (ownedNames modelPerms)) with
      ⟨stopped,failure,swept,ran⟩ | ⟨completed,swept,ran,left⟩
    · have same : swept.db = state.db := kept.of_error ran
      rw [looked] at stopped
      refine ⟨fun orphaned => absurd stopped orphaned.1,fun _ => ?_⟩
      simp only [after,finish,calculateUsedBytes,experiments,models,if_neg empty,ran,same]
    · have same : swept.db = state.db := kept.of_ok ran
      obtain ⟨reached,wiped,emptied,others⟩ :=
        wipeOrphans_rows swept.remainingExperiments swept.toQuotaState
      have orphans : id ∈ swept.remainingExperiments ↔ Orphaned around state username id := by
        rw [looked] at completed
        rw [mem_remainingExperiments,left,looked]
        simp [Orphaned,completed,mem_lookedFor]
      have result : (after (calculateUsedBytes around username) state).db = reached.db := by
        simp only [after,finish,calculateUsedBytes,experiments,models,if_neg empty,ran,wiped]
      rw [result,← orphans]
      refine ⟨emptied id,fun absent => ?_⟩
      rw [others id absent,same]

end Calculation

section Reconciliation
variable (around : Surroundings)

/-- Whether a reconciliation comes to measure: the user has no quota row, or one with
a limit. -/
def Measures (db : Database) (username : String) : Prop :=
  match db.tables.quotaOf username with
  | .ok none => True
  | .ok (some quota) => (effectiveQuotaBytes around quota).isSome
  | .error _ => False

def stateRows (state : QuotaState) : Holder → Family → List SqlPermission := directRows state.db

theorem keeps_onStore {α : Type} {method : EStateM Failure Database α}
    (kept : Keeps directRows method) : Keeps stateRows (onStore method) := by
  intro state
  have same := kept state.db
  unfold after onStore
  unfold after at same
  cases ran : method state.db with
  | ok value db =>
    rw [ran] at same
    exact same
  | error failure db =>
    rw [ran] at same
    exact same

theorem keeps_storeIf {condition : Bool} {method : EStateM Failure Database PUnit}
    (kept : Keeps directRows method) : Keeps stateRows (storeIf condition method) :=
  (keeps_onStore kept).ite (keeps_pure _)

theorem keeps_notifyHardCap (username : String) (quota : SqlUserQuota) :
    Keeps stateRows (notifyHardCap around username quota) := by
  unfold notifyHardCap
  cases hardCapDue around quota with
  | error failure => exact keeps_throw _
  | ok due => exact keeps_storeIf (keeps_changeQuota _ _)

theorem keeps_applyThresholds (username : String) (quota : SqlUserQuota) (effectiveQuota : Int)
    (used : Nat) : Keeps stateRows (applyThresholds around username quota effectiveQuota used) := by
  refine (keeps_throw _).ite (Keeps.ite ?_ ?_)
  · exact (keeps_storeIf (keeps_changeQuota _ _)).bind fun _ => keeps_notifyHardCap around _ _
  · refine (keeps_storeIf (keeps_changeQuota _ _)).bind fun _ => Keeps.ite ?_ ?_
    · exact keeps_storeIf (keeps_changeQuota _ _)
    · exact keeps_storeIf (keeps_changeQuota _ _)

theorem keeps_clearEnforcement (username : String) (quota : SqlUserQuota) :
    Keeps stateRows (clearEnforcement username quota) :=
  (keeps_storeIf (keeps_changeQuota _ _)).bind fun _ => keeps_storeIf (keeps_changeQuota _ _)

theorem reconcileUserQuota_rows (username : String) (state : QuotaState) :
    (Measures around state.db username →
      stateRows (after (reconcileUserQuota around username) state) =
        stateRows (after (calculateUsedBytes around username) state)) ∧
    (¬ Measures around state.db username →
      stateRows (after (reconcileUserQuota around username) state) = stateRows state) := by
  cases found : state.db.tables.quotaOf username with
  | error failure =>
    have read : onStore (getUserQuota username) state = .error failure state := by
      simp only [onStore,getUserQuota,found]
    have raised : reconcileUserQuota around username state = .error failure state :=
      bind_of_error read
    simp [Measures,found,after,raised,finish]
  | ok quota =>
    have read : onStore (getUserQuota username) state = .ok quota state := by
      simp only [onStore,getUserQuota,found]
    cases quota with
    | none =>
      have run : reconcileUserQuota around username state =
          (calculateUsedBytes around username >>= fun measured => do
            onStore (setUserQuota username none none)
            onStore (updateUserQuotaUsedBytes around.reconciledAt username measured.1)
            return measured.2) state := bind_of_ok read
      simp only [Measures,found,after,run]
      refine ⟨fun _ => after_bind (fun measured => ?_) state,fun stays => absurd trivial stays⟩
      exact (keeps_onStore (keeps_setUserQuota _ _ _)).bind fun _ =>
        (keeps_onStore (keeps_changeQuota _ _)).bind fun _ => keeps_pure _
    | some quota =>
      cases limit : effectiveQuotaBytes around quota with
      | none =>
        have run : reconcileUserQuota around username state =
            (clearEnforcement username quota >>= fun _ => pure Cache.empty) state := by
          refine (bind_of_ok read).trans ?_
          simp only [limit]
        simp only [Measures,found,limit,after,run]
        refine ⟨fun measures => by simp at measures,fun _ => ?_⟩
        exact ((keeps_clearEnforcement username quota).bind fun _ => keeps_pure _) state
      | some effectiveQuota =>
        have run : reconcileUserQuota around username state =
            (calculateUsedBytes around username >>= fun measured => do
              onStore (updateUserQuotaUsedBytes around.reconciledAt username measured.1)
              applyThresholds around username quota effectiveQuota measured.1
              return measured.2) state := by
          refine (bind_of_ok read).trans ?_
          simp only [limit]
        simp only [Measures,found,limit,after,run]
        refine ⟨fun _ => after_bind (fun measured => ?_) state,fun stays => by simp at stays⟩
        exact (keeps_onStore (keeps_changeQuota _ _)).bind fun _ =>
          (keeps_applyThresholds around _ _ _ _).bind fun _ => keeps_pure _

end Reconciliation

section Deployment

/-- The tracking server as it is: its workspaces, or the one scope `none` without
workspaces, and the experiments each of them holds. -/
structure Deployment where
  workspaces : List (Option String)
  holds : Option String → String → Bool

def Deployment.Exists (deployment : Deployment) (experimentId : String) : Prop :=
  ∃ workspaceName ∈ deployment.workspaces, deployment.holds workspaceName experimentId = true

/-- The answers that decide something are true, and every workspace is listed. -/
structure Truthful (around : Surroundings) (deployment : Deployment) : Prop where
  found : ∀ workspaceName id experiment,
    around.getExperiment workspaceName id = .ok experiment → deployment.Exists id
  missing : ∀ workspaceName ∈ deployment.workspaces, ∀ id failure,
    around.getExperiment workspaceName id = .error failure → failure.isMissing = true →
      deployment.holds workspaceName id = false
  listed : ∀ workspaceName ∈ deployment.workspaces, workspaceName ∈ iterWorkspaceNames around

/-- A reconciliation wipes no rows of an experiment that some workspace holds. -/
def KeepsExisting (around : Surroundings) (deployment : Deployment) (username : String)
    (state : QuotaState) : Prop :=
  ∀ id, deployment.Exists id →
    permissionRows (after (reconcileUserQuota around username) state).db id =
      permissionRows state.db id

theorem rows_of_unsized {state : QuotaState} {username id : String}
    (owned : id ∈ unsized state username) : permissionRows state.db id .user ≠ [] := by
  have member := (List.mem_filter.mp owned).1
  unfold ownedBy at member
  split at member
  · next rows listed =>
    obtain ⟨row,manages,rfl⟩ := List.mem_map.mp member
    have stored : row ∈ state.db.tables.userPermissions .experiment := by
      unfold Tables.listPermissionsForUser at listed
      cases user : state.db.tables.getUser username with
      | error failure => simp [user,bind,Except.bind] at listed
      | ok user' =>
        simp only [user,bind,Except.bind,pure,Except.pure,Except.ok.injEq] at listed
        subst listed
        exact List.mem_of_mem_filter (List.mem_of_mem_filter manages)
    apply List.ne_nil_of_mem (a := row)
    simpa [permissionRows,directRows,Tables.direct] using stored
  · cases member

theorem located_iff {around : Surroundings} {workspaceNames : List (Option String)} {id : String} :
    ¬ Unlocated (probe around) workspaceNames (.inl id) ↔
      ∃ workspaceName ∈ workspaceNames, ∃ experiment,
        around.getExperiment workspaceName id = .ok experiment := by
  have shown : ∀ workspaceName, probe around workspaceName (.inl id) = .located ↔
      ∃ experiment, around.getExperiment workspaceName id = .ok experiment := by
    intro workspaceName
    cases answer : around.getExperiment workspaceName id with
    | ok experiment => simp [probe,probeOf,answer]
    | error failure =>
      by_cases mlflow : failure.isMlflow = true <;> simp [probe,probeOf,answer,mlflow]
  simp only [Unlocated,not_forall,not_not,shown,exists_prop]

/-- Rows of existing experiments survive exactly when a calculation that reaches its end
was shown, in some visited workspace, every existing owned experiment without a cached
size. -/
theorem keepsExisting_iff (around : Surroundings) (deployment : Deployment) (username : String)
    (state : QuotaState) :
    KeepsExisting around deployment username state ↔
      (Measures around state.db username →
        ¬ Interrupted (probe around) (iterWorkspaceNames around) (lookedFor state username) →
        ∀ id ∈ unsized state username, deployment.Exists id →
          ∃ workspaceName ∈ iterWorkspaceNames around, ∃ experiment,
            around.getExperiment workspaceName id = .ok experiment) := by
  obtain ⟨measured,skipped⟩ := reconcileUserQuota_rows around username state
  have calculated := calculateUsedBytes_rows around username state
  have rows : ∀ first second : QuotaState, stateRows first = stateRows second →
      permissionRows first.db = permissionRows second.db := by
    intro first second same
    funext id holder
    exact congrArg (fun rows : Holder → Family → List SqlPermission =>
      (rows holder .experiment).filter (fun row => decide (row.key.resourceId = id))) same
  constructor
  · intro keeps measures completed id owned existing
    rw [← located_iff]
    intro unlocated
    have emptied := (calculated id).1 ⟨completed,owned,unlocated⟩
    have kept := keeps id existing
    rw [rows _ _ (measured measures),emptied] at kept
    exact rows_of_unsized owned (congrFun kept .user).symm
  · intro shown id existing
    by_cases measures : Measures around state.db username
    · rw [rows _ _ (measured measures)]
      apply (calculated id).2
      rintro ⟨completed,owned,unlocated⟩
      exact located_iff.mpr (shown measures completed id owned existing) unlocated
    · rw [rows _ _ (skipped measures)]

/-- A server whose workspace `team` holds experiment 7 and whose tracking store is
briefly unavailable. -/
def teamDeployment : Deployment where
  workspaces := [some "team"]
  holds := fun workspaceName id => decide (workspaceName = some "team" ∧ id = "7")

def outage : Surroundings where
  enableWorkspaces := true
  quotaDefaultBytes := some 1000
  quotaSoftCapFraction := .finite (1 / 2)
  listWorkspaces := (["team"],false)
  getExperiment := fun _ _ => .error (.mlflow .temporarilyUnavailable "try again")
  searchModelVersions := fun _ _ => .ok []
  listArtifacts := fun _ _ => .ok []
  recursionLimit := 1000
  smtpAccepts := fun _ => true
  rounded := id
  reconciledAt := ⟨0,some 0⟩
  now := ⟨0,some 0⟩

def ownerState : QuotaState where
  db :=
    { tables := { Tables.empty with
        users := [⟨1,"alice","Alice","",none,false,false⟩]
        userPermissions := fun family =>
          if family = .experiment then [⟨1,⟨"7",none⟩,1,"MANAGE",false⟩] else [] }
      integrity := by decide }
  sizeCache := Cache.empty

/-- A transient error wipes the rows of an experiment that still exists. -/
theorem reconcile_wipes_existing : ¬ ∀ around deployment username state,
    Truthful around deployment → KeepsExisting around deployment username state := by
  intro keeps
  have truthful : Truthful outage teamDeployment := by
    refine ⟨?_,?_,by decide⟩
    · intro _ _ _ found
      cases found
    · intro _ _ _ _ answer missing
      cases answer
      cases missing
  have kept := keeps outage teamDeployment "alice" ownerState truthful "7"
    ⟨some "team",by decide,by decide⟩
  have rows := congrFun kept .user
  revert rows
  decide +kernel

end Deployment
end MlflowOidcAuth
