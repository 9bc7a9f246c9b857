import MlflowOidcAuth.Hook.Gateway
import MlflowOidcAuth.Quota.Ownership

/-! What soft-deleted experiments add to the used bytes of their owners. -/
namespace MlflowOidcAuth
open Effects KeyedCache Sweep

section Trashed
variable (around : Surroundings)

/-- The stages in which the workspaces show an experiment. -/
def shownStages (id : String) : List LifecycleStage :=
  (iterWorkspaceNames around).filterMap (fun workspaceName =>
    match around.getExperiment workspaceName id with
    | .ok experiment => some experiment.lifecycleStage
    | .error _ => none)

/-- Some workspace shows the experiment, and none shows it as active. -/
def SoftDeleted (id : String) : Prop :=
  shownStages around id ≠ [] ∧ ∀ stage ∈ shownStages around id, stage = .deleted

instance (id : String) : Decidable (SoftDeleted around id) :=
  inferInstanceAs (Decidable (_ ∧ _))

/-- A soft-deleted experiment is counted with nothing: neither in the dictionary nor in the total. -/
def CountsTrashAsNothing (username : String) (state : QuotaState) : Prop :=
  ∀ measured reached, calculateUsedBytes around username state = .ok measured reached →
    (∀ id ∈ ownedBy state.db .experiment username, SoftDeleted around id →
      measured.2.get id = some 0) ∧
    measured.1 =
      (((ownedBy state.db .experiment username).filter (fun id =>
        decide (¬ SoftDeleted around id))).map (fun id => (measured.2.get id).getD 0)).sum +
      countedModels around (ownedBy state.db .registeredModel username).dedup

variable {around}

theorem firstAnswer_of_stages (workspaceNames : List (Option String)) (id : String)
    (shown : ∃ workspaceName ∈ workspaceNames, ∃ experiment,
      around.getExperiment workspaceName id = .ok experiment)
    (deleted : ∀ workspaceName ∈ workspaceNames, ∀ experiment,
      around.getExperiment workspaceName id = .ok experiment →
        experiment.lifecycleStage = .deleted) :
    firstAnswer (experimentAnswer around) workspaceNames id = some 0 := by
  induction workspaceNames with
  | nil =>
    obtain ⟨_,member,_⟩ := shown
    cases member
  | cons workspaceName rest ih =>
    rw [firstAnswer_cons]
    cases answer : around.getExperiment workspaceName id with
    | ok experiment =>
      have stage := deleted workspaceName List.mem_cons_self experiment answer
      simp only [experimentAnswer,answer,stage,Option.some_or]
    | error failure =>
      have later : ∃ workspaceName ∈ rest, ∃ experiment,
          around.getExperiment workspaceName id = .ok experiment := by
        obtain ⟨other,member,experiment,found⟩ := shown
        rcases List.mem_cons.mp member with rfl | member
        · rw [answer] at found
          cases found
        · exact ⟨other,member,experiment,found⟩
      simp only [experimentAnswer,answer,Option.none_or]
      exact ih later (fun other member => deleted other (List.mem_cons_of_mem _ member))

theorem firstAnswer_softDeleted {id : String} (trashed : SoftDeleted around id) :
    firstAnswer (experimentAnswer around) (iterWorkspaceNames around) id = some 0 := by
  obtain ⟨shown,deleted⟩ := trashed
  apply firstAnswer_of_stages
  · obtain ⟨stage,member⟩ := List.exists_mem_of_ne_nil _ shown
    obtain ⟨workspaceName,listed,answer⟩ := List.mem_filterMap.mp member
    cases found : around.getExperiment workspaceName id with
    | ok experiment => exact ⟨workspaceName,listed,experiment,found⟩
    | error failure =>
      rw [found] at answer
      cases answer
  · intro workspaceName listed experiment found
    apply deleted
    exact List.mem_filterMap.mpr ⟨workspaceName,listed,by rw [found]⟩

theorem sum_filter_of_zero {Item : Type} {counts : Item → Bool} {bytes : Item → Nat}
    {items : List Item} (others : ∀ item ∈ items, counts item = false → bytes item = 0) :
    (items.map bytes).sum = ((items.filter counts).map bytes).sum := by
  induction items with
  | nil => rfl
  | cons item rest ih =>
    have tail := ih (fun other member => others other (List.mem_cons_of_mem _ member))
    rw [List.map_cons,List.sum_cons,List.filter_cons,tail]
    cases counted : counts item with
    | true => simp
    | false =>
      rw [others item List.mem_cons_self counted]
      simp

/-- Trash counts as nothing exactly when a calculation that returns finds no size cached for the
soft-deleted experiments that its user owns, or a size of 0. -/
theorem countsTrashAsNothing_iff (around : Surroundings) (username : String) (state : QuotaState) :
    CountsTrashAsNothing around username state ↔
      (¬ Interrupted (probe around) (iterWorkspaceNames around) (lookedFor state username) →
        ∀ id ∈ ownedBy state.db .experiment username, SoftDeleted around id →
          ∀ bytes, state.sizeCache.get id = some bytes → bytes = 0) := by
  constructor
  · intro counts completed id owned trashed bytes cached
    cases known : state.db.tables.listPermissionsForUser .experiment username with
    | error failure =>
      unfold ownedBy at owned
      rw [known] at owned
      cases owned
    | ok rows =>
      obtain ⟨measured,reached,ran⟩ := calculate_returns known completed
      have nothing := (counts measured reached ran).1 id owned trashed
      rw [calculated_sizes ran,if_pos owned,countedSize,cached] at nothing
      simpa using nothing
  · intro uncached measured reached ran
    have sizes : ∀ id ∈ ownedBy state.db .experiment username, SoftDeleted around id →
        measured.2.get id = some 0 := by
      intro id owned trashed
      rw [calculated_sizes ran,if_pos owned,countedSize,firstAnswer_softDeleted trashed]
      cases cached : state.sizeCache.get id with
      | none => rfl
      | some bytes =>
        rw [uncached (calculate_completed ran) id owned trashed bytes cached]
        rfl
    refine ⟨sizes,?_⟩
    rw [calculated_total ran]
    congr 1
    apply sum_filter_of_zero
    intro id owned counted
    have trashed : SoftDeleted around id := by simpa using counted
    rw [sizes id owned trashed]
    rfl

end Trashed

section DeleteHook
variable (around : Surroundings)

theorem reconcile_usedBytes {username : String} {state middle : QuotaState} {quota : SqlUserQuota}
    {limit : Int} {measured : Nat × Sizes} (held : HoldsQuota username quota state)
    (limited : effectiveQuotaBytes around quota = some limit)
    (ran : calculateUsedBytes around username state = .ok measured middle) :
    Ensures (fun start => start = state) (reconcileUserQuota around username)
      (fun _ => HoldsSome username (fun left => left.usedBytes = measured.1)) := by
  rintro start sizes reached rfl reconciled
  have read : onStore (getUserQuota username) start = .ok (some quota) start := by
    unfold HoldsQuota at held
    simp only [onStore,getUserQuota,held]
  have rest := (bind_of_ok read).symm.trans reconciled
  simp only [limited] at rest
  have counted := (bind_of_ok ran).symm.trans rest
  have stored : Ensures (HoldsQuota username quota) (do
        onStore (updateUserQuotaUsedBytes around.reconciledAt username measured.1)
        applyThresholds around username quota limit measured.1
        return measured.2 : EStateM Failure QuotaState Sizes)
      (fun _ => HoldsSome username (fun left => left.usedBytes = measured.1)) := by
    refine (ensures_usedBytes around username quota measured.1).bind fun _ =>
      (ensures_applyThresholds around limit measured.1 rfl).bind fun _ =>
      ensures_pure fun last left => ?_
    obtain ⟨left,row,_,used,_⟩ := left
    exact ⟨left,row,used⟩
  exact stored middle sizes reached (ensures_calculate around username quota start measured middle
    held ran) counted

/-- `_reconcile_quota_after_experiment_delete`, with the thread it starts run to its end. The size
cache is as it was before the deletion. -/
def reconcileQuotaAfterExperimentDelete (request : FlaskRequest) (state : QuotaState) : QuotaState :=
  match truthyField request "experiment_id" with
  | none => state
  | some experimentId =>
    match truthy (state.db.tables.getExperimentOwner around.rowOrder experimentId.text) with
    | none => state
    | some owner => after (reconcileUserQuota around owner) state

/-- What the hook leaves for the owner, where trash counts as nothing: the sizes of the
experiments that are not in the trash, and the models. -/
theorem afterExperimentDelete_usedBytes {request : FlaskRequest} {experimentId : JsonValue}
    {owner : String} {state middle reached : QuotaState} {quota : SqlUserQuota} {limit : Int}
    {measured : Nat × Sizes} {sizes : Sizes}
    (deleted : truthyField request "experiment_id" = some experimentId)
    (charged : state.db.tables.chargedAccount around.rowOrder experimentId.text = some owner)
    (held : HoldsQuota owner quota state) (limited : effectiveQuotaBytes around quota = some limit)
    (ran : calculateUsedBytes around owner state = .ok measured middle)
    (returned : reconcileUserQuota around owner state = .ok sizes reached)
    (counts : CountsTrashAsNothing around owner state) :
    HoldsSome owner (fun left => left.usedBytes =
        ((((ownedBy state.db .experiment owner).filter (fun id =>
          decide (¬ SoftDeleted around id))).map (fun id => (measured.2.get id).getD 0)).sum +
        countedModels around (ownedBy state.db .registeredModel owner).dedup : Nat))
      (reconcileQuotaAfterExperimentDelete around request state) := by
  have hooked : reconcileQuotaAfterExperimentDelete around request state = reached := by
    unfold Tables.chargedAccount at charged
    simp only [reconcileQuotaAfterExperimentDelete,deleted,charged,after,returned,finish]
  rw [hooked,← (counts measured middle ran).2]
  exact reconcile_usedBytes around held limited ran state sizes reached rfl returned

end DeleteHook

section Sample

/-- Experiment 7 is in the trash. -/
def trashedSeven : Surroundings :=
  { outage with
    getExperiment := fun _ id => .ok ⟨id,some "s3://artifacts",.deleted,none,none⟩ }

/-- Its size was cached while it was active. -/
def cachedSeven : QuotaState := { ownerState with sizeCache := Cache.empty.set "7" 2000 }

theorem counts_trashed_size : ¬ ∀ around username state,
    CountsTrashAsNothing around username state := by
  intro counts
  have counted : (returned (calculateUsedBytes trashedSeven "alice" cachedSeven)).bind
      (fun measured => measured.2.get "7") = some 2000 := by decide +kernel
  cases ran : calculateUsedBytes trashedSeven "alice" cachedSeven with
  | error failure reached =>
    rw [ran] at counted
    cases counted
  | ok measured reached =>
    have nothing := (counts trashedSeven "alice" cachedSeven measured reached ran).1 "7"
      (by decide +kernel) (by decide +kernel)
    rw [ran] at counted
    simp [returned,nothing] at counted

end Sample
end MlflowOidcAuth
