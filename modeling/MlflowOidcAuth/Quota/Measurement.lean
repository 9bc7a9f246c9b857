import Mathlib.Algebra.BigOperators.Group.List.Basic
import MlflowOidcAuth.Quota.Orphans

/-! What a calculation that returns has summed: the cached size of each owned experiment,
else what the first workspace that shows it answers, and the versions of the owned models. -/
namespace MlflowOidcAuth
open Effects KeyedCache Sweep

section Answers
variable (around : Surroundings)

/-- The bytes counted for an experiment in a workspace that shows it. -/
def experimentAnswer (workspaceName : Option String) (experimentId : String) : Option Nat :=
  match around.getExperiment workspaceName experimentId with
  | .error _ => none
  | .ok experiment =>
    match experiment.lifecycleStage with
    | .deleted => some 0
    | .active => some (locationBytes around experiment.artifactLocation)

def modelAnswer (workspaceName : Option String) (modelName : String) : Option Nat :=
  match around.searchModelVersions workspaceName (modelFilter modelName) with
  | .error _ => none
  | .ok versions => some (versions.map (fun mv => locationBytes around mv.source)).sum

/-- The first answer that a list of workspaces gives. -/
def firstAnswer (answer : Option String → String → Option Nat)
    (workspaceNames : List (Option String)) (name : String) : Option Nat :=
  workspaceNames.findSome? (fun workspaceName => answer workspaceName name)

theorem firstAnswer_cons (answer : Option String → String → Option Nat)
    (workspaceName : Option String) (rest : List (Option String)) (name : String) :
    firstAnswer answer (workspaceName :: rest) name =
      (answer workspaceName name).or (firstAnswer answer rest name) := by
  simp only [firstAnswer,List.findSome?_cons]
  cases answer workspaceName name <;> rfl

end Answers

/-- From one state to another the sweep counted what it was answered and nothing else. -/
structure Counted (experiments models : String → Option Nat) (before reached : SweepState) :
    Prop where
  remainingExperiments : reached.remainingExperiments =
    before.remainingExperiments.filter (fun id => (experiments id).isNone)
  remainingModels : reached.remainingModels =
    before.remainingModels.filter (fun name => (models name).isNone)
  total : reached.total = before.total +
    (before.remainingExperiments.map (fun id => (experiments id).getD 0)).sum +
    (before.remainingModels.map (fun name => (models name).getD 0)).sum
  sizes : ∀ id, reached.experimentSizes.get id =
    if id ∈ before.remainingExperiments then (experiments id).or (before.experimentSizes.get id)
    else before.experimentSizes.get id
  cached : ∀ id, reached.sizeCache.get id = before.sizeCache.get id ∨
    id ∈ before.remainingExperiments ∧ (experiments id).isSome ∧
      reached.sizeCache.get id = experiments id

section Composition

theorem sum_or {Item : Type} (first second : Item → Option Nat) (items : List Item) :
    (items.map (fun item => ((first item).or (second item)).getD 0)).sum =
      (items.map (fun item => (first item).getD 0)).sum +
        ((items.filter (fun item => (first item).isNone)).map
          (fun item => (second item).getD 0)).sum := by
  induction items with
  | nil => rfl
  | cons item rest ih =>
    simp only [List.map_cons,List.sum_cons,List.filter_cons,ih]
    cases first item with
    | some bytes =>
      simp only [Option.some_or,Option.isNone_some,Bool.false_eq_true,if_false]
      omega
    | none =>
      simp only [Option.none_or,Option.isNone_none,if_true,List.map_cons,List.sum_cons,
        Option.getD_none]
      omega

theorem filter_or {Item : Type} (first second : Item → Option Nat) (items : List Item) :
    (items.filter (fun item => (first item).isNone)).filter (fun item => (second item).isNone) =
      items.filter (fun item => ((first item).or (second item)).isNone) := by
  rw [List.filter_filter]
  apply List.filter_congr
  intro item _
  cases first item <;> cases second item <;> rfl

theorem counted_refl (state : SweepState) : Counted (fun _ => none) (fun _ => none) state state := by
  constructor
  · simp
  · simp
  · simp
  · intro id
    split <;> rfl
  · exact fun id => .inl rfl

theorem Counted.trans {first second firstModels secondModels : String → Option Nat}
    {before middle reached : SweepState} (counted : Counted first firstModels before middle)
    (counted' : Counted second secondModels middle reached) :
    Counted (fun id => (first id).or (second id))
      (fun name => (firstModels name).or (secondModels name)) before reached := by
  have left : ∀ id, id ∈ middle.remainingExperiments ↔
      id ∈ before.remainingExperiments ∧ (first id).isNone = true := by
    intro id
    rw [counted.remainingExperiments,List.mem_filter]
  constructor
  · rw [counted'.remainingExperiments,counted.remainingExperiments,filter_or]
  · rw [counted'.remainingModels,counted.remainingModels,filter_or]
  · rw [counted'.total,counted.total,counted.remainingExperiments,counted.remainingModels,
      sum_or first second,sum_or firstModels secondModels]
    omega
  · intro id
    rw [counted'.sizes,counted.sizes]
    simp only [left]
    by_cases asked : id ∈ before.remainingExperiments
    · cases first id <;> simp [asked]
    · simp [asked]
  · intro id
    rcases counted'.cached id with same | ⟨asked,found,stored⟩
    · rcases counted.cached id with same' | ⟨asked',found',stored'⟩
      · exact .inl (same.trans same')
      · refine .inr ⟨asked',?_,?_⟩
        · simp only [Option.isSome_or,found',Bool.true_or]
        · rw [same,stored',Option.or_of_isSome found']
    · obtain ⟨asked',none⟩ := (left id).mp asked
      rw [Option.isNone_iff_eq_none] at none
      refine .inr ⟨asked',?_,?_⟩
      · simp only [none,Option.none_or,found]
      · simp only [none,Option.none_or,stored]

end Composition

section Rounds
variable {around : Surroundings} {workspaceName : Option String}

/-- The answer about one item only. -/
def only (name : String) (answer : Option Nat) (other : String) : Option Nat :=
  if other = name then answer else none

theorem only_none (name : String) : only name none = fun _ => none := by
  funext other
  unfold only
  split <;> rfl

theorem sum_only {items : List String} (distinct : items.Nodup) {name : String}
    (member : name ∈ items) (bytes : Nat) :
    (items.map (fun other => (only name (some bytes) other).getD 0)).sum = bytes := by
  induction items with
  | nil => cases member
  | cons item rest ih =>
    obtain ⟨fresh,distinct⟩ := List.nodup_cons.mp distinct
    rw [List.map_cons,List.sum_cons]
    by_cases same : item = name
    · subst same
      have others : ∀ other ∈ rest, (only item (some bytes) other).getD 0 = 0 := by
        intro other later
        have apart : other ≠ item := fun same => fresh (same ▸ later)
        simp [only,apart]
      rw [List.map_congr_left others]
      simp [only]
    · have later : name ∈ rest := (List.mem_cons.mp member).resolve_left (fun e => same e.symm)
      rw [ih distinct later]
      simp [only,same]

theorem filter_only (items : List String) (name : String) (bytes : Nat) :
    items.filter (fun other => (only name (some bytes) other).isNone) =
      items.filter (fun other => decide (other ≠ name)) := by
  apply List.filter_congr
  intro other _
  unfold only
  split <;> simp_all

theorem filter_none (items : List String) :
    items.filter (fun _ => (none : Option Nat).isNone) = items := by simp

theorem counted_visitExperiment {id : String} {state reached : SweepState}
    (distinct : state.remainingExperiments.Nodup) (asked : id ∈ state.remainingExperiments)
    (ran : visitExperiment around workspaceName id state = .ok () reached) :
    Counted (only id (experimentAnswer around workspaceName id)) (fun _ => none) state reached := by
  have sized : ∀ (bytes : Nat) other, (state.experimentSizes.set id bytes).get other =
      if other ∈ state.remainingExperiments then
        (only id (some bytes) other).or (state.experimentSizes.get other)
      else state.experimentSizes.get other := by
    intro bytes other
    by_cases same : other = id
    · subst same
      simp [asked,only]
    · rw [Cache.get_set_of_ne _ _ same]
      simp [only,same]
  unfold visitExperiment at ran
  cases answer : around.getExperiment workspaceName id with
  | error failure =>
    simp only [answer] at ran
    split at ran <;> cases ran
    simp only [experimentAnswer,answer,only_none]
    exact counted_refl state
  | ok experiment =>
    cases stage : experiment.lifecycleStage with
    | deleted =>
      simp only [answer,stage] at ran
      cases ran
      simp only [experimentAnswer,answer,stage]
      refine ⟨(filter_only _ _ _).symm,(filter_none _).symm,?_,?_,fun _ => .inl rfl⟩
      · simp [sum_only distinct asked]
      · exact sized 0
    | active =>
      simp only [answer,stage] at ran
      cases ran
      simp only [experimentAnswer,answer,stage]
      refine ⟨(filter_only _ _ _).symm,(filter_none _).symm,?_,?_,fun other => ?_⟩
      · simp [sum_only distinct asked]
      · exact sized _
      · by_cases same : other = id
        · subst same
          refine .inr ⟨asked,?_,?_⟩ <;> simp [only]
        · exact .inl (Cache.get_set_of_ne _ _ same)

theorem counted_visitModel {name : String} {state reached : SweepState}
    (distinct : state.remainingModels.Nodup) (asked : name ∈ state.remainingModels)
    (ran : visitModel around workspaceName name state = .ok () reached) :
    Counted (fun _ => none) (only name (modelAnswer around workspaceName name)) state reached := by
  unfold visitModel at ran
  cases answer : around.searchModelVersions workspaceName (modelFilter name) with
  | error failure =>
    simp only [answer] at ran
    split at ran <;> cases ran
    simp only [modelAnswer,answer,only_none]
    exact counted_refl state
  | ok versions =>
    simp only [answer] at ran
    cases ran
    simp only [modelAnswer,answer]
    refine ⟨(filter_none _).symm,(filter_only _ _ _).symm,?_,?_,fun _ => .inl rfl⟩
    · simp [sum_only distinct asked]
    · intro other
      split <;> rfl

theorem Counted.congr {experiments models experiments' models' : String → Option Nat}
    {before reached : SweepState} (counted : Counted experiments models before reached)
    (same : ∀ id ∈ before.remainingExperiments, experiments id = experiments' id)
    (sameModels : ∀ name ∈ before.remainingModels, models name = models' name) :
    Counted experiments' models' before reached := by
  constructor
  · rw [counted.remainingExperiments]
    exact List.filter_congr (fun id member => by rw [same id member])
  · rw [counted.remainingModels]
    exact List.filter_congr (fun name member => by rw [sameModels name member])
  · rw [counted.total,List.map_congr_left (fun id member => congrArg (·.getD 0) (same id member)),
      List.map_congr_left (fun name member => congrArg (·.getD 0) (sameModels name member))]
  · intro id
    rw [counted.sizes]
    split
    · next asked => rw [same id asked]
    · rfl
  · intro id
    rcases counted.cached id with kept | ⟨asked,found,stored⟩
    · exact .inl kept
    · rw [same id asked] at found stored
      exact .inr ⟨asked,found,stored⟩

/-- The answers about some items only. -/
def within (items : List String) (answer : String → Option Nat) (name : String) : Option Nat :=
  if name ∈ items then answer name else none

theorem within_nil (answer : String → Option Nat) : within [] answer = fun _ => none := by
  funext name
  exact if_neg List.not_mem_nil

theorem within_cons (item : String) (rest : List String) (answer : String → Option Nat) :
    (fun name => (only item (answer item) name).or (within rest answer name)) =
      within (item :: rest) answer := by
  funext name
  unfold only within
  by_cases same : name = item
  · subst same
    simp only [if_true,List.mem_cons_self]
    cases answer name <;> simp
  · simp [same]

theorem nodup_left {experiments models : String → Option Nat} {before reached : SweepState}
    (counted : Counted experiments models before reached)
    (distinct : before.remainingExperiments.Nodup ∧ before.remainingModels.Nodup) :
    reached.remainingExperiments.Nodup ∧ reached.remainingModels.Nodup := by
  rw [counted.remainingExperiments,counted.remainingModels]
  exact ⟨distinct.1.filter _,distinct.2.filter _⟩

/-- A loop counts all its items when each visit counts its own. The experiments and the models of
a sweep each give the relation and the items that remain. -/
theorem counted_forM (counts : (String → Option Nat) → SweepState → SweepState → Prop)
    (remaining : SweepState → List String) {visit : String → EStateM Failure SweepState PUnit}
    {answer : String → Option Nat} (refl : ∀ state, counts (fun _ => none) state state)
    (trans : ∀ {first second before middle reached}, counts first before middle →
      counts second middle reached → counts (fun name => (first name).or (second name)) before reached)
    (leaves : ∀ {answered before reached}, counts answered before reached →
      remaining reached = (remaining before).filter (fun name => (answered name).isNone))
    (visits : ∀ {name state reached}, (remaining state).Nodup → name ∈ remaining state →
      visit name state = .ok () reached → counts (only name (answer name)) state reached)
    {names : List String} {state reached : SweepState}
    (ran : names.forM visit state = .ok () reached) :
    names.Nodup → (∀ name ∈ names, name ∈ remaining state) → (remaining state).Nodup →
    counts (within names answer) state reached := by
  refine forM_relates (fun names state reached => names.Nodup →
    (∀ name ∈ names, name ∈ remaining state) → (remaining state).Nodup →
    counts (within names answer) state reached) ?_ ?_ ran
  · intro state _ _ _
    rw [within_nil]
    exact refl state
  · intro name rest state middle reached visited later fresh asked distinct
    obtain ⟨absent,fresh⟩ := List.nodup_cons.mp fresh
    have first := visits distinct (asked name List.mem_cons_self) visited
    have left : ∀ other ∈ rest, other ∈ remaining middle := by
      intro other member
      have apart : other ≠ name := fun same => absent (same ▸ member)
      rw [leaves first,List.mem_filter]
      exact ⟨asked other (List.mem_cons_of_mem _ member),by simp [only,apart]⟩
    have distinct' : (remaining middle).Nodup := by
      rw [leaves first]
      exact distinct.filter _
    have both := trans first (later fresh left distinct')
    rw [within_cons] at both
    exact both

theorem counted_experiments {ids : List String} {state reached : SweepState}
    (ran : ids.forM (visitExperiment around workspaceName) state = .ok () reached) (fresh : ids.Nodup)
    (asked : ∀ id ∈ ids, id ∈ state.remainingExperiments)
    (distinct : state.remainingExperiments.Nodup) :
    Counted (within ids (experimentAnswer around workspaceName)) (fun _ => none) state reached := by
  refine counted_forM (fun answered => Counted answered (fun _ => none))
    SweepState.remainingExperiments ?_ ?_ ?_ ?_ ran fresh asked distinct
  · exact counted_refl
  · exact fun first second => first.trans second
  · exact Counted.remainingExperiments
  · exact counted_visitExperiment

theorem counted_models {names : List String} {state reached : SweepState}
    (ran : names.forM (visitModel around workspaceName) state = .ok () reached) (fresh : names.Nodup)
    (asked : ∀ name ∈ names, name ∈ state.remainingModels) (distinct : state.remainingModels.Nodup) :
    Counted (fun _ => none) (within names (modelAnswer around workspaceName)) state reached := by
  refine counted_forM (fun answered => Counted (fun _ => none) answered)
    SweepState.remainingModels ?_ ?_ ?_ ?_ ran fresh asked distinct
  · exact counted_refl
  · exact fun first second => first.trans second
  · exact Counted.remainingModels
  · exact counted_visitModel

/-- A workspace counts what it answers for all that remains. -/
theorem counted_visitWorkspace {state reached : SweepState}
    (distinct : state.remainingExperiments.Nodup ∧ state.remainingModels.Nodup)
    (ran : visitWorkspace around workspaceName state = .ok () reached) :
    Counted (experimentAnswer around workspaceName) (modelAnswer around workspaceName) state
      reached := by
  rw [visitWorkspace_eq] at ran
  obtain ⟨_,middle,visited,later⟩ := bind_eq_ok ran
  have second : middle.remainingModels.forM (visitModel around workspaceName) middle =
      .ok () reached := later
  have first := counted_experiments visited distinct.1 (fun _ member => member) distinct.1
  have distinct' := (nodup_left first distinct).2
  have both := first.trans (counted_models second distinct' (fun _ member => member) distinct')
  have models : middle.remainingModels = state.remainingModels := by
    rw [first.remainingModels]
    simp
  refine both.congr (fun id asked => ?_) (fun name asked => ?_)
  · simp [within,asked]
  · simp [within,models,asked]

/-- A sweep that returns has counted the first answer to each item. -/
theorem counted_sweep {workspaceNames : List (Option String)} {state reached : SweepState}
    (distinct : state.remainingExperiments.Nodup ∧ state.remainingModels.Nodup)
    (ran : sweep (visitWorkspace around) SweepState.remaining workspaceNames state =
      .ok () reached) :
    Counted (firstAnswer (experimentAnswer around) workspaceNames)
      (firstAnswer (modelAnswer around) workspaceNames) state reached := by
  revert distinct
  refine sweep_relates (fun workspaceNames state reached =>
    state.remainingExperiments.Nodup ∧ state.remainingModels.Nodup →
    Counted (firstAnswer (experimentAnswer around) workspaceNames)
      (firstAnswer (modelAnswer around) workspaceNames) state reached) ?_ ?_ ?_ ran
  · exact fun state _ => counted_refl state
  · intro workspaceNames state nothing _
    obtain ⟨noExperiments,noModels⟩ := List.append_eq_nil_iff.mp nothing
    rw [List.map_eq_nil_iff] at noExperiments noModels
    refine (counted_refl state).congr (fun id asked => ?_) (fun name asked => ?_)
    · rw [noExperiments] at asked
      cases asked
    · rw [noModels] at asked
      cases asked
  · intro workspaceName rest state middle reached visited later distinct
    have first := counted_visitWorkspace distinct visited
    have both := first.trans (later (nodup_left first distinct))
    exact both.congr (fun id _ => (firstAnswer_cons ..).symm) (fun name _ => (firstAnswer_cons ..).symm)

end Rounds

section Owned

/-- A user holds at most one row of an experiment or a model. -/
theorem ownedBy_nodup (db : Database) {family : Family} (plain : family ≠ .scorer)
    (username : String) : (ownedBy db family username).Nodup := by
  unfold ownedBy Tables.listPermissionsForUser
  cases db.tables.getUser username with
  | error failure => exact List.nodup_nil
  | ok user =>
    obtain ⟨⟨_,keys,_⟩,scorers⟩ := db.integrity.userPermissions family
    simp only [bind,Except.bind,pure,Except.pure,ownedNames]
    refine List.Nodup.map_on ?_ (((keys.of_map _).filter _).filter _)
    intro row member other member' same
    have listed := List.mem_filter.mp (List.mem_of_mem_filter member)
    have listed' := List.mem_filter.mp (List.mem_of_mem_filter member')
    have owner : row.ownerId = other.ownerId :=
      (of_decide_eq_true listed.2).trans (of_decide_eq_true listed'.2).symm
    have key : row.key = other.key := by
      have unscored := scorers row listed.1
      have unscored' := scorers other listed'.1
      simp only [plain,decide_false,Option.isSome_eq_false_iff,Option.isNone_iff_eq_none] at unscored unscored'
      cases hrow : row.key
      cases hother : other.key
      simp_all
    exact List.inj_on_of_nodup_map keys listed.1 listed'.1 (by rw [key,owner])

end Owned

section Start
variable (around : Surroundings)

/-- What a calculation counts for an owned experiment. -/
def countedSize (cache : Sizes) (id : String) : Option Nat :=
  (cache.get id).or (firstAnswer (experimentAnswer around) (iterWorkspaceNames around) id)

def countedModels (names : List String) : Nat :=
  (names.map (fun name => (firstAnswer (modelAnswer around) (iterWorkspaceNames around) name).getD
    0)).sum

/-- A fold that copies the known sizes of its items. -/
theorem get_foldl_copied (known : String → Option Nat) {visit : Sizes → String → Sizes}
    (copies : ∀ sizes id, visit sizes id = (known id).elim sizes (sizes.set id)) (ids : List String)
    (sizes : Sizes) (id : String) : (ids.foldl visit sizes).get id =
      if id ∈ ids then (known id).or (sizes.get id) else sizes.get id := by
  induction ids generalizing sizes with
  | nil => simp
  | cons first rest ih =>
    rw [List.foldl_cons,ih,copies]
    by_cases same : id = first
    · subst same
      cases known id <;> simp
    · cases known first with
      | none => simp [same]
      | some bytes =>
        rw [Option.elim_some,Cache.get_set_of_ne _ _ same]
        simp [same]

theorem startSizes (state : QuotaState) (ids names : List String) (id : String) :
    (state.startSweep ids names).experimentSizes.get id =
      if id ∈ ids then state.sizeCache.get id else none := by
  refine (get_foldl_copied state.sizeCache.get (fun sizes other => ?_) ids Cache.empty id).trans ?_
  · cases state.sizeCache.get other <;> rfl
  · simp

theorem startTotal (state : QuotaState) (ids names : List String) :
    (state.startSweep ids names).total = (ids.map (fun id => (state.sizeCache.get id).getD 0)).sum := by
  simp only [QuotaState.startSweep]
  induction ids with
  | nil => rfl
  | cons id rest ih =>
    rw [List.filterMap_cons]
    cases cached : state.sizeCache.get id with
    | none => simpa [cached] using ih
    | some bytes => simpa [cached] using ih

theorem startDistinct (state : QuotaState) (ids names : List String) :
    (state.startSweep ids names).remainingExperiments.Nodup ∧
      (state.startSweep ids names).remainingModels.Nodup :=
  ⟨List.nodup_dedup _,List.nodup_dedup _⟩

end Start

section Calculated
variable {around : Surroundings} {username : String} {state reached : QuotaState}
  {measured : Nat × Sizes}

theorem mem_startRemaining {ids names : List String} {id : String} :
    id ∈ (state.startSweep ids names).remainingExperiments ↔
      id ∈ ids ∧ state.sizeCache.get id = none := by
  simp [QuotaState.startSweep]

/-- Whoever owns nothing is measured without a sweep. -/
theorem calculate_idles (ran : calculateUsedBytes around username state = .ok measured reached)
    (owns : ownedBy state.db .experiment username = [] ∧
      ownedBy state.db .registeredModel username = []) :
    measured = (0,Cache.empty) ∧ reached = state := by
  unfold calculateUsedBytes at ran
  unfold ownedBy at owns
  split at ran
  · cases ran
  · next expPerms experiments =>
    split at ran
    · cases ran
    · next modelPerms models =>
      simp only [experiments,models] at owns
      rw [if_pos owns] at ran
      cases ran
      exact ⟨rfl,rfl⟩

/-- The sweep of a calculation that counted: where it ended, and what was then wiped. -/
theorem calculate_sweeps (ran : calculateUsedBytes around username state = .ok measured reached)
    (owns : ¬ (ownedBy state.db .experiment username = [] ∧
      ownedBy state.db .registeredModel username = [])) :
    ∃ swept, Counted (firstAnswer (experimentAnswer around) (iterWorkspaceNames around))
        (firstAnswer (modelAnswer around) (iterWorkspaceNames around))
        (state.startSweep (ownedBy state.db .experiment username)
          (ownedBy state.db .registeredModel username)) swept ∧
      measured = (swept.total,swept.experimentSizes) ∧
      swept.remainingExperiments.forM wipeOrphan swept.toQuotaState = .ok () reached := by
  unfold calculateUsedBytes at ran
  unfold ownedBy at owns ⊢
  cases experiments : state.db.tables.listPermissionsForUser .experiment username with
  | error failure =>
    simp only [experiments] at ran
    cases ran
  | ok expPerms =>
    obtain ⟨modelPerms,models⟩ := listPermissions_of_user .registeredModel experiments
    simp only [experiments,models] at ran owns ⊢
    rw [if_neg owns] at ran
    split at ran
    · cases ran
    · next swept sweeps =>
      split at ran
      · cases ran
      · next last wipes =>
        cases ran
        exact ⟨swept,counted_sweep (startDistinct state _ _) sweeps,rfl,wipes⟩

/-- The dictionary of a calculation holds the counted size of each owned experiment. -/
theorem calculated_sizes (ran : calculateUsedBytes around username state = .ok measured reached)
    (id : String) : measured.2.get id =
      if id ∈ ownedBy state.db .experiment username then countedSize around state.sizeCache id
      else none := by
  by_cases owns : ownedBy state.db .experiment username = [] ∧
      ownedBy state.db .registeredModel username = []
  · rw [(calculate_idles ran owns).1,owns.1]
    simp
  · obtain ⟨swept,counted,same,_⟩ := calculate_sweeps ran owns
    rw [same,counted.sizes,startSizes]
    simp only [mem_startRemaining,countedSize]
    by_cases owned : id ∈ ownedBy state.db .experiment username
    · cases state.sizeCache.get id <;> simp [owned]
    · simp [owned]

/-- Its total is the sum of these sizes and of the owned models. -/
theorem calculated_total (ran : calculateUsedBytes around username state = .ok measured reached) :
    measured.1 = ((ownedBy state.db .experiment username).map (fun id =>
        (measured.2.get id).getD 0)).sum +
      countedModels around (ownedBy state.db .registeredModel username).dedup := by
  have sizes : (ownedBy state.db .experiment username).map (fun id => (measured.2.get id).getD 0) =
      (ownedBy state.db .experiment username).map (fun id =>
        (countedSize around state.sizeCache id).getD 0) := by
    apply List.map_congr_left
    intro id owned
    rw [calculated_sizes ran,if_pos owned]
  rw [sizes]
  by_cases owns : ownedBy state.db .experiment username = [] ∧
      ownedBy state.db .registeredModel username = []
  · rw [(calculate_idles ran owns).1,owns.1,owns.2]
    rfl
  · obtain ⟨swept,counted,same,_⟩ := calculate_sweeps ran owns
    have remaining : (state.startSweep (ownedBy state.db .experiment username)
          (ownedBy state.db .registeredModel username)).remainingExperiments =
        (ownedBy state.db .experiment username).filter
          (fun id => (state.sizeCache.get id).isNone) :=
      ((ownedBy_nodup state.db (by decide) username).filter _).dedup
    rw [same,counted.total,startTotal,remaining]
    simp only [countedSize]
    rw [sum_or]
    rfl

/-- No exception ended the sweep of a calculation that returned. -/
theorem calculate_completed (ran : calculateUsedBytes around username state = .ok measured reached) :
    ¬ Interrupted (probe around) (iterWorkspaceNames around) (lookedFor state username) := by
  intro stopped
  unfold calculateUsedBytes at ran
  cases known : state.db.tables.listPermissionsForUser .experiment username with
  | error failure =>
    simp only [known] at ran
    cases ran
  | ok rows =>
    obtain ⟨modelRows,models⟩ := listPermissions_of_user .registeredModel known
    simp only [known,models] at ran
    have looked : (state.startSweep (ownedNames rows) (ownedNames modelRows)).remaining =
        lookedFor state username := by
      simp only [lookedFor,ownedBy,known,models]
    split at ran
    · next owns =>
      rw [← looked,owns.1,owns.2] at stopped
      exact not_interrupted_nil _ _ stopped
    · rcases sweep_passed (visitWorkspace_passed around) (iterWorkspaceNames around)
          (state.startSweep (ownedNames rows) (ownedNames modelRows)) with
        ⟨_,failure,last,raised⟩ | ⟨completed,_⟩
      · simp only [raised] at ran
        cases ran
      · rw [looked] at completed
        exact completed stopped

/-- A calculation for a user that no exception ends returns. -/
theorem calculate_returns {rows : List SqlPermission}
    (known : state.db.tables.listPermissionsForUser .experiment username = .ok rows)
    (completed : ¬ Interrupted (probe around) (iterWorkspaceNames around)
      (lookedFor state username)) :
    ∃ measured reached, calculateUsedBytes around username state = .ok measured reached := by
  obtain ⟨modelRows,models⟩ := listPermissions_of_user .registeredModel known
  unfold calculateUsedBytes
  simp only [known,models]
  split
  · exact ⟨_,_,rfl⟩
  · have looked : (state.startSweep (ownedNames rows) (ownedNames modelRows)).remaining =
        lookedFor state username := by
      simp only [lookedFor,ownedBy,known,models]
    rcases sweep_passed (visitWorkspace_passed around) (iterWorkspaceNames around)
        (state.startSweep (ownedNames rows) (ownedNames modelRows)) with
      ⟨stopped,_⟩ | ⟨_,swept,sweeps,_⟩
    · rw [looked] at stopped
      exact absurd stopped completed
    · obtain ⟨last,wipes,_⟩ := wipeOrphans_rows swept.remainingExperiments swept.toQuotaState
      simp only [sweeps,wipes]
      exact ⟨_,_,rfl⟩

end Calculated
end MlflowOidcAuth
