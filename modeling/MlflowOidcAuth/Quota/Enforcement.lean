import MlflowOidcAuth.Quota.Orphans
import MlflowOidcAuth.Store.Grants

/-! What a reconciliation leaves in the quota row of its user: whether the row is
blocked exactly when the effective limit is reached. -/
namespace MlflowOidcAuth
open Effects KeyedCache

section Frame
variable (around : Surroundings)

/-- The tables that the quota of a user is read from. -/
def Tables.accounts (t : Tables) : List SqlUser × List SqlUserQuota := (t.users,t.userQuotas)

theorem quotaOf_of_accounts {t other : Tables} (same : other.accounts = t.accounts)
    (username : String) : other.quotaOf username = t.quotaOf username := by
  have users : other.users = t.users := congrArg Prod.fst same
  have quotas : other.userQuotas = t.userQuotas := congrArg Prod.snd same
  simp only [Tables.quotaOf,Tables.usersNamed,users,quotas]

theorem accounts_withDirect (t : Tables) (holder : Holder) (family : Family)
    (rows : List SqlPermission) : (t.withDirect holder family rows).accounts = t.accounts := by
  cases holder <;> rfl

theorem keeps_wipe_accounts (holder : Holder) (family : Family) (resourceId : String) :
    Keeps (fun db : Database => db.tables.accounts) (wipe holder family resourceId) := by
  apply keeps_session
  intro t written ran
  cases ran
  exact accounts_withDirect ..

theorem keeps_wipeOrphan (id : String) :
    Keeps (fun state : QuotaState => state.db.tables.accounts) (wipeOrphan id) := by
  intro state
  have kept : Keeps (fun db : Database => db.tables.accounts) (wipeExperimentPermissions id) :=
    (keeps_wipe_accounts _ _ _).bind (fun _ => keeps_wipe_accounts _ _ _)
  cases ran : wipeExperimentPermissions id state.db with
  | ok value db => simpa only [after,finish,wipeOrphan,ran] using kept.of_ok ran
  | error failure db => simpa only [after,finish,wipeOrphan,ran] using kept.of_error ran

/-- Measuring deletes rows of experiments at most, no account and no quota. -/
theorem keeps_calculateUsedBytes (username : String) :
    Keeps (fun state : QuotaState => state.db.tables.accounts)
      (calculateUsedBytes around username) := by
  intro state
  unfold after calculateUsedBytes
  cases state.db.tables.listPermissionsForUser .experiment username with
  | error failure => rfl
  | ok expPerms =>
    cases state.db.tables.listPermissionsForUser .registeredModel username with
    | error failure => rfl
    | ok modelPerms =>
      simp only
      split
      · rfl
      · have swept : Keeps (fun state : SweepState => state.db) (Sweep.sweep (visitWorkspace around)
            SweepState.remaining (iterWorkspaceNames around)) :=
          Sweep.keeps_sweep (keeps_visitWorkspace around) _
        cases ran : Sweep.sweep (visitWorkspace around) SweepState.remaining
            (iterWorkspaceNames around)
            (state.startSweep (ownedNames expPerms) (ownedNames modelPerms)) with
        | error failure reached =>
          have same : reached.db = state.db := swept.of_error ran
          simp only [finish,same]
        | ok value reached =>
          have same : reached.db = state.db := swept.of_ok ran
          have wiped : Keeps (fun state : QuotaState => state.db.tables.accounts)
              (reached.remainingExperiments.forM wipeOrphan) := Keeps.forM keeps_wipeOrphan
          have kept := wiped reached.toQuotaState
          cases wipes : reached.remainingExperiments.forM wipeOrphan reached.toQuotaState with
          | error failure last => simpa only [finish,after,wipes,same] using kept
          | ok value last => simpa only [finish,after,wipes,same] using kept

end Frame

section Row
variable (around : Surroundings) {username : String}

/-- The quota row that the store holds for the user. -/
def HoldsQuota (username : String) (quota : SqlUserQuota) (state : QuotaState) : Prop :=
  state.db.tables.quotaOf username = .ok (some quota)

/-- Some row of the user satisfies the condition. -/
def HoldsSome (username : String) (condition : SqlUserQuota → Prop) (state : QuotaState) : Prop :=
  ∃ quota, HoldsQuota username quota state ∧ condition quota

theorem ensures_change (username : String) (change : SqlUserQuota → SqlUserQuota)
    (keeps : KeepsOwner change) (quota : SqlUserQuota) :
    Ensures (HoldsQuota username quota)
      (onStore (session rejected (Tables.changeQuota change username)))
      (fun _ => HoldsQuota username (change quota)) := by
  intro state value reached held ran
  obtain ⟨written,committed,changed⟩ := changeQuota_commits keeps held
  simp only [onStore,committed] at ran
  cases ran
  exact changed

theorem ensures_storeIf (username : String) (change : SqlUserQuota → SqlUserQuota)
    (keeps : KeepsOwner change) (condition : Bool) (quota : SqlUserQuota) :
    Ensures (HoldsQuota username quota)
      (storeIf condition (session rejected (Tables.changeQuota change username)))
      (fun _ => HoldsQuota username (if condition then change quota else quota)) := by
  cases condition with
  | false => exact ensures_pure (fun _ held => held)
  | true => exact ensures_change username change keeps quota

theorem ensures_hardBlocked (condition blocked : Bool) (quota : SqlUserQuota) :
    Ensures (HoldsQuota username quota) (storeIf condition (setQuotaHardBlocked username blocked))
      (fun _ => HoldsQuota username
        { quota with hardBlocked := if condition then blocked else quota.hardBlocked }) := by
  have stored := ensures_storeIf username (fun quota => { quota with hardBlocked := blocked })
    (fun _ => ⟨rfl,rfl⟩) condition quota
  cases condition <;> exact stored

/-- The mail of a reminder is noted without touching limit, usage or block. -/
theorem ensures_notified (condition : Bool) (value : Option DateTime) (quota : SqlUserQuota) :
    Ensures (HoldsQuota username quota)
      (storeIf condition (setQuotaSoftNotifiedAt username value))
      (fun _ => HoldsSome username (fun stored => stored.quotaBytes = quota.quotaBytes ∧
        stored.usedBytes = quota.usedBytes ∧ stored.hardBlocked = quota.hardBlocked)) := by
  have stored := ensures_storeIf username (fun quota => { quota with softNotifiedAt := value })
    (fun _ => ⟨rfl,rfl⟩) condition quota
  refine Ensures.weaken stored fun _ state held => ⟨_,held,?_⟩
  cases condition <;> exact ⟨rfl,rfl,rfl⟩

theorem ensures_notifyHardCap (quota stored : SqlUserQuota) :
    Ensures (HoldsQuota username stored) (notifyHardCap around username quota)
      (fun _ => HoldsSome username (fun left => left.quotaBytes = stored.quotaBytes ∧
        left.usedBytes = stored.usedBytes ∧ left.hardBlocked = stored.hardBlocked)) := by
  unfold notifyHardCap
  cases hardCapDue around quota with
  | error failure => exact ensures_throw
  | ok due => exact ensures_notified _ _ stored

/-- The thresholds are applied to the row as it was read before the measurement, and the block
that the row holds is still the one read. -/
theorem ensures_applyThresholds {quota stored : SqlUserQuota} (effectiveQuota : Int) (used : Nat)
    (unchanged : stored.hardBlocked = quota.hardBlocked) :
    Ensures (HoldsQuota username stored)
      (applyThresholds around username quota effectiveQuota used)
      (fun _ => HoldsSome username (fun left => left.quotaBytes = stored.quotaBytes ∧
        left.usedBytes = stored.usedBytes ∧ (left.hardBlocked = true ↔ effectiveQuota ≤ used))) := by
  refine Ensures.ite (fun _ => ensures_throw) (fun _ => Ensures.ite (fun reached => ?_) ?_)
  · refine (ensures_hardBlocked _ true stored).bind fun _ => ?_
    refine (ensures_notifyHardCap around quota _).weaken fun _ state held => ?_
    obtain ⟨left,row,limit,bytes,blocked⟩ := held
    refine ⟨left,row,limit,bytes,iff_of_true (blocked.trans ?_) reached⟩
    cases before : quota.hardBlocked with
    | true => exact unchanged.trans before
    | false => rfl
  · intro below
    have unblocked : (if quota.hardBlocked then false else stored.hardBlocked) = false := by
      rw [unchanged]
      cases quota.hardBlocked <;> rfl
    have settled : ∀ state, HoldsSome username (fun left =>
          left.quotaBytes = stored.quotaBytes ∧ left.usedBytes = stored.usedBytes ∧
          left.hardBlocked = if quota.hardBlocked then false else stored.hardBlocked) state →
        HoldsSome username (fun left => left.quotaBytes = stored.quotaBytes ∧
          left.usedBytes = stored.usedBytes ∧
          (left.hardBlocked = true ↔ effectiveQuota ≤ used)) state := by
      rintro state ⟨left,row,limit,bytes,blocked⟩
      rw [unblocked] at blocked
      exact ⟨left,row,limit,bytes,iff_of_false (by simp [blocked]) below⟩
    refine (ensures_hardBlocked _ false stored).bind fun _ => Ensures.ite (fun _ => ?_) (fun _ => ?_)
    · exact (ensures_notified _ _ _).weaken fun _ state held => settled state held
    · exact (ensures_notified _ _ _).weaken fun _ state held => settled state held

end Row

section Reconciled
variable (around : Surroundings)

/-- A row is blocked exactly when its effective limit is reached. -/
def Enforced (quota : SqlUserQuota) : Prop :=
  quota.hardBlocked = true ↔
    ∃ limit, effectiveQuotaBytes around quota = some limit ∧ limit ≤ quota.usedBytes

/-- Every reconciliation of the user that returns leaves an enforced row. -/
def LeavesEnforced (username : String) (state : QuotaState) : Prop :=
  Ensures (fun start => start = state) (reconcileUserQuota around username)
    (fun _ => HoldsSome username (Enforced around))

theorem ensures_calculate (username : String) (quota : SqlUserQuota) :
    Ensures (HoldsQuota username quota) (calculateUsedBytes around username)
      (fun _ => HoldsQuota username quota) := by
  intro state measured reached held ran
  have same := (keeps_calculateUsedBytes around username).of_ok ran
  unfold HoldsQuota at held ⊢
  rw [quotaOf_of_accounts same]
  exact held

theorem ensures_usedBytes (username : String) (quota : SqlUserQuota) (used : Nat) :
    Ensures (HoldsQuota username quota)
      (onStore (updateUserQuotaUsedBytes around.reconciledAt username used))
      (fun _ => HoldsQuota username { quota with
        usedBytes := used, lastReconciledAt := some around.reconciledAt }) :=
  ensures_change username (fun quota =>
    { quota with usedBytes := used, lastReconciledAt := some around.reconciledAt })
    (fun _ => ⟨rfl,rfl⟩) quota

/-- With a row to begin with, the block follows the measured usage. -/
theorem leavesEnforced_of_row {username : String} {state : QuotaState} {quota : SqlUserQuota}
    (held : HoldsQuota username quota state) : LeavesEnforced around username state := by
  rintro state sizes reached rfl ran
  have read : onStore (getUserQuota username) state = .ok (some quota) state := by
    unfold HoldsQuota at held
    simp only [onStore,getUserQuota,held]
  have rest := (bind_of_ok read).symm.trans ran
  cases limit : effectiveQuotaBytes around quota with
  | none =>
    simp only [limit] at rest
    have cleared : Ensures (HoldsQuota username quota)
        (clearEnforcement username quota >>= fun _ => pure Cache.empty)
        (fun _ : Sizes => HoldsSome username (Enforced around)) := by
      refine Ensures.bind (Ensures.bind (ensures_hardBlocked quota.hardBlocked false quota)
        fun _ => ensures_notified _ none _) fun _ => ensures_pure fun reached left => ?_
      obtain ⟨left,row,bytes,_,blocked⟩ := left
      have unlimited : effectiveQuotaBytes around left = none := by
        unfold effectiveQuotaBytes at limit ⊢
        rw [bytes]
        exact limit
      have unblocked : left.hardBlocked = false := by
        rw [blocked]
        cases quota.hardBlocked <;> rfl
      exact ⟨left,row,by simp [Enforced,unlimited,unblocked]⟩
    exact cleared state sizes reached held rest
  | some effectiveQuota =>
    simp only [limit] at rest
    have applied : Ensures (HoldsQuota username quota)
        (calculateUsedBytes around username >>= fun measured => do
          onStore (updateUserQuotaUsedBytes around.reconciledAt username measured.1)
          applyThresholds around username quota effectiveQuota measured.1
          return measured.2)
        (fun _ => HoldsSome username (Enforced around)) := by
      refine (ensures_calculate around username quota).bind fun measured =>
        (ensures_usedBytes around username quota measured.1).bind fun _ =>
        (ensures_applyThresholds around effectiveQuota measured.1 rfl).bind fun _ =>
        ensures_pure fun reached left => ?_
      obtain ⟨left,row,bytes,used,blocked⟩ := left
      have sameLimit : effectiveQuotaBytes around left = some effectiveQuota := by
        unfold effectiveQuotaBytes at limit ⊢
        rw [bytes]
        exact limit
      refine ⟨left,row,?_⟩
      simp only [Enforced,sameLimit,Option.some.injEq,exists_eq_left',used]
      exact blocked
    exact applied state sizes reached held rest

theorem usersNamed_of_calculated {username : String} {state reached : QuotaState}
    {measured : Nat × Sizes} (ran : calculateUsedBytes around username state = .ok measured reached) :
    ∃ user, state.db.tables.usersNamed username = [user] := by
  cases found : state.db.tables.getUser username with
  | ok user => exact ⟨user,Tables.getUser_eq_ok.mp found⟩
  | error failure =>
    have unlisted : state.db.tables.listPermissionsForUser .experiment username = .error failure := by
      simp only [Tables.listPermissionsForUser,found,bind,Except.bind]
    simp only [calculateUsedBytes,unlisted] at ran
    cases ran

/-- Without a row the reconciliation makes one, and applies no threshold to it. -/
theorem reconcile_creates {username : String} {state middle : QuotaState} {measured : Nat × Sizes}
    (without : state.db.tables.quotaOf username = .ok none)
    (ran : calculateUsedBytes around username state = .ok measured middle) :
    ∃ quota reached, reconcileUserQuota around username state = .ok measured.2 reached ∧
      HoldsQuota username quota reached ∧ quota.quotaBytes = none ∧
      quota.usedBytes = measured.1 ∧ quota.hardBlocked = false := by
  have read : onStore (getUserQuota username) state = .ok none state := by
    simp only [onStore,getUserQuota,without]
  have same := (keeps_calculateUsedBytes around username).of_ok ran
  obtain ⟨user,known⟩ := usersNamed_of_calculated around ran
  have known' : middle.db.tables.usersNamed username = [user] := by
    have users : middle.db.tables.users = state.db.tables.users := congrArg Prod.fst same
    simpa only [Tables.usersNamed,users] using known
  have without' : middle.db.tables.quotaOf username = .ok none := by
    rw [quotaOf_of_accounts same]
    exact without
  obtain ⟨created,written,set,held,bytes,blocked⟩ := setUserQuota_creates known' without' none none
  have keeps : KeepsOwner (fun quota : SqlUserQuota => { quota with
      usedBytes := measured.1, lastReconciledAt := some around.reconciledAt }) :=
    fun _ => ⟨rfl,rfl⟩
  obtain ⟨updated,update,held'⟩ := changeQuota_commits keeps held
  have stored : onStore (setUserQuota username none none) middle = .ok () ⟨written,middle.sizeCache⟩ := by
    simp only [onStore,set]
  have counted : onStore (updateUserQuotaUsedBytes around.reconciledAt username measured.1)
      ⟨written,middle.sizeCache⟩ = .ok () ⟨updated,middle.sizeCache⟩ := by
    simp only [onStore,updateUserQuotaUsedBytes,update]
  refine ⟨_,⟨updated,middle.sizeCache⟩,?_,held',bytes,rfl,blocked⟩
  exact (bind_of_ok read).trans ((bind_of_ok ran).trans
    ((bind_of_ok stored).trans ((bind_of_ok counted).trans rfl)))

theorem leavesEnforced_of_none {username : String} {state middle : QuotaState}
    {measured : Nat × Sizes} (without : state.db.tables.quotaOf username = .ok none)
    (ran : calculateUsedBytes around username state = .ok measured middle) :
    LeavesEnforced around username state ↔
      ∀ limit, around.quotaDefaultBytes = some limit → measured.1 < limit := by
  obtain ⟨quota,reached,reconciled,held,bytes,used,blocked⟩ := reconcile_creates around without ran
  have enforced : Enforced around quota ↔
      ∀ limit, around.quotaDefaultBytes = some limit → measured.1 < limit := by
    have limits : effectiveQuotaBytes around quota = around.quotaDefaultBytes := by
      simp [effectiveQuotaBytes,bytes]
    simp only [Enforced,limits,used,blocked,Bool.false_eq_true,false_iff,not_exists,not_and,not_le]
  rw [← enforced]
  constructor
  · intro leaves
    obtain ⟨left,row,holds⟩ := leaves state measured.2 reached rfl reconciled
    have same : left = quota := by
      unfold HoldsQuota at held row
      simpa [held] using row.symm
    exact same ▸ holds
  · rintro holds start sizes last rfl again
    rw [reconciled] at again
    cases again
    exact ⟨quota,held,holds⟩

/-- A row is left enforced exactly when there was one, or when the measured usage of the user who
had none stays below the configured default. -/
theorem leavesEnforced_iff (username : String) (state : QuotaState) :
    LeavesEnforced around username state ↔
      (state.db.tables.quotaOf username = .ok none → ∀ measured middle,
        calculateUsedBytes around username state = .ok measured middle →
        ∀ limit, around.quotaDefaultBytes = some limit → measured.1 < limit) := by
  cases found : state.db.tables.quotaOf username with
  | error failure =>
    refine iff_of_true ?_ (fun none => by cases none)
    rintro start sizes reached rfl ran
    have read : onStore (getUserQuota username) start = .error failure start := by
      simp only [onStore,getUserQuota,found]
    cases (bind_of_error read).symm.trans ran
  | ok row =>
    cases row with
    | some quota => exact iff_of_true (leavesEnforced_of_row around found) (fun none => by cases none)
    | none =>
      constructor
      · intro leaves _ measured middle ran
        exact (leavesEnforced_of_none around found ran).mp leaves
      · intro below
        cases ran : calculateUsedBytes around username state with
        | ok measured middle =>
          exact (leavesEnforced_of_none around found ran).mpr (below rfl measured middle ran)
        | error failure middle =>
          rintro start sizes reached rfl returned
          have read : onStore (getUserQuota username) start = .ok none start := by
            simp only [onStore,getUserQuota,found]
          cases ((bind_of_ok read).trans (bind_of_error ran)).symm.trans returned

end Reconciled

section Sample

/-- A store that holds 2000 bytes for every experiment, under a default limit of 1000. -/
def overDefault : Surroundings :=
  { outage with
    getExperiment := fun _ id => .ok ⟨id,some "s3://artifacts",.active,none,none⟩
    listArtifacts := fun _ _ => .ok [⟨"model.bin",false,some 2000⟩] }

/-- Alice, who has no quota row, is measured over the default limit and not blocked. -/
theorem unblocked_over_default : ¬ ∀ around username state,
    LeavesEnforced around username state := by
  intro leaves
  have without : ownerState.db.tables.quotaOf "alice" = .ok none := by decide
  have counted : (returned (calculateUsedBytes overDefault "alice" ownerState)).map Prod.fst =
      some 2000 := by decide +kernel
  cases ran : calculateUsedBytes overDefault "alice" ownerState with
  | error failure middle =>
    rw [ran] at counted
    cases counted
  | ok measured middle =>
    rw [ran] at counted
    have below := (leavesEnforced_of_none overDefault without ran).mp
      (leaves overDefault "alice" ownerState) 1000 rfl
    have same : measured.1 = 2000 := by simpa [returned] using counted
    omega

end Sample
end MlflowOidcAuth
