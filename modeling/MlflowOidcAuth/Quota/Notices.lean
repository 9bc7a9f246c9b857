import MlflowOidcAuth.Quota.Enforcement

/-! The mails of a reconciliation. The reconciliation runs with a list of the mails it
attempts; without the list it is the plain one. What it leaves in the row, what it mails and
whether it raises are functions of the row, the limit and the usage. -/
namespace MlflowOidcAuth
open Effects KeyedCache

inductive NoticeKind
  | softCap
  | hardCap
deriving DecidableEq, Repr

/-- A mail that was attempted, and whether it went out. -/
structure Notice where
  kind : NoticeKind
  sent : Bool
deriving DecidableEq, Repr

structure NoticedState extends QuotaState where
  notices : List Notice

/-- How a stored timestamp is read back. A column may drop the offset; one it gives back
denotes the stored instant. -/
structure TimestampColumn where
  read : DateTime → DateTime
  faithful : ∀ value offset, (read value).utcOffset = some offset →
    ∃ offset', value.utcOffset = some offset' ∧
      (read value).wallClock - offset = value.wallClock - offset'

namespace TimestampColumn

def aware : TimestampColumn where
  read := id
  faithful := fun _ offset held => ⟨offset,held,rfl⟩

/-- A database without time zones, such as SQLite. -/
def naive : TimestampColumn where
  read := fun value => { value with utcOffset := none }
  faithful := fun _ _ held => by cases held

end TimestampColumn

/-- A step that mails nothing. -/
def unnoticed {α : Type} (program : EStateM Failure QuotaState α) :
    EStateM Failure NoticedState α := fun state =>
  match program state.toQuotaState with
  | .ok value reached => .ok value { state with toQuotaState := reached }
  | .error failure reached => .error failure { state with toQuotaState := reached }

section Programs
variable (column : TimestampColumn) (around : Surroundings) (username : String)

/-- A mail is attempted, and noted in the row once it went out. -/
def notify (kind : NoticeKind) (quota : SqlUserQuota) : EStateM Failure NoticedState PUnit :=
  fun state =>
    let sent := sendNotification around quota.email
    unnoticed (storeIf sent (setQuotaSoftNotifiedAt username (some (column.read around.now))))
      { state with notices := state.notices ++ [⟨kind,sent⟩] }

def notifyHardCapNoticed (quota : SqlUserQuota) : EStateM Failure NoticedState PUnit :=
  match hardCapDue around quota with
  | .error failure => throw failure
  | .ok due => if due then notify column around username .hardCap quota else pure ()

def applyThresholdsNoticed (quota : SqlUserQuota) (effectiveQuota : Int) (used : Nat) :
    EStateM Failure NoticedState PUnit :=
  if effectiveQuota = 0 then
    throw (.other "division by zero")
  else if effectiveQuota ≤ used then do
    unnoticed (storeIf (!quota.hardBlocked) (setQuotaHardBlocked username true))
    notifyHardCapNoticed column around username quota
  else do
    unnoticed (storeIf quota.hardBlocked (setQuotaHardBlocked username false))
    if (effectiveSoftCapFraction around quota).atMost (pct around effectiveQuota used) then
      if quota.softNotifiedAt.isNone then notify column around username .softCap quota else pure ()
    else
      unnoticed (storeIf quota.softNotifiedAt.isSome (setQuotaSoftNotifiedAt username none))

def reconcileNoticed : EStateM Failure NoticedState Sizes := do
  match ← unnoticed (onStore (getUserQuota username)) with
  | none =>
    let (used,experimentSizes) ← unnoticed (calculateUsedBytes around username)
    unnoticed (onStore (setUserQuota username none none))
    unnoticed (onStore (updateUserQuotaUsedBytes around.reconciledAt username used))
    return experimentSizes
  | some quota =>
    match effectiveQuotaBytes around quota with
    | none =>
      unnoticed (clearEnforcement username quota)
      return Cache.empty
    | some effectiveQuota =>
      let (used,experimentSizes) ← unnoticed (calculateUsedBytes around username)
      unnoticed (onStore (updateUserQuotaUsedBytes around.reconciledAt username used))
      applyThresholdsNoticed column around username quota effectiveQuota used
      return experimentSizes

end Programs

section Simulation
variable (around : Surroundings) (username : String)

theorem simulates_unnoticed {α : Type} (program : EStateM Failure QuotaState α) :
    Simulates NoticedState.toQuotaState (unnoticed program) program := by
  intro state
  unfold unnoticed
  cases program state.toQuotaState <;> rfl

theorem simulates_notify (kind : NoticeKind) (quota : SqlUserQuota) :
    Simulates NoticedState.toQuotaState (notify .aware around username kind quota)
      (storeIf (sendNotification around quota.email)
        (setQuotaSoftNotifiedAt username (some around.now))) :=
  fun _ => simulates_unnoticed _ _

theorem simulates_due (kind : NoticeKind) (quota : SqlUserQuota) (due : Bool) :
    Simulates NoticedState.toQuotaState
      (if due then notify .aware around username kind quota else pure ())
      (storeIf (due && sendNotification around quota.email)
        (setQuotaSoftNotifiedAt username (some around.now))) := by
  cases due with
  | true => exact simulates_notify around username kind quota
  | false => exact simulates_pure _

theorem simulates_applyThresholds (quota : SqlUserQuota) (effectiveQuota : Int) (used : Nat) :
    Simulates NoticedState.toQuotaState
      (applyThresholdsNoticed .aware around username quota effectiveQuota used)
      (applyThresholds around username quota effectiveQuota used) := by
  unfold applyThresholdsNoticed applyThresholds
  apply Simulates.ite (simulates_throw _)
  apply Simulates.ite
  · apply (simulates_unnoticed _).bind
    intro _
    unfold notifyHardCapNoticed notifyHardCap
    cases hardCapDue around quota with
    | error failure => exact simulates_throw _
    | ok due => exact simulates_due around username .hardCap quota due
  · apply (simulates_unnoticed _).bind
    intro _
    apply Simulates.ite _ (simulates_unnoticed _)
    exact simulates_due around username .softCap quota quota.softNotifiedAt.isNone

/-- Without its list the reconciliation is the plain one. -/
theorem simulates_reconcile : Simulates NoticedState.toQuotaState
    (reconcileNoticed .aware around username) (reconcileUserQuota around username) := by
  apply (simulates_unnoticed _).bind
  intro quota
  cases quota with
  | none =>
    apply (simulates_unnoticed _).bind
    intro _
    apply (simulates_unnoticed _).bind
    intro _
    apply (simulates_unnoticed _).bind
    intro _
    exact simulates_pure _
  | some quota =>
    simp only
    cases effectiveQuotaBytes around quota with
    | none =>
      apply (simulates_unnoticed _).bind
      intro _
      exact simulates_pure _
    | some effectiveQuota =>
      apply (simulates_unnoticed _).bind
      intro measured
      apply (simulates_unnoticed _).bind
      intro _
      apply (simulates_applyThresholds around username quota effectiveQuota measured.1).bind
      intro _
      exact simulates_pure _

end Simulation

/-- What a reconciliation comes to: the row it leaves, its mails and its exception. -/
structure Verdict where
  row : SqlUserQuota
  notices : List Notice
  raised : Option Failure

section Verdicts
variable (column : TimestampColumn) (around : Surroundings)

def noticeVerdict (kind : NoticeKind) (row : SqlUserQuota) (email : Option String) : Verdict where
  row :=
    if sendNotification around email then
      { row with softNotifiedAt := some (column.read around.now) }
    else row
  notices := [⟨kind,sendNotification around email⟩]
  raised := none

def hardCapVerdict (quota row : SqlUserQuota) : Verdict :=
  match hardCapDue around quota with
  | .error failure => ⟨{ row with hardBlocked := true },[],some failure⟩
  | .ok true => noticeVerdict column around .hardCap { row with hardBlocked := true } quota.email
  | .ok false => ⟨{ row with hardBlocked := true },[],none⟩

def softCapVerdict (quota row : SqlUserQuota) (above : Bool) : Verdict :=
  if above then
    if quota.softNotifiedAt.isNone then
      noticeVerdict column around .softCap { row with hardBlocked := false } quota.email
    else ⟨{ row with hardBlocked := false },[],none⟩
  else ⟨{ row with hardBlocked := false, softNotifiedAt := none },[],none⟩

def measuredRow (quota : SqlUserQuota) (used : Nat) : SqlUserQuota :=
  { quota with usedBytes := used, lastReconciledAt := some around.reconciledAt }

def thresholdVerdict (quota : SqlUserQuota) (effectiveQuota : Int) (used : Nat) : Verdict :=
  if effectiveQuota = 0 then
    ⟨measuredRow around quota used,[],some (.other "division by zero")⟩
  else if effectiveQuota ≤ used then
    hardCapVerdict column around quota (measuredRow around quota used)
  else
    softCapVerdict column around quota (measuredRow around quota used)
      ((effectiveSoftCapFraction around quota).atMost (pct around effectiveQuota used))

end Verdicts

def Ended {α : Type} (username : String) (verdict : Verdict) (state : NoticedState)
    (run : EStateM.Result Failure NoticedState α) : Prop :=
  ∃ reached, HoldsQuota username verdict.row reached.toQuotaState ∧
    reached.notices = state.notices ++ verdict.notices ∧
    match verdict.raised with
    | none => ∃ value, run = .ok value reached
    | some failure => run = .error failure reached

/-- From every state that holds the row, the program comes to the verdict. -/
def Concludes {α : Type} (username : String) (row : SqlUserQuota)
    (program : EStateM Failure NoticedState α) (verdict : Verdict) : Prop :=
  ∀ state, HoldsQuota username row state.toQuotaState →
    Ended username verdict state (program state)

section Conclusions
variable {username : String} {row : SqlUserQuota} {α β : Type}

theorem concludes_pure (value : α) : Concludes username row (pure value) ⟨row,[],none⟩ :=
  fun state held => ⟨state,held,(List.append_nil _).symm,value,rfl⟩

theorem concludes_throw (failure : Failure) :
    Concludes username row (throw failure : EStateM Failure NoticedState α)
      ⟨row,[],some failure⟩ :=
  fun state held => ⟨state,held,(List.append_nil _).symm,rfl⟩

theorem Concludes.bind {program : EStateM Failure NoticedState α}
    {next : α → EStateM Failure NoticedState β} {middle : SqlUserQuota} {notices : List Notice}
    {verdict : Verdict} (first : Concludes username row program ⟨middle,notices,none⟩)
    (second : ∀ value, Concludes username middle (next value) verdict) :
    Concludes username row (program >>= next)
      ⟨verdict.row,notices ++ verdict.notices,verdict.raised⟩ := by
  intro state held
  obtain ⟨between,heldBetween,notedBetween,value,ran⟩ := first state held
  obtain ⟨reached,heldReached,noted,ended⟩ := second value between heldBetween
  refine ⟨reached,heldReached,?_,?_⟩
  · rw [noted,notedBetween,List.append_assoc]
  · rw [bind_of_ok ran]
    exact ended

theorem Concludes.returning {program : EStateM Failure NoticedState α} {verdict : Verdict}
    (concluded : Concludes username row program verdict) (value : β) :
    Concludes username row (program >>= fun _ => pure value) verdict := by
  intro state held
  obtain ⟨reached,heldReached,noted,ended⟩ := concluded state held
  refine ⟨reached,heldReached,noted,?_⟩
  cases raised : verdict.raised with
  | none =>
    simp only [raised] at ended
    obtain ⟨_,ran⟩ := ended
    exact ⟨value,bind_of_ok ran⟩
  | some failure =>
    simp only [raised] at ended
    exact bind_of_error ended

theorem concludes_change (change : SqlUserQuota → SqlUserQuota) (keeps : KeepsOwner change) :
    Concludes username row
      (unnoticed (onStore (session rejected (Tables.changeQuota change username))))
      ⟨change row,[],none⟩ := by
  intro state held
  obtain ⟨written,committed,changed⟩ := changeQuota_commits keeps held
  refine ⟨{ state with db := written },changed,(List.append_nil _).symm,(),?_⟩
  simp only [unnoticed,onStore,committed]

theorem concludes_storeIf (change : SqlUserQuota → SqlUserQuota) (keeps : KeepsOwner change)
    (condition : Bool) :
    Concludes username row
      (unnoticed (storeIf condition (session rejected (Tables.changeQuota change username))))
      ⟨if condition then change row else row,[],none⟩ := by
  cases condition with
  | false => exact fun state held => ⟨state,held,(List.append_nil _).symm,(),rfl⟩
  | true => exact concludes_change change keeps

theorem concludes_stamp (condition : Bool) (value : Option DateTime) :
    Concludes username row (unnoticed (storeIf condition (setQuotaSoftNotifiedAt username value)))
      ⟨if condition then { row with softNotifiedAt := value } else row,[],none⟩ :=
  concludes_storeIf (fun quota => { quota with softNotifiedAt := value }) (fun _ => ⟨rfl,rfl⟩)
    condition

/-- A block is written only where it differs from the one that was read. -/
theorem concludes_block {quota : SqlUserQuota} (unchanged : row.hardBlocked = quota.hardBlocked)
    (condition blocked : Bool) (differs : condition = true ↔ quota.hardBlocked ≠ blocked) :
    Concludes username row (unnoticed (storeIf condition (setQuotaHardBlocked username blocked)))
      ⟨{ row with hardBlocked := blocked },[],none⟩ := by
  have written : Concludes username row
      (unnoticed (storeIf condition (setQuotaHardBlocked username blocked)))
      ⟨if condition then { row with hardBlocked := blocked } else row,[],none⟩ :=
    concludes_storeIf (fun quota => { quota with hardBlocked := blocked }) (fun _ => ⟨rfl,rfl⟩)
      condition
  have same : (if condition then { row with hardBlocked := blocked } else row) =
      { row with hardBlocked := blocked } := by
    by_cases write : condition = true
    · exact if_pos write
    · have already := not_not.mp (fun other => write (differs.mpr other))
      rw [if_neg write,← already,← unchanged]
  rwa [same] at written

/-- The stamp is cleared only where one was read. -/
theorem concludes_forget {quota : SqlUserQuota}
    (sameStamp : row.softNotifiedAt = quota.softNotifiedAt) :
    Concludes username row
      (unnoticed (storeIf quota.softNotifiedAt.isSome (setQuotaSoftNotifiedAt username none)))
      ⟨{ row with softNotifiedAt := none },[],none⟩ := by
  have same : (if quota.softNotifiedAt.isSome then { row with softNotifiedAt := none } else row) =
      { row with softNotifiedAt := none } := by
    rw [← sameStamp]
    cases row
    split <;> simp_all
  rw [← same]
  exact concludes_stamp _ none

variable (column : TimestampColumn) (around : Surroundings)

theorem concludes_notify (kind : NoticeKind) (quota : SqlUserQuota) :
    Concludes username row (notify column around username kind quota)
      (noticeVerdict column around kind row quota.email) := by
  intro state held
  obtain ⟨reached,stamped,noted,ended⟩ := concludes_stamp (sendNotification around quota.email)
    (some (column.read around.now))
    { state with notices := state.notices ++ [⟨kind,sendNotification around quota.email⟩] } held
  exact ⟨reached,stamped,noted.trans (List.append_nil _),ended⟩

theorem concludes_hardCap (quota : SqlUserQuota)
    (unchanged : row.hardBlocked = quota.hardBlocked) :
    Concludes username row (do
      unnoticed (storeIf (!quota.hardBlocked) (setQuotaHardBlocked username true))
      notifyHardCapNoticed column around username quota)
      (hardCapVerdict column around quota row) := by
  have blocked : Concludes username row
      (unnoticed (storeIf (!quota.hardBlocked) (setQuotaHardBlocked username true)))
      ⟨{ row with hardBlocked := true },[],none⟩ := concludes_block unchanged _ true (by simp)
  unfold notifyHardCapNoticed hardCapVerdict
  cases hardCapDue around quota with
  | error failure => exact blocked.bind (fun _ => concludes_throw failure)
  | ok due =>
    cases due with
    | true => exact blocked.bind (fun _ => concludes_notify column around .hardCap quota)
    | false => exact blocked.bind (fun _ => concludes_pure ())

theorem concludes_softCap (quota : SqlUserQuota)
    (unchanged : row.hardBlocked = quota.hardBlocked)
    (sameStamp : row.softNotifiedAt = quota.softNotifiedAt) (above : Bool) :
    Concludes username row (do
      unnoticed (storeIf quota.hardBlocked (setQuotaHardBlocked username false))
      if above then
        if quota.softNotifiedAt.isNone then notify column around username .softCap quota
        else pure ()
      else
        unnoticed (storeIf quota.softNotifiedAt.isSome (setQuotaSoftNotifiedAt username none)))
      (softCapVerdict column around quota row above) := by
  have unblocked : Concludes username row
      (unnoticed (storeIf quota.hardBlocked (setQuotaHardBlocked username false)))
      ⟨{ row with hardBlocked := false },[],none⟩ := concludes_block unchanged _ false (by simp)
  unfold softCapVerdict
  cases above with
  | true =>
    cases stamped : quota.softNotifiedAt with
    | none => exact unblocked.bind (fun _ => concludes_notify column around .softCap quota)
    | some notified => exact unblocked.bind (fun _ => concludes_pure ())
  | false =>
    exact unblocked.bind (fun _ => concludes_forget sameStamp)

/-- Applied to the row as it was read before the measurement, the thresholds come to
their verdict. -/
theorem concludes_applyThresholds (quota : SqlUserQuota) (effectiveQuota : Int) (used : Nat) :
    Concludes username (measuredRow around quota used)
      (applyThresholdsNoticed column around username quota effectiveQuota used)
      (thresholdVerdict column around quota effectiveQuota used) := by
  have unchanged : (measuredRow around quota used).hardBlocked = quota.hardBlocked := rfl
  have sameStamp : (measuredRow around quota used).softNotifiedAt = quota.softNotifiedAt := rfl
  unfold applyThresholdsNoticed thresholdVerdict
  split
  · exact concludes_throw _
  · split
    · exact concludes_hardCap column around quota unchanged
    · exact concludes_softCap column around quota unchanged sameStamp _

end Conclusions

section Reconciliation
variable {username : String} {state : NoticedState} {quota : SqlUserQuota}

theorem unnoticed_of_ok {α : Type} {program : EStateM Failure QuotaState α} {value : α}
    {reached : QuotaState} (ran : program state.toQuotaState = .ok value reached) :
    unnoticed program state = .ok value { state with toQuotaState := reached } := by
  simp only [unnoticed,ran]

theorem unnoticed_of_error {α : Type} {program : EStateM Failure QuotaState α} {failure : Failure}
    {reached : QuotaState} (ran : program state.toQuotaState = .error failure reached) :
    unnoticed program state = .error failure { state with toQuotaState := reached } := by
  simp only [unnoticed,ran]

theorem unnoticed_bind {α β : Type} (program : EStateM Failure QuotaState α)
    (next : α → EStateM Failure QuotaState β) :
    unnoticed (program >>= next) = unnoticed program >>= fun value => unnoticed (next value) := by
  funext state
  cases ran : program state.toQuotaState with
  | ok value reached =>
    rw [bind_of_ok (unnoticed_of_ok ran)]
    simp only [unnoticed,bind_of_ok ran]
  | error failure reached =>
    rw [bind_of_error (unnoticed_of_error ran)]
    simp only [unnoticed,bind_of_error ran]

theorem read_quota (held : HoldsQuota username quota state.toQuotaState) :
    unnoticed (onStore (getUserQuota username)) state = .ok (some quota) state := by
  apply unnoticed_of_ok
  unfold HoldsQuota at held
  simp only [onStore,getUserQuota,held]

theorem reconcile_of_limit (column : TimestampColumn) (around : Surroundings)
    (state : NoticedState) (held : HoldsQuota username quota state.toQuotaState)
    {effectiveQuota : Int} (limited : effectiveQuotaBytes around quota = some effectiveQuota)
    {used : Nat} {sizes : Sizes} {measured : QuotaState}
    (ran : calculateUsedBytes around username state.toQuotaState = .ok (used,sizes) measured) :
    Ended username (thresholdVerdict column around quota effectiveQuota used) state
      (reconcileNoticed column around username state) := by
  have kept : HoldsQuota username quota measured :=
    ensures_calculate around username quota state.toQuotaState _ _ held ran
  have stored : Concludes username quota
      (unnoticed (onStore (updateUserQuotaUsedBytes around.reconciledAt username used)))
      ⟨measuredRow around quota used,[],none⟩ :=
    concludes_change (fun quota =>
      { quota with usedBytes := used, lastReconciledAt := some around.reconciledAt })
      (fun _ => ⟨rfl,rfl⟩)
  have applied := (stored.bind (fun _ =>
    concludes_applyThresholds column around quota effectiveQuota used)).returning sizes
    { state with toQuotaState := measured } kept
  have rest : reconcileNoticed column around username state =
      ((unnoticed (onStore (updateUserQuotaUsedBytes around.reconciledAt username used)) >>=
          fun _ => applyThresholdsNoticed column around username quota effectiveQuota used) >>=
        fun _ => pure sizes) { state with toQuotaState := measured } := by
    refine (bind_of_ok (read_quota held)).trans ?_
    simp only [limited]
    refine (bind_of_ok (unnoticed_of_ok ran)).trans ?_
    simp only [bind_assoc]
  rw [rest]
  exact applied

/-- Without a limit the enforcement is lifted, and nobody is written to. -/
theorem reconcile_of_unlimited (column : TimestampColumn) (around : Surroundings)
    (state : NoticedState) (held : HoldsQuota username quota state.toQuotaState)
    (unlimited : effectiveQuotaBytes around quota = none) :
    Ended username ⟨{ quota with hardBlocked := false, softNotifiedAt := none },[],none⟩ state
      (reconcileNoticed column around username state) := by
  have unblocked : Concludes username quota
      (unnoticed (storeIf quota.hardBlocked (setQuotaHardBlocked username false)))
      ⟨{ quota with hardBlocked := false },[],none⟩ := concludes_block rfl _ false (by simp)
  have cleared : Concludes username quota (unnoticed (clearEnforcement username quota))
      ⟨{ quota with hardBlocked := false, softNotifiedAt := none },[],none⟩ := by
    unfold clearEnforcement
    rw [unnoticed_bind]
    exact unblocked.bind (fun _ => concludes_forget rfl)
  have rest : reconcileNoticed column around username state =
      (unnoticed (clearEnforcement username quota) >>= fun _ => pure Cache.empty) state := by
    refine (bind_of_ok (read_quota held)).trans ?_
    simp only [unlimited]
  rw [rest]
  exact cleared.returning Cache.empty state held

theorem reconcile_of_unmeasured (column : TimestampColumn) (around : Surroundings)
    (state : NoticedState) (held : HoldsQuota username quota state.toQuotaState)
    {effectiveQuota : Int} (limited : effectiveQuotaBytes around quota = some effectiveQuota)
    {failure : Failure} {measured : QuotaState}
    (ran : calculateUsedBytes around username state.toQuotaState = .error failure measured) :
    Ended username ⟨quota,[],some failure⟩ state
      (reconcileNoticed column around username state) := by
  have kept := (keeps_calculateUsedBytes around username).of_error ran
  refine ⟨{ state with toQuotaState := measured },?_,(List.append_nil _).symm,?_⟩
  · unfold HoldsQuota at held ⊢
    rw [quotaOf_of_accounts kept]
    exact held
  · refine (bind_of_ok (read_quota held)).trans ?_
    simp only [limited]
    exact bind_of_error (unnoticed_of_error ran)

inductive Decides (column : TimestampColumn) (around : Surroundings) (username : String)
    (quota : SqlUserQuota) (state : QuotaState) : Verdict → Prop
  | unlimited (unlimited : effectiveQuotaBytes around quota = none) :
      Decides column around username quota state
        ⟨{ quota with hardBlocked := false, softNotifiedAt := none },[],none⟩
  | unmeasured {limit : Int} {failure : Failure} {reached : QuotaState}
      (limited : effectiveQuotaBytes around quota = some limit)
      (ran : calculateUsedBytes around username state = .error failure reached) :
      Decides column around username quota state ⟨quota,[],some failure⟩
  | measured {limit : Int} {used : Nat} {sizes : Sizes} {reached : QuotaState}
      (limited : effectiveQuotaBytes around quota = some limit)
      (ran : calculateUsedBytes around username state = .ok (used,sizes) reached) :
      Decides column around username quota state (thresholdVerdict column around quota limit used)

theorem reconcile_decides (column : TimestampColumn) (around : Surroundings)
    (state : NoticedState) (held : HoldsQuota username quota state.toQuotaState) :
    ∃ verdict, Decides column around username quota state.toQuotaState verdict ∧
      Ended username verdict state (reconcileNoticed column around username state) := by
  cases limited : effectiveQuotaBytes around quota with
  | none => exact ⟨_,.unlimited limited,reconcile_of_unlimited column around state held limited⟩
  | some limit =>
    cases ran : calculateUsedBytes around username state.toQuotaState with
    | ok counted reached =>
      exact ⟨_,.measured limited ran,reconcile_of_limit column around state held limited ran⟩
    | error failure reached =>
      exact ⟨_,.unmeasured limited ran,reconcile_of_unmeasured column around state held limited ran⟩

theorem Ended.after {α : Type} {verdict : Verdict} {program : EStateM Failure NoticedState α}
    (ended : Ended username verdict state (program state)) :
    HoldsQuota username verdict.row (after program state).toQuotaState ∧
      (Effects.after program state).notices = state.notices ++ verdict.notices := by
  obtain ⟨reached,held,noted,came⟩ := ended
  have final : Effects.after program state = reached := by
    cases raised : verdict.raised with
    | none =>
      simp only [raised] at came
      obtain ⟨value,ran⟩ := came
      simp only [Effects.after,ran,finish]
    | some failure =>
      simp only [raised] at came
      simp only [Effects.after,came,finish]
  rw [final]
  exact ⟨held,noted⟩

theorem keeps_unnoticed {α : Type} (program : EStateM Failure QuotaState α) :
    Keeps NoticedState.notices (unnoticed program) := by
  intro state
  cases ran : program state.toQuotaState with
  | ok value reached =>
    rw [after,unnoticed_of_ok ran]
    rfl
  | error failure reached =>
    rw [after,unnoticed_of_error ran]
    rfl

/-- Nobody is written to for a row that does not exist. -/
theorem reconcile_silent (column : TimestampColumn) (around : Surroundings)
    (state : NoticedState) (absent : ∀ quota, ¬ HoldsQuota username quota state.toQuotaState) :
    (after (reconcileNoticed column around username) state).notices = state.notices := by
  cases found : state.db.tables.quotaOf username with
  | error failure =>
    have raised : unnoticed (onStore (getUserQuota username)) state = .error failure state := by
      apply unnoticed_of_error
      simp only [onStore,getUserQuota,found]
    rw [after,reconcileNoticed,bind_of_error raised]
    rfl
  | ok row =>
    cases row with
    | some quota => exact absurd found (absent quota)
    | none =>
      have read : unnoticed (onStore (getUserQuota username)) state = .ok none state := by
        apply unnoticed_of_ok
        simp only [onStore,getUserQuota,found]
      rw [after,reconcileNoticed,bind_of_ok read]
      have silent : Keeps NoticedState.notices (do
          let (used,experimentSizes) ← unnoticed (calculateUsedBytes around username)
          unnoticed (onStore (setUserQuota username none none))
          unnoticed (onStore (updateUserQuotaUsedBytes around.reconciledAt username used))
          return experimentSizes) := by
        apply (keeps_unnoticed _).bind
        intro _
        apply (keeps_unnoticed _).bind
        intro _
        apply (keeps_unnoticed _).bind
        intro _
        exact keeps_pure _
      exact silent state

end Reconciliation

/-- The surroundings of a reconciliation that reads this clock, in UTC. -/
def Surroundings.clocked (around : Surroundings) (now : Int) : Surroundings :=
  { around with now := ⟨now,some 0⟩ }

section Completion
variable {username : String} {quota : SqlUserQuota}

/-- A limit can be divided by, and a stamp that a reminder is timed by has an offset. -/
def Reconcilable (around : Surroundings) (quota : SqlUserQuota) (used : Nat) : Prop :=
  ∀ limit, effectiveQuotaBytes around quota = some limit → limit ≠ 0 ∧
    (limit ≤ used → ∀ notified, quota.softNotifiedAt = some notified →
      notified.utcOffset.isSome = true)

theorem hardCapDue_unstamped (around : Surroundings) (unstamped : quota.softNotifiedAt = none) :
    hardCapDue around quota = .ok true := by
  simp only [hardCapDue,unstamped]

theorem hardCapDue_naive (around : Surroundings) (now : Int) {wallClock : Int}
    (stamp : quota.softNotifiedAt = some ⟨wallClock,none⟩) :
    hardCapDue (around.clocked now) quota =
      .error (.other "can't subtract offset-naive and offset-aware datetimes") := by
  simp only [hardCapDue,stamp]
  rfl

theorem hardCapDue_aware (around : Surroundings) (now : Int) {wallClock offset : Int}
    (stamp : quota.softNotifiedAt = some ⟨wallClock,some offset⟩) :
    hardCapDue (around.clocked now) quota =
      .ok (decide (hours24 < now - (wallClock - offset))) := by
  have passed : elapsed (around.clocked now).now ⟨wallClock,some offset⟩ =
      .ok (now - (wallClock - offset)) := by
    simp only [elapsed,Surroundings.clocked,sub_zero]
  simp only [hardCapDue,stamp,passed]
  rfl

theorem hardCapDue_returns {around : Surroundings} {now : Int} :
    (∃ due, hardCapDue (around.clocked now) quota = .ok due) ↔
      ∀ notified, quota.softNotifiedAt = some notified → notified.utcOffset.isSome = true := by
  cases stamp : quota.softNotifiedAt with
  | none => simp [hardCapDue_unstamped _ stamp]
  | some notified =>
    rcases notified with ⟨wallClock,_ | offset⟩
    · simp [hardCapDue_naive around now stamp]
    · simp [hardCapDue_aware around now stamp]

theorem noticeVerdict_raised (column : TimestampColumn) (around : Surroundings) (kind : NoticeKind)
    (row : SqlUserQuota) (email : Option String) :
    (noticeVerdict column around kind row email).raised = none := rfl

theorem hardCapVerdict_raised (column : TimestampColumn) (around : Surroundings)
    (quota row : SqlUserQuota) : (hardCapVerdict column around quota row).raised = none ↔
      ∃ due, hardCapDue around quota = .ok due := by
  unfold hardCapVerdict
  cases hardCapDue around quota with
  | error failure => simp
  | ok due => cases due <;> simp [noticeVerdict_raised]

theorem softCapVerdict_raised (column : TimestampColumn) (around : Surroundings)
    (quota row : SqlUserQuota) (above : Bool) :
    (softCapVerdict column around quota row above).raised = none := by
  unfold softCapVerdict
  cases above <;> cases quota.softNotifiedAt <;> rfl

theorem thresholdVerdict_raised (column : TimestampColumn) (around : Surroundings) (now : Int)
    (quota : SqlUserQuota) (limit : Int) (used : Nat) :
    (thresholdVerdict column (around.clocked now) quota limit used).raised = none ↔
      limit ≠ 0 ∧ (limit ≤ used → ∀ notified, quota.softNotifiedAt = some notified →
        notified.utcOffset.isSome = true) := by
  unfold thresholdVerdict
  split
  · next zero => simp [zero]
  · next divisible =>
    split
    · next reached =>
      rw [hardCapVerdict_raised,hardCapDue_returns]
      simp [divisible,reached]
    · next below => simp [softCapVerdict_raised,divisible,below]

theorem Ended.returns_iff {α : Type} {verdict : Verdict} {state : NoticedState}
    {run : EStateM.Result Failure NoticedState α} (ended : Ended username verdict state run) :
    (∃ value reached, run = .ok value reached) ↔ verdict.raised = none := by
  obtain ⟨reached,_,_,came⟩ := ended
  cases raised : verdict.raised with
  | none =>
    simp only [raised] at came
    obtain ⟨value,ran⟩ := came
    simp [ran]
  | some failure =>
    simp only [raised] at came
    simp [came]

/-- With a row and a measured usage, a reconciliation completes exactly when the limit can be
divided by and the stamp can be subtracted where it is. -/
theorem reconcileCompletes_iff (around : Surroundings) (now : Int) {state : QuotaState} {used : Nat} {sizes : Sizes}
    {measured : QuotaState} (held : HoldsQuota username quota state)
    (measures : (effectiveQuotaBytes around quota).isSome = true →
      calculateUsedBytes (around.clocked now) username state = .ok (used,sizes) measured) :
    (∃ value reached, reconcileUserQuota (around.clocked now) username state = .ok value reached) ↔
      Reconcilable around quota used := by
  have plain := (simulates_reconcile (around.clocked now) username).returns_iff ⟨state,[]⟩
  rw [plain]
  cases limit : effectiveQuotaBytes around quota with
  | none =>
    have ended := reconcile_of_unlimited .aware (around.clocked now) ⟨state,[]⟩ held limit
    exact iff_of_true (ended.returns_iff.mpr rfl) (by simp [Reconcilable,limit])
  | some effectiveQuota =>
    have ran := measures (by simp [limit])
    have ended := reconcile_of_limit .aware (around.clocked now) ⟨state,[]⟩ held limit ran
    rw [ended.returns_iff,thresholdVerdict_raised]
    simp [Reconcilable,limit]

end Completion

section Sample

/-- Alice owns nothing yet. -/
def newcomerTables : Tables :=
  { Tables.empty with users := [⟨1,"alice","Alice","",none,false,false⟩] }

theorem integrity_newcomer : Integrity newcomerTables := by decide

def newcomer : QuotaState where
  db := ⟨newcomerTables,integrity_newcomer⟩
  sizeCache := Cache.empty

def limitedTo (quotaBytes : Int) : QuotaState :=
  after (onStore (setUserQuota "alice" (some quotaBytes) none)) newcomer

def limitedRow (quotaBytes : Int) : SqlUserQuota where
  id := 1
  userId := 1
  quotaBytes := some quotaBytes
  usedBytes := 0
  softCapFraction := none
  lastReconciledAt := none
  softNotifiedAt := none
  hardBlocked := false
  email := none

theorem holds_limited (quotaBytes : Int) :
    HoldsQuota "alice" (limitedRow quotaBytes) (limitedTo quotaBytes) := rfl

theorem measures_newcomer (around : Surroundings) (quotaBytes : Int) :
    calculateUsedBytes around "alice" (limitedTo quotaBytes) =
      .ok (0,Cache.empty) (limitedTo quotaBytes) := rfl

theorem completes_under_limit : ∃ value reached,
    reconcileUserQuota (outage.clocked 0) "alice" (limitedTo 1000) = .ok value reached := by
  have completes := reconcileCompletes_iff outage 0 (holds_limited 1000)
    (fun _ => measures_newcomer _ 1000)
  refine completes.mpr ?_
  intro limit limited
  cases limited
  constructor
  · decide
  · intro full
    omega

/-- A limit of zero is accepted and then divided by. -/
theorem zero_limit_raises : ¬ ∀ (around : Surroundings) (now : Int) (username : String)
    (state : QuotaState) (quota : SqlUserQuota) (used : Nat) (sizes : Sizes) (measured : QuotaState),
    HoldsQuota username quota state →
    calculateUsedBytes (around.clocked now) username state = .ok (used,sizes) measured →
    ∃ value reached, reconcileUserQuota (around.clocked now) username state = .ok value reached := by
  intro completes
  have returns : (returned (reconcileUserQuota (outage.clocked 0) "alice" (limitedTo 0))).isSome =
      true := by
    obtain ⟨value,reached,ran⟩ := completes outage 0 "alice" (limitedTo 0) (limitedRow 0) 0
      Cache.empty (limitedTo 0) (holds_limited 0) (measures_newcomer _ 0)
    rw [ran]
    rfl
  revert returns
  decide +kernel

end Sample

end MlflowOidcAuth
