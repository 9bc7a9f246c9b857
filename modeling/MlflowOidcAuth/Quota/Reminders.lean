import MlflowOidcAuth.Library.Run
import MlflowOidcAuth.Quota.Notices
import MlflowOidcAuth.Store.Methods

/-! The mails of one user over whole runs. A soft warning and a hard reminder share one
timestamp: it spaces the mails out, and it silences the first mail of a block. -/
namespace MlflowOidcAuth
open Effects KeyedCache

inductive QuotaRequest
  | increment (delta : Int)
  | set (quotaBytes : Option Int) (softCapFraction : Option PyFloat)
  | email (address : Option String)
  | delete

def QuotaRequest.write : QuotaRequest → QuotaWrite
  | .increment delta => .increment delta
  | .set quotaBytes softCapFraction => .set quotaBytes softCapFraction
  | .email address => .email address
  | .delete => .delete

inductive QuotaEvent
  | reconcile (around : Surroundings) (now : Int)
  | request (request : QuotaRequest)
  /-- Whatever else is written; of the row of the user, at most its loss. -/
  | elsewhere (reached : QuotaState)

abbrev QuotaMoment := Run.Moment QuotaState QuotaEvent (List Notice)

section Steps
variable (column : TimestampColumn) (username : String)

/-- An event, answered by the mails that it attempts. -/
def quotaStep (state : QuotaState) : QuotaEvent → List Notice × QuotaState
  | .reconcile around now =>
    let reached := after (reconcileNoticed column (around.clocked now) username) ⟨state,[]⟩
    (reached.notices,reached.toQuotaState)
  | .request request =>
    ([],after (onStore (session rejected (request.write.body username))) state)
  | .elsewhere reached =>
    if reached.db.tables.quotaOf username = state.db.tables.quotaOf username ∨
        reached.db.tables.quotaOf username = .ok none then
      ([],reached)
    else ([],state)

variable {username} {state : QuotaState} {quota : SqlUserQuota}

theorem quotaStep_decides (around : Surroundings) (now : Int)
    (held : HoldsQuota username quota state) :
    ∃ verdict, Decides column (around.clocked now) username quota state verdict ∧
      HoldsQuota username verdict.row
        (quotaStep column username state (.reconcile around now)).2 ∧
      (quotaStep column username state (.reconcile around now)).1 = verdict.notices := by
  obtain ⟨verdict,decided,ended⟩ := reconcile_decides column (around.clocked now) ⟨state,[]⟩ held
  exact ⟨verdict,decided,ended.after.1,ended.after.2⟩

theorem quotaStep_silent (around : Surroundings) (now : Int)
    (absent : ∀ quota, ¬ HoldsQuota username quota state) :
    (quotaStep column username state (.reconcile around now)).1 = [] :=
  reconcile_silent column (around.clocked now) ⟨state,[]⟩ absent

instance (username : String) (quota : SqlUserQuota) (state : QuotaState) :
    Decidable (HoldsQuota username quota state) := inferInstanceAs (Decidable (_ = _))

def QuotaRequest.change : QuotaRequest → SqlUserQuota → SqlUserQuota
  | .increment delta,quota => { quota with usedBytes := max 0 (quota.usedBytes + delta) }
  | .set quotaBytes softCapFraction,quota => { quota with
      quotaBytes := quotaBytes
      softCapFraction := softCapFraction.orElse (fun _ => quota.softCapFraction) }
  | .email address,quota => { quota with email := address }
  | .delete,quota => quota

theorem QuotaRequest.keepsOwner (request : QuotaRequest) : KeepsOwner request.change := by
  intro quota
  cases request <;> exact ⟨rfl,rfl⟩

theorem QuotaRequest.change_stamp (request : QuotaRequest) (quota : SqlUserQuota) :
    (request.change quota).softNotifiedAt = quota.softNotifiedAt := by
  cases request <;> rfl

/-- On a row that exists every request but the deletion is a setter. -/
theorem QuotaRequest.body_eq {request : QuotaRequest} (kept : request ≠ .delete) {t : Tables}
    (held : t.quotaOf username = .ok (some quota)) :
    request.write.body username t = t.changeQuota request.change username := by
  obtain ⟨user,known,rows⟩ := quotaOf_eq_some.mp held
  have found : t.getUser username = .ok user := Tables.getUser_eq_ok.mpr known
  have named : oneOrNone (t.usersNamed username) = .ok (some user) := oneOrNone_eq_some.mpr known
  have row : oneOrNone (t.userQuotas.filter (fun quota => decide (quota.userId = user.id))) =
      .ok (some quota) := oneOrNone_eq_some.mpr rows
  have changed : t.changeQuota request.change username = .ok { t with
      userQuotas := t.userQuotas.map (fun other =>
        if other.id = quota.id then request.change other else other) } := by
    simp only [Tables.changeQuota,held,bind,Except.bind]
    rfl
  rw [changed]
  cases request with
  | increment delta => exact changed
  | set quotaBytes softCapFraction =>
    simp only [QuotaRequest.write,QuotaWrite.body,Tables.setQuota,found,bind,Except.bind,row]
    rfl
  | email address =>
    simp only [QuotaRequest.write,QuotaWrite.body,Tables.updateQuotaEmail,named,bind,Except.bind,row]
    rfl
  | delete => exact absurd rfl kept

theorem quotaStep_request {request : QuotaRequest} (kept : request ≠ .delete)
    (held : HoldsQuota username quota state) :
    HoldsQuota username (request.change quota)
      (quotaStep column username state (.request request)).2 := by
  obtain ⟨written,committed,changed⟩ := changeQuota_commits request.keepsOwner held
  have ran : session rejected (request.write.body username) state.db = .ok () written := by
    rw [← committed]
    simp only [session,managedSession,QuotaRequest.body_eq kept held]
  simp only [quotaStep,after,onStore,ran,finish]
  exact changed

end Steps

section FirstNotice
variable (column : TimestampColumn) (username : String)

def TurnsOnBlock (state : QuotaState) (event : QuotaEvent) : Prop :=
  ∃ quota left, HoldsQuota username quota state ∧ quota.hardBlocked = false ∧
    HoldsQuota username left (quotaStep column username state event).2 ∧ left.hardBlocked = true

/-- A reconciliation that turns the block on attempts a reminder. -/
def NotifiesOnBlock (moment : QuotaMoment) : Prop :=
  ∀ around now, moment.event = .reconcile around now →
    TurnsOnBlock column username moment.before moment.event →
    ∃ sent, ⟨.hardCap,sent⟩ ∈ moment.answer

/-- A reconciliation that finds an unblocked row at its limit finds it without a stamp, or
with one that is more than a day old and has an offset. -/
def UnstampedAtLimit (moment : QuotaMoment) : Prop :=
  ∀ around now, moment.event = .reconcile around now →
    ∀ quota, HoldsQuota username quota moment.before → quota.hardBlocked = false →
    ∀ limit, effectiveQuotaBytes around quota = some limit → limit ≠ 0 →
    ∀ used sizes reached,
      calculateUsedBytes (around.clocked now) username moment.before = .ok (used,sizes) reached →
      limit ≤ used →
    ∀ notified, quota.softNotifiedAt = some notified →
      ∃ offset, notified.utcOffset = some offset ∧ hours24 < now - (notified.wallClock - offset)

variable {column} {username}

theorem hardCapDue_eq_true {around : Surroundings} {now : Int} {quota : SqlUserQuota} :
    hardCapDue (around.clocked now) quota = .ok true ↔
      ∀ notified, quota.softNotifiedAt = some notified → ∃ offset,
        notified.utcOffset = some offset ∧ hours24 < now - (notified.wallClock - offset) := by
  cases stamp : quota.softNotifiedAt with
  | none => simp [hardCapDue_unstamped _ stamp]
  | some notified =>
    rcases notified with ⟨wallClock,_ | offset⟩
    · simp [hardCapDue_naive around now stamp]
    · simp [hardCapDue_aware around now stamp]

theorem noticeVerdict_hardBlocked (column : TimestampColumn) (around : Surroundings)
    (kind : NoticeKind) (row : SqlUserQuota) (email : Option String) :
    (noticeVerdict column around kind row email).row.hardBlocked = row.hardBlocked := by
  unfold noticeVerdict
  cases sendNotification around email <;> rfl

theorem hardCapVerdict_blocks (column : TimestampColumn) (around : Surroundings)
    (quota row : SqlUserQuota) : (hardCapVerdict column around quota row).row.hardBlocked = true := by
  unfold hardCapVerdict
  cases hardCapDue around quota with
  | error failure => rfl
  | ok due =>
    cases due with
    | false => rfl
    | true => exact noticeVerdict_hardBlocked ..

theorem softCapVerdict_unblocks (column : TimestampColumn) (around : Surroundings)
    (quota row : SqlUserQuota) (above : Bool) :
    (softCapVerdict column around quota row above).row.hardBlocked = false := by
  unfold softCapVerdict
  cases above with
  | false => rfl
  | true =>
    cases quota.softNotifiedAt with
    | some notified => rfl
    | none => exact noticeVerdict_hardBlocked ..

theorem mem_hardCapVerdict {around : Surroundings} {quota row : SqlUserQuota} :
    (∃ sent, ⟨.hardCap,sent⟩ ∈ (hardCapVerdict column around quota row).notices) ↔
      hardCapDue around quota = .ok true := by
  unfold hardCapVerdict
  cases hardCapDue around quota with
  | error failure => simp
  | ok due => cases due <;> simp [noticeVerdict]

theorem Decides.turnsOn {around : Surroundings} {quota : SqlUserQuota} {state : QuotaState}
    {verdict : Verdict} (decided : Decides column around username quota state verdict)
    (unblocked : quota.hardBlocked = false) (blocked : verdict.row.hardBlocked = true) :
    ∃ (limit : Int) (used : Nat) (sizes : Sizes) (reached : QuotaState),
      effectiveQuotaBytes around quota = some limit ∧ limit ≠ 0 ∧
      calculateUsedBytes around username state = .ok (used,sizes) reached ∧ limit ≤ used ∧
      verdict = hardCapVerdict column around quota (measuredRow around quota used) := by
  cases decided with
  | unlimited _ => cases blocked
  | unmeasured _ _ =>
    rw [unblocked] at blocked
    cases blocked
  | @measured limit used sizes reached limited ran =>
    unfold thresholdVerdict at blocked ⊢
    split at blocked
    · have still : quota.hardBlocked = true := blocked
      rw [unblocked] at still
      cases still
    · next divisible =>
      split at blocked
      · next full =>
        refine ⟨limit,used,sizes,reached,limited,divisible,ran,full,?_⟩
        rw [if_neg divisible,if_pos full]
      · rw [softCapVerdict_unblocks] at blocked
        cases blocked

theorem Decides.atLimit {around : Surroundings} {quota : SqlUserQuota} {state : QuotaState}
    {verdict : Verdict} (decided : Decides column around username quota state verdict) {limit : Int}
    {used : Nat} {sizes : Sizes} {reached : QuotaState}
    (limited : effectiveQuotaBytes around quota = some limit) (divisible : limit ≠ 0)
    (ran : calculateUsedBytes around username state = .ok (used,sizes) reached)
    (full : limit ≤ used) :
    verdict = hardCapVerdict column around quota (measuredRow around quota used) := by
  cases decided with
  | unlimited without =>
    rw [limited] at without
    cases without
  | unmeasured _ failed =>
    rw [ran] at failed
    cases failed
  | measured limited' ran' =>
    rw [limited] at limited'
    rw [ran] at ran'
    cases limited'
    cases ran'
    rw [thresholdVerdict,if_neg divisible,if_pos full]

/-- One reconciliation mails as it blocks exactly when no stamp stops it. -/
theorem notifies_of_moment (state : QuotaState) (event : QuotaEvent) :
    NotifiesOnBlock column username ⟨state,event,(quotaStep column username state event).1⟩ ↔
      UnstampedAtLimit username ⟨state,event,(quotaStep column username state event).1⟩ := by
  constructor
  · intro notifies around now reconciles quota held unblocked limit limited divisible used sizes
      reached ran full
    simp only at reconciles held ran
    subst reconciles
    obtain ⟨verdict,decided,left,answered⟩ := quotaStep_decides column around now held
    have came := decided.atLimit limited divisible ran full
    have blocked : verdict.row.hardBlocked = true := by
      rw [came]
      exact hardCapVerdict_blocks ..
    have mailed := notifies around now rfl ⟨quota,verdict.row,held,unblocked,left,blocked⟩
    simp only [answered,came] at mailed
    exact hardCapDue_eq_true.mp (mem_hardCapVerdict.mp mailed)
  · rintro unstamped around now reconciles ⟨quota,left,held,unblocked,heldLeft,blocked⟩
    simp only at reconciles held heldLeft
    subst reconciles
    obtain ⟨verdict,decided,heldRow,answered⟩ := quotaStep_decides column around now held
    have same : verdict.row = left := by
      unfold HoldsQuota at heldRow heldLeft
      rw [heldRow] at heldLeft
      cases heldLeft
      rfl
    obtain ⟨limit,used,sizes,reached,limited,divisible,ran,full,came⟩ :=
      decided.turnsOn unblocked (same ▸ blocked)
    have due : hardCapDue (around.clocked now) quota = .ok true :=
      hardCapDue_eq_true.mpr (unstamped around now rfl quota held unblocked limit limited divisible
        used sizes reached ran full)
    simp only [answered,came]
    exact mem_hardCapVerdict.mpr due

/-- A run mails at every block exactly when it reaches no limit within a day of a stamp. -/
theorem notifiesOnBlock_iff (start : QuotaState) (events : List QuotaEvent) :
    (∀ moment ∈ Run.moments (quotaStep column username) start events,
      NotifiesOnBlock column username moment) ↔
    ∀ moment ∈ Run.moments (quotaStep column username) start events,
      UnstampedAtLimit username moment := by
  apply forall₂_congr
  intro moment member
  have answered := Run.answer_of_moment _ member
  obtain ⟨state,event,answer⟩ := moment
  simp only at answered
  subst answered
  exact notifies_of_moment state event

end FirstNotice

section Sample

/-- Alice may use 1000 bytes for her registered model. -/
def modelRow : SqlUserQuota :=
  { limitedRow 1000 with email := some "alice@example.org" }

def modelOwner : QuotaState where
  db :=
    { tables := { Tables.empty with
        users := [⟨1,"alice","Alice","",none,false,false⟩]
        userQuotas := [modelRow]
        userPermissions := fun family =>
          if family = .registeredModel then [⟨1,⟨"churn",none⟩,1,"MANAGE",false⟩] else [] }
      integrity := by decide }
  sizeCache := Cache.empty

def holding (bytes : Nat) : Surroundings :=
  { outage with
    searchModelVersions := fun _ _ => .ok [⟨some "s3://models"⟩]
    listArtifacts := fun _ _ => .ok [⟨"model.bin",false,some bytes⟩] }

def warned : QuotaState :=
  (quotaStep .aware "alice" modelOwner (.reconcile (holding 900) 0)).2

/-- An hour later 1100 bytes are found. -/
def hourLater : QuotaEvent := .reconcile (holding 1100) 3600000000

def warnedRow : SqlUserQuota :=
  { modelRow with
    usedBytes := 900, lastReconciledAt := some ⟨0,some 0⟩, softNotifiedAt := some ⟨0,some 0⟩ }

theorem turnsOnBlock_hourLater : TurnsOnBlock .aware "alice" warned hourLater := by
  have before : HoldsQuota "alice" warnedRow warned := by decide +kernel
  have left : HoldsQuota "alice" { warnedRow with usedBytes := 1100, hardBlocked := true }
      (quotaStep .aware "alice" warned hourLater).2 := by decide +kernel
  exact ⟨_,_,before,rfl,left,rfl⟩

/-- The warning of the last hour silences the mail of the block. -/
theorem blocked_unnoticed : ¬ ∀ column username start events,
    ∀ moment ∈ Run.moments (quotaStep column username) start events,
      NotifiesOnBlock column username moment := by
  intro notifies
  have silent : (quotaStep .aware "alice" warned hourLater).1 = [] := by decide +kernel
  have last : ⟨warned,hourLater,[]⟩ ∈ Run.moments (quotaStep .aware "alice") modelOwner
      [.reconcile (holding 900) 0,hourLater] := by
    simp only [Run.moments_cons,← silent,warned,List.mem_cons,true_or,or_true]
  obtain ⟨sent,mailed⟩ :=
    notifies .aware "alice" modelOwner _ _ last _ _ rfl turnsOnBlock_hourLater
  cases mailed

end Sample

section Spacing
variable (column : TimestampColumn) (username : String)

def FindsBelow (around : Surroundings) (quota : SqlUserQuota) (state : QuotaState) : Prop :=
  ∀ limit, effectiveQuotaBytes around quota = some limit →
    ∃ (used : Nat) (sizes : Sizes) (reached : QuotaState),
      calculateUsedBytes around username state = .ok (used,sizes) reached ∧ used < limit ∧
      (effectiveSoftCapFraction around quota).atMost (pct around limit used) = false

/-- The row is found below the soft cap or without a limit, or it is deleted. -/
def Resets (state : QuotaState) : QuotaEvent → Prop
  | .reconcile around now => ∃ quota, HoldsQuota username quota state ∧
      FindsBelow username (around.clocked now) quota state
  | .request request => request = .delete
  | .elsewhere reached => reached.db.tables.quotaOf username = .ok none

def Delivers (kind : NoticeKind) (now : Int) (moment : QuotaMoment) : Prop :=
  (∃ around, moment.event = .reconcile around now) ∧ ⟨kind,true⟩ ∈ moment.answer

/-- Something resets the row between two soft warnings that go out, and two hard reminders that
go out with nothing of the kind between them are more than a day apart. -/
def NeverFloods (start : QuotaState) (events : List QuotaEvent) : Prop :=
  ∀ earlier first between second later,
    Run.moments (quotaStep column username) start events =
      earlier ++ first :: (between ++ second :: later) →
    ∀ now now',
      (Delivers .softCap now first → Delivers .softCap now' second →
        ∃ moment ∈ between, Resets username moment.before moment.event) ∧
      (Delivers .hardCap now first → Delivers .hardCap now' second →
        (∀ moment ∈ between, ¬ Resets username moment.before moment.event) → hours24 < now' - now)

/-- The row holds a stamp, and it is not from before this time. -/
def StampedSince (since : Int) (quota : SqlUserQuota) : Prop :=
  ∃ notified, quota.softNotifiedAt = some notified ∧
    ∀ offset, notified.utcOffset = some offset → since ≤ notified.wallClock - offset

variable {column} {username} {around : Surroundings} {now since : Int} {quota row : SqlUserQuota}

theorem mem_noticeVerdict {kind kind' : NoticeKind} {email : Option String} :
    ⟨kind',true⟩ ∈ (noticeVerdict column around kind row email).notices ↔
      kind' = kind ∧ sendNotification around email = true := by
  simp only [noticeVerdict,List.mem_singleton,Notice.mk.injEq,eq_comm]

theorem noticeVerdict_stamps (column : TimestampColumn) (kind : NoticeKind)
    (row : SqlUserQuota) {email : Option String}
    (sent : sendNotification (around.clocked now) email = true) :
    StampedSince now (noticeVerdict column (around.clocked now) kind row email).row := by
  refine ⟨column.read ⟨now,some 0⟩,?_,?_⟩
  · simp only [noticeVerdict,sent,if_true]
    rfl
  · intro offset held
    obtain ⟨offset',utc,same⟩ := column.faithful _ _ held
    cases utc
    simp only at same
    omega

theorem noticeVerdict_keeps {kind : NoticeKind} {email : Option String}
    (stamped : StampedSince since row) (later : since ≤ now) :
    StampedSince since (noticeVerdict column (around.clocked now) kind row email).row := by
  cases sent : sendNotification (around.clocked now) email with
  | true =>
    obtain ⟨notified,stamp,recent⟩ := noticeVerdict_stamps column kind row sent
    exact ⟨notified,stamp,fun offset held => later.trans (recent offset held)⟩
  | false => simpa only [noticeVerdict,sent,Bool.false_eq_true,if_false] using stamped

/-- Over a stamp a reminder is due only a day later. -/
theorem day_passed (stamped : StampedSince since quota)
    (due : hardCapDue (around.clocked now) quota = .ok true) : hours24 < now - since := by
  obtain ⟨notified,stamp,recent⟩ := stamped
  obtain ⟨offset,aware,passed⟩ := hardCapDue_eq_true.mp due notified stamp
  have first := recent offset aware
  omega

theorem hardCapVerdict_delivers {kind : NoticeKind}
    (sent : ⟨kind,true⟩ ∈ (hardCapVerdict column (around.clocked now) quota row).notices) :
    kind = .hardCap ∧ hardCapDue (around.clocked now) quota = .ok true ∧
      StampedSince now (hardCapVerdict column (around.clocked now) quota row).row := by
  unfold hardCapVerdict at sent ⊢
  cases due : hardCapDue (around.clocked now) quota with
  | error failure => simp [due] at sent
  | ok due' =>
    cases due' with
    | false => simp [due] at sent
    | true =>
      simp only [due] at sent
      obtain ⟨same,out⟩ := mem_noticeVerdict.mp sent
      exact ⟨same,rfl,noticeVerdict_stamps _ _ _ out⟩

theorem hardCapVerdict_keeps (stamped : StampedSince since quota)
    (sameStamp : row.softNotifiedAt = quota.softNotifiedAt) :
    StampedSince since (hardCapVerdict column (around.clocked now) quota row).row := by
  have kept : StampedSince since { row with hardBlocked := true } := by
    obtain ⟨notified,stamp,recent⟩ := stamped
    exact ⟨notified,sameStamp.trans stamp,recent⟩
  unfold hardCapVerdict
  cases due : hardCapDue (around.clocked now) quota with
  | error failure => exact kept
  | ok due' =>
    cases due' with
    | false => exact kept
    | true =>
      have passed := day_passed stamped due
      unfold hours24 at passed
      exact noticeVerdict_keeps kept (by omega)

theorem softCapVerdict_delivers {kind : NoticeKind} {above : Bool}
    (sent : ⟨kind,true⟩ ∈ (softCapVerdict column (around.clocked now) quota row above).notices) :
    kind = .softCap ∧ quota.softNotifiedAt = none ∧
      StampedSince now (softCapVerdict column (around.clocked now) quota row above).row := by
  unfold softCapVerdict at sent ⊢
  cases above with
  | false => simp at sent
  | true =>
    cases stamp : quota.softNotifiedAt with
    | some notified => simp [stamp] at sent
    | none =>
      simp only [stamp,Option.isNone_none,if_true] at sent ⊢
      obtain ⟨same,out⟩ := mem_noticeVerdict.mp sent
      exact ⟨same,trivial,noticeVerdict_stamps _ _ _ out⟩

theorem softCapVerdict_keeps (stamped : StampedSince since quota)
    (sameStamp : row.softNotifiedAt = quota.softNotifiedAt) :
    StampedSince since (softCapVerdict column (around.clocked now) quota row true).row := by
  obtain ⟨notified,stamp,recent⟩ := stamped
  refine ⟨notified,?_,recent⟩
  simp [softCapVerdict,stamp,sameStamp]

theorem Decides.delivers {state : QuotaState} {verdict : Verdict}
    (decided : Decides column (around.clocked now) username quota state verdict)
    {kind : NoticeKind} (sent : ⟨kind,true⟩ ∈ verdict.notices) :
    StampedSince now verdict.row ∧ (kind = .softCap → quota.softNotifiedAt = none) ∧
      (kind = .hardCap → hardCapDue (around.clocked now) quota = .ok true) := by
  cases decided with
  | unlimited _ => cases sent
  | unmeasured _ _ => cases sent
  | @measured limit used sizes reached limited ran =>
    unfold thresholdVerdict at sent ⊢
    split at sent
    · cases sent
    · next divisible =>
      rw [if_neg divisible]
      split at sent
      · next full =>
        rw [if_pos full]
        obtain ⟨rfl,due,stamps⟩ := hardCapVerdict_delivers sent
        exact ⟨stamps,by simp,fun _ => due⟩
      · next below =>
        rw [if_neg below]
        obtain ⟨rfl,unstamped,stamps⟩ := softCapVerdict_delivers sent
        exact ⟨stamps,fun _ => unstamped,by simp⟩

/-- A stamp stays, or becomes a later one, unless the reconciliation finds what resets it. -/
theorem Decides.keeps {state : QuotaState} {verdict : Verdict}
    (decided : Decides column (around.clocked now) username quota state verdict)
    (stamped : StampedSince since quota)
    (above : ¬ FindsBelow username (around.clocked now) quota state) :
    StampedSince since verdict.row := by
  cases decided with
  | unlimited unlimited =>
    refine absurd ?_ above
    intro limit limited
    rw [unlimited] at limited
    cases limited
  | unmeasured _ _ => exact stamped
  | @measured limit used sizes reached limited ran =>
    unfold thresholdVerdict
    split
    · exact stamped
    · split
      · exact hardCapVerdict_keeps stamped rfl
      · next below =>
        cases fraction : (effectiveSoftCapFraction (around.clocked now) quota).atMost
            (pct (around.clocked now) limit used) with
        | true => exact softCapVerdict_keeps stamped rfl
        | false =>
          refine absurd ?_ above
          intro other limited'
          rw [limited] at limited'
          cases limited'
          exact ⟨used,sizes,reached,ran,lt_of_not_ge below,fraction⟩

def Spaced (username : String) (since : Int) (state : QuotaState) : Prop :=
  ∃ quota, HoldsQuota username quota state ∧ StampedSince since quota

theorem spaced_step (state : QuotaState) (event : QuotaEvent) (spaced : Spaced username since state)
    (kept : ¬ Resets username state event) :
    Spaced username since (quotaStep column username state event).2 := by
  obtain ⟨quota,held,stamped⟩ := spaced
  cases event with
  | reconcile around now =>
    obtain ⟨verdict,decided,left,_⟩ := quotaStep_decides column around now held
    exact ⟨verdict.row,left,decided.keeps stamped (fun below => kept ⟨quota,held,below⟩)⟩
  | request request =>
    have left := quotaStep_request column kept held
    obtain ⟨notified,stamp,recent⟩ := stamped
    exact ⟨_,left,notified,(request.change_stamp quota).trans stamp,recent⟩
  | elsewhere reached =>
    simp only [quotaStep]
    split
    · next untouched =>
      rcases untouched with same | lost
      · exact ⟨quota,same.trans held,stamped⟩
      · exact absurd lost kept
    · exact ⟨quota,held,stamped⟩

theorem spaced_of_delivers {moment : QuotaMoment} {kind : NoticeKind}
    (answered : moment.answer = (quotaStep column username moment.before moment.event).1)
    (delivers : Delivers kind now moment) :
    Spaced username now (quotaStep column username moment.before moment.event).2 := by
  obtain ⟨⟨around,reconciles⟩,sent⟩ := delivers
  rw [answered,reconciles] at sent
  rw [reconciles]
  by_cases exist : ∃ quota, HoldsQuota username quota moment.before
  · obtain ⟨quota,held⟩ := exist
    obtain ⟨verdict,decided,left,mailed⟩ := quotaStep_decides column around now held
    rw [mailed] at sent
    exact ⟨verdict.row,left,(decided.delivers sent).1⟩
  · rw [quotaStep_silent column around now (not_exists.mp exist)] at sent
    cases sent

/-- Over a spaced row no soft warning goes out, and a reminder only after a day. -/
theorem spaced_delivers {moment : QuotaMoment} {kind : NoticeKind}
    (answered : moment.answer = (quotaStep column username moment.before moment.event).1)
    (spaced : Spaced username since moment.before) (delivers : Delivers kind now moment) :
    kind ≠ .softCap ∧ (kind = .hardCap → hours24 < now - since) := by
  obtain ⟨⟨around,reconciles⟩,sent⟩ := delivers
  obtain ⟨quota,held,stamped⟩ := spaced
  obtain ⟨verdict,decided,left,mailed⟩ := quotaStep_decides column around now held
  rw [answered,reconciles,mailed] at sent
  obtain ⟨_,soft,hard⟩ := decided.delivers sent
  refine ⟨?_,fun isHard => day_passed stamped (hard isHard)⟩
  intro isSoft
  obtain ⟨notified,stamp,_⟩ := stamped
  rw [soft isSoft] at stamp
  cases stamp

theorem neverFloods (column : TimestampColumn) (username : String) (start : QuotaState)
    (events : List QuotaEvent) : NeverFloods column username start events := by
  intro earlier first between second later split now now'
  have answers : ∀ moment ∈ earlier ++ first :: (between ++ second :: later),
      moment.answer = (quotaStep column username moment.before moment.event).1 := by
    rw [← split]
    exact fun moment member => Run.answer_of_moment _ member
  have firstAnswer := answers first (by simp)
  have secondAnswer := answers second (by simp)
  have spaced : ∀ {kind}, Delivers kind now first →
      (∀ moment ∈ between, ¬ Resets username moment.before moment.event) →
      Spaced username now second.before := fun delivers quiet =>
    Run.invariant_between spaced_step split (spaced_of_delivers firstAnswer delivers) quiet
  constructor
  · intro warned warnedAgain
    by_contra quiet
    have quiet : ∀ moment ∈ between, ¬ Resets username moment.before moment.event :=
      fun moment member resets => quiet ⟨moment,member,resets⟩
    exact (spaced_delivers secondAnswer (spaced warned quiet) warnedAgain).1 rfl
  · intro reminded remindedAgain quiet
    exact (spaced_delivers secondAnswer (spaced reminded quiet) remindedAgain).2 rfl

end Spacing

end MlflowOidcAuth
