import MlflowOidcAuth.Library.SharedCounter
import MlflowOidcAuth.Library.Run
import MlflowOidcAuth.Store.Grants
import MlflowOidcAuth.Store.Methods

/-! Uploads that charge a user's quota row and reconciliations that overwrite it, step by
step: an increment reads the row and then writes it, a reconciliation scans the artifact store
and then writes what it found. -/
namespace MlflowOidcAuth
open Effects SharedCounter

section Steps
variable {Upload Reconcile : Type} [DecidableEq Upload] [DecidableEq Reconcile]

/-- Uploads and reconciliations of one user under way, over the shared database. -/
structure ChargeState (Upload Reconcile : Type) where
  db : Database
  phase : Upload → Phase
  scanned : Reconcile → Option (Count Upload)
  /-- The scan of the last reconciliation to write. -/
  lastScan : Count Upload

abbrev ChargeEvent (Upload Reconcile : Type) := Event Upload Reconcile

variable (username : String) (bytes : Upload → ℕ+) (now : DateTime)

def setUsedBytes (username : String) (usedBytes : Int) : EStateM Failure Database PUnit :=
  session rejected (Tables.changeQuota (fun quota => { quota with usedBytes := usedBytes }) username)

/-- One step of `increment_used_bytes` or of a reconciliation; what is not due changes nothing. -/
def chargeStep (state : ChargeState Upload Reconcile) :
    ChargeEvent Upload Reconcile → ChargeState Upload Reconcile
  | .read upload =>
    match state.phase upload,state.db.tables.quotaOf username with
    | .waiting,.ok (some quota) =>
      { state with phase := Function.update state.phase upload (.holding quota.usedBytes) }
    | _,_ => state
  | .write upload =>
    match state.phase upload with
    | .holding usedBytes =>
      { state with
        db := after (setUsedBytes username (max 0 (usedBytes + (bytes upload : Nat)))) state.db
        phase := Function.update state.phase upload .charged }
    | _ => state
  | .scan reconcile count =>
    { state with scanned := Function.update state.scanned reconcile (some count) }
  | .overwrite reconcile =>
    match state.scanned reconcile with
    | some count =>
      { state with
        db := after (updateUserQuotaUsedBytes now username count.found) state.db
        scanned := Function.update state.scanned reconcile none
        lastScan := count }
    | none => state

/-- The step with the answer that runs ask for; no step answers anything. -/
def chargeRun (state : ChargeState Upload Reconcile) (event : ChargeEvent Upload Reconcile) :
    Unit × ChargeState Upload Reconcile :=
  ((),chargeStep username bytes now state event)

/-- Nothing has been charged or scanned yet. -/
def ChargeState.start (db : Database) (usedBytes : Int) : ChargeState Upload Reconcile where
  db := db
  phase := fun _ => .waiting
  scanned := fun _ => none
  lastScan := ⟨usedBytes,fun _ => false⟩

/-- The counter that the row of the user is. -/
def ChargeState.counter (state : ChargeState Upload Reconcile) (usedBytes : Int) :
    SharedCounter.State Upload Reconcile where
  total := usedBytes
  phase := state.phase
  pending := state.scanned
  base := state.lastScan

/-- The row holds at least what the last reconciliation to write had scanned and the bytes of
every upload charged that its scan did not see. -/
def NoneLost [Fintype Upload] (state : ChargeState Upload Reconcile) : Prop :=
  ∃ quota, state.db.tables.quotaOf username = .ok (some quota) ∧
    (state.counter quota.usedBytes).Accounted bytes

/-- All uploads have charged and every reconciliation that scanned has written. -/
def ChargeState.Finished (state : ChargeState Upload Reconcile) : Prop :=
  (∀ upload, state.phase upload = .charged) ∧ ∀ reconcile, state.scanned reconcile = none

/-- The row has not grown since the increment that writes read it, and a reconciliation that
writes has seen the upload of every increment already written. -/
def ChargeHarmless (state : ChargeState Upload Reconcile) (event : ChargeEvent Upload Reconcile) :
    Prop :=
  match state.db.tables.quotaOf username with
  | .ok (some quota) => Harmless (state.counter quota.usedBytes) event
  | _ => True

instance [Fintype Upload] (state : ChargeState Upload Reconcile)
    (event : ChargeEvent Upload Reconcile) : Decidable (ChargeHarmless username state event) := by
  unfold ChargeHarmless
  split <;> infer_instance

end Steps

section Refinement
variable {Upload Reconcile : Type} [DecidableEq Upload] [DecidableEq Reconcile]
  {username : String} {bytes : Upload → ℕ+} {now : DateTime} {state : ChargeState Upload Reconcile}

/-- Each step moves the row as the step of the counter does. -/
theorem chargeStep_counter (bytes : Upload → ℕ+) (now : DateTime) {quota : SqlUserQuota}
    (held : state.db.tables.quotaOf username = .ok (some quota))
    (event : ChargeEvent Upload Reconcile) :
    ∃ moved, (chargeStep username bytes now state event).db.tables.quotaOf username =
        .ok (some moved) ∧
      (chargeStep username bytes now state event).counter moved.usedBytes =
        step bytes (state.counter quota.usedBytes) event := by
  have idle : chargeStep username bytes now state event = state →
      step bytes (state.counter quota.usedBytes) event = state.counter quota.usedBytes →
      ∃ moved, (chargeStep username bytes now state event).db.tables.quotaOf username =
          .ok (some moved) ∧
        (chargeStep username bytes now state event).counter moved.usedBytes =
          step bytes (state.counter quota.usedBytes) event := by
    intro same same'
    rw [same,same']
    exact ⟨quota,held,rfl⟩
  cases event with
  | read upload =>
    cases phase : state.phase upload with
    | waiting =>
      refine ⟨quota,?_,?_⟩
      · simp only [chargeStep,phase,held]
      · simp only [chargeStep,phase,held,ChargeState.counter,step]
    | holding value => apply idle <;> simp only [chargeStep,step,ChargeState.counter,phase]
    | charged => apply idle <;> simp only [chargeStep,step,ChargeState.counter,phase]
  | write upload =>
    cases phase : state.phase upload with
    | waiting => apply idle <;> simp only [chargeStep,step,ChargeState.counter,phase]
    | charged => apply idle <;> simp only [chargeStep,step,ChargeState.counter,phase]
    | holding value =>
      have keeps : KeepsOwner (fun quota : SqlUserQuota =>
          { quota with usedBytes := max 0 (value + (bytes upload : Nat)) }) := fun _ => ⟨rfl,rfl⟩
      obtain ⟨written,committed,changed⟩ := changeQuota_commits keeps held
      refine ⟨{ quota with usedBytes := max 0 (value + (bytes upload : Nat)) },?_,?_⟩
      · simpa only [chargeStep,phase,setUsedBytes,after,committed,finish] using changed
      · simp only [chargeStep,phase,ChargeState.counter,step]
  | scan reconcile count => exact ⟨quota,held,rfl⟩
  | overwrite reconcile =>
    cases scanned : state.scanned reconcile with
    | none => apply idle <;> simp only [chargeStep,step,ChargeState.counter,scanned]
    | some count =>
      have keeps : KeepsOwner (fun quota : SqlUserQuota =>
          { quota with usedBytes := count.found, lastReconciledAt := some now }) :=
        fun _ => ⟨rfl,rfl⟩
      obtain ⟨written,committed,changed⟩ := changeQuota_commits keeps held
      refine ⟨{ quota with usedBytes := count.found, lastReconciledAt := some now },?_,?_⟩
      · simpa only [chargeStep,scanned,updateUserQuotaUsedBytes,after,committed,finish] using changed
      · simp only [chargeStep,scanned,ChargeState.counter,step]

theorem changeQuota_congr {db : Database} {quota : SqlUserQuota}
    (change other : SqlUserQuota → SqlUserQuota)
    (held : db.tables.quotaOf username = .ok (some quota)) (same : change quota = other quota) :
    db.tables.changeQuota change username = db.tables.changeQuota other username := by
  obtain ⟨user,known,rows⟩ := quotaOf_eq_some.mp held
  have stored : quota ∈ db.tables.userQuotas := by
    have listed : quota ∈ db.tables.quotaRows user.id := by simp [rows]
    exact List.mem_of_mem_filter listed
  simp only [Tables.changeQuota,held,bind,Except.bind]
  have rewritten : db.tables.userQuotas.map (fun row =>
        if row.id = quota.id then change row else row) =
      db.tables.userQuotas.map (fun row => if row.id = quota.id then other row else row) := by
    apply List.map_congr_left
    intro row member
    split
    · next sameId =>
      rw [List.inj_on_of_nodup_map db.integrity.userQuotas.1 member stored sameId,same]
    · rfl
  rw [rewritten]

/-- With nothing in between, the two steps of an upload are the repository's increment. -/
theorem increment_alone (env : StoreEnv) {quota : SqlUserQuota} {upload : Upload}
    (held : state.db.tables.quotaOf username = .ok (some quota))
    (waiting : state.phase upload = .waiting) :
    (Run.final (chargeRun username bytes now) state [.read upload,.write upload]).db =
      after ((Operation.quota username (.increment (bytes upload : Nat))).run env) state.db := by
  have written := changeQuota_congr
    (fun row => { row with usedBytes := max 0 (row.usedBytes + (bytes upload : Nat)) })
    (fun row => { row with usedBytes := max 0 (quota.usedBytes + (bytes upload : Nat)) }) held rfl
  simp only [Run.final_cons,Run.final_nil,chargeRun,chargeStep,waiting,held,Function.update_self,
    setUsedBytes,Operation.run,QuotaWrite.body,after,session,managedSession,written]

variable [Fintype Upload]

theorem noneLost_step {event : ChargeEvent Upload Reconcile} (none : NoneLost username bytes state)
    (harmless : ChargeHarmless username state event) :
    NoneLost username bytes (chargeStep username bytes now state event) := by
  obtain ⟨quota,held,accounted⟩ := none
  obtain ⟨moved,held',same⟩ := chargeStep_counter bytes now held event
  refine ⟨moved,held',?_⟩
  simp only [ChargeHarmless,held] at harmless
  rw [same]
  exact step_accounted accounted harmless

omit [DecidableEq Upload] [DecidableEq Reconcile] in
theorem noneLost_start {db : Database} {quota : SqlUserQuota}
    (held : db.tables.quotaOf username = .ok (some quota)) :
    NoneLost username bytes (ChargeState.start db quota.usedBytes : ChargeState Upload Reconcile) := by
  refine ⟨quota,held,?_⟩
  have nothing : ∀ upload, (ChargeState.counter (.start db quota.usedBytes : ChargeState Upload
      Reconcile) quota.usedBytes).owed bytes upload = 0 := fun upload => if_neg (by
    rintro ⟨charged,_⟩
    cases charged)
  unfold SharedCounter.State.Accounted
  rw [Finset.sum_eq_zero (fun upload _ => nothing upload)]
  simp [ChargeState.counter,ChargeState.start]

/-- A run whose steps are all harmless loses nothing, at any moment and at its end. -/
theorem noneLost_of_harmless {db : Database} {quota : SqlUserQuota}
    (held : db.tables.quotaOf username = .ok (some quota))
    (events : List (ChargeEvent Upload Reconcile))
    (harmless : ∀ moment ∈ Run.moments (chargeRun username bytes now)
      (.start db quota.usedBytes) events, ChargeHarmless username moment.before moment.event) :
    (∀ moment ∈ Run.moments (chargeRun username bytes now) (.start db quota.usedBytes) events,
      NoneLost username bytes moment.before) ∧
    NoneLost username bytes
      (Run.final (chargeRun username bytes now) (.start db quota.usedBytes) events) := by
  have preserved : ∀ (state : ChargeState Upload Reconcile) event, NoneLost username bytes state →
      ChargeHarmless username state event →
      NoneLost username bytes (chargeRun username bytes now state event).2 :=
    fun state event none allowed => noneLost_step none allowed
  exact Run.invariant_of_moments preserved (noneLost_start held) harmless

end Refinement

section Sample

/-- Alice has used nothing yet. -/
def chargedQuota : SqlUserQuota where
  id := 1
  userId := 1
  quotaBytes := none
  usedBytes := 0
  softCapFraction := none
  lastReconciledAt := none
  softNotifiedAt := none
  hardBlocked := false
  email := none

def chargedDatabase : Database where
  tables := { Tables.empty with
    users := [⟨1,"alice","Alice","",none,false,false⟩]
    userQuotas := [chargedQuota] }
  integrity := by decide

/-- Both uploads read the row before either writes it. -/
def bothRead : List (ChargeEvent Bool Unit) :=
  [.read false,.read true,.write false,.write true]

def afterBothRead : ChargeState Bool Unit :=
  Run.final (chargeRun "alice" (fun _ => 100) ⟨0,none⟩) (.start chargedDatabase 0) bothRead

/-- Two uploads of 100 bytes leave 100 bytes used. -/
theorem loses_increment : ¬ ∀ (username : String) (bytes : Bool → ℕ+) (now : DateTime)
    (db : Database) (quota : SqlUserQuota) (events : List (ChargeEvent Bool Unit)),
    db.tables.quotaOf username = .ok (some quota) →
    (Run.final (chargeRun username bytes now) (.start db quota.usedBytes) events).Finished →
    NoneLost username bytes
      (Run.final (chargeRun username bytes now) (.start db quota.usedBytes) events) := by
  intro law
  have finished : afterBothRead.Finished := by
    constructor <;> decide +kernel
  have lost : NoneLost "alice" (fun _ => 100) afterBothRead :=
    law "alice" (fun _ => 100) ⟨0,none⟩ chargedDatabase chargedQuota bothRead (by decide) finished
  obtain ⟨quota,held,accounted⟩ := lost
  have stored : afterBothRead.db.tables.quotaOf "alice" =
      .ok (some { chargedQuota with usedBytes := 100 }) := by decide +kernel
  have used : { chargedQuota with usedBytes := 100 } = quota := by
    rw [stored] at held
    cases held
    rfl
  subst used
  revert accounted
  unfold SharedCounter.State.Accounted
  decide +kernel

/-- A reconciliation between the two uploads, whose scan sees the first. -/
def inTurn : List (ChargeEvent Bool Unit) :=
  [.read false,.write false,.scan () ⟨100,fun upload => upload = false⟩,.overwrite (),
    .read true,.write true]

theorem noneLost_in_turn :
    (∀ moment ∈ Run.moments (chargeRun "alice" (fun _ => 100) ⟨0,none⟩)
      (.start chargedDatabase chargedQuota.usedBytes) inTurn,
      NoneLost "alice" (fun _ => 100) moment.before) ∧
    NoneLost "alice" (fun _ => 100) (Run.final (chargeRun "alice" (fun _ => 100) ⟨0,none⟩)
      (.start chargedDatabase chargedQuota.usedBytes) inTurn) :=
  noneLost_of_harmless (by decide) inTurn (by decide +kernel)

end Sample
end MlflowOidcAuth
