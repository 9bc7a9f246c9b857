import MlflowOidcAuth.Library.Effects
import MlflowOidcAuth.Store.Tables

/-! Store methods as programs over the committed database, and the two direct
tables of each family under one name. -/
namespace MlflowOidcAuth
open Effects

/-- What a session reports for a state the schema rejects, unless the method
catches the violation itself. -/
def rejected : Failure := .mlflow .badRequest "constraint failed"

/-- A store method whose body runs in one managed session. -/
def session (violation : Failure) (body : Tables → Except Failure Tables) :
    EStateM Failure Database PUnit := fun db =>
  match managedSession violation body db with
  | .ok after => .ok () after
  | .error failure => .error failure db

theorem managedSession_commits {violation : Failure} {body : Tables → Except Failure Tables}
    {db : Database} {tables : Tables} (ran : body db.tables = .ok tables)
    (integrity : Integrity tables) :
    managedSession violation body db = .ok ⟨tables,integrity⟩ := by
  simp only [managedSession,ran,dif_pos integrity]

theorem session_commits {violation : Failure} {body : Tables → Except Failure Tables}
    {db : Database} {tables : Tables} (ran : body db.tables = .ok tables)
    (integrity : Integrity tables) :
    session violation body db = .ok () ⟨tables,integrity⟩ := by
  simp only [session,managedSession_commits ran integrity]

theorem session_rejects {violation : Failure} {body : Tables → Except Failure Tables}
    {db : Database} {tables : Tables} (ran : body db.tables = .ok tables)
    (broken : ¬ Integrity tables) : session violation body db = .error violation db := by
  simp only [session,managedSession,ran,dif_neg broken]

theorem session_raises {violation failure : Failure} {body : Tables → Except Failure Tables}
    {db : Database} (raised : body db.tables = .error failure) :
    session violation body db = .error failure db := by
  simp only [session,managedSession,raised]

theorem session_ok {violation : Failure} {body : Tables → Except Failure Tables}
    {db db' : Database} (ran : session violation body db = .ok () db') :
    body db.tables = .ok db'.tables := by
  unfold session at ran
  cases written : managedSession violation body db with
  | error failure => simp [written] at ran
  | ok committed =>
    rw [written] at ran
    cases ran
    exact managedSession_ok written

theorem session_error {violation failure : Failure} {body : Tables → Except Failure Tables}
    {db db' : Database} (raised : session violation body db = .error failure db') : db' = db := by
  unfold session at raised
  cases written : managedSession violation body db with
  | error other =>
    rw [written] at raised
    cases raised
    rfl
  | ok committed => simp [written] at raised

/-- A session either commits what its body returns or leaves the database alone. -/
theorem session_after (violation : Failure) (body : Tables → Except Failure Tables)
    (db : Database) :
    after (session violation body) db = db ∨
      body db.tables = .ok (after (session violation body) db).tables := by
  unfold after session
  cases ran : managedSession violation body db with
  | error failure => exact .inl rfl
  | ok committed => exact .inr (managedSession_ok ran)

theorem keeps_session {View : Type*} {view : Tables → View} {violation : Failure}
    {body : Tables → Except Failure Tables}
    (frame : ∀ t written, body t = .ok written → view written = view t) :
    Keeps (fun db : Database => view db.tables) (session violation body) := by
  intro db
  rcases session_after violation body db with same | written
  · rw [same]
  · exact frame _ _ written

theorem preserves_session {inv : Tables → Prop} {violation : Failure}
    {body : Tables → Except Failure Tables}
    (each : ∀ (db : Database) written, inv db.tables → body db.tables = .ok written → inv written) :
    Preserves (fun db => inv db.tables) (session violation body) := by
  intro db held
  rcases session_after violation body db with same | written
  · rw [same]
    exact held
  · exact each db _ held written

/-- Who holds a grant. -/
inductive Holder
  | user
  | group
deriving DecidableEq, Repr

namespace Tables

def owners (t : Tables) : Holder → List Nat
  | .user => t.userIds
  | .group => t.groupIds

def direct (t : Tables) : Holder → Family → List SqlPermission
  | .user => t.userPermissions
  | .group => t.groupPermissions

def withDirect (t : Tables) (holder : Holder) (family : Family) (rows : List SqlPermission) :
    Tables :=
  match holder with
  | .user => { t with userPermissions := Function.update t.userPermissions family rows }
  | .group => { t with groupPermissions := Function.update t.groupPermissions family rows }

theorem direct_withDirect (t : Tables) (holder other : Holder) (family otherFamily : Family)
    (rows : List SqlPermission) :
    (t.withDirect holder family rows).direct other otherFamily =
      if other = holder ∧ otherFamily = family then rows else t.direct other otherFamily := by
  cases holder <;> cases other <;> simp [withDirect,direct,Function.update_apply]

@[simp] theorem owners_withDirect (t : Tables) (holder other : Holder) (family : Family)
    (rows : List SqlPermission) : (t.withDirect holder family rows).owners other = t.owners other := by
  cases holder <;> cases other <;> rfl

end Tables

theorem Integrity.direct {t : Tables} (integrity : Integrity t) (holder : Holder) (family : Family) :
    DirectIntegrity family (t.owners holder) (t.direct holder family) :=
  match holder with
  | .user => integrity.userPermissions family
  | .group => integrity.groupPermissions family

theorem Integrity.withDirect {t : Tables} (integrity : Integrity t) {holder : Holder}
    {family : Family} {rows : List SqlPermission}
    (valid : DirectIntegrity family (t.owners holder) rows) :
    Integrity (t.withDirect holder family rows) := by
  have tables : ∀ other otherFamily, DirectIntegrity otherFamily (t.owners other)
      ((t.withDirect holder family rows).direct other otherFamily) := by
    intro other otherFamily
    rw [Tables.direct_withDirect]
    split
    · next here =>
      obtain ⟨rfl,rfl⟩ := here
      exact valid
    · exact integrity.direct other otherFamily
  cases holder with
  | user => exact { integrity with userPermissions := tables .user }
  | group => exact { integrity with groupPermissions := tables .group }

theorem TableIntegrity.sublist {Row Id Key : Type*} {id : Row → Id} {constraint : Row → Key}
    {owner : Row → Nat} {owners : List Nat} {rows kept : List Row}
    (valid : TableIntegrity id constraint owner owners rows) (sub : kept.Sublist rows) :
    TableIntegrity id constraint owner owners kept :=
  ⟨valid.1.sublist (sub.map _),valid.2.1.sublist (sub.map _),
    fun row member => valid.2.2 row (sub.subset member)⟩

theorem nodup_map_concat {Row Value : Type*} {column : Row → Value} {rows : List Row} {row : Row}
    (distinct : (rows.map column).Nodup) :
    ((rows ++ [row]).map column).Nodup ↔ column row ∉ rows.map column := by
  rw [List.map_append,List.map_singleton,← List.concat_eq_append,List.nodup_concat]
  exact and_iff_left distinct

/-- A table takes a row exactly when its key, its unique columns and its owner allow it. -/
theorem tableIntegrity_concat {Row Id Key : Type*} {id : Row → Id} {constraint : Row → Key}
    {owner : Row → Nat} {owners : List Nat} {rows : List Row} {row : Row}
    (valid : TableIntegrity id constraint owner owners rows) :
    TableIntegrity id constraint owner owners (rows ++ [row]) ↔
      id row ∉ rows.map id ∧ constraint row ∉ rows.map constraint ∧ owner row ∈ owners := by
  obtain ⟨ids,constraints,owned⟩ := valid
  rw [TableIntegrity,nodup_map_concat ids,nodup_map_concat constraints]
  refine and_congr_right (fun _ => and_congr_right (fun _ => ?_))
  refine ⟨fun every => every row (by simp),fun known other member => ?_⟩
  rcases List.mem_append.mp member with old | new
  · exact owned other old
  · rw [List.mem_singleton.mp new]
    exact known

theorem DirectIntegrity.sublist {family : Family} {owners : List Nat}
    {rows kept : List SqlPermission} (valid : DirectIntegrity family owners rows)
    (sub : kept.Sublist rows) : DirectIntegrity family owners kept :=
  ⟨valid.1.sublist sub,fun row member => valid.2 row (sub.subset member)⟩

section Wipe

def Tables.wipe (t : Tables) (holder : Holder) (family : Family) (resourceId : String) : Tables :=
  t.withDirect holder family
    ((t.direct holder family).filter (fun row => decide (row.key.resourceId ≠ resourceId)))

theorem Integrity.wipe {t : Tables} (integrity : Integrity t) (holder : Holder) (family : Family)
    (resourceId : String) : Integrity (t.wipe holder family resourceId) :=
  integrity.withDirect ((integrity.direct holder family).sublist List.filter_sublist)

/-- `wipe` of the user-level and of the group-level repositories. -/
def wipe (holder : Holder) (family : Family) (resourceId : String) :
    EStateM Failure Database PUnit :=
  session rejected (fun t => .ok (t.wipe holder family resourceId))

def wipeExperimentPermissions (experimentId : String) : EStateM Failure Database PUnit := do
  wipe .user .experiment experimentId
  wipe .group .experiment experimentId

theorem wipe_commits (holder : Holder) (family : Family) (resourceId : String) (db : Database) :
    wipe holder family resourceId db =
      .ok () ⟨db.tables.wipe holder family resourceId,db.integrity.wipe holder family resourceId⟩ := by
  apply session_commits
  rfl

theorem wipeExperimentPermissions_commits (experimentId : String) (db : Database) :
    ∃ wiped : Database, wipeExperimentPermissions experimentId db = .ok () wiped ∧
      ∀ holder, wiped.tables.direct holder .experiment =
        (db.tables.direct holder .experiment).filter
          (fun row => decide (row.key.resourceId ≠ experimentId)) := by
  refine ⟨_,(bind_of_ok (wipe_commits _ _ _ db)).trans (wipe_commits _ _ _ _),fun holder => ?_⟩
  cases holder <;> simp [Tables.wipe,Tables.direct_withDirect]

end Wipe
end MlflowOidcAuth
