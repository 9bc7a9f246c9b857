import MlflowOidcAuth.Store.Sessions
import MlflowOidcAuth.Store.Queries

/-! The quota repository: one row for each user, written only when it exists or by
`set_quota`. None of its methods touches a permission table. -/
namespace MlflowOidcAuth
open Effects

namespace Tables

/-- `_get_or_none`: an unknown user has no quota. -/
def quotaOf (t : Tables) (username : String) : Except Failure (Option SqlUserQuota) := do
  match ← oneOrNone (t.usersNamed username) with
  | none => return none
  | some user => oneOrNone (t.userQuotas.filter (fun quota => decide (quota.userId = user.id)))

/-- A setter of the quota repository: no user or no row is no change. -/
def changeQuota (change : SqlUserQuota → SqlUserQuota) (username : String) (t : Tables) :
    Except Failure Tables := do
  match ← t.quotaOf username with
  | none => return t
  | some found =>
    return { t with userQuotas := t.userQuotas.map (fun quota =>
      if quota.id = found.id then change quota else quota) }

def setQuota (username : String) (quotaBytes : Option Int) (softCapFraction : Option PyFloat)
    (t : Tables) : Except Failure Tables := do
  let user ← t.getUser username
  match ← oneOrNone (t.userQuotas.filter (fun quota => decide (quota.userId = user.id))) with
  | none =>
    let quota : SqlUserQuota :=
      { id := nextId (t.userQuotas.map SqlUserQuota.id), userId := user.id,
        quotaBytes := quotaBytes, usedBytes := 0, softCapFraction := softCapFraction,
        lastReconciledAt := none, softNotifiedAt := none, hardBlocked := false, email := none }
    return { t with userQuotas := t.userQuotas ++ [quota] }
  | some found =>
    return { t with userQuotas := t.userQuotas.map (fun quota =>
      if quota.id = found.id then
        { quota with
          quotaBytes := quotaBytes
          softCapFraction := softCapFraction.orElse (fun _ => quota.softCapFraction) }
      else quota) }

end Tables

def getUserQuota (username : String) : EStateM Failure Database (Option SqlUserQuota) := fun db =>
  match db.tables.quotaOf username with
  | .ok quota => .ok quota db
  | .error failure => .error failure db

def setUserQuota (username : String) (quotaBytes : Option Int) (softCapFraction : Option PyFloat) :
    EStateM Failure Database PUnit :=
  session rejected (Tables.setQuota username quotaBytes softCapFraction)

def updateUserQuotaUsedBytes (now : DateTime) (username : String) (usedBytes : Int) :
    EStateM Failure Database PUnit :=
  session rejected (Tables.changeQuota (fun quota =>
    { quota with usedBytes := usedBytes, lastReconciledAt := some now }) username)

def setQuotaHardBlocked (username : String) (blocked : Bool) : EStateM Failure Database PUnit :=
  session rejected (Tables.changeQuota (fun quota => { quota with hardBlocked := blocked }) username)

def setQuotaSoftNotifiedAt (username : String) (value : Option DateTime) :
    EStateM Failure Database PUnit :=
  session rejected (Tables.changeQuota (fun quota => { quota with softNotifiedAt := value }) username)

section Rows

theorem oneOrNone_eq_some {Row : Type*} {rows : List Row} {row : Row} :
    oneOrNone rows = .ok (some row) ↔ rows = [row] := by
  match rows with
  | [] => simp [oneOrNone]
  | [_] => simp [oneOrNone]
  | _ :: _ :: _ => simp [oneOrNone]

theorem oneOrNone_eq_none {Row : Type*} {rows : List Row} :
    oneOrNone rows = .ok none ↔ rows = [] := by
  match rows with
  | [] => simp [oneOrNone]
  | [_] => simp [oneOrNone]
  | _ :: _ :: _ => simp [oneOrNone]

/-- The rows of a user; the schema leaves at most one. -/
def Tables.quotaRows (t : Tables) (userId : Nat) : List SqlUserQuota :=
  t.userQuotas.filter (fun quota => decide (quota.userId = userId))

theorem quotaOf_of_user {t : Tables} {username : String} {user : SqlUser}
    (known : t.usersNamed username = [user]) : t.quotaOf username = oneOrNone (t.quotaRows user.id) := by
  have found := oneOrNone_eq_some.mpr known
  simp only [Tables.quotaOf,found,bind,Except.bind]
  rfl

theorem quotaOf_eq_some {t : Tables} {username : String} {quota : SqlUserQuota} :
    t.quotaOf username = .ok (some quota) ↔
      ∃ user, t.usersNamed username = [user] ∧ t.quotaRows user.id = [quota] := by
  constructor
  · intro held
    cases found : oneOrNone (t.usersNamed username) with
    | error failure => simp [Tables.quotaOf,found,bind,Except.bind] at held
    | ok known =>
      cases known with
      | none => simp [Tables.quotaOf,found,bind,Except.bind,pure,Except.pure] at held
      | some user =>
        have known := oneOrNone_eq_some.mp found
        rw [quotaOf_of_user known] at held
        exact ⟨user,known,oneOrNone_eq_some.mp held⟩
  · rintro ⟨user,known,rows⟩
    rw [quotaOf_of_user known]
    exact oneOrNone_eq_some.mpr rows

/-- A setter rewrites a row without moving it to another user. -/
def KeepsOwner (change : SqlUserQuota → SqlUserQuota) : Prop :=
  ∀ quota, (change quota).id = quota.id ∧ (change quota).userId = quota.userId

theorem Integrity.mapQuotas {t : Tables} (integrity : Integrity t)
    {change : SqlUserQuota → SqlUserQuota} (keeps : KeepsOwner change) :
    Integrity { t with userQuotas := t.userQuotas.map change } := by
  obtain ⟨ids,owners,known⟩ := integrity.userQuotas
  have sameId : SqlUserQuota.id ∘ change = SqlUserQuota.id := funext fun quota => (keeps quota).1
  have sameUser : SqlUserQuota.userId ∘ change = SqlUserQuota.userId :=
    funext fun quota => (keeps quota).2
  refine { integrity with userQuotas := ⟨?_,?_,?_⟩ }
  · rwa [List.map_map,sameId]
  · rwa [List.map_map,sameUser]
  · intro quota member
    obtain ⟨former,stored,rfl⟩ := List.mem_map.mp member
    rw [(keeps former).2]
    exact known former stored

theorem quotaRows_map {t : Tables} {change : SqlUserQuota → SqlUserQuota} (keeps : KeepsOwner change)
    (userId : Nat) : Tables.quotaRows { t with userQuotas := t.userQuotas.map change } userId =
      (t.quotaRows userId).map change := by
  simp only [Tables.quotaRows,List.filter_map]
  congr 1
  apply List.filter_congr
  intro quota _
  simp only [Function.comp_apply,(keeps quota).2]

theorem changeQuota_commits {db : Database} {username : String} {quota : SqlUserQuota}
    {change : SqlUserQuota → SqlUserQuota} (keeps : KeepsOwner change)
    (held : db.tables.quotaOf username = .ok (some quota)) :
    ∃ written, session rejected (Tables.changeQuota change username) db = .ok () written ∧
      written.tables.quotaOf username = .ok (some (change quota)) := by
  let rewrite := fun other : SqlUserQuota => if other.id = quota.id then change other else other
  have rewrites : KeepsOwner rewrite := by
    intro other
    simp only [rewrite]
    split
    · exact keeps other
    · exact ⟨rfl,rfl⟩
  have ran : db.tables.changeQuota change username =
      .ok { db.tables with userQuotas := db.tables.userQuotas.map rewrite } := by
    simp only [Tables.changeQuota,held,bind,Except.bind]
    rfl
  refine ⟨_,session_commits ran (db.integrity.mapQuotas rewrites),?_⟩
  obtain ⟨user,known,rows⟩ := quotaOf_eq_some.mp held
  refine quotaOf_eq_some.mpr ⟨user,known,?_⟩
  rw [quotaRows_map rewrites,rows]
  simp only [List.map_cons,List.map_nil,rewrite,if_true]

theorem setUserQuota_creates {db : Database} {username : String} {user : SqlUser}
    (known : db.tables.usersNamed username = [user])
    (without : db.tables.quotaOf username = .ok none) (quotaBytes : Option Int)
    (softCapFraction : Option PyFloat) :
    ∃ created written, setUserQuota username quotaBytes softCapFraction db = .ok () written ∧
      written.tables.quotaOf username = .ok (some created) ∧ created.quotaBytes = quotaBytes ∧
      created.hardBlocked = false := by
  rw [quotaOf_of_user known,oneOrNone_eq_none] at without
  let created : SqlUserQuota :=
    { id := nextId (db.tables.userQuotas.map SqlUserQuota.id), userId := user.id,
      quotaBytes := quotaBytes, usedBytes := 0, softCapFraction := softCapFraction,
      lastReconciledAt := none, softNotifiedAt := none, hardBlocked := false, email := none }
  have found : db.tables.getUser username = .ok user := by
    simp only [Tables.getUser,known,one]
  have rows : oneOrNone (db.tables.userQuotas.filter (fun quota =>
      decide (quota.userId = user.id))) = .ok none := oneOrNone_eq_none.mpr without
  have ran : db.tables.setQuota username quotaBytes softCapFraction =
      .ok { db.tables with userQuotas := db.tables.userQuotas ++ [created] } := by
    simp only [Tables.setQuota,found,bind,Except.bind,rows]
    rfl
  have unowned : user.id ∉ db.tables.userQuotas.map SqlUserQuota.userId := by
    intro member
    obtain ⟨quota,stored,owner⟩ := List.mem_map.mp member
    have listed : quota ∈ db.tables.quotaRows user.id :=
      List.mem_filter.mpr ⟨stored,by simp [owner]⟩
    rw [without] at listed
    cases listed
  have member : user ∈ db.tables.users := by
    have listed : user ∈ db.tables.usersNamed username := by simp [known]
    exact List.mem_of_mem_filter listed
  have integrity : Integrity { db.tables with userQuotas := db.tables.userQuotas ++ [created] } := by
    have owned : user.id ∈ db.tables.userIds := List.mem_map.mpr ⟨user,member,rfl⟩
    exact { db.integrity with
      userQuotas := (tableIntegrity_concat db.integrity.userQuotas).mpr
        ⟨nextId_not_mem _,unowned,owned⟩ }
  refine ⟨created,_,session_commits ran integrity,quotaOf_eq_some.mpr ⟨user,known,?_⟩,rfl,rfl⟩
  simp only [Tables.quotaRows] at without ⊢
  rw [List.filter_append,without]
  simp [created]

end Rows

section Frame

/-- The direct tables of the database. -/
def directRows (db : Database) : Holder → Family → List SqlPermission := db.tables.direct

theorem changeQuota_direct {change : SqlUserQuota → SqlUserQuota} {username : String}
    {t written : Tables} (ran : t.changeQuota change username = .ok written) :
    written.direct = t.direct := by
  unfold Tables.changeQuota at ran
  cases quota : t.quotaOf username with
  | error failure => simp [quota,bind,Except.bind] at ran
  | ok found =>
    cases found with
    | none =>
      simp only [quota,bind,Except.bind,pure,Except.pure,Except.ok.injEq] at ran
      rw [ran]
    | some found =>
      simp only [quota,bind,Except.bind,pure,Except.pure,Except.ok.injEq] at ran
      subst ran
      rfl

theorem setQuota_direct {username : String} {quotaBytes : Option Int} {softCapFraction : Option PyFloat}
    {t written : Tables} (ran : t.setQuota username quotaBytes softCapFraction = .ok written) :
    written.direct = t.direct := by
  unfold Tables.setQuota at ran
  cases user : t.getUser username with
  | error failure => simp [user,bind,Except.bind] at ran
  | ok user' =>
    simp only [user,bind,Except.bind] at ran
    split at ran
    · cases ran
    · split at ran <;> cases ran <;> rfl

theorem keeps_setUserQuota (username : String) (quotaBytes : Option Int)
    (softCapFraction : Option PyFloat) :
    Keeps directRows (setUserQuota username quotaBytes softCapFraction) :=
  keeps_session (fun _ _ ran => setQuota_direct ran)

theorem keeps_changeQuota (change : SqlUserQuota → SqlUserQuota) (username : String) :
    Keeps directRows (session rejected (Tables.changeQuota change username)) :=
  keeps_session (fun _ _ ran => changeQuota_direct ran)

end Frame
end MlflowOidcAuth
