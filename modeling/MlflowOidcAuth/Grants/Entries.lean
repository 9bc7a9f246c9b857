import MlflowOidcAuth.Grants.Map
import MlflowOidcAuth.Hook.Renames
import MlflowOidcAuth.Routers.OwnershipTransfer

/-! The direct tables, read as entries: what an owner is granted on a resource. A write of one
grant succeeds exactly when its entry allows it, and it changes that entry and no other. -/
namespace MlflowOidcAuth
open Effects

def SqlPermission.grant (row : SqlPermission) : Grant := ⟨row.permission,row.prompt⟩

namespace Tables

/-- The rows of an owner for a resource; the schema allows one at most. -/
def ownedRows (t : Tables) (holder : Holder) (family : Family) (key : ResourceKey)
    (ownerId : Nat) : List SqlPermission :=
  (t.direct holder family).filter (fun row => decide (row.key = key ∧ row.ownerId = ownerId))

def entryAt (t : Tables) (holder : Holder) (family : Family) (key : ResourceKey) (ownerId : Nat) :
    Option Grant :=
  (t.ownedRows holder family key ownerId).head?.map SqlPermission.grant

end Tables

/-- One table changed at one entry, which now holds `grant`. -/
structure DirectWrite (t t' : Tables) (holder : Holder) (family : Family) (key : ResourceKey)
    (ownerId : Nat) (grant : Option Grant) : Prop where
  tables : ∃ rows, t' = t.withDirect holder family rows
  here : t'.entryAt holder family key ownerId = grant
  others : ∀ p : ResourceKey → Nat → Bool, p key ownerId = false →
    (t'.direct holder family).filter (fun row => p row.key row.ownerId) =
      (t.direct holder family).filter (fun row => p row.key row.ownerId)

section Rows
variable {db : Database} {holder : Holder} {family : Family} {key : ResourceKey} {ownerId : Nat}

theorem direct_withDirect_self (t : Tables) (rows : List SqlPermission) :
    (t.withDirect holder family rows).direct holder family = rows := by
  rw [Tables.direct_withDirect,if_pos ⟨rfl,rfl⟩]

theorem ownedRows_unique (db : Database) (holder : Holder) (family : Family) (key : ResourceKey)
    (ownerId : Nat) : db.tables.ownedRows holder family key ownerId = [] ∨
      ∃ row, db.tables.ownedRows holder family key ownerId = [row] :=
  filter_unique (db.integrity.direct holder family).1.2.1 (key,ownerId)
    (fun row matched => by simpa using matched)

theorem mem_ownedRows {t : Tables} {row : SqlPermission} :
    row ∈ t.ownedRows holder family key ownerId ↔
      row ∈ t.direct holder family ∧ row.key = key ∧ row.ownerId = ownerId := by
  simp [Tables.ownedRows]

theorem entryAt_none {t : Tables} : t.entryAt holder family key ownerId = none ↔
    t.ownedRows holder family key ownerId = [] := by
  simp [Tables.entryAt]

theorem entryAt_some {grant : Grant} : db.tables.entryAt holder family key ownerId = some grant ↔
    ∃ row, db.tables.ownedRows holder family key ownerId = [row] ∧ row.grant = grant := by
  rcases ownedRows_unique db holder family key ownerId with none_held | ⟨row,held⟩
  · simp [Tables.entryAt,none_held]
  · simp [Tables.entryAt,held]

/-- In a committed table the id of a row stands for its entry. -/
theorem sameId_iff {row found : SqlPermission} (listed : row ∈ db.tables.direct holder family)
    (stored : found ∈ db.tables.direct holder family) :
    row.id = found.id ↔ row.key = found.key ∧ row.ownerId = found.ownerId := by
  obtain ⟨⟨ids,entries,_⟩,_⟩ := db.integrity.direct holder family
  constructor
  · intro same
    rw [List.inj_on_of_nodup_map ids listed stored same]
    exact ⟨rfl,rfl⟩
  · intro same
    have sameEntry : (row.key,row.ownerId) = (found.key,found.ownerId) :=
      Prod.ext same.1 same.2
    rw [List.inj_on_of_nodup_map entries listed stored sameEntry]

theorem directRow_ok {owner : String} {row : SqlPermission} :
    db.tables.directRow holder family key owner = .ok row ↔
      ∃ id, db.tables.ownerId holder owner = .ok id ∧
        db.tables.ownedRows holder family key id = [row] := by
  cases holder with
  | user =>
    rcases usersNamed_unique db owner with absent | ⟨user,only⟩
    · simp [Tables.directRow,Tables.ownerId,getUserPermission_unknown absent,
        getUser_unknown absent,bind,Except.bind]
    · have known := Tables.getUser_eq_ok.mpr only
      simp only [Tables.directRow,Tables.ownerId,known,Tables.getUserPermission_of_user known,
        one_eq_ok]
      simp [Tables.userRows,Tables.ownedRows,Tables.direct,bind,Except.bind,pure,Except.pure]
  | group =>
    cases known : db.tables.getGroup owner with
    | error failure => simp [Tables.directRow,Tables.ownerId,known,bind,Except.bind]
    | ok group =>
      simp only [Tables.directRow,Tables.ownerId,known,bind,Except.bind,one_eq_ok]
      simp [Tables.groupRows,Tables.ownedRows,Tables.direct,pure,Except.pure]

theorem promptRow_ok {name groupName : String} {row : SqlPermission} :
    db.tables.promptRow name groupName = .ok row ↔
      ∃ id, db.tables.ownerId .group groupName = .ok id ∧
        db.tables.ownedRows .group .registeredModel ⟨name,none⟩ id = [row] ∧ row.prompt = true := by
  cases known : db.tables.getGroup groupName with
  | error failure => simp [Tables.promptRow,Tables.ownerId,known,bind,Except.bind]
  | ok group =>
    have rows : db.tables.groupRows .registeredModel ⟨name,none⟩ group.id =
        db.tables.ownedRows .group .registeredModel ⟨name,none⟩ group.id := rfl
    simp only [Tables.promptRow,Tables.ownerId,known,bind,Except.bind,one_eq_ok,rows,pure,
      Except.pure,Except.ok.injEq,exists_eq_left']
    -- An entry has one row at most, so the filter on the flag keeps it or nothing.
    rcases ownedRows_unique db .group .registeredModel ⟨name,none⟩ group.id with none_held | held
    · simp [none_held]
    · obtain ⟨only,held⟩ := held
      rw [held,List.filter_singleton]
      cases flagged : only.prompt
      · simp only [cond_false,List.nil_eq,List.cons_ne_nil,List.cons.injEq,and_true,false_iff,
          not_and]
        intro same
        simp [← same,flagged]
      · simp only [cond_true,List.cons.injEq,and_true,iff_self_and]
        intro same
        exact same ▸ flagged

end Rows

section Changes
variable {db : Database} {holder : Holder} {family : Family} {found : SqlPermission}
  (stored : found ∈ db.tables.direct holder family)
include stored

theorem update_write (permission : String) :
    DirectWrite db.tables (db.tables.withDirect holder family
        ((db.tables.direct holder family).map (fun row =>
          if row.id = found.id then { row with permission := permission } else row)))
      holder family found.key found.ownerId (some ⟨permission,found.prompt⟩) := by
  let change : SqlPermission → SqlPermission := fun row =>
    if row.id = found.id then { row with permission := permission } else row
  have moved : ∀ p : ResourceKey → Nat → Bool, ((db.tables.direct holder family).map change).filter
        (fun row => p row.key row.ownerId) =
      ((db.tables.direct holder family).filter (fun row => p row.key row.ownerId)).map change := by
    intro p
    rw [List.filter_map]
    congr 1
    apply List.filter_congr
    intro row _
    simp only [Function.comp,change]
    split <;> rfl
  refine ⟨⟨_,rfl⟩,?_,?_⟩
  · have member : found ∈ db.tables.ownedRows holder family found.key found.ownerId :=
      mem_ownedRows.mpr ⟨stored,rfl,rfl⟩
    have held : db.tables.ownedRows holder family found.key found.ownerId = [found] := by
      rcases ownedRows_unique db holder family found.key found.ownerId with none_held | ⟨row,held⟩
      · simp [none_held] at member
      · rw [held,List.mem_singleton] at member
        rw [held,member]
    simp only [Tables.ownedRows] at held
    simp only [Tables.entryAt,Tables.ownedRows,direct_withDirect_self]
    rw [moved (fun key id => decide (key = found.key ∧ id = found.ownerId)),held]
    simp [change,SqlPermission.grant]
  · intro p apart
    rw [direct_withDirect_self,moved p]
    conv_rhs => rw [← List.map_id ((db.tables.direct holder family).filter _)]
    apply List.map_congr_left
    intro row listed
    obtain ⟨listed,matched⟩ := List.mem_filter.mp listed
    have distinct : row.id ≠ found.id := by
      intro same
      obtain ⟨sameKey,sameOwner⟩ := (sameId_iff listed stored).mp same
      rw [sameKey,sameOwner,apart] at matched
      cases matched
    exact if_neg distinct

theorem revoke_write :
    DirectWrite db.tables (db.tables.withDirect holder family
        ((db.tables.direct holder family).filter (fun row => decide (row.id ≠ found.id))))
      holder family found.key found.ownerId none := by
  refine ⟨⟨_,rfl⟩,?_,?_⟩
  · rw [entryAt_none]
    simp only [Tables.ownedRows,direct_withDirect_self,List.filter_filter,List.filter_eq_nil_iff]
    intro row listed matched
    simp only [Bool.and_eq_true,decide_eq_true_eq] at matched
    exact matched.2 ((sameId_iff listed stored).mpr matched.1)
  · intro p apart
    rw [direct_withDirect_self,List.filter_filter]
    apply List.filter_congr
    intro row listed
    by_cases same : row.id = found.id
    · obtain ⟨sameKey,sameOwner⟩ := (sameId_iff listed stored).mp same
      rw [sameKey,sameOwner,apart]
      rfl
    · simp [same]

end Changes

theorem grant_write {t : Tables} {holder : Holder} {family : Family} (row : SqlPermission)
    (free : t.entryAt holder family row.key row.ownerId = none) :
    DirectWrite t (t.withDirect holder family (t.direct holder family ++ [row]))
      holder family row.key row.ownerId (some row.grant) := by
  rw [entryAt_none] at free
  refine ⟨⟨_,rfl⟩,?_,?_⟩
  · simp only [Tables.entryAt,Tables.ownedRows,direct_withDirect_self,List.filter_append] at free ⊢
    rw [free]
    simp
  · intro p apart
    simp [direct_withDirect_self,apart]

/-- The entry that an operation is about, when it is about one: its table, its resource and the
name of its owner. -/
def Operation.entry : Operation → Option EntryKey
  | .grant holder family key owner _ => some (holder,family,key,owner)
  | .update holder family key owner _ => some (holder,family,key,owner)
  | .revoke holder family key owner => some (holder,family,key,owner)
  | .grantPrompt name groupName _ => some (.group,.registeredModel,⟨name,none⟩,groupName)
  | .updatePrompt name groupName _ => some (.group,.registeredModel,⟨name,none⟩,groupName)
  | .revokePrompt name groupName => some (.group,.registeredModel,⟨name,none⟩,groupName)
  | _ => none

/-- What an operation on one entry makes of it, where it succeeds. -/
inductive EntryStep : Operation → Option Grant → Option Grant → Prop
  | grant {holder family key owner permission} (valid : validatePermission permission = .ok ())
      (shaped : key.scorerName.isSome = decide (family = .scorer)) :
      EntryStep (.grant holder family key owner permission) none (some ⟨permission,false⟩)
  | update {holder family key owner permission grant}
      (valid : validatePermission permission = .ok ()) :
      EntryStep (.update holder family key owner permission) (some grant)
        (some ⟨permission,grant.prompt⟩)
  | revoke {holder family key owner grant} :
      EntryStep (.revoke holder family key owner) (some grant) none
  | grantPrompt {name groupName permission} (valid : validatePermission permission = .ok ()) :
      EntryStep (.grantPrompt name groupName permission) none (some ⟨permission,true⟩)
  | updatePrompt {name groupName permission grant} (flagged : grant.prompt = true)
      (valid : validatePermission permission = .ok ()) :
      EntryStep (.updatePrompt name groupName permission) (some grant) (some ⟨permission,true⟩)
  | revokePrompt {name groupName grant} (flagged : grant.prompt = true) :
      EntryStep (.revokePrompt name groupName) (some grant) none

section Operations
variable {env : StoreEnv} {db db' : Database} {holder : Holder} {family : Family}
  {key : ResourceKey} {owner permission : String}

theorem entry_of_row {row : SqlPermission} {id : Nat}
    (held : db.tables.ownedRows holder family key id = [row]) :
    row ∈ db.tables.direct holder family ∧ row.key = key ∧ row.ownerId = id ∧
      db.tables.entryAt holder family key id = some row.grant := by
  have member : row ∈ db.tables.ownedRows holder family key id := by
    rw [held]
    exact List.mem_singleton_self row
  obtain ⟨stored,sameKey,owned⟩ := mem_ownedRows.mp member
  exact ⟨stored,sameKey,owned,entryAt_some.mpr ⟨row,held,rfl⟩⟩

theorem directIntegrity_concat {t : Tables} (integrity : Integrity t) (row : SqlPermission) :
    Integrity (t.withDirect holder family (t.direct holder family ++ [row])) ↔
      row.id ∉ (t.direct holder family).map SqlPermission.id ∧
        t.entryAt holder family row.key row.ownerId = none ∧ row.ownerId ∈ t.owners holder ∧
        row.key.scorerName.isSome = decide (family = .scorer) := by
  have valid := integrity.direct holder family
  have free : (row.key,row.ownerId) ∉ (t.direct holder family).map (fun row =>
      (row.key,row.ownerId)) ↔ t.entryAt holder family row.key row.ownerId = none := by
    simp [entryAt_none,Tables.ownedRows]
  constructor
  · intro accepted
    obtain ⟨table,shaped⟩ := accepted.direct holder family
    rw [direct_withDirect_self] at table shaped
    rw [Tables.owners_withDirect,tableIntegrity_concat valid.1,free] at table
    exact ⟨table.1,table.2.1,table.2.2,shaped row (by simp)⟩
  · intro allowed
    obtain ⟨fresh,unheld,owned,shaped⟩ := allowed
    apply integrity.withDirect
    refine ⟨(tableIntegrity_concat valid.1).mpr ⟨fresh,free.mpr unheld,owned⟩,?_⟩
    intro other member
    rcases List.mem_append.mp member with earlier | last
    · exact valid.2 other earlier
    · rw [List.mem_singleton.mp last]
      exact shaped

theorem ownerId_listed {t : Tables} {id : Nat} (known : t.ownerId holder owner = .ok id) :
    id ∈ t.owners holder := by
  cases holder with
  | user =>
    obtain ⟨user,found,same⟩ := bind_ok known
    cases same
    exact List.mem_map_of_mem (mem_of_usersNamed (Tables.getUser_eq_ok.mp found)).1
  | group =>
    obtain ⟨group,found,same⟩ := bind_ok known
    cases same
    have only : t.groupsNamed owner = [group] := one_eq_ok.mp found
    have member : group ∈ t.groupsNamed owner := by
      rw [only]
      exact List.mem_singleton_self group
    exact List.mem_map_of_mem (List.mem_filter.mp member).1

/-- A grant goes through exactly to a known owner, at a free entry of the right shape. -/
theorem grant_runs {violation : Failure} {prompt : Bool} :
    (∃ db', session violation (Tables.grantPermission holder family key owner permission prompt) db =
        .ok () db') ↔
      validatePermission permission = .ok () ∧ ∃ id, db.tables.ownerId holder owner = .ok id ∧
        db.tables.entryAt holder family key id = none ∧
        key.scorerName.isSome = decide (family = .scorer) := by
  have unused := nextId_not_mem ((db.tables.direct holder family).map SqlPermission.id)
  constructor
  · intro ran
    obtain ⟨db',ran⟩ := ran
    obtain ⟨_,valid,ran⟩ := bind_ok (session_ok ran)
    obtain ⟨id,known,written⟩ := bind_ok ran
    simp only [pure,Except.pure,Except.ok.injEq] at written
    have accepted := db'.integrity
    rw [← written,directIntegrity_concat db.integrity] at accepted
    exact ⟨valid,id,known,accepted.2.1,accepted.2.2.2⟩
  · intro allowed
    obtain ⟨valid,id,known,free,shaped⟩ := allowed
    have integrity : Integrity (db.tables.withDirect holder family (db.tables.direct holder family ++
        [⟨nextId ((db.tables.direct holder family).map SqlPermission.id),key,id,permission,
          prompt⟩])) :=
      (directIntegrity_concat db.integrity _).mpr ⟨unused,free,ownerId_listed known,shaped⟩
    refine ⟨⟨_,integrity⟩,session_commits ?_ integrity⟩
    simp only [Tables.grantPermission,valid,known,bind,Except.bind]
    rfl

theorem grant_writes {violation : Failure} {prompt : Bool}
    (ran : session violation (Tables.grantPermission holder family key owner permission prompt) db =
      .ok () db') :
    ∃ id, db.tables.ownerId holder owner = .ok id ∧
      DirectWrite db.tables db'.tables holder family key id (some ⟨permission,prompt⟩) := by
  obtain ⟨_,id,known,free,_⟩ := grant_runs.mp ⟨db',ran⟩
  obtain ⟨_,_,ran⟩ := bind_ok (session_ok ran)
  obtain ⟨id',known',written⟩ := bind_ok ran
  rw [known,Except.ok.injEq] at known'
  subst known'
  simp only [pure,Except.pure,Except.ok.injEq] at written
  refine ⟨id,known,?_⟩
  rw [← written]
  exact grant_write ⟨_,key,id,permission,prompt⟩ free

theorem updated_integrity (db : Database) (holder : Holder) (family : Family) (permission : String)
    (found : SqlPermission) :
    Integrity (db.tables.withDirect holder family ((db.tables.direct holder family).map (fun row =>
      if row.id = found.id then { row with permission := permission } else row))) := by
  have kept : ∀ row : SqlPermission, ∀ change, change = (if row.id = found.id then
      { row with permission := permission } else row) → change.id = row.id ∧ change.key = row.key ∧
        change.ownerId = row.ownerId := by
    intro row change written
    rw [written]
    split <;> exact ⟨rfl,rfl,rfl⟩
  obtain ⟨table,shaped⟩ := db.integrity.direct holder family
  apply db.integrity.withDirect
  refine ⟨table.rewrite (fun row => (kept row _ rfl).1) ?_ (fun row => (kept row _ rfl).2.2),?_⟩
  · intro row
    rw [(kept row _ rfl).2.1,(kept row _ rfl).2.2]
  · intro row member
    obtain ⟨before,listed,written⟩ := List.mem_map.mp member
    rw [(kept before row written.symm).2.1]
    exact shaped before listed

section Found
variable {find : Tables → Except Failure SqlPermission}

theorem update_runs :
    (∃ db', session rejected (Tables.updatePermission holder family find permission) db =
        .ok () db') ↔ validatePermission permission = .ok () ∧ ∃ row, find db.tables = .ok row := by
  constructor
  · intro ran
    obtain ⟨db',ran⟩ := ran
    obtain ⟨_,valid,ran⟩ := bind_ok (session_ok ran)
    obtain ⟨row,found,_⟩ := bind_ok ran
    exact ⟨valid,row,found⟩
  · intro allowed
    obtain ⟨valid,row,found⟩ := allowed
    have integrity := updated_integrity db holder family permission row
    refine ⟨⟨_,integrity⟩,session_commits ?_ integrity⟩
    simp only [Tables.updatePermission,valid,found,bind,Except.bind]
    rfl

theorem update_writes
    (finds : ∀ row, find db.tables = .ok row → row ∈ db.tables.direct holder family)
    (ran : session rejected (Tables.updatePermission holder family find permission) db =
      .ok () db') :
    ∃ row, find db.tables = .ok row ∧ DirectWrite db.tables db'.tables holder family row.key
      row.ownerId (some ⟨permission,row.prompt⟩) := by
  obtain ⟨_,_,ran⟩ := bind_ok (session_ok ran)
  obtain ⟨row,found,written⟩ := bind_ok ran
  simp only [pure,Except.pure,Except.ok.injEq] at written
  refine ⟨row,found,?_⟩
  rw [← written]
  exact update_write (finds row found) permission

theorem revoke_runs :
    (∃ db', session rejected (Tables.revokePermission holder family find) db = .ok () db') ↔
      ∃ row, find db.tables = .ok row := by
  constructor
  · intro ran
    obtain ⟨db',ran⟩ := ran
    obtain ⟨row,found,_⟩ := bind_ok (session_ok ran)
    exact ⟨row,found⟩
  · intro allowed
    obtain ⟨row,found⟩ := allowed
    have integrity : Integrity (db.tables.withDirect holder family
        ((db.tables.direct holder family).filter (fun other => decide (other.id ≠ row.id)))) :=
      db.integrity.withDirect ((db.integrity.direct holder family).sublist List.filter_sublist)
    refine ⟨⟨_,integrity⟩,session_commits ?_ integrity⟩
    simp only [Tables.revokePermission,found,bind,Except.bind]
    rfl

theorem revoke_writes
    (finds : ∀ row, find db.tables = .ok row → row ∈ db.tables.direct holder family)
    (ran : session rejected (Tables.revokePermission holder family find) db = .ok () db') :
    ∃ row, find db.tables = .ok row ∧ DirectWrite db.tables db'.tables holder family row.key
      row.ownerId none := by
  obtain ⟨row,found,written⟩ := bind_ok (session_ok ran)
  simp only [pure,Except.pure,Except.ok.injEq] at written
  refine ⟨row,found,?_⟩
  rw [← written]
  exact revoke_write (finds row found)

end Found

theorem directRow_stored (row : SqlPermission)
    (found : db.tables.directRow holder family key owner = .ok row) :
    row ∈ db.tables.direct holder family := by
  obtain ⟨_,_,held⟩ := directRow_ok.mp found
  exact (entry_of_row held).1

theorem promptRow_stored {name groupName : String} (row : SqlPermission)
    (found : db.tables.promptRow name groupName = .ok row) :
    row ∈ db.tables.direct .group .registeredModel := by
  obtain ⟨_,_,held,_⟩ := promptRow_ok.mp found
  exact (entry_of_row held).1

theorem directRow_entry : (∃ row, db.tables.directRow holder family key owner = .ok row) ↔
    ∃ id grant, db.tables.ownerId holder owner = .ok id ∧
      db.tables.entryAt holder family key id = some grant := by
  simp only [directRow_ok,entryAt_some]
  constructor
  · intro held
    obtain ⟨row,id,known,only⟩ := held
    exact ⟨id,row.grant,known,row,only,rfl⟩
  · intro held
    obtain ⟨id,_,known,row,only,_⟩ := held
    exact ⟨row,id,known,only⟩

theorem promptRow_entry {name groupName : String} :
    (∃ row, db.tables.promptRow name groupName = .ok row) ↔
      ∃ id grant, db.tables.ownerId .group groupName = .ok id ∧
        db.tables.entryAt .group .registeredModel ⟨name,none⟩ id = some grant ∧
        grant.prompt = true := by
  simp only [promptRow_ok,entryAt_some]
  constructor
  · intro held
    obtain ⟨row,id,known,only,flagged⟩ := held
    exact ⟨id,row.grant,known,⟨row,only,rfl⟩,flagged⟩
  · intro held
    obtain ⟨id,_,known,⟨row,only,rfl⟩,flagged⟩ := held
    exact ⟨row,id,known,only,flagged⟩

/-- An operation on an entry succeeds exactly when its owner is known and the entry allows it. -/
theorem entry_runs {operation : Operation} (about : operation.entry = some (holder,family,key,owner)) :
    (∃ db', operation.run env db = .ok () db') ↔
      ∃ id after, db.tables.ownerId holder owner = .ok id ∧
        EntryStep operation (db.tables.entryAt holder family key id) after := by
  cases operation <;> cases about
  case grant permission =>
    rw [Operation.run,grant_runs]
    constructor
    · intro allowed
      obtain ⟨valid,id,known,free,shaped⟩ := allowed
      refine ⟨id,some ⟨permission,false⟩,known,?_⟩
      rw [free]
      exact .grant valid shaped
    · intro allowed
      obtain ⟨id,after,known,step⟩ := allowed
      generalize before : db.tables.entryAt holder family key id = entry at step
      cases step with
      | grant valid shaped => exact ⟨valid,id,known,before,shaped⟩
  case update permission =>
    rw [Operation.run,update_runs,directRow_entry]
    constructor
    · intro allowed
      obtain ⟨valid,id,grant,known,held⟩ := allowed
      refine ⟨id,some ⟨permission,grant.prompt⟩,known,?_⟩
      rw [held]
      exact .update valid
    · intro allowed
      obtain ⟨id,after,known,step⟩ := allowed
      generalize before : db.tables.entryAt holder family key id = entry at step
      cases step with
      | update valid => exact ⟨valid,id,_,known,before⟩
  case revoke =>
    rw [Operation.run,revoke_runs,directRow_entry]
    constructor
    · intro allowed
      obtain ⟨id,grant,known,held⟩ := allowed
      refine ⟨id,none,known,?_⟩
      rw [held]
      exact .revoke
    · intro allowed
      obtain ⟨id,after,known,step⟩ := allowed
      generalize before : db.tables.entryAt holder family key id = entry at step
      cases step with
      | revoke => exact ⟨id,_,known,before⟩
  case grantPrompt name permission =>
    rw [Operation.run,grant_runs]
    constructor
    · intro allowed
      obtain ⟨valid,id,known,free,_⟩ := allowed
      refine ⟨id,some ⟨permission,true⟩,known,?_⟩
      rw [free]
      exact .grantPrompt valid
    · intro allowed
      obtain ⟨id,after,known,step⟩ := allowed
      generalize before : db.tables.entryAt .group .registeredModel ⟨name,none⟩ id = entry at step
      cases step with
      | grantPrompt valid => exact ⟨valid,id,known,before,rfl⟩
  case updatePrompt name permission =>
    rw [Operation.run,update_runs,promptRow_entry]
    constructor
    · intro allowed
      obtain ⟨valid,id,grant,known,held,flagged⟩ := allowed
      refine ⟨id,some ⟨permission,true⟩,known,?_⟩
      rw [held]
      exact .updatePrompt flagged valid
    · intro allowed
      obtain ⟨id,after,known,step⟩ := allowed
      generalize before : db.tables.entryAt .group .registeredModel ⟨name,none⟩ id = entry at step
      cases step with
      | updatePrompt flagged valid => exact ⟨valid,id,_,known,before,flagged⟩
  case revokePrompt name =>
    rw [Operation.run,revoke_runs,promptRow_entry]
    constructor
    · intro allowed
      obtain ⟨id,grant,known,held,flagged⟩ := allowed
      refine ⟨id,none,known,?_⟩
      rw [held]
      exact .revokePrompt flagged
    · intro allowed
      obtain ⟨id,after,known,step⟩ := allowed
      generalize before : db.tables.entryAt .group .registeredModel ⟨name,none⟩ id = entry at step
      cases step with
      | revokePrompt flagged => exact ⟨id,_,known,before,flagged⟩

/-- One that succeeds writes what its step makes of the entry. -/
theorem entry_writes {operation : Operation} (about : operation.entry = some (holder,family,key,owner))
    (ran : operation.run env db = .ok () db') :
    ∃ id after, db.tables.ownerId holder owner = .ok id ∧
      EntryStep operation (db.tables.entryAt holder family key id) after ∧
      DirectWrite db.tables db'.tables holder family key id after := by
  obtain ⟨id,after,known,step⟩ := (entry_runs about).mp ⟨db',ran⟩
  refine ⟨id,after,known,step,?_⟩
  generalize before : db.tables.entryAt holder family key id = entry at step
  -- Each finds the row of the known owner, so the entry written is the one the step is about.
  have sameRow : ∀ {row}, db.tables.directRow holder family key owner = .ok row →
      row.key = key ∧ row.ownerId = id ∧ entry = some row.grant := by
    intro row found
    obtain ⟨id',known',held⟩ := directRow_ok.mp found
    rw [known,Except.ok.injEq] at known'
    subst known'
    obtain ⟨_,sameKey,owned,holds⟩ := entry_of_row held
    exact ⟨sameKey,owned,before.symm.trans holds⟩
  have samePrompt : ∀ {name}, (Holder.group,Family.registeredModel,ResourceKey.mk name none,owner) =
      (holder,family,key,owner) → ∀ {row}, db.tables.promptRow name owner = .ok row →
        row.key = key ∧ row.ownerId = id ∧ entry = some row.grant := by
    intro name same row found
    cases same
    obtain ⟨id',known',held,_⟩ := promptRow_ok.mp found
    rw [known,Except.ok.injEq] at known'
    subst known'
    obtain ⟨_,sameKey,owned,holds⟩ := entry_of_row held
    exact ⟨sameKey,owned,before.symm.trans holds⟩
  cases step with
  | grant valid shaped =>
    cases about
    obtain ⟨id',known',write⟩ := grant_writes ran
    rw [known,Except.ok.injEq] at known'
    subst known'
    exact write
  | update valid =>
    cases about
    obtain ⟨row,found,write⟩ := update_writes directRow_stored ran
    obtain ⟨rfl,rfl,held⟩ := sameRow found
    cases held
    exact write
  | revoke =>
    cases about
    obtain ⟨row,found,write⟩ := revoke_writes directRow_stored ran
    obtain ⟨rfl,rfl,held⟩ := sameRow found
    exact write
  | grantPrompt valid =>
    cases about
    obtain ⟨id',known',write⟩ := grant_writes ran
    rw [known,Except.ok.injEq] at known'
    subst known'
    exact write
  | updatePrompt flagged valid =>
    cases about
    obtain ⟨row,found,write⟩ := update_writes promptRow_stored ran
    obtain ⟨sameKey,owned,held⟩ := samePrompt rfl found
    cases held
    have kept : row.prompt = true := flagged
    rw [sameKey,owned,kept] at write
    exact write
  | revokePrompt flagged =>
    cases about
    obtain ⟨row,found,write⟩ := revoke_writes promptRow_stored ran
    obtain ⟨sameKey,owned,_⟩ := samePrompt rfl found
    rw [sameKey,owned] at write
    exact write

end Operations
end MlflowOidcAuth
