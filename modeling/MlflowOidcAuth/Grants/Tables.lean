import MlflowOidcAuth.Grants.Entries
import MlflowOidcAuth.Hook.ScorerDeletion
import MlflowOidcAuth.Store.Memberships
import MlflowOidcAuth.Store.UserDeletion

/-! The committed tables as a grant map, and what the writes of whole tables (wipes, renames,
accounts and groups) make of it. -/
namespace MlflowOidcAuth
open Effects

def Tables.grantMap (t : Tables) : GrantMap where
  owners holder owner := ∃ id, t.ownerId holder owner = .ok id
  entry := fun (holder,family,key,owner) =>
    match t.ownerId holder owner with
    | .ok id => t.entryAt holder family key id
    | .error _ => none

section Views
variable {db : Database} {t t' : Tables} {holder : Holder} {family : Family} {key : ResourceKey}
  {owner : String} {id : Nat}

theorem ownerId_user : t.ownerId .user owner = .ok id ↔
    ∃ user, t.usersNamed owner = [user] ∧ user.id = id := by
  cases known : t.getUser owner with
  | error failure =>
    have unnamed : ∀ user, t.usersNamed owner ≠ [user] := by
      intro user only
      rw [Tables.getUser_eq_ok.mpr only] at known
      cases known
    simp [Tables.ownerId,known,unnamed,bind,Except.bind]
  | ok user =>
    simp [Tables.ownerId,known,Tables.getUser_eq_ok.mp known,bind,Except.bind,pure,Except.pure]

theorem ownerId_group : t.ownerId .group owner = .ok id ↔
    ∃ group, t.groupsNamed owner = [group] ∧ group.id = id := by
  have named : ∀ group, t.getGroup owner = .ok group ↔ t.groupsNamed owner = [group] :=
    fun _ => one_eq_ok
  cases known : t.getGroup owner with
  | error failure =>
    have unnamed : ∀ group, t.groupsNamed owner ≠ [group] := by
      intro group only
      rw [(named group).mpr only] at known
      cases known
    simp [Tables.ownerId,known,unnamed,bind,Except.bind]
  | ok group =>
    simp [Tables.ownerId,known,(named group).mp known,bind,Except.bind,pure,Except.pure]

theorem ownerId_inj {other : String} (known : db.tables.ownerId holder owner = .ok id)
    (known' : db.tables.ownerId holder other = .ok id) : owner = other := by
  cases holder with
  | user =>
    obtain ⟨user,only,rfl⟩ := ownerId_user.mp known
    obtain ⟨user',only',same⟩ := ownerId_user.mp known'
    obtain ⟨listed,named⟩ := mem_of_usersNamed only
    obtain ⟨listed',named'⟩ := mem_of_usersNamed only'
    rw [← named,← named',user_of_id listed' listed same]
  | group =>
    obtain ⟨group,only,rfl⟩ := ownerId_group.mp known
    obtain ⟨group',only',same⟩ := ownerId_group.mp known'
    obtain ⟨listed,named⟩ := mem_of_getGroup (one_eq_ok.mpr only)
    obtain ⟨listed',named'⟩ := mem_of_getGroup (one_eq_ok.mpr only')
    have sameGroup := List.inj_on_of_nodup_map db.integrity.groupIds listed' listed same
    rw [← named,← named',sameGroup]

theorem entry_known (known : t.ownerId holder owner = .ok id) :
    t.grantMap.entry (holder,family,key,owner) = t.entryAt holder family key id := by
  simp only [Tables.grantMap,known]

theorem entry_unknown (unknown : ¬ t.grantMap.owners holder owner) :
    t.grantMap.entry (holder,family,key,owner) = none := by
  simp only [Tables.grantMap]
  split
  · next id known => exact absurd ⟨id,known⟩ unknown
  · rfl

theorem owner_of_entry (held : t.grantMap.entry (holder,family,key,owner) ≠ none) :
    t.grantMap.owners holder owner := by
  by_contra unknown
  exact held (entry_unknown unknown)

@[simp] theorem ownerId_withDirect (t : Tables) (other : Holder) (table : Family)
    (rows : List SqlPermission) (holder : Holder) (owner : String) :
    (t.withDirect other table rows).ownerId holder owner = t.ownerId holder owner := by
  cases other <;> cases holder <;> rfl

/-- Entries of one table are looked up among its rows. -/
theorem entryAt_congr (rows : (t'.direct holder family).filter (fun row =>
      decide (row.key = key ∧ row.ownerId = id)) = (t.direct holder family).filter (fun row =>
        decide (row.key = key ∧ row.ownerId = id))) :
    t'.entryAt holder family key id = t.entryAt holder family key id := by
  simp only [Tables.entryAt,Tables.ownedRows,rows]

/-- Tables with the same owners agree on an entry when their rows of the owner do. -/
theorem entry_congr (owners : ∀ id, t'.ownerId holder owner = .ok id ↔
      t.ownerId holder owner = .ok id)
    (rows : ∀ id, t.ownerId holder owner = .ok id →
      t'.entryAt holder family key id = t.entryAt holder family key id) :
    t'.grantMap.entry (holder,family,key,owner) = t.grantMap.entry (holder,family,key,owner) := by
  by_cases known : ∃ id, t.ownerId holder owner = .ok id
  · obtain ⟨id,known⟩ := known
    rw [entry_known known,entry_known ((owners id).mpr known),rows id known]
  · rw [entry_unknown known,entry_unknown]
    intro known'
    obtain ⟨id,known'⟩ := known'
    exact known ⟨id,(owners id).mp known'⟩

theorem write_map {after : Option Grant} (known : db.tables.ownerId holder owner = .ok id)
    (write : DirectWrite db.tables t' holder family key id after) :
    t'.grantMap = db.tables.grantMap.put (holder,family,key,owner) after := by
  obtain ⟨rows,written⟩ := write.tables
  have sameOwners : ∀ other name, t'.ownerId other name = db.tables.ownerId other name := by
    intro other name
    rw [written,ownerId_withDirect]
  apply GrantMap.ext_entries
  · intro other name
    simp only [Tables.grantMap,sameOwners,GrantMap.put]
  · intro other table key' name
    by_cases same : (other,table,key',name) = (holder,family,key,owner)
    · cases same
      rw [entry_known ((sameOwners _ _).trans known),write.here]
      simp [GrantMap.put]
    · simp only [GrantMap.put,Function.update_of_ne same]
      apply entry_congr (fun _ => by rw [sameOwners])
      intro other_id known'
      -- Another owner has another id, so the entry is another one of the table, or of another.
      by_cases here : other = holder ∧ table = family
      · obtain ⟨rfl,rfl⟩ := here
        have apart : ¬ (key = key' ∧ id = other_id) := by
          intro equal
          obtain ⟨rfl,rfl⟩ := equal
          exact same (by rw [ownerId_inj known' known])
        exact entryAt_congr (write.others (fun k i => decide (k = key' ∧ i = other_id))
          (decide_eq_false apart))
      · apply entryAt_congr
        rw [written,Tables.direct_withDirect,if_neg here]

theorem entryAt_eq_some {grant : Grant} : db.tables.entryAt holder family key id = some grant ↔
    ∃ row ∈ db.tables.direct holder family, row.key = key ∧ row.ownerId = id ∧
      row.grant = grant := by
  rw [entryAt_some]
  constructor
  · intro held
    obtain ⟨row,only,same⟩ := held
    obtain ⟨stored,sameKey,owned,_⟩ := entry_of_row only
    exact ⟨row,stored,sameKey,owned,same⟩
  · intro held
    obtain ⟨row,stored,sameKey,owned,same⟩ := held
    have member : row ∈ db.tables.ownedRows holder family key id :=
      mem_ownedRows.mpr ⟨stored,sameKey,owned⟩
    rcases ownedRows_unique db holder family key id with none_held | ⟨other,only⟩
    · rw [none_held] at member
      cases member
    · rw [only,List.mem_singleton] at member
      exact ⟨row,by rw [only,member],same⟩

end Views

section Rows
variable {db : Database} {t : Tables} {holder : Holder} {family : Family}

/-- Deleting the rows of some resources from one table. -/
theorem filter_map (t : Tables) (holder : Holder) (family : Family) (doomed : ResourceKey → Bool) :
    (t.withDirect holder family ((t.direct holder family).filter (fun row =>
        !doomed row.key))).grantMap =
      t.grantMap.erase (fun (other,table,key,_) =>
        decide (other = holder ∧ table = family) && doomed key) := by
  apply GrantMap.ext_entries
  · intro other name
    simp only [Tables.grantMap,ownerId_withDirect,GrantMap.erase]
  · intro other table key name
    simp only [GrantMap.erase,Bool.and_eq_true,decide_eq_true_eq]
    by_cases gone : (other = holder ∧ table = family) ∧ doomed key = true
    · obtain ⟨⟨rfl,rfl⟩,gone⟩ := gone
      simp only [gone,and_self,if_true]
      by_cases known : ∃ id, t.ownerId other name = .ok id
      · obtain ⟨id,known⟩ := known
        rw [entry_known ((ownerId_withDirect ..).trans known),entryAt_none]
        simp only [Tables.ownedRows,direct_withDirect_self,List.filter_filter,
          List.filter_eq_nil_iff]
        intro row _ matched
        simp only [Bool.and_eq_true,decide_eq_true_eq,Bool.not_eq_true'] at matched
        rw [matched.1.1,gone] at matched
        cases matched.2
      · apply entry_unknown
        intro known'
        obtain ⟨id,known'⟩ := known'
        exact known ⟨id,(ownerId_withDirect ..).symm.trans known'⟩
    · rw [if_neg gone]
      apply entry_congr (fun _ => by rw [ownerId_withDirect])
      intro id _
      apply entryAt_congr
      rw [Tables.direct_withDirect]
      split
      · next here =>
        obtain ⟨rfl,rfl⟩ := here
        rw [List.filter_filter]
        apply List.filter_congr
        intro row _
        by_cases same : row.key = key
        · simp only [and_self,true_and,Bool.not_eq_true] at gone
          simp [same,gone]
        · simp [same]
      · rfl

theorem wipe_map (t : Tables) (holder : Holder) (family : Family) (resourceId : String) :
    (t.wipe holder family resourceId).grantMap = t.grantMap.erase (fun (other,table,key,_) =>
      decide (other = holder ∧ table = family ∧ key.resourceId = resourceId)) := by
  have kept : t.wipe holder family resourceId = t.withDirect holder family
      ((t.direct holder family).filter (fun row => !decide (row.key.resourceId = resourceId))) := by
    simp only [Tables.wipe,decide_not]
  rw [kept,filter_map t holder family (fun key => decide (key.resourceId = resourceId))]
  simp only [← Bool.decide_and,and_assoc]

theorem erase_erase (map : GrantMap) (first second : EntryKey → Bool) :
    (map.erase first).erase second = map.erase (fun key => first key || second key) := by
  simp only [GrantMap.erase]
  congr 1
  funext key
  by_cases gone : first key = true <;> by_cases gone' : second key = true <;> simp [gone,gone']

theorem wipeBoth_map (t : Tables) (family : Family) (resourceId : String) :
    ((t.wipe .user family resourceId).wipe .group family resourceId).grantMap =
      t.grantMap.erase (fun (_,table,key,_) =>
        decide (table = family ∧ key.resourceId = resourceId)) := by
  rw [wipe_map,wipe_map,erase_erase]
  congr 1
  funext key
  obtain ⟨holder,table,key,_⟩ := key
  cases holder <;> simp

theorem deleteScorer_map (t : Tables) (experimentId scorerName : String) :
    (t.deleteScorerRows experimentId scorerName).grantMap =
      t.grantMap.erase (fun (_,table,key,_) =>
        decide (table = .scorer ∧ key = ⟨experimentId,some scorerName⟩)) := by
  have users := filter_map t .user .scorer (fun key => decide (key = ⟨experimentId,some scorerName⟩))
  have both := filter_map (t.withDirect .user .scorer ((t.direct .user .scorer).filter (fun row =>
    !decide (row.key = ⟨experimentId,some scorerName⟩)))) .group .scorer
    (fun key => decide (key = ⟨experimentId,some scorerName⟩))
  rw [users,erase_erase,Tables.direct_withDirect,if_neg (by simp)] at both
  simp only [Tables.deleteScorerRows,decide_not]
  rw [both]
  congr 1
  funext key
  obtain ⟨holder,table,key,_⟩ := key
  cases holder <;> simp

end Rows

section Rename
variable {db : Database} {holder : Holder} {family : Family} {oldName newName : String}
  {key : ResourceKey} {id : Nat}

/-- In the tables without scorers an owner's entry on a name is a row of that name. -/
theorem held_iff (plain : family ≠ .scorer) {name owner : String}
    (known : db.tables.ownerId holder owner = .ok id) :
    db.tables.grantMap.entry (holder,family,⟨name,none⟩,owner) ≠ none ↔
      ∃ row ∈ db.tables.direct holder family, row.key.resourceId = name ∧ row.ownerId = id := by
  rw [entry_known known,Option.ne_none_iff_exists']
  simp only [entryAt_eq_some]
  constructor
  · intro found
    obtain ⟨_,row,stored,sameKey,owned,_⟩ := found
    exact ⟨row,stored,congrArg ResourceKey.resourceId sameKey,owned⟩
  · intro found
    obtain ⟨row,stored,named,owned⟩ := found
    have unscored : row.key.scorerName = none := by
      simpa [plain] using (db.integrity.direct holder family).2 row stored
    exact ⟨row.grant,row,stored,resourceKey_eq named unscored,owned,rfl⟩

theorem named_owner {row : SqlPermission} (stored : row ∈ db.tables.direct holder family) :
    ∃ owner, db.tables.ownerId holder owner = .ok row.ownerId := by
  have owned := (db.integrity.direct holder family).1.2.2 row stored
  cases holder with
  | user =>
    obtain ⟨user,listed,sameId⟩ := List.mem_map.mp owned
    have member : user ∈ db.tables.usersNamed user.username :=
      List.mem_filter.mpr ⟨listed,by simp⟩
    refine ⟨user.username,ownerId_user.mpr ⟨user,?_,sameId⟩⟩
    rcases usersNamed_unique db user.username with none_named | ⟨only,single⟩
    · rw [none_named] at member
      cases member
    · rw [single] at member ⊢
      rw [List.mem_singleton.mp member]
  | group =>
    obtain ⟨group,listed,sameId⟩ := List.mem_map.mp owned
    exact ⟨group.groupName,ownerId_group.mpr ⟨group,groupsNamed_of_member db listed,sameId⟩⟩

theorem anyone_held_iff (plain : family ≠ .scorer) {name : String} :
    (∃ owner, db.tables.grantMap.entry (holder,family,⟨name,none⟩,owner) ≠ none) ↔
      ∃ row ∈ db.tables.direct holder family, row.key.resourceId = name := by
  constructor
  · intro held
    obtain ⟨owner,held⟩ := held
    obtain ⟨id,known⟩ := owner_of_entry held
    obtain ⟨row,stored,named,_⟩ := (held_iff plain known).mp held
    exact ⟨row,stored,named⟩
  · intro found
    obtain ⟨row,stored,named⟩ := found
    obtain ⟨owner,known⟩ := named_owner stored
    exact ⟨owner,(held_iff plain known).mpr ⟨row,stored,named,rfl⟩⟩

/-- Somebody's rows collide exactly where the grants do. -/
theorem collides_iff (plain : family ≠ .scorer) :
    db.tables.Collides holder family oldName newName ↔
      db.tables.grantMap.Collides holder family oldName newName := by
  constructor
  · intro collision
    obtain ⟨distinct,row,stored,other,stored',named,named',same⟩ := collision
    obtain ⟨owner,known⟩ := named_owner stored
    exact ⟨distinct,owner,(held_iff plain known).mpr ⟨row,stored,named,rfl⟩,
      (held_iff plain known).mpr ⟨other,stored',named',same.symm⟩⟩
  · intro collision
    obtain ⟨distinct,owner,held_old,held_new⟩ := collision
    obtain ⟨id,known⟩ := owner_of_entry held_old
    obtain ⟨row,stored,named,owned⟩ := (held_iff plain known).mp held_old
    obtain ⟨other,stored',named',owned'⟩ := (held_iff plain known).mp held_new
    exact ⟨distinct,row,stored,other,stored',named,named',owned.trans owned'.symm⟩

theorem moved_key {row : SqlPermission} : (movedRow oldName newName row).key =
    if row.key.resourceId = oldName then row.key.renamed newName else row.key := by
  unfold movedRow
  split <;> rfl

theorem moved_grant {row : SqlPermission} : (movedRow oldName newName row).grant = row.grant := by
  unfold movedRow
  split <;> rfl

/-- The rows of a name become rows of the other name, and those of no other name move. -/
theorem moved_key_iff {row : SqlPermission} : (movedRow oldName newName row).key = key ↔
    row.key.resourceId = oldName ∧ key = row.key.renamed newName ∨
      row.key.resourceId ≠ oldName ∧ key = row.key := by
  rw [moved_key]
  split
  · next moved => simp [moved,eq_comm]
  · next unmoved => simp [unmoved,eq_comm]

/-- A moved row is found under its new name, one that stayed under its own. -/
theorem moved_entry (apart : ¬ db.tables.Collides holder family oldName newName) (grant : Grant) :
    (∃ row ∈ db.tables.direct holder family, (movedRow oldName newName row).key = key ∧
        row.ownerId = id ∧ row.grant = grant) ↔
      (if key.resourceId = newName then
        (db.tables.entryAt holder family (key.renamed oldName) id).or
          (db.tables.entryAt holder family key id)
      else if key.resourceId = oldName then none
      else db.tables.entryAt holder family key id) = some grant := by
  have moves : key.resourceId = newName → ∀ row ∈ db.tables.direct holder family,
      row.key = key.renamed oldName → (movedRow oldName newName row).key = key := by
    intro named row _ sameKey
    rw [moved_key_iff,sameKey,← named]
    exact .inl ⟨rfl,rfl⟩
  split
  · next named =>
    rw [Option.or_eq_some_iff,entryAt_eq_some,entryAt_eq_some]
    constructor
    · intro found
      obtain ⟨row,stored,sameKey,owned,same⟩ := found
      rcases moved_key_iff.mp sameKey with ⟨isOld,rfl⟩ | ⟨notOld,rfl⟩
      · exact .inl ⟨row,stored,by rw [← isOld]; rfl,owned,same⟩
      · refine .inr ⟨?_,row,stored,rfl,owned,same⟩
        -- A grant under the old name as well would collide.
        rw [Option.eq_none_iff_forall_ne_some]
        intro other held
        obtain ⟨row',stored',sameKey',owned',_⟩ := entryAt_eq_some.mp held
        refine apart ⟨fun equal => notOld (named.trans equal.symm),row',stored',row,stored,?_,named,
          owned'.trans owned.symm⟩
        rw [sameKey']
        rfl
    · intro found
      rcases found with ⟨row,stored,sameKey,owned,same⟩ | ⟨none_old,row,stored,sameKey,owned,same⟩
      · exact ⟨row,stored,moves named row stored sameKey,owned,same⟩
      · refine ⟨row,stored,?_,owned,same⟩
        by_cases isOld : row.key.resourceId = oldName
        · apply moves named row stored
          rw [sameKey,← isOld,sameKey]
          rfl
        · exact moved_key_iff.mpr (.inr ⟨isOld,sameKey.symm⟩)
  · next other =>
    have stays : ∀ row ∈ db.tables.direct holder family,
        (movedRow oldName newName row).key = key ↔
          row.key.resourceId ≠ oldName ∧ key = row.key := by
      intro row _
      rw [moved_key_iff]
      apply or_iff_right
      intro moved
      rw [moved.2] at other
      exact other rfl
    split
    · next isOld =>
      constructor
      · intro found
        obtain ⟨row,stored,sameKey,_⟩ := found
        obtain ⟨notOld,rfl⟩ := (stays row stored).mp sameKey
        exact absurd isOld notOld
      · intro impossible
        cases impossible
    · next notOld =>
      rw [entryAt_eq_some]
      constructor
      · intro found
        obtain ⟨row,stored,sameKey,owned,same⟩ := found
        exact ⟨row,stored,((stays row stored).mp sameKey).2.symm,owned,same⟩
      · intro found
        obtain ⟨row,stored,rfl,owned,same⟩ := found
        exact ⟨row,stored,(stays row stored).mpr ⟨notOld,rfl⟩,owned,same⟩

theorem rename_map {t' : Tables} (integrity : Integrity t')
    (renamed : t' = db.tables.renameRows holder family oldName newName)
    (apart : ¬ db.tables.Collides holder family oldName newName) :
    t'.grantMap = db.tables.grantMap.rename holder family oldName newName := by
  have owners : ∀ other name, t'.ownerId other name = db.tables.ownerId other name := by
    intro other name
    rw [renamed,renameRows_eq,ownerId_withDirect]
  have rows : t'.direct holder family =
      (db.tables.direct holder family).map (movedRow oldName newName) := by
    rw [renamed,direct_renameRows]
  let committed : Database := ⟨t',integrity⟩
  apply GrantMap.ext_entries
  · intro other name
    simp only [Tables.grantMap,owners,GrantMap.rename]
  · intro other table key name
    simp only [GrantMap.rename]
    by_cases here : other = holder ∧ table = family
    · obtain ⟨rfl,rfl⟩ := here
      rw [if_pos ⟨rfl,rfl⟩]
      by_cases known : ∃ id, db.tables.ownerId other name = .ok id
      · obtain ⟨id,known⟩ := known
        have known' : committed.tables.ownerId other name = .ok id := (owners _ _).trans known
        rw [entry_known known,entry_known known,entry_known known']
        ext grant
        rw [← moved_entry apart,entryAt_eq_some]
        simp only [committed,rows,List.mem_map,exists_exists_and_eq_and,movedRow_ownerId,
          moved_grant]
      · rw [entry_unknown known,entry_unknown known,entry_unknown]
        · simp
        · intro known'
          obtain ⟨id,known'⟩ := known'
          exact known ⟨id,(owners _ _).symm.trans known'⟩
    · rw [if_neg here]
      apply entry_congr (fun _ => by rw [owners])
      intro id _
      apply entryAt_congr
      rw [renamed,renameRows_eq,Tables.direct_withDirect,if_neg here]

end Rename

section Accounts
variable {db : Database} {t t' : Tables} {family : Family} {key : ResourceKey} {owner : String}

theorem owners_of_account (account : SameAccount t t' owner) (id : Nat) :
    t'.ownerId .user owner = .ok id ↔ t.ownerId .user owner = .ok id := by
  rw [ownerId_user,ownerId_user]
  cases account with
  | absent before after => simp [before,after]
  | known user user' before after sameId rows => simp [before,after,sameId]

theorem entry_of_account (account : SameAccount t t' owner) :
    t'.grantMap.entry (.user,family,key,owner) = t.grantMap.entry (.user,family,key,owner) := by
  apply entry_congr (owners_of_account account)
  intro id known
  obtain ⟨user,only,rfl⟩ := ownerId_user.mp known
  cases account with
  | absent before after => simp [before] at only
  | known known_user user' before after sameId rows =>
    rw [before,List.singleton_inj] at only
    subst only
    have same := userRows_same sameId rows family key
    simp only [Tables.userRows,sameId] at same
    exact entryAt_congr same

theorem groups_same (groups : SameGroupTables t t') :
    (∀ owner, t'.grantMap.owners .group owner ↔ t.grantMap.owners .group owner) ∧
      ∀ family key owner, t'.grantMap.entry (.group,family,key,owner) =
        t.grantMap.entry (.group,family,key,owner) := by
  have owners : ∀ owner id, t'.ownerId .group owner = .ok id ↔ t.ownerId .group owner = .ok id := by
    intro owner id
    simp only [ownerId_group,Tables.groupsNamed,groups.groups]
  refine ⟨fun owner => exists_congr (owners owner),?_⟩
  intro family key owner
  apply entry_congr (owners owner)
  intro id _
  apply entryAt_congr
  simp only [Tables.direct,groups.direct]

theorem owners_user_iff : db.tables.grantMap.owners .user owner ↔
    db.tables.usersNamed owner ≠ [] := by
  constructor
  · intro known
    obtain ⟨id,known⟩ := known
    obtain ⟨user,only,_⟩ := ownerId_user.mp known
    simp [only]
  · intro named
    rcases usersNamed_unique db owner with absent | ⟨user,only⟩
    · exact absurd absent named
    · exact ⟨user.id,ownerId_user.mpr ⟨user,only,rfl⟩⟩

/-- Where groups and every account are the same, so is the map. -/
theorem same_map (groups : SameGroupTables t t')
    (accounts : ∀ owner, SameAccount t t' owner) : t'.grantMap = t.grantMap := by
  obtain ⟨owners,entries⟩ := groups_same groups
  apply GrantMap.ext_entries
  · intro holder owner
    cases holder with
    | user => exact exists_congr (owners_of_account (accounts owner))
    | group => exact owners owner
  · intro holder family key owner
    cases holder with
    | user => exact entry_of_account (accounts owner)
    | group => exact entries family key owner

theorem createUser_map {username displayName passwordHash : String}
    {isAdmin isServiceAccount : Bool} {db' : Database} (written : db'.tables =
      db.tables.createUser username displayName passwordHash isAdmin isServiceAccount) :
    db'.tables.grantMap = db.tables.grantMap.addOwners .user [username] := by
  have integrity := db'.integrity
  rw [written] at integrity
  obtain ⟨unused,user,only,rows⟩ := createUser_new integrity
  have groups : SameGroupTables db.tables db'.tables := by
    rw [written]
    exact createUser_groups
  have others : ∀ owner, owner ≠ username → SameAccount db.tables db'.tables owner := by
    intro owner other
    rw [written]
    exact createUser_others other
  rw [← written] at only
  obtain ⟨owners,entries⟩ := groups_same groups
  apply GrantMap.ext_entries
  · intro holder owner
    cases holder with
    | group => simpa [GrantMap.addOwners] using owners owner
    | user =>
      by_cases same : owner = username
      · subst same
        have known : db'.tables.grantMap.owners .user owner := ⟨_,ownerId_user.mpr ⟨user,only,rfl⟩⟩
        simp [GrantMap.addOwners,known]
      · have kept : db'.tables.grantMap.owners .user owner ↔ db.tables.grantMap.owners .user owner :=
          exists_congr (owners_of_account (others owner same))
        simpa [GrantMap.addOwners,same] using kept
  · intro holder family key owner
    cases holder with
    | group => exact entries family key owner
    | user =>
      by_cases same : owner = username
      · subst same
        have before : db.tables.grantMap.entry (.user,family,key,owner) = none :=
          entry_unknown (fun known => owners_user_iff.mp known unused)
        change _ = db.tables.grantMap.entry (.user,family,key,owner)
        rw [before,entry_known (ownerId_user.mpr ⟨user,only,rfl⟩),entryAt_none]
        -- The id of a new user is fresh, so no row can have it.
        have none_owned := rows.direct family
        rw [List.filter_eq_nil_iff] at none_owned
        simp only [Tables.ownedRows,List.filter_eq_nil_iff,decide_eq_true_eq]
        intro row stored matched
        rw [written] at stored
        exact none_owned row stored (decide_eq_true matched.2)
      · exact entry_of_account (others owner same)

theorem deleteUser_map {username : String} {db' : Database}
    (ran : Tables.deleteUser username db.tables = .ok db'.tables) :
    db'.tables.grantMap = db.tables.grantMap.removeUser username := by
  obtain ⟨owners,entries⟩ := groups_same (deleteUser_groups ran)
  have gone : ¬ db'.tables.grantMap.owners .user username :=
    fun known => owners_user_iff.mp known (deleteUser_gone ran)
  apply GrantMap.ext_entries
  · intro holder owner
    cases holder with
    | group => simpa [GrantMap.removeUser] using owners owner
    | user =>
      by_cases same : owner = username
      · subst same
        simpa [GrantMap.removeUser] using gone
      · have kept : db'.tables.grantMap.owners .user owner ↔ db.tables.grantMap.owners .user owner :=
          exists_congr (owners_of_account (deleteUser_others ran same))
        simpa [GrantMap.removeUser,same] using kept
  · intro holder family key owner
    cases holder with
    | group => simpa [GrantMap.removeUser] using entries family key owner
    | user =>
      by_cases same : owner = username
      · subst same
        simpa [GrantMap.removeUser] using entry_unknown gone
      · simpa [GrantMap.removeUser,same] using entry_of_account (deleteUser_others ran same)

theorem renameUser_map {oldUsername newUsername : String} {db' : Database}
    (ran : Tables.changeUser (fun user => { user with username := newUsername }) oldUsername
      db.tables = .ok db'.tables) :
    db'.tables.grantMap = db.tables.grantMap.renameOwner oldUsername newUsername := by
  obtain ⟨owners,entries⟩ := groups_same (changeUser_groups ran)
  obtain ⟨found,known,written⟩ := changeUser_ok ran
  have knownOld : db.tables.ownerId .user oldUsername = .ok found.id :=
    ownerId_user.mpr ⟨found,known,rfl⟩
  -- The account keeps its id, and so its rows, under the new name.
  have knownNew : db'.tables.ownerId .user newUsername = .ok found.id := by
    obtain ⟨listed,_⟩ := mem_of_usersNamed known
    have renamed : ({ found with username := newUsername } : SqlUser) ∈ db'.tables.users := by
      rw [written]
      exact List.mem_map.mpr ⟨found,listed,by simp⟩
    have member : ({ found with username := newUsername } : SqlUser) ∈
        db'.tables.usersNamed newUsername := List.mem_filter.mpr ⟨renamed,by simp⟩
    rcases usersNamed_unique db' newUsername with none_named | ⟨only,single⟩
    · rw [none_named] at member
      cases member
    · rw [single,List.mem_singleton] at member
      exact ownerId_user.mpr ⟨only,single,by rw [← member]⟩
  have rows : ∀ family, db'.tables.direct .user family = db.tables.direct .user family := by
    intro family
    rw [written]
    rfl
  have gone : oldUsername ≠ newUsername → ¬ db'.tables.grantMap.owners .user oldUsername :=
    fun distinct named => owners_user_iff.mp named (renameUser_old ran distinct)
  apply GrantMap.ext_entries
  · intro holder owner
    cases holder with
    | group => exact owners owner
    | user =>
      simp only [GrantMap.renameOwner]
      by_cases isNew : owner = newUsername
      · subst isNew
        have named : db'.tables.grantMap.owners .user owner := ⟨found.id,knownNew⟩
        simp [named]
      · by_cases isOld : owner = oldUsername
        · subst isOld
          simpa [isNew] using gone isNew
        · have kept : db'.tables.grantMap.owners .user owner ↔
              db.tables.grantMap.owners .user owner :=
            exists_congr (owners_of_account (renameUser_others ran isOld isNew))
          simpa [isNew,isOld] using kept
  · intro holder family key owner
    cases holder with
    | group => exact entries family key owner
    | user =>
      simp only [GrantMap.renameOwner]
      by_cases isNew : owner = newUsername
      · subst isNew
        rw [if_pos rfl,entry_known knownNew,entry_known knownOld]
        apply entryAt_congr
        rw [rows]
      · rw [if_neg isNew]
        by_cases isOld : owner = oldUsername
        · subst isOld
          rw [if_pos rfl,entry_unknown (gone isNew)]
        · rw [if_neg isOld,entry_of_account (renameUser_others ran isOld isNew)]

theorem createGroups_names (groupNames : List String) (t : Tables) :
    ∀ group ∈ (t.createGroups groupNames).groups, group ∈ t.groups ∨ group.groupName ∈ groupNames := by
  have folded : ∀ names : List String, ∀ t : Tables, ∀ group ∈ (names.foldl Tables.createGroup t).groups,
      group ∈ t.groups ∨ group.groupName ∈ names := by
    intro names
    induction names with
    | nil => exact fun _ _ member => .inl member
    | cons first rest ih =>
      intro t group member
      rcases ih (t.createGroup first) group member with created | later
      · unfold Tables.createGroup at created
        split at created
        · rcases List.mem_append.mp created with earlier | last
          · exact .inl earlier
          · rw [List.mem_singleton.mp last]
            exact .inr List.mem_cons_self
        · exact .inl created
      · exact .inr (List.mem_cons_of_mem _ later)
  intro group member
  rcases folded groupNames.eraseDups t group member with earlier | named
  · exact .inl earlier
  · exact .inr (List.mem_eraseDups.mp named)

theorem createGroups_map {groupNames : List String} {db' : Database}
    (written : db'.tables = db.tables.createGroups groupNames) :
    db'.tables.grantMap = db.tables.grantMap.addOwners .group groupNames := by
  obtain ⟨added,tables,fresh⟩ := createGroups_added groupNames db.tables
  have created := (createGroups_known groupNames db).2
  have named := createGroups_names groupNames db.tables
  rw [← written] at tables created named
  have users : ∀ owner id, db'.tables.ownerId .user owner = .ok id ↔
      db.tables.ownerId .user owner = .ok id := by
    intro owner id
    rw [ownerId_user,ownerId_user,tables]
    rfl
  -- A known group keeps its id: those added have other names.
  have kept : ∀ owner id, db.tables.ownerId .group owner = .ok id →
      db'.tables.ownerId .group owner = .ok id := by
    intro owner id known
    obtain ⟨group,only,same⟩ := ownerId_group.mp known
    obtain ⟨listed,isNamed⟩ := mem_of_getGroup (one_eq_ok.mpr only)
    have member : group ∈ db'.tables.groups := by
      rw [tables]
      exact List.mem_append_left _ listed
    exact ownerId_group.mpr ⟨group,isNamed ▸ groupsNamed_of_member db' member,same⟩
  apply GrantMap.ext_entries
  · intro holder owner
    cases holder with
    | user =>
      have same : db'.tables.grantMap.owners .user owner ↔ db.tables.grantMap.owners .user owner :=
        exists_congr (users owner)
      simpa [GrantMap.addOwners] using same
    | group =>
      simp only [GrantMap.addOwners,true_and]
      constructor
      · intro known
        obtain ⟨id,known⟩ := known
        obtain ⟨group,only,_⟩ := ownerId_group.mp known
        obtain ⟨listed,rfl⟩ := mem_of_getGroup (one_eq_ok.mpr only)
        rcases named group listed with earlier | asked
        · exact .inl ⟨group.id,ownerId_group.mpr ⟨group,groupsNamed_of_member db earlier,rfl⟩⟩
        · exact .inr asked
      · intro either
        rcases either with ⟨id,known⟩ | asked
        · exact ⟨id,kept owner id known⟩
        · obtain ⟨group,listed,rfl⟩ := created owner asked
          exact ⟨group.id,ownerId_group.mpr ⟨group,groupsNamed_of_member db' listed,rfl⟩⟩
  · intro holder family key owner
    change _ = db.tables.grantMap.entry (holder,family,key,owner)
    cases holder with
    | user =>
      apply entry_congr (users owner)
      intro id _
      apply entryAt_congr
      rw [tables]
      rfl
    | group =>
      have rows : db'.tables.groupPermissions = db.tables.groupPermissions := by
        rw [tables]
      by_cases known : ∃ id, db.tables.ownerId .group owner = .ok id
      · obtain ⟨id,known⟩ := known
        rw [entry_known known,entry_known (kept owner id known)]
        apply entryAt_congr
        simp only [Tables.direct,rows]
      · rw [entry_unknown known]
        by_cases known' : ∃ id, db'.tables.ownerId .group owner = .ok id
        · obtain ⟨id,known'⟩ := known'
          rw [entry_known known',entryAt_none]
          obtain ⟨group,only,rfl⟩ := ownerId_group.mp known'
          obtain ⟨listed,rfl⟩ := mem_of_getGroup (one_eq_ok.mpr only)
          simp only [Tables.ownedRows,List.filter_eq_nil_iff,decide_eq_true_eq,Tables.direct,rows]
          intro row stored matched
          -- A row of the group would have been a row of an unknown group before.
          have owned := (db.integrity.groupPermissions family).1.2.2 row stored
          rw [tables] at listed
          rcases List.mem_append.mp listed with earlier | isNew
          · exact known ⟨group.id,ownerId_group.mpr ⟨group,groupsNamed_of_member db earlier,rfl⟩⟩
          · exact (fresh group isNew).1 (matched.2 ▸ owned)
        · exact entry_unknown known'

end Accounts

end MlflowOidcAuth
