import MlflowOidcAuth.Library.Effects
import MlflowOidcAuth.Library.PriorityOrder
import MlflowOidcAuth.Resolution.RegexErrors

/-! The workspace regex search: the lowest priority that matches, and in it the row
whose permission has the highest number, which is the most permissive one unless it
is NO_PERMISSIONS. -/
namespace MlflowOidcAuth
open PriorityOrder Effects

/-- Whatever the other permission allows, this one allows. -/
def Permission.Covers (permission other : Permission) : Prop :=
  (other.canRead → permission.canRead) ∧ (other.canUse → permission.canUse) ∧
    (other.canUpdate → permission.canUpdate) ∧ (other.canDelete → permission.canDelete) ∧
    (other.canManage → permission.canManage)

instance (permission other : Permission) : Decidable (permission.Covers other) :=
  inferInstanceAs (Decidable (_ ∧ _ ∧ _ ∧ _ ∧ _))

theorem covers_of_priority {permission other : Permission} (known : permission ∈ allPermissions)
    (known' : other ∈ allPermissions) (below : other.priority ≤ permission.priority)
    (plain : permission = .noPermissions → other = .noPermissions) : permission.Covers other := by
  have ordered : ∀ a ∈ allPermissions, ∀ b ∈ allPermissions, b.priority ≤ a.priority →
      (a = .noPermissions → b = .noPermissions) → a.Covers b := by decide
  exact ordered permission known other known' below plain

theorem noPermissions_covers {other : Permission} (known : other ∈ allPermissions)
    (covers : Permission.noPermissions.Covers other) : other = .noPermissions := by
  have only : ∀ a ∈ allPermissions, Permission.noPermissions.Covers a → a = .noPermissions := by
    decide
  exact only other known covers

theorem noPermissions_highest {permission : Permission} (known : permission ∈ allPermissions)
    (above : Permission.noPermissions.priority ≤ permission.priority) :
    permission = .noPermissions := by
  have only : ∀ a ∈ allPermissions, Permission.noPermissions.priority ≤ a.priority →
      a = .noPermissions := by decide
  exact only permission known above

theorem getPermission_noPermissions {permission : String} :
    getPermission permission = .ok .noPermissions ↔ permission = "NO_PERMISSIONS" := by
  constructor
  · intro got
    exact (getPermission_name got).symm
  · rintro rfl
    decide

def MatchesName (engine : RegexEngine) (name : String) (row : SqlRegexPermission) : Prop :=
  reMatch engine row.regex name = .ok true

instance (engine : RegexEngine) (name : String) : DecidablePred (MatchesName engine name) :=
  fun _ => inferInstanceAs (Decidable (_ = _))

/-- What a row that matches says of a name. -/
def matchReport (engine : RegexEngine) (name : String) (row : SqlRegexPermission) :
    Option String :=
  if MatchesName engine name row then some row.permission else none

/-- A matching row of the lowest priority at which one matches. -/
def InTier (engine : RegexEngine) (name : String) (rows : List SqlRegexPermission)
    (row : SqlRegexPermission) : Prop :=
  Leading SqlRegexPermission.priority (matchReport engine name) rows row

abbrev SortedRows (rows : List SqlRegexPermission) : Prop :=
  rows.Pairwise (fun first second => first.priority ≤ second.priority)

section Tier
variable {engine : RegexEngine} {workspace : String} {rows : List SqlRegexPermission}
  {row other : SqlRegexPermission} {best found : Permission} {priority : Int}

theorem matchReport_isSome : (matchReport engine workspace row).isSome ↔
    MatchesName engine workspace row := by
  unfold matchReport
  split <;> simp_all

theorem inTier_iff : InTier engine workspace rows row ↔
    row ∈ rows ∧ MatchesName engine workspace row ∧
      ∀ other ∈ rows, MatchesName engine workspace other → row.priority ≤ other.priority := by
  simp only [InTier,Leading,matchReport_isSome]

theorem exists_inTier (sorted : SortedRows rows) (member : row ∈ rows)
    (hit : MatchesName engine workspace row) : ∃ leading, InTier engine workspace rows leading := by
  cases search : rows.findSome? (matchReport engine workspace) with
  | none =>
    have silent := List.findSome?_eq_none_iff.mp search row member
    simp [matchReport,hit] at silent
  | some permission =>
    obtain ⟨leading,leads,_⟩ := leading_of_findSome? sorted search
    exact ⟨leading,leads⟩

theorem compiles_of_reMatch {pattern name : String} {hit : Bool}
    (matched : reMatch engine pattern name = .ok hit) : Compiles engine pattern := by
  unfold reMatch at matched
  split at matched
  · cases matched
  · next warnings compiled => exact ⟨warnings,compiled⟩

/-- The rows of a tier that a search which has already found one still reads. -/
structure TierRead (engine : RegexEngine) (workspace : String) (priority : Int)
    (rows : List SqlRegexPermission) : Prop where
  compiles : ∀ row ∈ rows, row.priority ≤ priority → Compiles engine row.regex
  known : ∀ row ∈ rows, row.priority ≤ priority → MatchesName engine workspace row →
    ∃ permission, getPermission row.permission = .ok permission

theorem tierRead_cons : TierRead engine workspace priority (row :: rows) ↔
    (row.priority ≤ priority → Compiles engine row.regex ∧ (MatchesName engine workspace row →
      ∃ permission, getPermission row.permission = .ok permission)) ∧
    TierRead engine workspace priority rows := by
  constructor
  · intro read
    exact ⟨fun low => ⟨read.compiles row List.mem_cons_self low,
        read.known row List.mem_cons_self low⟩,
      ⟨fun other member => read.compiles other (List.mem_cons_of_mem _ member),
        fun other member => read.known other (List.mem_cons_of_mem _ member)⟩⟩
  · intro ⟨head,rest⟩
    constructor
    · intro other member low
      rcases List.mem_cons.mp member with rfl | later
      · exact (head low).1
      · exact rest.compiles other later low
    · intro other member low
      rcases List.mem_cons.mp member with rfl | later
      · exact (head low).2
      · exact rest.known other later low

theorem tierRead_of_above (above : ∀ row ∈ rows, priority < row.priority) :
    TierRead engine workspace priority rows :=
  ⟨fun row member low => absurd (above row member) (not_lt.mpr low),
    fun row member low => absurd (above row member) (not_lt.mpr low)⟩

theorem TierRead.miss (read : TierRead engine workspace priority rows)
    (missed : reMatch engine row.regex workspace = .ok false) :
    TierRead engine workspace priority (row :: rows) := by
  have miss : ¬MatchesName engine workspace row := by simp [MatchesName,missed]
  exact tierRead_cons.mpr
    ⟨fun _ => ⟨compiles_of_reMatch missed,fun hit => absurd hit miss⟩,read⟩

theorem TierRead.hit {permission : Permission} (read : TierRead engine workspace priority rows)
    (matched : reMatch engine row.regex workspace = .ok true)
    (got : getPermission row.permission = .ok permission) :
    TierRead engine workspace priority (row :: rows) :=
  tierRead_cons.mpr ⟨fun _ => ⟨compiles_of_reMatch matched,fun _ => ⟨permission,got⟩⟩,read⟩

/-- What the search holds when it ends: the best of what it had and of the rest of the tier. -/
structure TierBest (engine : RegexEngine) (workspace : String) (best : Permission) (priority : Int)
    (rows : List SqlRegexPermission) (found : Permission) : Prop where
  origin : found = best ∨ ∃ row ∈ rows, row.priority ≤ priority ∧
    MatchesName engine workspace row ∧ getPermission row.permission = .ok found
  seed : best.priority ≤ found.priority
  highest : ∀ row ∈ rows, row.priority ≤ priority → MatchesName engine workspace row →
    ∀ permission, getPermission row.permission = .ok permission →
      permission.priority ≤ found.priority

theorem tierBest_of_above (above : ∀ row ∈ rows, priority < row.priority) :
    TierBest engine workspace best priority rows best :=
  ⟨.inl rfl,le_rfl,fun row member low => absurd (above row member) (not_lt.mpr low)⟩

theorem TierBest.silent (rest : TierBest engine workspace best priority rows found)
    (miss : ¬MatchesName engine workspace row) :
    TierBest engine workspace best priority (row :: rows) found := by
  refine ⟨?_,rest.seed,?_⟩
  · rcases rest.origin with same | ⟨other,member,low,hit,got⟩
    · exact .inl same
    · exact .inr ⟨other,List.mem_cons_of_mem _ member,low,hit,got⟩
  · intro other member low hit
    rcases List.mem_cons.mp member with rfl | later
    · exact absurd hit miss
    · exact rest.highest other later low hit

theorem TierBest.hit {permission : Permission} (low : row.priority ≤ priority)
    (matched : MatchesName engine workspace row)
    (got : getPermission row.permission = .ok permission)
    (rest : TierBest engine workspace
      (if best.priority < permission.priority then permission else best) priority rows found) :
    TierBest engine workspace best priority (row :: rows) found := by
  have seeded : best.priority ≤ found.priority ∧ permission.priority ≤ found.priority := by
    have kept := rest.seed
    split at kept <;> omega
  refine ⟨?_,seeded.1,?_⟩
  · rcases rest.origin with same | ⟨other,member,low',hit,got'⟩
    · split at same
      · exact .inr ⟨row,List.mem_cons_self,low,matched,same ▸ got⟩
      · exact .inl same
    · exact .inr ⟨other,List.mem_cons_of_mem _ member,low',hit,got'⟩
  · intro other member low' hit granted got'
    rcases List.mem_cons.mp member with rfl | later
    · rw [got] at got'
      cases got'
      exact seeded.2
    · exact rest.highest other later low' hit granted got'

/-- One row of the tier, as the loop takes it. -/
theorem matchWorkspace_step (low : row.priority ≤ priority) :
    matchWorkspaceRegexPermission engine workspace (some (best,priority)) (row :: rows) = (do
      if ← reMatch engine row.regex workspace then
        let permission ← getPermission row.permission
        matchWorkspaceRegexPermission engine workspace
          (some ((if best.priority < permission.priority then permission else best),priority)) rows
      else
        matchWorkspaceRegexPermission engine workspace (some (best,priority)) rows) := by
  simp only [matchWorkspaceRegexPermission,if_neg (not_lt.mpr low)]
  cases reMatch engine row.regex workspace with
  | error failure => rfl
  | ok hit =>
    cases hit with
    | false => rfl
    | true =>
      simp only [bind,Except.bind,if_true]
      cases getPermission row.permission with
      | error failure => rfl
      | ok permission =>
        simp only
        split <;> rfl

/-- A search that ended has got past the row: it did not match, or it matched and its
permission is known. -/
theorem row_of_ok {go : Permission → Except Failure (Option Permission)}
    {skip : Except Failure (Option Permission)} {result : Option Permission}
    (ended : (do
      if ← reMatch engine row.regex workspace then
        let permission ← getPermission row.permission
        go permission
      else skip) = .ok result) :
    (reMatch engine row.regex workspace = .ok false ∧ skip = .ok result) ∨
      ∃ permission, reMatch engine row.regex workspace = .ok true ∧
        getPermission row.permission = .ok permission ∧ go permission = .ok result := by
  obtain ⟨hit,matched,rest⟩ := bind_ok ended
  cases hit with
  | false => exact .inl ⟨matched,rest⟩
  | true =>
    obtain ⟨permission,got,went⟩ := bind_ok rest
    exact .inr ⟨permission,matched,got,went⟩

theorem seeded_of_ok (sorted : SortedRows rows) {result : Option Permission}
    (ended : matchWorkspaceRegexPermission engine workspace (some (best,priority)) rows =
      .ok result) :
    ∃ found, result = some found ∧ TierRead engine workspace priority rows ∧
      TierBest engine workspace best priority rows found := by
  induction rows generalizing best with
  | nil =>
    cases ended
    exact ⟨best,rfl,tierRead_of_above (by simp),tierBest_of_above (by simp)⟩
  | cons row rest ih =>
    obtain ⟨first,sortedRest⟩ := List.pairwise_cons.mp sorted
    by_cases low : row.priority ≤ priority
    · rw [matchWorkspace_step low] at ended
      rcases row_of_ok ended with ⟨missed,skipped⟩ | ⟨permission,matched,got,went⟩
      · obtain ⟨found,same,read,highest⟩ := ih sortedRest skipped
        exact ⟨found,same,read.miss missed,highest.silent (by simp [MatchesName,missed])⟩
      · obtain ⟨found,same,read,highest⟩ := ih sortedRest went
        exact ⟨found,same,read.hit matched got,highest.hit low matched got⟩
    · simp only [matchWorkspaceRegexPermission,if_pos (not_le.mp low)] at ended
      cases ended
      have above : ∀ other ∈ row :: rest, priority < other.priority := by
        intro other member
        rcases List.mem_cons.mp member with rfl | later
        · exact not_le.mp low
        · exact (not_le.mp low).trans_le (first other later)
      exact ⟨best,rfl,tierRead_of_above above,tierBest_of_above above⟩

theorem seeded_completes (read : TierRead engine workspace priority rows) :
    ∃ found, matchWorkspaceRegexPermission engine workspace (some (best,priority)) rows =
      .ok (some found) := by
  induction rows generalizing best with
  | nil => exact ⟨best,rfl⟩
  | cons row rest ih =>
    obtain ⟨head,readRest⟩ := tierRead_cons.mp read
    by_cases low : row.priority ≤ priority
    · rw [matchWorkspace_step low,reMatch_of_compiles (head low).1]
      cases hit : engine.matchesStart row.regex workspace with
      | false => exact ih readRest
      | true =>
        have matched : MatchesName engine workspace row := by
          rw [MatchesName,reMatch_of_compiles (head low).1,hit]
        obtain ⟨permission,got⟩ := (head low).2 matched
        simp only [bind,Except.bind,if_true,got]
        exact ih readRest
    · exact ⟨best,by simp only [matchWorkspaceRegexPermission,if_pos (not_le.mp low)]⟩

theorem inTier_head (sorted : SortedRows (row :: rows)) (hit : MatchesName engine workspace row) :
    InTier engine workspace (row :: rows) row :=
  leading_head sorted (matchReport_isSome.mpr hit)

theorem inTier_cons_silent (miss : ¬MatchesName engine workspace row) :
    InTier engine workspace (row :: rows) other ↔ InTier engine workspace rows other :=
  leading_cons_silent (by simp [matchReport,miss])

/-- Behind a first row that matched, what the search ends with is a row of the tier and the
highest of it. -/
theorem TierBest.leads {permission : Permission} (sorted : SortedRows (row :: rows))
    (matched : MatchesName engine workspace row)
    (got : getPermission row.permission = .ok permission)
    (best : TierBest engine workspace permission row.priority rows found) :
    (∃ leading, InTier engine workspace (row :: rows) leading ∧
      getPermission leading.permission = .ok found ∧ leading.priority = row.priority) ∧
    ∀ other, InTier engine workspace (row :: rows) other → ∀ granted,
      getPermission other.permission = .ok granted → granted.priority ≤ found.priority := by
  have head := inTier_head sorted matched
  constructor
  · rcases best.origin with rfl | ⟨other,member,low,hit,got'⟩
    · exact ⟨row,head,got,rfl⟩
    · have same : other.priority = row.priority :=
        le_antisymm low ((List.pairwise_cons.mp sorted).1 other member)
      refine ⟨other,inTier_iff.mpr ⟨List.mem_cons_of_mem _ member,hit,?_⟩,got',same⟩
      intro third member' hit'
      exact low.trans ((inTier_iff.mp head).2.2 third member' hit')
  · intro other inTier granted got'
    obtain ⟨member,hit,lowest⟩ := inTier_iff.mp inTier
    have low := lowest row List.mem_cons_self matched
    rcases List.mem_cons.mp member with rfl | later
    · rw [got] at got'
      cases got'
      exact best.seed
    · exact best.highest other later low hit granted got'

theorem search_of_ok (sorted : SortedRows rows)
    (ended : matchWorkspaceRegexPermission engine workspace none rows = .ok (some found)) :
    ∃ row, InTier engine workspace rows row ∧ getPermission row.permission = .ok found ∧
      TierRead engine workspace row.priority rows ∧
      ∀ other, InTier engine workspace rows other → ∀ permission,
        getPermission other.permission = .ok permission → permission.priority ≤ found.priority := by
  induction rows with
  | nil => cases ended
  | cons row rest ih =>
    have sortedRest := (List.pairwise_cons.mp sorted).2
    rcases row_of_ok ended with ⟨missed,skipped⟩ | ⟨permission,matched,got,went⟩
    · have miss : ¬MatchesName engine workspace row := by simp [MatchesName,missed]
      obtain ⟨leading,leads,got,read,highest⟩ := ih sortedRest skipped
      refine ⟨leading,(inTier_cons_silent miss).mpr leads,got,read.miss missed,?_⟩
      intro other inTier
      exact highest other ((inTier_cons_silent miss).mp inTier)
    · obtain ⟨_,same,read,best⟩ := seeded_of_ok sortedRest went
      cases same
      obtain ⟨⟨leading,leads,got',samePriority⟩,highest⟩ := best.leads sorted matched got
      exact ⟨leading,leads,got',samePriority ▸ read.hit matched got,highest⟩

theorem search_completes (sorted : SortedRows rows) (inTier : InTier engine workspace rows row)
    (read : TierRead engine workspace row.priority rows) :
    ∃ found, matchWorkspaceRegexPermission engine workspace none rows = .ok (some found) := by
  induction rows with
  | nil => cases inTier.1
  | cons head rest ih =>
    obtain ⟨first,sortedRest⟩ := List.pairwise_cons.mp sorted
    obtain ⟨headRead,restRead⟩ := tierRead_cons.mp read
    have below : head.priority ≤ row.priority := by
      rcases List.mem_cons.mp inTier.1 with rfl | later
      · exact le_rfl
      · exact first row later
    have compiles := (headRead below).1
    simp only [matchWorkspaceRegexPermission,reMatch_of_compiles compiles]
    cases hit : engine.matchesStart head.regex workspace with
    | false =>
      have miss : ¬MatchesName engine workspace head := by
        simp [MatchesName,reMatch_of_compiles compiles,hit]
      exact ih sortedRest ((inTier_cons_silent miss).mp inTier) restRead
    | true =>
      have matched : MatchesName engine workspace head := by
        rw [MatchesName,reMatch_of_compiles compiles,hit]
      have same : row.priority = head.priority :=
        le_antisymm ((inTier_iff.mp inTier).2.2 head List.mem_cons_self matched) below
      obtain ⟨permission,got⟩ := (headRead below).2 matched
      simp only [bind,Except.bind,if_true,got]
      exact seeded_completes (same ▸ restRead)

end Tier

/-- The rows come sorted from both listings the search is given. -/
theorem workspaceListings_sorted (t : Tables) (username : String) (groupIds : List Nat) :
    (∀ rows, t.listWorkspaceRegexPermissions username = .ok rows → SortedRows rows) ∧
      SortedRows (t.listWorkspaceGroupRegexPermissionsForGroupsIds groupIds) := by
  refine ⟨?_,List.pairwise_insertionSort _ _⟩
  intro rows listed
  obtain ⟨user,_,read⟩ := bind_ok listed
  cases read
  exact List.pairwise_insertionSort _ _

section Promise
variable {engine : RegexEngine} {workspace : String} {rows : List SqlRegexPermission}

/-- A permission is found exactly where a row matches; it is that of a row of the tier,
and it allows whatever a row of the tier allows. -/
structure PicksMostPermissive (engine : RegexEngine) (workspace : String)
    (rows : List SqlRegexPermission) : Prop where
  found_iff : (∃ permission,
    matchWorkspaceRegexPermission engine workspace none rows = .ok (some permission)) ↔
      ∃ row ∈ rows, MatchesName engine workspace row
  best : ∀ permission,
    matchWorkspaceRegexPermission engine workspace none rows = .ok (some permission) →
      (∃ row, InTier engine workspace rows row ∧ getPermission row.permission = .ok permission) ∧
      ∀ row, InTier engine workspace rows row → ∀ granted,
        getPermission row.permission = .ok granted → permission.Covers granted

/-- The rows up to a tier row's priority compile, the permissions of the tier are known,
and where one of them is NO_PERMISSIONS all of them are. -/
def TierUniform (engine : RegexEngine) (workspace : String) (rows : List SqlRegexPermission) :
    Prop :=
  ∀ row, InTier engine workspace rows row →
    TierRead engine workspace row.priority rows ∧ (row.permission = "NO_PERMISSIONS" →
      ∀ other, InTier engine workspace rows other → other.permission = "NO_PERMISSIONS")

theorem tierUniform_of_picks (sorted : SortedRows rows)
    (picks : PicksMostPermissive engine workspace rows) : TierUniform engine workspace rows := by
  intro row inTier
  obtain ⟨member,hit,lowest⟩ := inTier_iff.mp inTier
  obtain ⟨found,ended⟩ := picks.found_iff.mpr ⟨row,member,hit⟩
  obtain ⟨leading,leads,got,read,highest⟩ := search_of_ok sorted ended
  obtain ⟨member',hit',lowest'⟩ := inTier_iff.mp leads
  have same : leading.priority = row.priority :=
    le_antisymm (lowest' row member hit) (lowest leading member' hit')
  refine ⟨same ▸ read,?_⟩
  intro denies other inTier'
  have denial : found = .noPermissions := by
    apply noPermissions_highest (getPermission_eq_ok.mp got).1
    exact highest row inTier _ (getPermission_noPermissions.mpr denies)
  obtain ⟨member'',hit'',lowest''⟩ := inTier_iff.mp inTier'
  obtain ⟨granted,got'⟩ := read.known other member'' (lowest'' leading member' hit') hit''
  have covered := (picks.best found ended).2 other inTier' granted got'
  rw [denial] at covered
  rw [noPermissions_covers (getPermission_eq_ok.mp got').1 covered] at got'
  exact getPermission_noPermissions.mp got'

theorem picks_of_tierUniform (sorted : SortedRows rows)
    (uniform : TierUniform engine workspace rows) : PicksMostPermissive engine workspace rows := by
  refine ⟨⟨?_,?_⟩,?_⟩
  · intro ⟨found,ended⟩
    obtain ⟨row,inTier,_⟩ := search_of_ok sorted ended
    obtain ⟨member,hit,_⟩ := inTier_iff.mp inTier
    exact ⟨row,member,hit⟩
  · intro ⟨row,member,hit⟩
    obtain ⟨leading,inTier⟩ := exists_inTier sorted member hit
    exact search_completes sorted inTier (uniform leading inTier).1
  · intro found ended
    obtain ⟨row,inTier,got,_,highest⟩ := search_of_ok sorted ended
    refine ⟨⟨row,inTier,got⟩,?_⟩
    intro other inTier' granted got'
    apply covers_of_priority (getPermission_eq_ok.mp got).1 (getPermission_eq_ok.mp got').1
      (highest other inTier' granted got')
    rintro rfl
    have denied := (uniform row inTier).2 (getPermission_noPermissions.mp got) other inTier'
    rw [getPermission_noPermissions.mpr denied] at got'
    cases got'
    rfl

/-- The search keeps its promise exactly where the tier is uniform. -/
theorem picksMostPermissive_iff (engine : RegexEngine) (workspace : String)
    (rows : List SqlRegexPermission) (sorted : SortedRows rows) :
    PicksMostPermissive engine workspace rows ↔ TierUniform engine workspace rows :=
  ⟨tierUniform_of_picks sorted,picks_of_tierUniform sorted⟩

def prodManager : SqlRegexPermission := ⟨1,"prod",10,1,"MANAGE",false⟩

def prodReader : SqlRegexPermission := ⟨2,"prod-",10,1,"READ",false⟩

def prodDenied : SqlRegexPermission := ⟨3,"prod-",10,1,"NO_PERMISSIONS",false⟩

theorem picks_prodManager :
    PicksMostPermissive .literal "prod-workspace" [prodReader,prodManager] := by
  apply (picksMostPermissive_iff _ _ _ (by decide)).mpr
  have plain : ∀ row ∈ [prodReader,prodManager], row.permission ≠ "NO_PERMISSIONS" ∧
      ∃ permission, getPermission row.permission = .ok permission := by
    simp only [List.forall_mem_cons]
    exact ⟨⟨by decide,_,rfl⟩,⟨by decide,_,rfl⟩,fun _ member => absurd member List.not_mem_nil⟩
  intro row inTier
  refine ⟨⟨fun _ _ _ => ⟨[],rfl⟩,fun other member _ _ => (plain other member).2⟩,?_⟩
  intro denies
  exact absurd denies (plain row inTier.1).1

theorem denied_over_manager : ¬ ∀ (engine : RegexEngine) (workspace : String)
    (rows : List SqlRegexPermission), SortedRows rows →
      PicksMostPermissive engine workspace rows := by
  intro law
  have picks := law .literal "prod-workspace" [prodManager,prodDenied] (by decide)
  have denied : matchWorkspaceRegexPermission .literal "prod-workspace" none
      [prodManager,prodDenied] = .ok (some .noPermissions) := by decide
  have inTier : InTier .literal "prod-workspace" [prodManager,prodDenied] prodManager :=
    inTier_head (by decide) (by decide)
  have covers := (picks.best _ denied).2 prodManager inTier .manage (by decide)
  exact absurd covers (by decide)

end Promise

end MlflowOidcAuth
