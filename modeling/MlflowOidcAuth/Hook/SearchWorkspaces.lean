import MlflowOidcAuth.Hook.LoggedPages

/-! Which items of locked workspaces the search filters show: those whose lookup raised, which
is taken for having no workspace. -/
namespace MlflowOidcAuth
open KeyedCache Loop Paging

inductive ListSearch
  | offset (search : OffsetSearch)
  | loggedModels
deriving DecidableEq, Repr

namespace ListSearch
variable {Body : Type} (search : ListSearch) (viewer : Viewer) (store : SearchStore Body)

def canRead : String → Bool :=
  match search with
  | offset search => search.canRead viewer
  | loggedModels => viewer.canReadExperiment

def filter [DecidableEq Body] (tokens : PageTokens) (maxResults fuel : Nat)
    (response : SearchResponse Body) : Except Stop (SearchResponse Body) :=
  match search with
  | offset search => search.filter viewer store tokens maxResults fuel response
  | loggedModels => filterSearchLoggedModels viewer store tokens maxResults fuel response

def keepsEntity (entity : Entity Body) : Except Failure Bool :=
  match search with
  | offset search => search.keepsEntity viewer entity
  | loggedModels => .ok (keepsLogged viewer store entity.item)

end ListSearch

/-- The item's workspace has a name and the user may not read it. -/
def Locked (viewer : Viewer) (home : String → Option String) (name : String) : Prop :=
  ∃ workspace, home name = some workspace ∧ workspace ≠ "" ∧
    ∀ perm, viewer.getWorkspacePermissionCached workspace = some perm → perm.canRead = false

/-- Where MLflow says what the workspace of an item is, it says the truth. -/
structure HomesTold {Body : Type} (store : SearchStore Body) (backing : List (Entity Body))
    (home : String → Option String) : Prop where
  lookups : ∀ name workspace, store.getWorkspace name = .ok workspace → workspace = home name
  carried : ∀ entity ∈ backing, ∀ workspace, entity.workspace = some workspace →
    workspace = home entity.item.name

section Guards
variable {Body : Type} [DecidableEq Body] (search : ListSearch) (viewer : Viewer)
  (store : SearchStore Body) (tokens : PageTokens) (backing : List (Entity Body))
  (home : String → Option String)

/-- No page shows an item of a locked workspace, and where the check of a refetched item
answers, it answers like the check of the first page. -/
def Guarded : Prop :=
  (∀ maxResults token fuel response, 1 ≤ maxResults → tokens.Issued token →
    search.filter viewer store tokens maxResults fuel (searchHandler store maxResults token) =
      .ok response →
    ∀ item ∈ response.items, ¬ Locked viewer home item.name) ∧
  ∀ entity ∈ backing, ∀ kept, search.keepsEntity viewer store entity = .ok kept →
    kept = keepsItem viewer (search.canRead viewer) store entity.item

/-- Each item of a locked workspace that the user could otherwise read is found by its lookup
and, if it is a model version, carries its workspace. -/
def LookedUp : Prop :=
  ∀ entity ∈ backing, search.canRead viewer entity.item.name = true →
    Locked viewer home entity.item.name →
    (∃ workspace, store.getWorkspace entity.item.name = .ok workspace) ∧
      (search = .offset .modelVersions → entity.workspace ≠ none)

end Guards

section Checks
variable {viewer : Viewer} {home : String → Option String}

theorem canAccessWorkspace_iff (enabled : viewer.config.mlflowEnableWorkspaces = true)
    (name : String) : viewer.canAccessWorkspace (home name) = false ↔ Locked viewer home name := by
  unfold Viewer.canAccessWorkspace Locked
  rw [if_pos enabled]
  cases known : home name with
  | none => simp [truthy]
  | some workspace =>
    by_cases empty : workspace = ""
    · have unnamed : truthy (some "") = none := rfl
      simp [empty,unnamed]
    · simp only [truthy,Option.filter_some,empty,ne_eq,not_false_eq_true,decide_true,if_true,
        Option.some.injEq,exists_eq_left',true_and]
      cases granted : viewer.getWorkspacePermissionCached workspace <;> simp

variable {Body : Type} {store : SearchStore Body} {backing : List (Entity Body)}
  {canRead : String → Bool} (enabled : viewer.config.mlflowEnableWorkspaces = true)
  (truthful : HomesTold store backing home)
include enabled truthful

theorem keepsItem_locked {item : Item Body} {workspace : Option String}
    (found : store.getWorkspace item.name = .ok workspace) (locked : Locked viewer home item.name) :
    keepsItem viewer canRead store item = false := by
  have closed := (canAccessWorkspace_iff enabled item.name).mpr locked
  rw [← truthful.lookups _ _ found] at closed
  simp only [keepsItem,found,swallow,closed,Bool.and_false]

theorem keepsItem_unlocked {item : Item Body} (open_home : ¬ Locked viewer home item.name) :
    keepsItem viewer canRead store item = canRead item.name := by
  have accessible : viewer.canAccessWorkspace (home item.name) = true := by
    by_contra closed
    exact open_home ((canAccessWorkspace_iff enabled item.name).mp (by simpa using closed))
  cases found : store.getWorkspace item.name with
  | ok workspace =>
    rw [← truthful.lookups _ _ found] at accessible
    simp only [keepsItem,found,swallow,accessible,Bool.and_true]
  | error failure =>
    simp [keepsItem,found,swallow,Viewer.canAccessWorkspace,truthy]

omit truthful enabled in
theorem keepsItem_raised {item : Item Body} {failure : Failure}
    (raised : store.getWorkspace item.name = .error failure) :
    keepsItem viewer canRead store item = canRead item.name := by
  simp [keepsItem,raised,swallow,Viewer.canAccessWorkspace,truthy]

end Checks

section Shown
variable {Body : Type} {store : SearchStore Body} {tokens : PageTokens}
  {backing : List (Entity Body)}

/-- An item of the store that one of the two checks lets through. -/
def Admitted (backing : List (Entity Body)) (keep : Item Body → Bool)
    (keepEntity : Entity Body → Except Failure Bool) (item : Item Body) : Prop :=
  ∃ entity ∈ backing, entity.item = item ∧ (keep item = true ∨ keepEntity entity = .ok true)

theorem readableProto_admitted {keepEntity : Entity Body → Except Failure Bool}
    {entities : List (Entity Body)} {shown : List (Item Body)}
    (read : readableProto keepEntity entities = .ok shown) {item : Item Body} (member : item ∈ shown) :
    ∃ entity ∈ entities, entity.item = item ∧ keepEntity entity = .ok true := by
  induction entities generalizing shown with
  | nil =>
    cases read
    cases member
  | cons entity rest ih =>
    cases decided : keepEntity entity with
    | error failure => simp [readableProto,decided,bind,Except.bind] at read
    | ok kept =>
      cases others : readableProto keepEntity rest with
      | error failure => simp [readableProto,decided,others,bind,Except.bind] at read
      | ok later =>
        simp only [readableProto,decided,others,bind,Except.bind,pure,Except.pure,
          Except.ok.injEq] at read
        have earlier : item ∈ later → ∃ other ∈ entity :: rest,
            other.item = item ∧ keepEntity other = .ok true := by
          intro listed
          obtain ⟨other,found,same,passes⟩ := ih others listed
          exact ⟨other,List.mem_cons_of_mem _ found,same,passes⟩
        cases kept with
        | false =>
          rw [← read] at member
          exact earlier member
        | true =>
          rw [← read] at member
          rcases List.mem_cons.mp member with isFirst | listed
          · exact ⟨entity,List.mem_cons_self,isFirst.symm,decided⟩
          · exact earlier listed

variable {maxResults : Nat} (documented : SearchDocumented store tokens backing maxResults)
include documented

theorem handler_items {token : String} (issued : tokens.Issued token) {item : Item Body}
    (member : item ∈ (searchHandler store maxResults token).items) :
    ∃ entity ∈ backing, entity.item = item := by
  obtain ⟨entity,listed,same⟩ := List.mem_map.mp member
  rw [documented.entities token issued] at listed
  exact ⟨entity,List.mem_of_mem_drop (List.mem_of_mem_take listed),same⟩

theorem refetch_admits {fuel : Nat} {keep : Item Body → Bool}
    {keepEntity : Entity Body → Except Failure Bool} {start response : SearchResponse Body}
    (admitted : ∀ item ∈ start.items, Admitted backing keep keepEntity item)
    (issued : tokens.Issued start.nextPageToken)
    (ran : iterate .fuel (refetch store tokens maxResults keepEntity) fuel start = .ok response) :
    ∀ item ∈ response.items, Admitted backing keep keepEntity item := by
  refine iterate_sound (fun response => (∀ item ∈ response.items,
    Admitted backing keep keepEntity item) ∧ tokens.Issued response.nextPageToken)
    (fun response => ∀ item ∈ response.items, Admitted backing keep keepEntity item) ?_ ?_
    ⟨admitted,issued⟩ ran
  · intro page next held stepped
    obtain ⟨shown,handed⟩ := held
    unfold refetch at stepped
    split at stepped
    · simp only at stepped
      split at stepped
      · cases stepped
      · cases read : readableProto keepEntity ((store.search maxResults page.nextPageToken).entities.take
            (maxResults - page.items.length)) with
        | error failure =>
          rw [read] at stepped
          cases stepped
        | ok readable =>
          rw [read] at stepped
          cases stepped
          refine ⟨fun item member => ?_,.inr ⟨_,rfl⟩⟩
          rcases List.mem_append.mp member with earlier | later
          · exact shown item earlier
          · obtain ⟨entity,fetched,same,passes⟩ := readableProto_admitted read later
            have listed := List.mem_of_mem_take fetched
            rw [documented.entities _ handed] at listed
            exact ⟨entity,List.mem_of_mem_drop (List.mem_of_mem_take listed),same,.inr passes⟩
    · cases stepped
  · intro page result held stepped
    unfold refetch at stepped
    split at stepped
    · simp only at stepped
      split at stepped
      · cases stepped
        exact held.1
      · split at stepped <;> cases stepped
    · cases stepped
      exact held.1

end Shown

section Responses
variable {Body : Type} [DecidableEq Body] {viewer : Viewer} {store : SearchStore Body}
  {tokens : PageTokens} {backing : List (Entity Body)} {maxResults fuel : Nat} {token : String}
  {response : SearchResponse Body}
  (documented : SearchDocumented store tokens backing maxResults)
  (user : viewer.isAdmin = false) (issued : tokens.Issued token)
include documented user issued

theorem offset_admits {search : OffsetSearch}
    (answered : search.filter viewer store tokens maxResults fuel
      (searchHandler store maxResults token) = .ok response) :
    ∀ item ∈ response.items, Admitted backing (keepsItem viewer (search.canRead viewer) store)
      (search.keepsEntity viewer) item := by
  rw [OffsetSearch.filter_eq user] at answered
  refine refetch_admits documented ?_ ?_ answered
  · intro item member
    obtain ⟨listed,kept⟩ := List.mem_filter.mp member
    obtain ⟨entity,stored,same⟩ := handler_items documented issued listed
    exact ⟨entity,stored,same,.inl kept⟩
  · have next := documented.token token issued
    simp only [searchHandler,next]
    split
    · exact .inr ⟨_,rfl⟩
    · exact .inl rfl

omit documented issued in
theorem logged_more {fuel' : Nat} {first : SearchResponse Body}
    (answered : filterSearchLoggedModels viewer store tokens maxResults fuel first = .ok response)
    (more : fuel ≤ fuel') :
    filterSearchLoggedModels viewer store tokens maxResults fuel' first = .ok response := by
  unfold filterSearchLoggedModels at answered ⊢
  rw [user] at answered ⊢
  simp only [Bool.false_eq_true,if_false] at answered ⊢
  cases ran : iterate Stop.fuel (refetchLogged viewer store tokens maxResults) fuel
      ⟨(filterLoggedPage viewer viewer.canReadExperiment store first.items).1,
        (filterLoggedPage viewer viewer.canReadExperiment store first.items).2,
        if first.nextPageToken = "" then none else some first.nextPageToken⟩ with
  | error stop =>
    rw [ran] at answered
    cases answered
  | ok page =>
    rw [ran] at answered
    rw [iterate_more ran more]
    exact answered

theorem logged_admits (positive : 1 ≤ maxResults)
    (answered : filterSearchLoggedModels viewer store tokens maxResults fuel
      (searchHandler store maxResults token) = .ok response) :
    ∀ item ∈ response.items, Admitted backing (keepsLogged viewer store)
      (fun entity => .ok (keepsLogged viewer store entity.item)) item := by
  have longer := logged_more user answered (Nat.le_max_left fuel (backing.length + 1))
  have enough : backing.length < max fuel (backing.length + 1) := by omega
  obtain ⟨filled,same,page,_⟩ :=
    filterSearchLoggedModels_fills viewer documented positive enough issued
  rw [longer] at same
  cases same
  have readable : readsLogged viewer store = keepsLogged viewer store := by
    funext item
    simp [readsLogged,user]
  intro item member
  have covered : ∃ entity ∈ backing, pick (readsLogged viewer store) entity = some item := by
    cases next : tokens.position response.nextPageToken with
    | some stop => exact (page.more stop next).2.2.mem member
    | none =>
      obtain ⟨_,_,covers⟩ := page.done next
      exact covers.mem member
  obtain ⟨entity,stored,picked⟩ := covered
  rw [readable] at picked
  unfold pick at picked
  split at picked
  · next kept =>
    cases picked
    exact ⟨entity,stored,rfl,.inl kept⟩
  · cases picked

theorem search_admits {search : ListSearch} (positive : 1 ≤ maxResults)
    (answered : search.filter viewer store tokens maxResults fuel
      (searchHandler store maxResults token) = .ok response) :
    ∀ item ∈ response.items, Admitted backing (keepsItem viewer (search.canRead viewer) store)
      (search.keepsEntity viewer store) item := by
  cases search with
  | offset search => exact offset_admits documented user issued answered
  | loggedModels => exact logged_admits documented user issued positive answered

omit documented user issued in
theorem shown_alone (documented : SearchDocumented store tokens backing 1)
    (user : viewer.isAdmin = false) {search : ListSearch} {entity : Entity Body}
    (member : entity ∈ backing)
    (kept : keepsItem viewer (search.canRead viewer) store entity.item = true) :
    ∃ token response, tokens.Issued token ∧
      search.filter viewer store tokens 1 1 (searchHandler store 1 token) = .ok response ∧
      entity.item ∈ response.items := by
  obtain ⟨offset,inside,found⟩ := List.mem_iff_getElem.mp member
  have issued : tokens.Issued (tokens.create offset) := .inr ⟨offset,rfl⟩
  have page : (searchHandler store 1 (tokens.create offset)).items = [entity.item] := by
    have alone : (store.search 1 (tokens.create offset)).entities = [entity] := by
      rw [documented.entities _ issued,documented.decodes,slice,
        List.drop_eq_getElem_cons inside,found]
      rfl
    simp only [searchHandler,alone,List.map_cons,List.map_nil]
  have alone : [entity.item].filter (keepsItem viewer (search.canRead viewer) store) =
      [entity.item] := by
    rw [List.filter_cons_of_pos kept]
    rfl
  refine ⟨tokens.create offset,⟨[entity.item],
    (searchHandler store 1 (tokens.create offset)).nextPageToken⟩,issued,?_,
    List.mem_singleton_self _⟩
  cases search with
  | offset search =>
    have keeps : ListSearch.canRead (.offset search) viewer = search.canRead viewer := rfl
    rw [keeps] at alone
    simp only [ListSearch.filter,OffsetSearch.filter_eq user,page,alone]
    simp [iterate,refetch]
  | loggedModels =>
    have passes : (filterLoggedPage viewer viewer.canReadExperiment store [entity.item]).1 =
        [entity.item] := (filterLoggedPage_eq _).1.trans alone
    rcases passed : filterLoggedPage viewer viewer.canReadExperiment store [entity.item] with
      ⟨models,map⟩
    rw [passed] at passes
    simp only at passes
    simp only [ListSearch.filter,filterSearchLoggedModels,user,Bool.false_eq_true,if_false,page,
      passed,passes]
    by_cases empty : (searchHandler store 1 (tokens.create offset)).nextPageToken = ""
    · simp [iterate,refetchLogged,empty]
    · simp [iterate,refetchLogged,empty]

end Responses

section Iff
variable {Body : Type} {viewer : Viewer} {store : SearchStore Body}
  {backing : List (Entity Body)} {home : String → Option String}

theorem keepsEntity_ok {search : OffsetSearch} {entity : Entity Body} {kept : Bool}
    (answers : search.keepsEntity viewer entity = .ok kept) :
    kept = (search.canRead viewer entity.item.name &&
        viewer.canAccessWorkspace entity.workspace.join) ∧
      (search.canRead viewer entity.item.name = true → entity.workspace = none →
        search = .modelVersions) := by
  have direct : ∀ canRead : String → Bool, mayList viewer canRead entity = .ok kept →
      kept = (canRead entity.item.name && viewer.canAccessWorkspace entity.workspace.join) ∧
        ¬ (canRead entity.item.name = true ∧ entity.workspace = none) := by
    intro canRead listed
    unfold mayList at listed
    cases readable : canRead entity.item.name with
    | false =>
      simp only [readable,Bool.false_eq_true,if_false,Except.ok.injEq] at listed
      simp [← listed]
    | true =>
      cases carried : entity.workspace with
      | none => simp [readable,carried] at listed
      | some workspace =>
        simp only [readable,carried,if_true,Except.ok.injEq] at listed
        simp [← listed]
  cases search with
  | experiments =>
    obtain ⟨answer,carries⟩ := direct viewer.canReadExperiment answers
    exact ⟨answer,fun readable lacks => absurd ⟨readable,lacks⟩ carries⟩
  | registeredModels =>
    obtain ⟨answer,carries⟩ := direct viewer.canReadRegisteredModel answers
    exact ⟨answer,fun readable lacks => absurd ⟨readable,lacks⟩ carries⟩
  | modelVersions => exact ⟨(Except.ok.inj answers).symm,fun _ _ => rfl⟩

variable {search : ListSearch} (enabled : viewer.config.mlflowEnableWorkspaces = true)
  (truthful : HomesTold store backing home)
include enabled truthful

theorem keepsEntity_eq (lookedUp : LookedUp search viewer store backing home)
    {entity : Entity Body} (member : entity ∈ backing) {kept : Bool}
    (answers : search.keepsEntity viewer store entity = .ok kept) :
    kept = keepsItem viewer (search.canRead viewer) store entity.item := by
  cases search with
  | loggedModels => exact (Except.ok.inj answers).symm
  | offset search =>
    obtain ⟨answer,versions⟩ := keepsEntity_ok answers
    have same : ListSearch.canRead (.offset search) viewer = search.canRead viewer := rfl
    rw [answer,same]
    cases readable : search.canRead viewer entity.item.name with
    | false => simp [keepsItem,readable]
    | true =>
      rw [Bool.true_and]
      by_cases locked : Locked viewer home entity.item.name
      · obtain ⟨⟨workspace,found⟩,carries⟩ := lookedUp entity member readable locked
        rw [keepsItem_locked enabled truthful found locked]
        cases carried : entity.workspace with
        | none =>
          have version := versions readable carried
          exact absurd carried (carries (congrArg ListSearch.offset version))
        | some workspace =>
          have known := truthful.carried entity member workspace carried
          rw [Option.join_some,known]
          exact (canAccessWorkspace_iff enabled entity.item.name).mpr locked
      · rw [keepsItem_unlocked enabled truthful locked,readable]
        cases carried : entity.workspace with
        | none => simp [Viewer.canAccessWorkspace,truthy]
        | some workspace =>
          have known := truthful.carried entity member workspace carried
          rw [Option.join_some,known]
          by_contra closed
          exact locked ((canAccessWorkspace_iff enabled entity.item.name).mp (by simpa using closed))

end Iff

/-- The filters show no item of a locked workspace, and check alike on the first page and on
refetch, exactly when each such item that the user could otherwise read is found by its lookup
and, being a model version, carries its workspace. -/
theorem guarded_iff {Body : Type} [DecidableEq Body] (search : ListSearch) (viewer : Viewer)
    (store : SearchStore Body) (tokens : PageTokens) (backing : List (Entity Body))
    (home : String → Option String) (enabled : viewer.config.mlflowEnableWorkspaces = true)
    (user : viewer.isAdmin = false)
    (documented : ∀ maxResults, 1 ≤ maxResults →
      SearchDocumented store tokens backing maxResults)
    (truthful : HomesTold store backing home) :
    Guarded search viewer store tokens backing home ↔ LookedUp search viewer store backing home := by
  constructor
  · rintro ⟨hides,agrees⟩ entity member readable locked
    have found : ∃ workspace, store.getWorkspace entity.item.name = .ok workspace := by
      cases looked : store.getWorkspace entity.item.name with
      | ok workspace => exact ⟨workspace,rfl⟩
      | error failure =>
        have kept : keepsItem viewer (search.canRead viewer) store entity.item = true :=
          (keepsItem_raised looked).trans readable
        obtain ⟨token,response,issued,answered,shown⟩ :=
          shown_alone (documented 1 (le_refl 1)) user member kept
        exact absurd locked (hides 1 token 1 response (le_refl 1) issued answered _ shown)
    refine ⟨found,?_⟩
    rintro rfl lacks
    obtain ⟨workspace,looked⟩ := found
    have unguarded : ListSearch.keepsEntity (.offset .modelVersions) viewer store entity =
        .ok true := by
      have reads : viewer.canReadRegisteredModel entity.item.name = true := readable
      simp [ListSearch.keepsEntity,OffsetSearch.keepsEntity,mayListVersion,reads,lacks,
        Viewer.canAccessWorkspace,truthy]
    have kept := agrees entity member true unguarded
    rw [keepsItem_locked enabled truthful looked locked] at kept
    cases kept
  · intro lookedUp
    refine ⟨?_,fun entity member kept answers =>
      keepsEntity_eq enabled truthful lookedUp member answers⟩
    intro maxResults token fuel response positive issued answered item shown locked
    obtain ⟨entity,member,rfl,admitted⟩ :=
      search_admits (documented maxResults positive) user issued positive answered item shown
    have kept : keepsItem viewer (search.canRead viewer) store entity.item = true := by
      rcases admitted with first | refetched
      · exact first
      · exact (keepsEntity_eq enabled truthful lookedUp member refetched).symm
    have readable : search.canRead viewer entity.item.name = true := by
      simp only [keepsItem,Bool.and_eq_true] at kept
      exact kept.1
    obtain ⟨⟨workspace,found⟩,_⟩ := lookedUp entity member readable locked
    rw [keepsItem_locked enabled truthful found locked] at kept
    cases kept

section Leak

/-- A user who reads every experiment, and no workspace. -/
def outsider : Viewer where
  config := { AppConfig.default with mlflowEnableWorkspaces := true }
  isAdmin := false
  canReadExperiment _ := true
  canReadRegisteredModel _ := true
  getWorkspacePermissionCached _ := none

def secretExperiment : List (Entity Unit) := [⟨⟨"1",()⟩,some (some "secret")⟩]

def secretHome (_ : String) : Option String := some "secret"

theorem secret_locked (name : String) : Locked outsider secretHome name := by
  refine ⟨"secret",rfl,by decide,?_⟩
  intro perm granted
  cases granted

/-- The lookup of the workspace raises, and the experiment is listed. -/
theorem guarded_not_always : ¬ ∀ (search : ListSearch) (viewer : Viewer) (store : SearchStore Unit)
    (tokens : PageTokens) (backing : List (Entity Unit)) (home : String → Option String),
    viewer.config.mlflowEnableWorkspaces = true → viewer.isAdmin = false →
    (∀ maxResults, 1 ≤ maxResults → SearchDocumented store tokens backing maxResults) →
    HomesTold store backing home → Guarded search viewer store tokens backing home := by
  intro always
  have guarded := always (.offset .experiments) outsider
    (fixedStore unaryTokens secretExperiment (fun _ => .error (.other "unavailable")))
    unaryTokens secretExperiment secretHome rfl rfl
    (fun maxResults _ => fixedStore_documented _ _ maxResults) ⟨?_,?_⟩
  · have listed := guarded.1 1 "" 1 ⟨[⟨"1",()⟩],""⟩ (le_refl 1) (.inl rfl) rfl
    exact listed _ List.mem_cons_self (secret_locked "1")
  · intro name workspace found
    cases found
  · intro entity member workspace carried
    rw [List.mem_singleton.mp member] at carried
    cases carried
    rfl

theorem guarded_iff_secret :
    Guarded (.offset .experiments) outsider
        (fixedStore unaryTokens secretExperiment (fun _ => .ok (some "secret"))) unaryTokens
        secretExperiment secretHome ↔
      LookedUp (.offset .experiments) outsider
        (fixedStore unaryTokens secretExperiment (fun _ => .ok (some "secret")))
        secretExperiment secretHome := by
  apply guarded_iff
  · rfl
  · rfl
  · exact fun maxResults _ => fixedStore_documented _ _ maxResults
  · constructor
    · intro name workspace found
      cases found
      rfl
    · intro entity member workspace carried
      rw [List.mem_singleton.mp member] at carried
      cases carried
      rfl

end Leak
end MlflowOidcAuth
