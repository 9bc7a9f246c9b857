import MlflowOidcAuth.Hook.SearchFilters

/-! What a client gets that follows the tokens of a filtered search: every item that the user
may see, once and in the order of the store. -/
namespace MlflowOidcAuth
open KeyedCache Loop Paging

section Removal
variable {A : Type} [DecidableEq A]

theorem removal_eq_diff (keep : A → Bool) (items left : List A) :
    items.foldl (fun left item => if keep item then left else left.erase item) left =
      left.diff (items.filter (fun item => !keep item)) := by
  induction items generalizing left with
  | nil => simp
  | cons item rest ih =>
    rw [List.foldl_cons,ih]
    cases kept : keep item with
    | true => simp [kept]
    | false => simp [kept,List.diff_cons]

theorem diff_filter_not (keep : A → Bool) (items : List A) :
    items.diff (items.filter (fun item => !keep item)) = items.filter keep := by
  induction items with
  | nil => rfl
  | cons item rest ih =>
    cases kept : keep item with
    | true =>
      have absent : item ∉ rest.filter (fun other => !keep other) := by simp [kept]
      rw [List.filter_cons_of_neg (by simp [kept]),List.filter_cons_of_pos kept,
        List.cons_diff_of_not_mem absent,ih]
    | false =>
      rw [List.filter_cons_of_pos (by simp [kept]),List.filter_cons_of_neg (by simp [kept]),
        List.diff_cons,List.erase_cons_head,ih]

/-- Removing one occurrence for each unwanted item leaves the wanted ones. -/
theorem removeUnless_eq (keep : A → Bool) (items : List A) :
    removeUnless keep items = items.filter keep := by
  rw [removeUnless,removal_eq_diff,diff_filter_not]

end Removal

/-- What a filter keeps of the first page: what the user can read, in a workspace that is
accessible as far as its lookup says. -/
def keepsItem {Body : Type} (viewer : Viewer) (canRead : String → Bool) (store : SearchStore Body)
    (item : Item Body) : Bool :=
  canRead item.name && viewer.canAccessWorkspace (swallow (store.getWorkspace item.name))

section FirstPage
variable {Body : Type} {store : SearchStore Body} {viewer : Viewer} {map : WorkspaceMap}

/-- The map holds what the lookups answer. -/
def Remembers (store : SearchStore Body) (map : WorkspaceMap) : Prop :=
  ∀ name workspace, map.get name = some workspace → workspace = swallow (store.getWorkspace name)

theorem remembers_empty : Remembers store Cache.empty := by
  intro name workspace found
  simp at found

theorem Remembers.lookUp (remembers : Remembers store map) (name : String) :
    Remembers store (lookUpWorkspace store map name) := by
  intro other workspace found
  by_cases same : other = name
  · rw [same,lookUpWorkspace,Cache.get_set_self] at found
    cases found
    rw [same]
  · rw [lookUpWorkspace,Cache.get_set_of_ne _ _ same] at found
    exact remembers other workspace found

theorem Remembers.lookUpOnce (remembers : Remembers store map) (name : String) :
    Remembers store (lookUpOnce store map name) := by
  unfold MlflowOidcAuth.lookUpOnce
  cases map.get name with
  | some workspace => exact remembers
  | none => exact remembers.lookUp name

theorem known_lookUp {name other : String} (known : other = name ∨ (map.get other).isSome) :
    ((lookUpWorkspace store map name).get other).isSome := by
  by_cases same : other = name
  · rw [same,lookUpWorkspace,Cache.get_set_self]
    rfl
  · rw [lookUpWorkspace,Cache.get_set_of_ne _ _ same]
    exact known.resolve_left same

theorem known_lookUpOnce {name other : String} (known : other = name ∨ (map.get other).isSome) :
    ((lookUpOnce store map name).get other).isSome := by
  unfold lookUpOnce
  cases held : map.get name with
  | some workspace =>
    rcases known with same | known
    · rw [same,held]
      rfl
    · exact known
  | none => exact known_lookUp known

theorem lookedUp (look : WorkspaceMap → String → WorkspaceMap)
    (remembered : ∀ map name, Remembers store map → Remembers store (look map name))
    (known : ∀ map name other, other = name ∨ (map.get other).isSome →
      ((look map name).get other).isSome)
    (items : List (Item Body)) (remembers : Remembers store map) :
    Remembers store (items.foldl (fun map item => look map item.name) map) ∧
      ∀ name, (∃ item ∈ items, item.name = name) ∨ (map.get name).isSome →
        ((items.foldl (fun map item => look map item.name) map).get name).isSome := by
  induction items generalizing map with
  | nil =>
    refine ⟨remembers,fun name held => ?_⟩
    rcases held with ⟨item,member,_⟩ | held
    · cases member
    · exact held
  | cons first rest ih =>
    obtain ⟨remembers',seen⟩ := ih (remembered map first.name remembers)
    refine ⟨remembers',fun name held => seen name ?_⟩
    rcases held with ⟨item,member,same⟩ | held
    · rcases List.mem_cons.mp member with isFirst | later
      · right
        apply known
        rw [← same,isFirst]
        exact .inl rfl
      · exact .inl ⟨item,later,same⟩
    · exact .inr (known map first.name name (.inr held))

theorem accessible_known (remembers : Remembers store map) {item : Item Body}
    (known : (map.get item.name).isSome) :
    accessible viewer map item =
      viewer.canAccessWorkspace (swallow (store.getWorkspace item.name)) := by
  obtain ⟨workspace,held⟩ := Option.isSome_iff_exists.mp known
  rw [accessible,held,remembers _ _ held]
  rfl

variable {canRead : String → Bool}

theorem keeps_readable (items : List (Item Body)) :
    (items.filter (fun item => canRead item.name)).filter (fun item =>
        viewer.canAccessWorkspace (swallow (store.getWorkspace item.name))) =
      items.filter (keepsItem viewer canRead store) := by
  rw [List.filter_filter]
  apply List.filter_congr
  intro item _
  exact Bool.and_comm _ _

theorem keeps_disabled (disabled : viewer.config.mlflowEnableWorkspaces = false)
    (items : List (Item Body)) :
    items.filter (fun item => canRead item.name) = items.filter (keepsItem viewer canRead store) := by
  apply List.filter_congr
  intro item _
  simp [keepsItem,Viewer.canAccessWorkspace,disabled]

variable [DecidableEq Body]

theorem filterPage_eq (items : List (Item Body)) :
    filterPage viewer canRead store items = items.filter (keepsItem viewer canRead store) := by
  simp only [filterPage,removeUnless_eq]
  cases enabled : viewer.config.mlflowEnableWorkspaces with
  | false => exact keeps_disabled enabled items
  | true =>
    obtain ⟨remembers,seen⟩ := lookedUp (lookUpWorkspace store)
      (fun _ name remembers => remembers.lookUp name) (fun _ _ _ known => known_lookUp known)
      (items.filter (fun item => canRead item.name)) remembers_empty
    rw [← keeps_readable]
    apply List.filter_congr
    intro item member
    exact accessible_known remembers (seen item.name (.inl ⟨item,member,rfl⟩))

theorem versions_removal (items left : List (Item Body)) (remembers : Remembers store map) :
    (items.foldl (fun (left,map) item =>
        let map := lookUpOnce store map item.name
        (if accessible viewer map item then left else left.erase item,map)) (left,map)).1 =
      items.foldl (fun left item =>
        if viewer.canAccessWorkspace (swallow (store.getWorkspace item.name)) then left
        else left.erase item) left := by
  induction items generalizing left map with
  | nil => rfl
  | cons item rest ih =>
    have known : accessible viewer (lookUpOnce store map item.name) item =
        viewer.canAccessWorkspace (swallow (store.getWorkspace item.name)) :=
      accessible_known (remembers.lookUpOnce item.name) (known_lookUpOnce (.inl rfl))
    simp only [List.foldl_cons,known]
    exact ih _ (remembers.lookUpOnce item.name)

theorem filterVersionsPage_eq (items : List (Item Body)) :
    filterVersionsPage viewer canRead store items =
      items.filter (keepsItem viewer canRead store) := by
  simp only [filterVersionsPage,removeUnless_eq]
  cases enabled : viewer.config.mlflowEnableWorkspaces with
  | false => exact keeps_disabled enabled items
  | true =>
    rw [if_pos rfl,versions_removal _ _ remembers_empty,removal_eq_diff,diff_filter_not]
    exact keeps_readable items

theorem filterLoggedPage_eq (items : List (Item Body)) :
    (filterLoggedPage viewer canRead store items).1 =
        items.filter (keepsItem viewer canRead store) ∧
      Remembers store (filterLoggedPage viewer canRead store items).2 := by
  simp only [filterLoggedPage,removeUnless_eq]
  cases enabled : viewer.config.mlflowEnableWorkspaces with
  | false => exact ⟨keeps_disabled enabled items,remembers_empty⟩
  | true =>
    obtain ⟨remembers,seen⟩ := lookedUp (lookUpOnce store)
      (fun _ name remembers => remembers.lookUpOnce name) (fun _ _ _ known => known_lookUpOnce known)
      (items.filter (fun item => canRead item.name)) remembers_empty
    refine ⟨?_,remembers⟩
    rw [← keeps_readable]
    apply List.filter_congr
    intro item member
    exact accessible_known remembers (seen item.name (.inl ⟨item,member,rfl⟩))

end FirstPage

/-- The first token of a client, or one that was handed out. -/
def PageTokens.Issued (tokens : PageTokens) (token : String) : Prop :=
  token = "" ∨ ∃ offset, token = tokens.create offset

/-- What MLflow documents of its tokens and of a search over a fixed list. -/
structure SearchDocumented {Body : Type} (store : SearchStore Body) (tokens : PageTokens)
    (backing : List (Entity Body)) (maxResults : Nat) : Prop where
  first : tokens.parseStartOffset "" = 0
  decodes : ∀ offset, tokens.parseStartOffset (tokens.create offset) = offset
  nonempty : ∀ offset, tokens.create offset ≠ ""
  entities : ∀ token, tokens.Issued token → (store.search maxResults token).entities =
    slice backing (tokens.parseStartOffset token) maxResults
  token : ∀ token, tokens.Issued token → (store.search maxResults token).token =
    if tokens.parseStartOffset token + maxResults < backing.length then
      some (tokens.create (tokens.parseStartOffset token + maxResults))
    else none

/-- A filtered search, as the client calls it. -/
def endpoint {Body : Type} (store : SearchStore Body) (maxResults : Nat)
    (filter : SearchResponse Body → Except Stop (SearchResponse Body)) (pageToken : String) :
    Except Stop (List (Item Body) × Option String) :=
  match filter (searchHandler store maxResults pageToken) with
  | .error stop => .error stop
  | .ok response => .ok (response.items,
      if response.nextPageToken = "" then none else some response.nextPageToken)

section Pages
variable {Body : Type} {store : SearchStore Body} {tokens : PageTokens}
  {backing : List (Entity Body)} {maxResults start : Nat} {keep : Item Body → Bool}

def pick (keep : Item Body → Bool) (entity : Entity Body) : Option (Item Body) :=
  if keep entity.item then some entity.item else none

theorem pick_eq (entities : List (Entity Body)) :
    entities.filterMap (pick keep) = (entities.map Entity.item).filter keep := by
  induction entities with
  | nil => rfl
  | cons entity rest ih =>
    cases kept : keep entity.item <;> simp [pick,kept,ih]

def PageTokens.position (tokens : PageTokens) (token : String) : Option Nat :=
  if token = "" then none else some (tokens.parseStartOffset token)

theorem position_eq (token : String) :
    (if token = "" then none else some token).map tokens.parseStartOffset =
      tokens.position token := by
  unfold PageTokens.position
  split <;> rfl

/-- The page and its token cover the items from an offset on. -/
def FilledPage (tokens : PageTokens) (backing : List (Entity Body)) (keep : Item Body → Bool)
    (maxResults start : Nat) (response : SearchResponse Body) : Prop :=
  Served (pick keep) backing maxResults start response.items
      (tokens.position response.nextPageToken) ∧ tokens.Issued response.nextPageToken

theorem readableProto_eq {keepEntity : Entity Body → Except Failure Bool}
    {entities : List (Entity Body)}
    (agree : ∀ entity ∈ entities, keepEntity entity = .ok (keep entity.item)) :
    readableProto keepEntity entities = .ok (entities.filterMap (pick keep)) := by
  induction entities with
  | nil => rfl
  | cons entity rest ih =>
    have others := ih (fun other member => agree other (List.mem_cons_of_mem _ member))
    simp only [readableProto,agree entity List.mem_cons_self,others,bind,Except.bind,pure,Except.pure]
    cases kept : keep entity.item <;> simp [pick,kept]

variable (documented : SearchDocumented store tokens backing maxResults)
include documented

theorem position_create (offset : Nat) : tokens.position (tokens.create offset) = some offset := by
  rw [PageTokens.position,if_neg (documented.nonempty offset),documented.decodes]

theorem handler_filled (keep : Item Body → Bool) (positive : 1 ≤ maxResults) {token : String}
    (issued : tokens.Issued token) :
    FilledPage tokens backing keep maxResults (tokens.parseStartOffset token)
      ⟨(searchHandler store maxResults token).items.filter keep,
        (searchHandler store maxResults token).nextPageToken⟩ := by
  have shown : (searchHandler store maxResults token).items.filter keep =
      (slice backing (tokens.parseStartOffset token) maxResults).filterMap (pick keep) := by
    rw [pick_eq,← documented.entities token issued]
    rfl
  have covers := covers_slice (pick keep) backing (tokens.parseStartOffset token) maxResults
  have bounded : ((searchHandler store maxResults token).items.filter keep).length ≤
      maxResults := by
    rw [shown]
    have fits := List.length_filterMap_le (pick keep)
      (slice backing (tokens.parseStartOffset token) maxResults)
    rw [slice_length] at fits
    omega
  have next := documented.token token issued
  by_cases more : tokens.parseStartOffset token + maxResults < backing.length
  · have handed : (searchHandler store maxResults token).nextPageToken =
        tokens.create (tokens.parseStartOffset token + maxResults) := by
      simp only [searchHandler,next,more,if_true,Option.getD_some]
    refine ⟨⟨bounded,?_,?_⟩,.inr ⟨_,handed⟩⟩
    · intro stop stops
      rw [handed,position_create documented] at stops
      cases stops
      exact ⟨by omega,by omega,shown ▸ covers⟩
    · intro none_next
      rw [handed,position_create documented] at none_next
      cases none_next
  · have handed : (searchHandler store maxResults token).nextPageToken = "" := by
      simp only [searchHandler,next,more,if_false,Option.getD_none]
    refine ⟨⟨bounded,?_,?_⟩,.inl handed⟩
    · intro stop stops
      rw [handed] at stops
      cases stops
    · intro _
      exact ⟨_,Nat.le_of_not_lt more,shown ▸ covers⟩

theorem handler_unfiltered (all : ∀ item, keep item = true) (positive : 1 ≤ maxResults)
    {token : String} (issued : tokens.Issued token) :
    FilledPage tokens backing keep maxResults (tokens.parseStartOffset token)
      (searchHandler store maxResults token) := by
  have shown := handler_filled documented keep positive issued
  rwa [List.filter_eq_self.mpr (fun item _ => all item)] at shown

/-- The step lemma of the loop that fills a page up. -/
theorem refetch_fills {keepEntity : Entity Body → Except Failure Bool}
    (agree : ∀ entity ∈ backing, keepEntity entity = .ok (keep entity.item))
    (response : SearchResponse Body)
    (filled : FilledPage tokens backing keep maxResults start response) :
    ∃ next, refetch store tokens maxResults keepEntity response = .ok next ∧
      Advances (FilledPage tokens backing keep maxResults start)
        (FilledPage tokens backing keep maxResults start)
        (fun response => match tokens.position response.nextPageToken with
          | none => 0
          | some offset => backing.length + 1 - offset) response next := by
  obtain ⟨items,token⟩ := response
  obtain ⟨served,issued⟩ := filled
  unfold refetch
  by_cases room : items.length < maxResults ∧ token ≠ ""
  · have offset_of : tokens.position token = some (tokens.parseStartOffset token) := if_neg room.2
    obtain ⟨ahead,inside,covers⟩ := served.more _ offset_of
    have fetched : (store.search maxResults token).entities.take (maxResults - items.length) =
        slice backing (tokens.parseStartOffset token) (maxResults - items.length) := by
      rw [documented.entities token issued,take_slice,min_eq_left (Nat.sub_le _ _)]
    simp only [room.1,room.2,ne_eq,not_false_eq_true,and_self,if_true,fetched]
    have size := slice_length backing (tokens.parseStartOffset token) (maxResults - items.length)
    by_cases exhausted : (slice backing (tokens.parseStartOffset token)
        (maxResults - items.length)).length = 0
    · refine ⟨_,if_pos exhausted,⟨?_,.inl rfl⟩⟩
      constructor
      · exact served.bounded
      · intro stop stops
        cases stops
      · intro _
        exact ⟨tokens.parseStartOffset token,by omega,covers⟩
    · rw [if_neg exhausted]
      have agree_fetched : ∀ entity ∈ slice backing (tokens.parseStartOffset token)
          (maxResults - items.length), keepEntity entity = .ok (keep entity.item) :=
        fun entity member => agree entity (List.mem_of_mem_drop (List.mem_of_mem_take member))
      rw [readableProto_eq agree_fetched]
      refine ⟨_,rfl,?_⟩
      have further := covers.append (covers_fetched (pick keep) backing
        (tokens.parseStartOffset token) (maxResults - items.length))
      have fits := List.length_filterMap_le (pick keep)
        (slice backing (tokens.parseStartOffset token) (maxResults - items.length))
      refine ⟨⟨⟨?_,?_,?_⟩,.inr ⟨_,rfl⟩⟩,?_⟩
      · simp only [List.length_append]
        omega
      · intro stop stops
        rw [position_create documented] at stops
        cases stops
        exact ⟨by omega,by omega,further⟩
      · intro none_next
        rw [position_create documented] at none_next
        cases none_next
      · simp only [position_create documented,offset_of]
        omega
  · refine ⟨.leave ⟨items,token⟩,if_neg room,?_⟩
    exact ⟨served,issued⟩

end Pages

inductive OffsetSearch
  | experiments
  | registeredModels
  | modelVersions
deriving DecidableEq, Repr

namespace OffsetSearch
variable {Body : Type} (search : OffsetSearch) (viewer : Viewer)
  (store : SearchStore Body) (tokens : PageTokens) (maxResults : Nat)

def canRead : String → Bool :=
  match search with
  | experiments => viewer.canReadExperiment
  | registeredModels | modelVersions => viewer.canReadRegisteredModel

def filter [DecidableEq Body] (fuel : Nat) (response : SearchResponse Body) :
    Except Stop (SearchResponse Body) :=
  match search with
  | experiments => filterSearchExperiments viewer store tokens maxResults fuel response
  | registeredModels => filterSearchRegisteredModels viewer store tokens maxResults fuel response
  | modelVersions => filterSearchModelVersions viewer store tokens maxResults fuel response

/-- What the pass over refetched items keeps. -/
def keepsEntity : Entity Body → Except Failure Bool :=
  match search with
  | experiments => mayList viewer viewer.canReadExperiment
  | registeredModels => mayList viewer viewer.canReadRegisteredModel
  | modelVersions => mayListVersion viewer viewer.canReadRegisteredModel

/-- The keep-predicate of the user; administrators see all. -/
def keeps (item : Item Body) : Bool :=
  viewer.isAdmin || keepsItem viewer (search.canRead viewer) store item

/-- The predicate of the user is one: what is kept of a first page is kept when refetched. -/
def OnePredicate (backing : List (Entity Body)) : Prop :=
  viewer.isAdmin = false → ∀ entity ∈ backing,
    search.keepsEntity viewer entity = .ok (keepsItem viewer (search.canRead viewer) store entity.item)

/-- So it is when each item carries its workspace and its lookup finds the same. -/
theorem onePredicate_of_consistent {backing : List (Entity Body)}
    (consistent : ∀ entity ∈ backing, ∃ workspace, entity.workspace = some workspace ∧
      store.getWorkspace entity.item.name = .ok workspace) :
    search.OnePredicate viewer store backing := by
  intro _ entity member
  obtain ⟨workspace,carried,found⟩ := consistent entity member
  have direct : ∀ canRead, mayList viewer canRead entity =
      .ok (keepsItem viewer canRead store entity.item) := by
    intro canRead
    simp only [mayList,keepsItem,carried,found,swallow]
    cases canRead entity.item.name <;> rfl
  cases search with
  | experiments => exact direct _
  | registeredModels => exact direct _
  | modelVersions =>
    simp only [keepsEntity,mayListVersion,keepsItem,carried,found,swallow,Option.join_some]
    rfl

variable {search viewer store tokens maxResults} [DecidableEq Body]

theorem filter_eq (user : viewer.isAdmin = false) (fuel : Nat) (response : SearchResponse Body) :
    search.filter viewer store tokens maxResults fuel response =
      iterate .fuel (refetch store tokens maxResults (search.keepsEntity viewer)) fuel
        ⟨response.items.filter (keepsItem viewer (search.canRead viewer) store),
          response.nextPageToken⟩ := by
  cases search <;>
    simp only [filter,filterSearchExperiments,filterSearchRegisteredModels,
      filterSearchModelVersions,filterSearch,user,filterPage_eq,filterVersionsPage_eq,keepsEntity,
      canRead] <;> rfl

theorem filter_admin (admin : viewer.isAdmin = true) (fuel : Nat) (response : SearchResponse Body) :
    search.filter viewer store tokens maxResults fuel response = .ok response := by
  cases search <;> simp only [filter,filterSearchExperiments,filterSearchRegisteredModels,
    filterSearchModelVersions,filterSearch,admin,if_true]

/-- A filtered search answers, with a page that covers the items from its offset on. -/
theorem filter_fills {backing : List (Entity Body)}
    (documented : SearchDocumented store tokens backing maxResults) (positive : 1 ≤ maxResults)
    (one : search.OnePredicate viewer store backing) {fuel : Nat} (enough : backing.length < fuel)
    {token : String} (issued : tokens.Issued token) :
    ∃ response, search.filter viewer store tokens maxResults fuel
        (searchHandler store maxResults token) = .ok response ∧
      FilledPage tokens backing (search.keeps viewer store) maxResults
        (tokens.parseStartOffset token) response := by
  cases admin : viewer.isAdmin with
  | true =>
    have all : ∀ item, search.keeps viewer store item = true := by
      intro item
      simp [keeps,admin]
    exact ⟨_,filter_admin admin fuel _,handler_unfiltered documented all positive issued⟩
  | false =>
    have shown := handler_filled documented (search.keeps viewer store) positive issued
    have same : search.keeps viewer store = keepsItem viewer (search.canRead viewer) store := by
      funext item
      simp [keeps,admin]
    rw [filter_eq admin]
    rw [same] at shown ⊢
    refine iterate_ends _ _ (refetch_fills documented (one admin)) shown ?_
    cases next : tokens.position (searchHandler store maxResults token).nextPageToken with
    | none =>
      simp only
      omega
    | some offset =>
      have ahead := (shown.1.more offset next).1
      simp only
      omega

end OffsetSearch

section Walks
variable {Body : Type} {store : SearchStore Body} {tokens : PageTokens}
  {backing : List (Entity Body)} {maxResults : Nat} {keep : Item Body → Bool}

theorem endpoint_of_filter {filter : SearchResponse Body → Except Stop (SearchResponse Body)}
    {token : String} {response : SearchResponse Body}
    (filtered : filter (searchHandler store maxResults token) = .ok response) :
    endpoint store maxResults filter token = .ok (response.items,
      if response.nextPageToken = "" then none else some response.nextPageToken) := by
  simp only [endpoint,filtered]

/-- A client that walks over filled pages gets what is kept. -/
theorem walk_filled (documented : SearchDocumented store tokens backing maxResults)
    {filter : SearchResponse Body → Except Stop (SearchResponse Body)}
    (fills : ∀ token, tokens.Issued token → ∃ response,
      filter (searchHandler store maxResults token) = .ok response ∧
        FilledPage tokens backing keep maxResults (tokens.parseStartOffset token) response)
    {fuel : Nat} (enough : backing.length < fuel) :
    ∃ pages, walk .fuel (endpoint store maxResults filter) fuel "" = .ok pages ∧
      pages.flatten = (backing.map Entity.item).filter keep ∧
      ∀ page ∈ pages, page.length ≤ maxResults := by
  rw [← pick_eq]
  have served : ∀ token, tokens.Issued token → tokens.parseStartOffset token ≤ backing.length →
      ∃ page next, endpoint store maxResults filter token = .ok (page,next) ∧
        Served (pick keep) backing maxResults (tokens.parseStartOffset token) page
          (next.map tokens.parseStartOffset) ∧
        ∀ later, next = some later → tokens.Issued later := by
    intro token issued _
    obtain ⟨response,filtered,page,handed⟩ := fills token issued
    refine ⟨_,_,endpoint_of_filter filtered,?_,?_⟩
    · rw [position_eq]
      exact page
    · intro later next
      split at next
      · cases next
      · cases next
        exact handed
  exact walk_complete served (.inl rfl) documented.first enough

end Walks

/-- A client that follows the tokens of a filtered search gets the items that its permissions
keep, each once and in the order of the store, on pages of at most `max_results`; both its walk
and the loops of the server end. -/
theorem search_walk_complete {Body : Type} [DecidableEq Body] (search : OffsetSearch)
    (viewer : Viewer) (store : SearchStore Body) (tokens : PageTokens)
    (backing : List (Entity Body)) (maxResults : Nat) (positive : 1 ≤ maxResults)
    (documented : SearchDocumented store tokens backing maxResults)
    (one : search.OnePredicate viewer store backing) (fuel : Nat)
    (enough : backing.length < fuel) :
    ∃ pages, walk .fuel (endpoint store maxResults
        (search.filter viewer store tokens maxResults fuel)) fuel "" = .ok pages ∧
      pages.flatten = (backing.map Entity.item).filter (search.keeps viewer store) ∧
      ∀ page ∈ pages, page.length ≤ maxResults :=
  walk_filled documented
    (fun _ issued => OffsetSearch.filter_fills documented positive one enough issued) enough

section Fixed
variable {Body : Type}

/-- Tokens that spell an offset in unary. -/
def unaryTokens : PageTokens where
  create offset := String.ofList (List.replicate (offset + 1) '*')
  parseStartOffset token := token.length - 1

/-- A store over a fixed list. -/
def fixedStore (tokens : PageTokens) (backing : List (Entity Body))
    (getWorkspace : String → Except Failure (Option String)) : SearchStore Body where
  search maxResults token :=
    ⟨slice backing (tokens.parseStartOffset token) maxResults,
      if tokens.parseStartOffset token + maxResults < backing.length then
        some (tokens.create (tokens.parseStartOffset token + maxResults))
      else none⟩
  getWorkspace := getWorkspace

theorem fixedStore_documented (backing : List (Entity Body))
    (getWorkspace : String → Except Failure (Option String)) (maxResults : Nat) :
    SearchDocumented (fixedStore unaryTokens backing getWorkspace) unaryTokens backing maxResults where
  first := rfl
  decodes offset := by simp [unaryTokens]
  nonempty offset empty := by
    have size := congrArg String.length empty
    simp [unaryTokens] at size
  entities _ _ := rfl
  token _ _ := rfl

/-- A user who reads experiments 1 and 3, with workspaces off. -/
def oddReader : Viewer where
  config := .default
  isAdmin := false
  canReadExperiment name := decide (name ≠ "2")
  canReadRegisteredModel _ := false
  getWorkspacePermissionCached _ := none

def threeExperiments : List (Entity Unit) :=
  [⟨⟨"1",()⟩,some none⟩,⟨⟨"2",()⟩,some none⟩,⟨⟨"3",()⟩,some none⟩]

theorem search_walk_complete_odd :
    ∃ pages, walk .fuel (endpoint (fixedStore unaryTokens threeExperiments (fun _ => .ok none)) 1
        (OffsetSearch.experiments.filter oddReader
          (fixedStore unaryTokens threeExperiments (fun _ => .ok none)) unaryTokens 1 4)) 4 "" =
        .ok pages ∧
      pages.flatten = (threeExperiments.map Entity.item).filter
        (OffsetSearch.experiments.keeps oddReader
          (fixedStore unaryTokens threeExperiments (fun _ => .ok none))) ∧
      ∀ page ∈ pages, page.length ≤ 1 := by
  apply search_walk_complete
  · decide
  · exact fixedStore_documented _ _ _
  · intro _
    decide
  · decide

end Fixed
end MlflowOidcAuth
