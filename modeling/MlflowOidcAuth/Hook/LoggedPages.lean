import MlflowOidcAuth.Hook.SearchPages

/-! The search for logged models, whose filter counts offsets of its own: behind the model that
filled a page up, or behind a page of the store that did not. -/
namespace MlflowOidcAuth
open KeyedCache Loop Paging

section Scan
variable {Body : Type} {viewer : Viewer} {store : SearchStore Body} {tokens : PageTokens}
  {backing : List (Entity Body)} {maxResults start : Nat} {map : WorkspaceMap}

/-- The models that the user may see. -/
def keepsLogged (viewer : Viewer) (store : SearchStore Body) : Item Body → Bool :=
  keepsItem viewer viewer.canReadExperiment store

theorem mayListLogged_eq (remembers : Remembers store map) (item : Item Body) :
    (mayListLogged viewer store map item).1 = keepsLogged viewer store item ∧
      Remembers store (mayListLogged viewer store map item).2 := by
  unfold mayListLogged keepsLogged keepsItem
  cases viewer.canReadExperiment item.name with
  | false => exact ⟨rfl,remembers⟩
  | true =>
    cases enabled : viewer.config.mlflowEnableWorkspaces with
    | false => exact ⟨by simp [Viewer.canAccessWorkspace,enabled],remembers⟩
    | true =>
      simp only [if_true,Bool.true_and]
      exact ⟨accessible_known (remembers.lookUpOnce item.name) (known_lookUpOnce (.inl rfl)),
        remembers.lookUpOnce item.name⟩

/-- What a scan of the rest of a batch comes to: it went through it with room left, or filled
the page up with the model at some index. -/
def Scanned (viewer : Viewer) (store : SearchStore Body) (tokens : PageTokens) (maxResults : Nat)
    (isLastPage : Bool) (lastIndex : Int) (offset index : Nat) (rest : List (Entity Body))
    (models models' : List (Item Body)) (next : Option (Option String)) : Prop :=
  (next = none ∧ models' = models ++ rest.filterMap (pick (keepsLogged viewer store)) ∧
    models'.length < maxResults) ∨
  ∃ count < rest.length,
    models' = models ++ (rest.take (count + 1)).filterMap (pick (keepsLogged viewer store)) ∧
      models'.length = maxResults ∧
      next = some (if isLastPage = true ∧ ((index + count : Nat) : Int) = lastIndex then none
        else some (tokens.create (offset + (index + count) + 1)))

/-- What is shown of the first model comes before what the rest adds. -/
theorem Scanned.cons {isLastPage : Bool} {lastIndex : Int} {offset index : Nat}
    {model : Entity Body} {rest : List (Entity Body)} {models models' shown : List (Item Body)}
    {next : Option (Option String)}
    (first : [model].filterMap (pick (keepsLogged viewer store)) = shown)
    (later : Scanned viewer store tokens maxResults isLastPage lastIndex offset (index + 1) rest
      (models ++ shown) models' next) :
    Scanned viewer store tokens maxResults isLastPage lastIndex offset index (model :: rest) models
      models' next := by
  have whole : ∀ others : List (Entity Body),
      (model :: others).filterMap (pick (keepsLogged viewer store)) =
        shown ++ others.filterMap (pick (keepsLogged viewer store)) := by
    intro others
    rw [← first,← List.filterMap_append]
    rfl
  rcases later with ⟨goes,added,room⟩ | ⟨count,inside,added,full,stops⟩
  · left
    rw [whole,← List.append_assoc]
    exact ⟨goes,added,room⟩
  · right
    have further : index + 1 + count = index + (count + 1) := by omega
    refine ⟨count + 1,Nat.succ_lt_succ inside,?_,full,?_⟩
    · rw [List.take_succ_cons,whole,← List.append_assoc]
      exact added
    · rw [stops,further]

theorem scanBatch_scanned (isLastPage : Bool) (lastIndex : Int) (offset : Nat)
    (rest : List (Entity Body)) (index : Nat) (models : List (Item Body))
    (remembers : Remembers store map) (room : models.length < maxResults) :
    ∃ models' map' next, scanBatch viewer store tokens maxResults isLastPage lastIndex offset index
        rest models map = (models',map',next) ∧ Remembers store map' ∧
      Scanned viewer store tokens maxResults isLastPage lastIndex offset index rest models models'
        next := by
  induction rest generalizing index models map with
  | nil => exact ⟨models,map,none,rfl,remembers,.inl ⟨rfl,by simp,room⟩⟩
  | cons model rest ih =>
    have decision : (mayListLogged viewer store map model.item).1 =
          keepsLogged viewer store model.item ∧
        Remembers store (mayListLogged viewer store map model.item).2 :=
      mayListLogged_eq remembers model.item
    rcases decided : mayListLogged viewer store map model.item with ⟨kept,map'⟩
    rw [decided] at decision
    obtain ⟨keeps,remembers'⟩ := decision
    simp only [scanBatch,decided]
    cases kept with
    | false =>
      have hidden : [model].filterMap (pick (keepsLogged viewer store)) = [] := by
        simp [pick,← keeps]
      obtain ⟨models',map'',next,scans,remembers'',scanned⟩ := ih (index + 1) models remembers' room
      refine ⟨models',map'',next,scans,remembers'',.cons hidden ?_⟩
      rw [List.append_nil]
      exact scanned
    | true =>
      have shown : [model].filterMap (pick (keepsLogged viewer store)) = [model.item] := by
        simp [pick,← keeps]
      by_cases full : maxResults ≤ (models ++ [model.item]).length
      · simp only [if_true,full]
        refine ⟨_,map',_,rfl,remembers',.inr ⟨0,Nat.succ_pos _,?_,?_,?_⟩⟩
        · rw [List.take_succ_cons,List.take_zero,shown]
        · simp only [List.length_append,List.length_singleton] at full ⊢
          omega
        · rfl
      · simp only [if_true,full,if_false]
        obtain ⟨models',map'',next,scans,remembers'',scanned⟩ :=
          ih (index + 1) (models ++ [model.item]) remembers' (Nat.lt_of_not_le full)
        exact ⟨models',map'',next,scans,remembers'',.cons shown scanned⟩

/-- The page so far and its token cover the models from an offset on. -/
structure LoggedFilled (viewer : Viewer) (store : SearchStore Body) (tokens : PageTokens)
    (backing : List (Entity Body)) (maxResults start : Nat) (page : LoggedPage Body) : Prop where
  served : Served (pick (keepsLogged viewer store)) backing maxResults start page.models
    (page.nextPageToken.map tokens.parseStartOffset)
  issued : ∀ token, page.nextPageToken = some token → token ≠ "" ∧ tokens.Issued token
  remembers : Remembers store page.map

theorem loggedFilled_more (documented : SearchDocumented store tokens backing maxResults)
    {models : List (Item Body)} {stop : Nat} (bounded : models.length ≤ maxResults)
    (ahead : start < stop) (inside : stop ≤ backing.length)
    (covers : Covers (pick (keepsLogged viewer store)) backing start stop models)
    (remembers : Remembers store map) :
    LoggedFilled viewer store tokens backing maxResults start
      ⟨models,map,some (tokens.create stop)⟩ := by
  refine ⟨⟨bounded,?_,?_⟩,?_,remembers⟩
  · intro later stops
    simp only [Option.map_some,documented.decodes,Option.some.injEq] at stops
    rw [← stops]
    exact ⟨ahead,inside,covers⟩
  · intro none_next
    cases none_next
  · intro token handed
    simp only [Option.some.injEq] at handed
    rw [← handed]
    exact ⟨documented.nonempty stop,.inr ⟨stop,rfl⟩⟩

theorem loggedFilled_done {models : List (Item Body)} {stop : Nat}
    (bounded : models.length ≤ maxResults) (reached : backing.length ≤ stop)
    (covers : Covers (pick (keepsLogged viewer store)) backing start stop models)
    (remembers : Remembers store map) :
    LoggedFilled viewer store tokens backing maxResults start ⟨models,map,none⟩ := by
  refine ⟨⟨bounded,?_,fun _ => ⟨stop,reached,covers⟩⟩,?_,remembers⟩
  · intro later stops
    cases stops
  · intro token handed
    cases handed

theorem refetchLogged_scanned {models models' : List (Item Body)} {map map' : WorkspaceMap}
    {token : String} {next : Option (Option String)} (nonempty : token ≠ "")
    (room : models.length < maxResults)
    (scans : scanBatch viewer store tokens maxResults
      (store.search maxResults token).token.isNone
      (((store.search maxResults token).entities.length : Int) - 1)
      (tokens.parseStartOffset token) 0 (store.search maxResults token).entities models map =
        (models',map',next)) :
    refetchLogged viewer store tokens maxResults ⟨models,map,some token⟩ =
      .ok (.goOn ⟨models',map',next.getD (if (store.search maxResults token).token.isNone then none
        else some (tokens.create (tokens.parseStartOffset token + maxResults)))⟩) := by
  simp only [refetchLogged,room,if_true,nonempty,if_false,scans]
  cases next <;> rfl

/-- The step lemma of the loop over the batches. -/
theorem refetchLogged_fills (documented : SearchDocumented store tokens backing maxResults)
    (page : LoggedPage Body)
    (filled : LoggedFilled viewer store tokens backing maxResults start page) :
    ∃ next, refetchLogged viewer store tokens maxResults page = .ok next ∧
      Advances (LoggedFilled viewer store tokens backing maxResults start)
        (LoggedFilled viewer store tokens backing maxResults start)
        (fun page => match page.nextPageToken with
          | none => 0
          | some token => backing.length + 1 - tokens.parseStartOffset token) page next := by
  obtain ⟨models,map,pageToken⟩ := page
  cases pageToken with
  | none => exact ⟨.leave ⟨models,map,none⟩,rfl,filled⟩
  | some token =>
    obtain ⟨served,issued,remembers⟩ := filled
    obtain ⟨ahead,inside,covers⟩ := served.more _ rfl
    obtain ⟨nonempty,handed⟩ := issued token rfl
    by_cases room : models.length < maxResults
    · have entities := documented.entities token handed
      have last := documented.token token handed
      have size := slice_length backing (tokens.parseStartOffset token) maxResults
      have scan : ∃ models' map' next, scanBatch viewer store tokens maxResults
          (store.search maxResults token).token.isNone
          (((store.search maxResults token).entities.length : Int) - 1)
          (tokens.parseStartOffset token) 0 (store.search maxResults token).entities models map =
            (models',map',next) ∧ Remembers store map' ∧ Scanned viewer store tokens maxResults
              (store.search maxResults token).token.isNone
              (((store.search maxResults token).entities.length : Int) - 1)
              (tokens.parseStartOffset token) 0 (store.search maxResults token).entities models
              models' next :=
        scanBatch_scanned _ _ _ _ _ _ remembers room
      obtain ⟨models',map',next,scans,remembers',scanned⟩ := scan
      refine ⟨_,refetchLogged_scanned nonempty room scans,?_⟩
      clear scans
      rw [entities,last] at scanned
      rw [last]
      rcases scanned with ⟨rfl,added,left⟩ | ⟨count,within,added,full,rfl⟩
      · -- The whole batch was scanned, and the page has room left.
        have onward := covers.append (covers_slice (pick (keepsLogged viewer store)) backing
          (tokens.parseStartOffset token) maxResults)
        rw [← added] at onward
        by_cases more : tokens.parseStartOffset token + maxResults < backing.length
        · simp only [more,if_true,Option.isNone_some,Bool.false_eq_true,if_false,Option.getD_none]
          refine ⟨loggedFilled_more documented left.le (by omega) more.le onward remembers',?_⟩
          simp only [documented.decodes]
          omega
        · simp only [more,if_false,Option.isNone_none,if_true,Option.getD_none]
          refine ⟨loggedFilled_done left.le (Nat.le_of_not_lt more) onward remembers',?_⟩
          simp only
          omega
      · -- The page filled up with the model at this index of the batch.
        have scanned_slice : (slice backing (tokens.parseStartOffset token) maxResults).take
            (count + 1) = slice backing (tokens.parseStartOffset token) (count + 1) := by
          rw [take_slice,min_eq_left (by omega)]
        have onward := covers.append (covers_slice (pick (keepsLogged viewer store)) backing
          (tokens.parseStartOffset token) (count + 1))
        rw [← scanned_slice,← added] at onward
        have forward : tokens.parseStartOffset token + (0 + count) + 1 =
            tokens.parseStartOffset token + (count + 1) := by omega
        have goesOn : LoggedFilled viewer store tokens backing maxResults start ⟨models',map',
            some (tokens.create (tokens.parseStartOffset token + (count + 1)))⟩ :=
          loggedFilled_more documented full.le (by omega) (by omega) onward remembers'
        rw [Option.getD_some,forward]
        by_cases more : tokens.parseStartOffset token + maxResults < backing.length
        · simp only [more,if_true,Option.isNone_some,Bool.false_eq_true,false_and,if_false]
          refine ⟨goesOn,?_⟩
          simp only [documented.decodes]
          omega
        · simp only [more,if_false,Option.isNone_none,true_and]
          by_cases lastModel : ((0 + count : Nat) : Int) =
              ((slice backing (tokens.parseStartOffset token) maxResults).length : Int) - 1
          · rw [if_pos lastModel]
            refine ⟨loggedFilled_done full.le (by omega) onward remembers',?_⟩
            simp only
            omega
          · rw [if_neg lastModel]
            refine ⟨goesOn,?_⟩
            simp only [documented.decodes]
            omega
    · refine ⟨.leave ⟨models,map,some token⟩,?_,⟨served,issued,remembers⟩⟩
      simp only [refetchLogged,room,if_false]

end Scan

section Logged
variable {Body : Type} [DecidableEq Body] (viewer : Viewer) (store : SearchStore Body)
  (tokens : PageTokens) (backing : List (Entity Body)) (maxResults : Nat)

/-- The logged models that the user may see; administrators see all. -/
def readsLogged (item : Item Body) : Bool := viewer.isAdmin || keepsLogged viewer store item

variable {store tokens backing maxResults}
variable (documented : SearchDocumented store tokens backing maxResults) (positive : 1 ≤ maxResults)
include documented positive

/-- A filtered search for logged models answers, with a page that covers the models from its
offset on. -/
theorem filterSearchLoggedModels_fills {fuel : Nat} (enough : backing.length < fuel)
    {token : String} (issued : tokens.Issued token) :
    ∃ response, filterSearchLoggedModels viewer store tokens maxResults fuel
        (searchHandler store maxResults token) = .ok response ∧
      FilledPage tokens backing (readsLogged viewer store) maxResults
        (tokens.parseStartOffset token) response := by
  cases admin : viewer.isAdmin with
  | true =>
    have all : ∀ item, readsLogged viewer store item = true := by
      intro item
      simp [readsLogged,admin]
    exact ⟨_,if_pos admin,handler_unfiltered documented all positive issued⟩
  | false =>
    have shown := handler_filled documented (readsLogged viewer store) positive issued
    have same : readsLogged viewer store = keepsLogged viewer store := by
      funext item
      simp [readsLogged,admin]
    rw [same] at shown ⊢
    have pass : (filterLoggedPage viewer viewer.canReadExperiment store
          (searchHandler store maxResults token).items).1 =
        (searchHandler store maxResults token).items.filter (keepsLogged viewer store) ∧
        Remembers store (filterLoggedPage viewer viewer.canReadExperiment store
          (searchHandler store maxResults token).items).2 := filterLoggedPage_eq _
    rcases passed : filterLoggedPage viewer viewer.canReadExperiment store
      (searchHandler store maxResults token).items with ⟨models,map⟩
    rw [passed] at pass
    obtain ⟨kept,remembers⟩ := pass
    simp only at kept remembers
    rw [← kept] at shown
    have start : LoggedFilled viewer store tokens backing maxResults (tokens.parseStartOffset token)
        ⟨models,map,if (searchHandler store maxResults token).nextPageToken = "" then none
          else some (searchHandler store maxResults token).nextPageToken⟩ := by
      refine ⟨?_,?_,remembers⟩
      · rw [position_eq]
        exact shown.1
      · intro next handed
        split at handed
        · cases handed
        · next nonempty =>
          cases handed
          exact ⟨nonempty,shown.2⟩
    have ends : ∃ page, iterate .fuel (refetchLogged viewer store tokens maxResults) fuel
          ⟨models,map,if (searchHandler store maxResults token).nextPageToken = "" then none
            else some (searchHandler store maxResults token).nextPageToken⟩ = .ok page ∧
        LoggedFilled viewer store tokens backing maxResults (tokens.parseStartOffset token) page := by
      refine iterate_ends _ _ (refetchLogged_fills documented) start ?_
      by_cases empty : (searchHandler store maxResults token).nextPageToken = ""
      · simp only [empty,if_true]
        omega
      · have ahead : tokens.parseStartOffset token <
            tokens.parseStartOffset (searchHandler store maxResults token).nextPageToken :=
          (shown.1.more _ (if_neg empty)).1
        simp only [empty,if_false]
        omega
    obtain ⟨page,ended,filled⟩ := ends
    refine ⟨⟨page.models,page.nextPageToken.getD ""⟩,?_,?_⟩
    · simp only [filterSearchLoggedModels,admin,Bool.false_eq_true,if_false,passed,ended]
    · obtain ⟨served,handed,_⟩ := filled
      cases next : page.nextPageToken with
      | none =>
        rw [next] at served
        exact ⟨served,.inl rfl⟩
      | some later =>
        obtain ⟨nonempty,issued'⟩ := handed later next
        rw [next] at served
        refine ⟨?_,issued'⟩
        rw [Option.getD_some,PageTokens.position,if_neg nonempty]
        exact served

end Logged

/-- A client that follows the tokens of the search for logged models gets every model that the
user can read, once and in the order of the store, on pages of at most `max_results`; the walk
ends, and a page without a token has all that is left of the list. -/
theorem logged_walk_complete {Body : Type} [DecidableEq Body] (viewer : Viewer)
    (store : SearchStore Body) (tokens : PageTokens) (backing : List (Entity Body))
    (maxResults : Nat) (positive : 1 ≤ maxResults)
    (documented : SearchDocumented store tokens backing maxResults) (fuel : Nat)
    (enough : backing.length < fuel) :
    (∃ pages, walk .fuel (endpoint store maxResults
        (filterSearchLoggedModels viewer store tokens maxResults fuel)) fuel "" = .ok pages ∧
      pages.flatten = (backing.map Entity.item).filter (readsLogged viewer store) ∧
      ∀ page ∈ pages, page.length ≤ maxResults) ∧
    ∀ token, tokens.Issued token → ∀ page, endpoint store maxResults
        (filterSearchLoggedModels viewer store tokens maxResults fuel) token = .ok (page,none) →
      page = ((backing.drop (tokens.parseStartOffset token)).map Entity.item).filter
        (readsLogged viewer store) := by
  constructor
  · exact walk_filled documented
      (fun _ issued => filterSearchLoggedModels_fills viewer documented positive enough issued) enough
  · intro token issued page answered
    obtain ⟨response,filtered,served,_⟩ :=
      filterSearchLoggedModels_fills viewer documented positive enough issued
    rw [endpoint_of_filter filtered] at answered
    simp only [Except.ok.injEq,Prod.mk.injEq] at answered
    obtain ⟨shown,absent⟩ := answered
    have ended : tokens.position response.nextPageToken = none := by
      rw [← position_eq,absent]
      rfl
    obtain ⟨stop,reached,covers⟩ := served.done ended
    rw [← shown,covers.rest reached,pick_eq]

theorem logged_walk_complete_odd :
    (∃ pages, walk .fuel (endpoint (fixedStore unaryTokens threeExperiments (fun _ => .ok none)) 1
        (filterSearchLoggedModels oddReader
          (fixedStore unaryTokens threeExperiments (fun _ => .ok none)) unaryTokens 1 4)) 4 "" =
        .ok pages ∧
      pages.flatten = (threeExperiments.map Entity.item).filter (readsLogged oddReader
        (fixedStore unaryTokens threeExperiments (fun _ => .ok none))) ∧
      ∀ page ∈ pages, page.length ≤ 1) ∧
    ∀ token, unaryTokens.Issued token → ∀ page, endpoint
        (fixedStore unaryTokens threeExperiments (fun _ => .ok none)) 1
        (filterSearchLoggedModels oddReader
          (fixedStore unaryTokens threeExperiments (fun _ => .ok none)) unaryTokens 1 4) token =
            .ok (page,none) →
      page = ((threeExperiments.drop (unaryTokens.parseStartOffset token)).map Entity.item).filter
        (readsLogged oddReader
          (fixedStore unaryTokens threeExperiments (fun _ => .ok none))) := by
  apply logged_walk_complete
  · decide
  · exact fixedStore_documented _ _ _
  · decide

end MlflowOidcAuth
