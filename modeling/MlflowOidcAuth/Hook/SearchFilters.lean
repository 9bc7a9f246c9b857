import Mathlib.Data.List.Lattice
import MlflowOidcAuth.Library.Paging
import MlflowOidcAuth.Resolution.Workspace

/-! The after-request filters of the search endpoints: items of the first page that the user
may not see are removed, and the page is filled up again from the store. -/
namespace MlflowOidcAuth
open KeyedCache Loop

/-- A listed item. Its name is what decides who reads it: the experiment's id, for a logged
model that of its experiment, or the registered model's name. -/
structure Item (Body : Type) where
  name : String
  body : Body
deriving DecidableEq, Repr

/-- An item as the store returns it, with the workspace attribute, which it may lack. -/
structure Entity (Body : Type) where
  item : Item Body
  workspace : Option (Option String)
deriving DecidableEq, Repr

structure PagedList (Body : Type) where
  entities : List (Entity Body)
  token : Option String

/-- MLflow's store, with the query of the request applied. -/
structure SearchStore (Body : Type) where
  search : Nat → String → PagedList Body
  /-- `get_experiment(id).workspace`, or `get_registered_model(name).workspace`. -/
  getWorkspace : String → Except Failure (Option String)

/-- MLflow's page tokens, with the query of the request in them where they carry it. -/
structure PageTokens where
  create : Nat → String
  parseStartOffset : String → Nat

structure SearchResponse (Body : Type) where
  items : List (Item Body)
  nextPageToken : String

/-- The user of the request, as the checks of the plugin see it. -/
structure Viewer where
  config : AppConfig
  isAdmin : Bool
  canReadExperiment : String → Bool
  canReadRegisteredModel : String → Bool
  getWorkspacePermissionCached : String → Option Permission

def Viewer.canAccessWorkspace (viewer : Viewer) (workspace : Option String) : Bool :=
  if viewer.config.mlflowEnableWorkspaces then
    match truthy workspace with
    | none => true
    | some name =>
      match viewer.getWorkspacePermissionCached name with
      | some perm => perm.canRead
      | none => false
  else true

/-- Why a filter does not return: an exception, or the fuel of its loop. -/
inductive Stop
  | raised (failure : Failure)
  | fuel
deriving DecidableEq, Repr

section Passes
variable {Body : Type} [DecidableEq Body]

/-- `for item in list(items): if not keep(item): items.remove(item)`. -/
def removeUnless {A : Type} [DecidableEq A] (keep : A → Bool) (items : List A) : List A :=
  items.foldl (fun left item => if keep item then left else left.erase item) items

abbrev WorkspaceMap := Cache String (Option String)

/-- The workspace of a name, or `None` when its lookup raises. -/
def lookUpWorkspace (store : SearchStore Body) (map : WorkspaceMap) (name : String) :
    WorkspaceMap :=
  map.set name (swallow (store.getWorkspace name))

def lookUpOnce (store : SearchStore Body) (map : WorkspaceMap) (name : String) : WorkspaceMap :=
  match map.get name with
  | some _ => map
  | none => lookUpWorkspace store map name

variable (viewer : Viewer) (canRead : String → Bool) (store : SearchStore Body)

def accessible (map : WorkspaceMap) (item : Item Body) : Bool :=
  viewer.canAccessWorkspace (map.get item.name).join

/-- The first page of experiments and of registered models: all workspaces are looked up, then
the items are removed. -/
def filterPage (items : List (Item Body)) : List (Item Body) :=
  let readable := removeUnless (fun item => canRead item.name) items
  if viewer.config.mlflowEnableWorkspaces then
    let map := readable.foldl (fun map item => lookUpWorkspace store map item.name) Cache.empty
    removeUnless (accessible viewer map) readable
  else readable

/-- The first page of model versions: one lookup for each model, while the items are removed. -/
def filterVersionsPage (items : List (Item Body)) : List (Item Body) :=
  let readable := removeUnless (fun item => canRead item.name) items
  if viewer.config.mlflowEnableWorkspaces then
    (readable.foldl (fun (left,map) item =>
      let map := lookUpOnce store map item.name
      (if accessible viewer map item then left else left.erase item,map))
      (readable,(Cache.empty : WorkspaceMap))).1
  else readable

/-- The first page of logged models: one lookup for each experiment, which the refetch reuses. -/
def filterLoggedPage (items : List (Item Body)) : List (Item Body) × WorkspaceMap :=
  let readable := removeUnless (fun item => canRead item.name) items
  if viewer.config.mlflowEnableWorkspaces then
    let map := readable.foldl (fun map item => lookUpOnce store map item.name) Cache.empty
    (removeUnless (accessible viewer map) readable,map)
  else (readable,Cache.empty)

end Passes

section Refetch
variable {Body : Type} (viewer : Viewer) (canRead : String → Bool) (store : SearchStore Body)
  (tokens : PageTokens) (maxResults : Nat)

/-- `e.workspace` is read of an entity that the user may read, and raises if it lacks one. -/
def mayList (entity : Entity Body) : Except Failure Bool :=
  if canRead entity.item.name then
    match entity.workspace with
    | some workspace => .ok (viewer.canAccessWorkspace workspace)
    | none => .error (.other "AttributeError: workspace")
  else .ok false

/-- `getattr(mv, "workspace", None)`. -/
def mayListVersion (entity : Entity Body) : Except Failure Bool :=
  .ok (canRead entity.item.name && viewer.canAccessWorkspace entity.workspace.join)

def readableProto (keep : Entity Body → Except Failure Bool) :
    List (Entity Body) → Except Failure (List (Item Body))
  | [] => .ok []
  | entity :: rest => do
    let kept ← keep entity
    let others ← readableProto keep rest
    return if kept then entity.item :: others else others

/-- One pass of the loop that fills a page up, on the items and the token of the response. -/
def refetch (keep : Entity Body → Except Failure Bool) (response : SearchResponse Body) :
    Except Stop (Next (SearchResponse Body) (SearchResponse Body)) :=
  if response.items.length < maxResults ∧ response.nextPageToken ≠ "" then
    let remaining := maxResults - response.items.length
    let refetched := (store.search maxResults response.nextPageToken).entities.take remaining
    if refetched.length = 0 then .ok (.leave ⟨response.items,""⟩)
    else
      match readableProto keep refetched with
      | .error failure => .error (.raised failure)
      | .ok readable =>
        let startOffset := tokens.parseStartOffset response.nextPageToken
        let finalOffset := startOffset + refetched.length
        .ok (.goOn ⟨response.items ++ readable,tokens.create finalOffset⟩)
  else .ok (.leave response)

def filterSearch (keepPage : List (Item Body) → List (Item Body))
    (keep : Entity Body → Except Failure Bool) (fuel : Nat) (response : SearchResponse Body) :
    Except Stop (SearchResponse Body) :=
  if viewer.isAdmin then .ok response
  else iterate .fuel (refetch store tokens maxResults keep) fuel
    ⟨keepPage response.items,response.nextPageToken⟩

variable [DecidableEq Body]

def filterSearchExperiments (fuel : Nat) (response : SearchResponse Body) :
    Except Stop (SearchResponse Body) :=
  filterSearch viewer store tokens maxResults (filterPage viewer viewer.canReadExperiment store)
    (mayList viewer viewer.canReadExperiment) fuel response

def filterSearchRegisteredModels (fuel : Nat) (response : SearchResponse Body) :
    Except Stop (SearchResponse Body) :=
  filterSearch viewer store tokens maxResults
    (filterPage viewer viewer.canReadRegisteredModel store)
    (mayList viewer viewer.canReadRegisteredModel) fuel response

def filterSearchModelVersions (fuel : Nat) (response : SearchResponse Body) :
    Except Stop (SearchResponse Body) :=
  filterSearch viewer store tokens maxResults
    (filterVersionsPage viewer viewer.canReadRegisteredModel store)
    (mayListVersion viewer viewer.canReadRegisteredModel) fuel response

end Refetch

section Logged
variable {Body : Type} (viewer : Viewer) (store : SearchStore Body) (tokens : PageTokens)
  (maxResults : Nat)

/-- The state of the filter of logged models. -/
structure LoggedPage (Body : Type) where
  models : List (Item Body)
  map : WorkspaceMap
  nextPageToken : Option String

def mayListLogged (map : WorkspaceMap) (item : Item Body) : Bool × WorkspaceMap :=
  if viewer.canReadExperiment item.name then
    if viewer.config.mlflowEnableWorkspaces then
      let map := lookUpOnce store map item.name
      (accessible viewer map item,map)
    else (true,map)
  else (false,map)

/-- The scan of a batch from an index on: the models and the map after it and, if the page
filled up, the token it ended with. -/
def scanBatch (isLastPage : Bool) (lastIndex : Int) (offset : Nat) :
    Nat → List (Entity Body) → List (Item Body) → WorkspaceMap →
      List (Item Body) × WorkspaceMap × Option (Option String)
  | _,[],models,map => (models,map,none)
  | index,model :: rest,models,map =>
    let (kept,map) := mayListLogged viewer store map model.item
    if kept then
      let models := models ++ [model.item]
      if maxResults ≤ models.length then
        (models,map,some (if isLastPage ∧ (index : Int) = lastIndex then none
          else some (tokens.create (offset + index + 1))))
      else scanBatch isLastPage lastIndex offset (index + 1) rest models map
    else scanBatch isLastPage lastIndex offset (index + 1) rest models map

def refetchLogged (page : LoggedPage Body) :
    Except Stop (Next (LoggedPage Body) (LoggedPage Body)) :=
  match page.nextPageToken with
  | none => .ok (.leave page)
  | some token =>
    if page.models.length < maxResults then
      let batch := store.search maxResults token
      let isLastPage := batch.token.isNone
      let offset := if token = "" then 0 else tokens.parseStartOffset token
      let lastIndex := (batch.entities.length : Int) - 1
      match scanBatch viewer store tokens maxResults isLastPage lastIndex offset 0 batch.entities
        page.models page.map with
      | (models,map,some nextPageToken) => .ok (.goOn ⟨models,map,nextPageToken⟩)
      | (models,map,none) =>
        .ok (.goOn ⟨models,map,
          if isLastPage then none else some (tokens.create (offset + maxResults))⟩)
    else .ok (.leave page)

variable [DecidableEq Body]

def filterSearchLoggedModels (fuel : Nat) (response : SearchResponse Body) :
    Except Stop (SearchResponse Body) :=
  if viewer.isAdmin then .ok response
  else
    let (models,map) := filterLoggedPage viewer viewer.canReadExperiment store response.items
    let nextPageToken :=
      if response.nextPageToken = "" then none else some response.nextPageToken
    match iterate .fuel (refetchLogged viewer store tokens maxResults) fuel
      ⟨models,map,nextPageToken⟩ with
    | .error stop => .error stop
    | .ok page => .ok ⟨page.models,page.nextPageToken.getD ""⟩

end Logged

/-- MLflow's own answer to a search. -/
def searchHandler {Body : Type} (store : SearchStore Body) (maxResults : Nat) (pageToken : String) :
    SearchResponse Body :=
  let page := store.search maxResults pageToken
  ⟨page.entities.map Entity.item,page.token.getD ""⟩

end MlflowOidcAuth
