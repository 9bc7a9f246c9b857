import MlflowOidcAuth.Library.PriorityOrder
import MlflowOidcAuth.Resolution.RegexErrors

/-! Regex rows of one priority, which `ORDER BY priority` returns in any order: when
the regex sources of the single and the bulk resolver do not depend on it. -/
namespace MlflowOidcAuth
open PriorityOrder

/-- What a row says of a name: its permission, or that its pattern does not compile. -/
def regexReport (engine : RegexEngine) (name : String) (row : SqlRegexPermission) :
    Option (Except Failure String) :=
  match reMatch engine row.regex name with
  | .ok true => some (.ok row.permission)
  | .ok false => none
  | .error failure => some (.error failure)

section Search
variable {engine : RegexEngine} {name : String} {rows first second : List SqlRegexPermission}

theorem matchRegexPermission_eq (label : String) :
    matchRegexPermission engine name label rows = (rows.findSome? (regexReport engine name)).getD
      (.error (.mlflow .resourceDoesNotExist (label ++ " " ++ name))) := by
  induction rows with
  | nil => rfl
  | cons row rest ih =>
    simp only [matchRegexPermission,List.findSome?_cons,regexReport]
    cases reMatch engine row.regex name with
    | error failure => rfl
    | ok hit =>
      cases hit with
      | true => rfl
      | false => exact ih

theorem findRegexPermission_eq :
    findRegexPermission engine name rows = ((rows.findSome? (regexReport engine name)).map
      (fun answer => answer.map some)).getD (.ok none) := by
  induction rows with
  | nil => rfl
  | cons row rest ih =>
    simp only [findRegexPermission,List.findSome?_cons,regexReport]
    cases reMatch engine row.regex name with
    | error failure => rfl
    | ok hit =>
      cases hit with
      | true => rfl
      | false => exact ih

/-- Listings of the same rows that resolve alike were answered alike. -/
theorem findSome?_of_match (label : String) (perm : first.Perm second)
    (same : matchRegexPermission engine name label first =
      matchRegexPermission engine name label second) :
    first.findSome? (regexReport engine name) = second.findSome? (regexReport engine name) := by
  simp only [matchRegexPermission_eq] at same
  cases found : first.findSome? (regexReport engine name) with
  | none => exact ((findSome?_perm_none perm).mp found).symm
  | some answer =>
    cases found' : second.findSome? (regexReport engine name) with
    | none =>
      rw [findSome?_perm_none perm.symm] at found'
      simp [found'] at found
    | some answer' =>
      rw [found,found'] at same
      exact congrArg some same

end Search

def Holder.regexSource : Holder → Source
  | .user => .regex
  | .group => .groupRegex

def Tables.isSearched (t : Tables) (holder : Holder) (family : Family) (prompt : Bool)
    (user : SqlUser) (row : SqlRegexPermission) : Bool :=
  match holder with
  | .user => decide (row.ownerId = user.id) && promptMatches family prompt row
  | .group => decide (row.ownerId ∈ t.groupIdsOf user) && promptMatches family prompt row

/-- The rows a regex source searches, in the order the table holds them. -/
def Tables.searchedRegex (t : Tables) (holder : Holder) (family : Family) (prompt : Bool)
    (user : SqlUser) : List SqlRegexPermission :=
  (t.regex holder family).filter (t.isSearched holder family prompt user)

/-- The same rows, the regex tables in another order. -/
structure RegexReordered (t t' : Tables) : Prop where
  regex : ∀ holder family, (t'.regex holder family).Perm (t.regex holder family)
  rest : t' = { t with
    userRegexPermissions := t'.userRegexPermissions
    groupRegexPermissions := t'.groupRegexPermissions }

/-- The permission a regex source of the single resolver answers. -/
def regexSource (env : Env) (t : Tables) (holder : Holder) (request : ResourceRequest) :
    Except Failure String := do
  let sources ← permissionRegistry env t request
  sources holder.regexSource

def Holder.regexes (holder : Holder) (fetched : FetchedPermissions) : List SqlRegexPermission :=
  match holder with
  | .user => fetched.regexPermissions
  | .group => fetched.groupRegexPermissions

/-- The permission a regex source of the bulk resolver answers. -/
def batchRegexSource (env : Env) (t : Tables) (kind : BatchKind) (holder : Holder)
    (username : String) (item : BatchItem) : Except Failure (Option String) := do
  let ctx ← buildUserPermissionContext t username
  findRegexPermission env.regex item.name (holder.regexes (kind.fetched ctx))

section Listing
variable {env : Env} {t t' : Tables} {holder : Holder} {family : Family} {prompt : Bool}
  {username : String} {user : SqlUser} {request : ResourceRequest} {shape : SourceShape}

theorem orderByPriority_listed (rows : List SqlRegexPermission) :
    Listed SqlRegexPermission.priority rows (Tables.orderByPriority rows) :=
  ⟨List.perm_insertionSort _ _,List.pairwise_insertionSort _ _⟩

theorem RegexReordered.getUser (reordered : RegexReordered t t') :
    t'.getUser username = t.getUser username := by
  rw [reordered.rest]
  rfl

theorem RegexReordered.groupIdsOf (reordered : RegexReordered t t') :
    t'.groupIdsOf user = t.groupIdsOf user := by
  rw [reordered.rest]
  rfl

theorem RegexReordered.isSearched (reordered : RegexReordered t t') :
    t'.isSearched holder family prompt user = t.isSearched holder family prompt user := by
  funext row
  simp only [Tables.isSearched,reordered.groupIdsOf]

theorem RegexReordered.searchedRegex (reordered : RegexReordered t t') :
    (t'.searchedRegex holder family prompt user).Perm
      (t.searchedRegex holder family prompt user) := by
  simp only [Tables.searchedRegex,reordered.isSearched]
  exact (reordered.regex holder family).filter _

theorem regexSource_of_shape (shaped : request.shape env = .ok shape) :
    regexSource env t holder request = (do
      let user ← t.getUser request.username
      let name ← shape.subject
      matchRegexPermission env.regex name shape.label
        (Tables.orderByPriority (t.searchedRegex holder shape.family shape.prompt user))) := by
  simp only [regexSource,permissionRegistry_eq,shaped,Except.map,bind,Except.bind]
  cases holder <;>
    simp only [Holder.regexSource,SourceShape.sources,buildSources,Tables.listRegexPermissions,
      Tables.getGroupsIdsForUser,bind,Except.bind,pure,Except.pure] <;>
    cases t.getUser request.username <;> cases shape.subject <;> rfl

theorem batchRegexSource_eq (kind : BatchKind) (item : BatchItem) :
    batchRegexSource env t kind holder username item = (do
      let user ← t.getUser username
      findRegexPermission env.regex item.name (Tables.orderByPriority
        (t.searchedRegex holder kind.family kind.resourceType.isPrompt user))) := by
  cases known : t.getUser username with
  | error failure =>
    simp [batchRegexSource,buildUserPermissionContext,Tables.getGroupsIdsForUser,known,bind,
      Except.bind]
  | ok user =>
    cases built : buildUserPermissionContext t username with
    | error failure =>
      simp [buildUserPermissionContext,Tables.getGroupsIdsForUser,Tables.listPermissionsForUser,
        Tables.listUserGroupsPermissions,Tables.listRegexPermissions,known,bind,Except.bind,pure,
        Except.pure] at built
    | ok ctx =>
      obtain ⟨_,_,_,listed,listedGroup⟩ := fetched_of_built known built kind
      simp only [batchRegexSource,built,bind,Except.bind]
      cases holder with
      | user =>
        simp only [Tables.listRegexPermissions,known,bind,Except.bind,pure,Except.pure,
          Except.ok.injEq] at listed
        rw [Holder.regexes,← listed]
        rfl
      | group =>
        rw [Holder.regexes,← listedGroup]
        rfl

/-- Every order `ORDER BY priority` allows is that of some order of the table. -/
theorem exists_reordered {listing : List SqlRegexPermission}
    (listed : Listed SqlRegexPermission.priority (t.searchedRegex holder family prompt user)
      listing) :
    ∃ t', RegexReordered t t' ∧
      Tables.orderByPriority (t'.searchedRegex holder family prompt user) = listing := by
  let others := (t.regex holder family).filter
    (fun row => !t.isSearched holder family prompt user row)
  have own : ∀ row ∈ listing, t.isSearched holder family prompt user row = true := fun row member =>
    (List.mem_filter.mp (listed.1.mem_iff.mp member)).2
  have foreign : ∀ row ∈ others, ¬t.isSearched holder family prompt user row = true := by
    intro row member
    simpa using (List.mem_filter.mp member).2
  have perm : (listing ++ others).Perm (t.regex holder family) :=
    (listed.1.append_right others).trans
      (List.filter_append_perm (t.isSearched holder family prompt user) (t.regex holder family))
  have reordered : RegexReordered t (t.withRegex holder family (listing ++ others)) := by
    refine ⟨?_,by cases holder <;> rfl⟩
    intro other otherFamily
    rw [Tables.regex_withRegex]
    split
    · rename_i same
      rw [same.1,same.2]
      exact perm
    · exact List.Perm.refl _
  refine ⟨_,reordered,?_⟩
  rw [Tables.searchedRegex,reordered.isSearched,Tables.regex_withRegex,if_pos ⟨rfl,rfl⟩,
    List.filter_append,List.filter_eq_self.mpr own,List.filter_eq_nil_iff.mpr foreign,
    List.append_nil]
  exact listed.2.insertionSort_eq

end Listing

section Settled
variable {env : Env} {t : Tables} {holder : Holder} {request : ResourceRequest}

/-- The rows of the lowest priority at which one matches the resource's name, or does
not compile, all say the same of it. -/
def RegexSettled (env : Env) (t : Tables) (holder : Holder) (request : ResourceRequest) : Prop :=
  ∀ shape user name, request.shape env = .ok shape →
    t.getUser request.username = .ok user → shape.subject = .ok name →
    Settled SqlRegexPermission.priority (regexReport env.regex name)
      (t.searchedRegex holder shape.family shape.prompt user)

theorem orderByPriority_searched {t' : Tables} (reordered : RegexReordered t t') (family : Family)
    (prompt : Bool) (user : SqlUser) :
    Listed SqlRegexPermission.priority (t.searchedRegex holder family prompt user)
      (Tables.orderByPriority (t'.searchedRegex holder family prompt user)) :=
  ⟨(orderByPriority_listed _).1.trans reordered.searchedRegex,(orderByPriority_listed _).2⟩

theorem regexSource_reordered (settled : RegexSettled env t holder request) {first second : Tables}
    (reordered : RegexReordered t first) (reordered' : RegexReordered t second) :
    regexSource env first holder request = regexSource env second holder request := by
  cases shaped : request.shape env with
  | error failure =>
    simp only [regexSource,permissionRegistry_eq,shaped,Except.map,bind,Except.bind]
  | ok shape =>
    rw [regexSource_of_shape shaped,regexSource_of_shape shaped,reordered.getUser,
      reordered'.getUser]
    cases known : t.getUser request.username with
    | error failure => rfl
    | ok user =>
      cases subject : shape.subject with
      | error failure => rfl
      | ok name =>
        simp only [bind,Except.bind,matchRegexPermission_eq]
        rw [findSome?_listed (settled shape user name shaped known subject)
          (orderByPriority_searched reordered _ _ _) (orderByPriority_searched reordered' _ _ _)]

theorem BatchKind.shape_of_stored {kind : BatchKind} {item : BatchItem} (username : String)
    (stored : kind.StoredName env item) :
    ∃ shape, (kind.request username item).shape env = .ok shape ∧ shape.family = kind.family ∧
      shape.prompt = kind.resourceType.isPrompt ∧ shape.subject = .ok item.name := by
  cases kind <;> refine ⟨_,rfl,rfl,rfl,?_⟩
  · exact stored
  · exact congrArg Except.ok stored
  · exact congrArg Except.ok stored

theorem batchRegexSource_reordered {kind : BatchKind} {item : BatchItem} {username : String}
    (stored : kind.StoredName env item)
    (settled : RegexSettled env t holder (kind.request username item)) {first second : Tables}
    (reordered : RegexReordered t first) (reordered' : RegexReordered t second) :
    batchRegexSource env first kind holder username item =
      batchRegexSource env second kind holder username item := by
  obtain ⟨shape,shaped,family,prompt,subject⟩ := BatchKind.shape_of_stored username stored
  rw [batchRegexSource_eq,batchRegexSource_eq,reordered.getUser,reordered'.getUser]
  cases known : t.getUser username with
  | error failure => rfl
  | ok user =>
    have agreed := settled shape user item.name shaped known subject
    rw [family,prompt] at agreed
    simp only [bind,Except.bind,findRegexPermission_eq]
    rw [findSome?_listed agreed (orderByPriority_searched reordered _ _ _)
      (orderByPriority_searched reordered' _ _ _)]

theorem regexSettled_of_reordered (same : ∀ first second, RegexReordered t first →
    RegexReordered t second →
      regexSource env first holder request = regexSource env second holder request) :
    RegexSettled env t holder request := by
  intro shape user name shaped known subject
  rw [settled_iff]
  intro first second listed listed'
  obtain ⟨firstTables,reordered,rfl⟩ := exists_reordered listed
  obtain ⟨secondTables,reordered',rfl⟩ := exists_reordered listed'
  have alike := same firstTables secondTables reordered reordered'
  rw [regexSource_of_shape shaped,regexSource_of_shape shaped,reordered.getUser,
    reordered'.getUser] at alike
  simp only [known,subject,bind,Except.bind] at alike
  exact findSome?_of_match shape.label (listed.1.trans listed'.1.symm) alike

/-- The regex sources of both resolvers answer the same whatever order the rows come in. -/
def OrderFree (env : Env) (t : Tables) (holder : Holder) (request : ResourceRequest) : Prop :=
  ∀ first second, RegexReordered t first → RegexReordered t second →
    regexSource env first holder request = regexSource env second holder request ∧
    ∀ (kind : BatchKind) item, kind.StoredName env item →
      kind.request request.username item = request →
        batchRegexSource env first kind holder request.username item =
          batchRegexSource env second kind holder request.username item

theorem orderFree_iff (env : Env) (t : Tables) (holder : Holder) (request : ResourceRequest) :
    OrderFree env t holder request ↔ RegexSettled env t holder request := by
  constructor
  · intro same
    exact regexSettled_of_reordered (fun first second reordered reordered' =>
      (same first second reordered reordered').1)
  · intro settled first second reordered reordered'
    refine ⟨regexSource_reordered settled reordered reordered',?_⟩
    intro kind item stored asked
    rw [← asked] at settled
    exact batchRegexSource_reordered stored settled reordered reordered'

/-- Alice's two groups each have a pattern for the model, with one priority. -/
def tiedPatterns (permissions : List SqlRegexPermission) : Tables :=
  { Tables.empty with
    users := [⟨1,"alice","Alice","",none,false,false⟩]
    groups := [⟨1,"readers"⟩,⟨2,"owners"⟩]
    userGroups := [⟨1,1,1⟩,⟨2,1,2⟩]
    groupRegexPermissions := fun
      | .registeredModel => permissions
      | _ => [] }

def readersPattern : SqlRegexPermission := ⟨1,"fraud",1,1,"READ",false⟩

def ownersPattern : SqlRegexPermission := ⟨2,"fraud",1,2,"MANAGE",false⟩

def tiedDatabase : Database := ⟨tiedPatterns [readersPattern,ownersPattern],by decide⟩

theorem tiedPatterns_reordered {first second : List SqlRegexPermission}
    (perm : second.Perm first) : RegexReordered (tiedPatterns first) (tiedPatterns second) := by
  refine ⟨?_,rfl⟩
  intro holder family
  cases holder with
  | user => exact List.Perm.refl _
  | group =>
    cases family with
    | registeredModel => exact perm
    | _ => exact List.Perm.refl _

def tiedEnv : Env := ⟨AppConfig.default,RegexEngine.literal,fun _ => .ok ""⟩

theorem tied_groups_unordered : ¬ ∀ (env : Env) (db : Database) (holder : Holder)
    (request : ResourceRequest), OrderFree env db.tables holder request := by
  intro law
  have swapped : [ownersPattern,readersPattern].Perm [readersPattern,ownersPattern] :=
    List.Perm.swap _ _ _
  have same := (law tiedEnv tiedDatabase .group ⟨.registeredModel,"fraud","alice",none⟩ _ _
    (tiedPatterns_reordered (List.Perm.refl _)) (tiedPatterns_reordered swapped)).1
  have reads : regexSource tiedEnv (tiedPatterns [readersPattern,ownersPattern]) .group
      ⟨.registeredModel,"fraud","alice",none⟩ = .ok "READ" := by decide
  have manages : regexSource tiedEnv (tiedPatterns [ownersPattern,readersPattern]) .group
      ⟨.registeredModel,"fraud","alice",none⟩ = .ok "MANAGE" := by decide
  rw [reads,manages] at same
  exact absurd same (by decide)

end Settled

end MlflowOidcAuth
