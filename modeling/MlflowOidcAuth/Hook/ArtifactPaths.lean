import Mathlib.Data.List.Triplewise
import MlflowOidcAuth.Hook.Dispatch
import MlflowOidcAuth.Library.TextSearch

/-! Proxied artifact paths. The validators take the experiment from two patterns, the quota
hooks split the path at its slashes; the experiment meant is the one whose directory the
path lies in. -/
namespace MlflowOidcAuth
open TextSearch

namespace CharClasses
variable (classes : CharClasses)

def workspaceName (c : Char) : Bool := classes.word c || c == '-'

/-- `_EXPERIMENT_ID_PATTERN`, its group. -/
def experimentIdPattern (artifactPath : List Char) : Option (List Char) :=
  (runTo '/' classes.digit artifactPath).map Prod.fst

/-- `_WORKSPACES_EXPERIMENT_ID_PATTERN`, its third group. -/
def workspacesExperimentIdPattern (artifactPath : List Char) : Option (List Char) :=
  (artifactPath.dropPrefix? "workspaces/".toList).bind (fun named =>
    (runTo '/' classes.workspaceName named).bind (fun name =>
      classes.experimentIdPattern name.2))

/-- A directory of this name is an experiment's. -/
def IsExperimentId (experimentId : String) : Prop :=
  experimentId.toList ≠ [] ∧ ∀ c ∈ experimentId.toList, classes.digit c = true

end CharClasses

section Requests
variable (classes : CharClasses) (request : FlaskRequest)

def getExperimentIdFromViewArgs : Option String :=
  (truthy (request.viewArg "artifact_path")).bind (fun artifactPath =>
    ((classes.experimentIdPattern artifactPath.toList).or
      (classes.workspacesExperimentIdPattern artifactPath.toList)).map String.ofList)

/-- Whose permission the three artifact validators look at. -/
def getPermissionFromExperimentIdArtifactProxy (config : AppConfig)
    (effectiveExperimentPermission : String → String → Except Failure Permission)
    (username : String) : Except Failure Permission :=
  match getExperimentIdFromViewArgs classes request with
  | some experimentId => effectiveExperimentPermission experimentId username
  | none => getPermission config.defaultMlflowPermission

/-- The experiment that the quota hooks take from the path of a request. -/
def experimentOfRemainder : Option String :=
  let remainder := request.path.toList.drop proxyArtifactPrefix.toList.length
  truthy (some (String.ofList (remainder.takeWhile (fun c => decide (c ≠ '/')))))

/-- `_reconcile_quota_after_artifact_delete`: the owner whose usage is counted again. -/
def reconcileQuotaAfterArtifactDelete (services : HookServices) :
    Except Failure (Option String) :=
  match experimentOfRemainder request with
  | none => .ok none
  | some experimentId => (services.experimentOwner experimentId).map truthy

/-- A request of the proxy's routes for an artifact under this path. -/
def FlaskRequest.forArtifact (method : Method) (artifactPath : String) : FlaskRequest :=
  { request with
    path := proxyArtifactPrefix ++ artifactPath
    method := method
    viewArgs := some [("artifact_path",artifactPath)] }

end Requests

/-- The path lies in the directory of the experiment, at the root or in a workspace's. -/
def LiesIn (experimentId artifactPath : String) : Prop :=
  [experimentId.toList] <+: artifactPath.toList.splitOn '/' ∨
    ∃ name, name ≠ [] ∧
      ["workspaces".toList,name,experimentId.toList] <+: artifactPath.toList.splitOn '/'

section Agreement
variable (classes : CharClasses) (request : FlaskRequest) (experimentId : String)

/-- The validators ask for the permission on this experiment. -/
def AuthorisedAs : Prop :=
  ∀ (config : AppConfig) (effectiveExperimentPermission : String → String → Except Failure Permission)
    (username : String), getPermissionFromExperimentIdArtifactProxy classes request config
      effectiveExperimentPermission username = effectiveExperimentPermission experimentId username

/-- `_check_quota` charges the owner of this experiment. -/
def ChargedTo : Prop :=
  ∀ (services : HookServices) (username : String), quotaCharge services request username =
    chargeOwner services experimentId request.contentLength

/-- The usage of the owner of this experiment is counted again. -/
def ReconciledFor : Prop :=
  ∀ services : HookServices, reconcileQuotaAfterArtifactDelete request services =
    (services.experimentOwner experimentId).map truthy

/-- Requests for the path are authorised, charged and reconciled as the experiment's exactly
when it lies in the experiment's directory. -/
structure SameExperiment (artifactPath : String) : Prop where
  authorised : ∀ method, AuthorisedAs classes (request.forArtifact method artifactPath)
    experimentId ↔ LiesIn experimentId artifactPath
  charged : ChargedTo (request.forArtifact .put artifactPath) experimentId ↔
    LiesIn experimentId artifactPath
  reconciled : ReconciledFor (request.forArtifact .delete artifactPath) experimentId ↔
    LiesIn experimentId artifactPath

end Agreement

section Behaviour
variable {classes : CharClasses} {request : FlaskRequest} {experimentId : String}

theorem authorisedAs_iff : AuthorisedAs classes request experimentId ↔
    getExperimentIdFromViewArgs classes request = some experimentId := by
  constructor
  · intro authorised
    -- a permission that only this experiment has
    have own := authorised .default
      (fun asked _ => if asked = experimentId then .error (.other "") else .ok .read) "user"
    unfold getPermissionFromExperimentIdArtifactProxy at own
    cases got : getExperimentIdFromViewArgs classes request with
    | none =>
      simp only [got,if_pos] at own
      cases own
    | some asked =>
      simp only [got,if_pos] at own
      split at own
      · next same => rw [same]
      · cases own
  · intro got config effective username
    unfold getPermissionFromExperimentIdArtifactProxy
    rw [got]

/-- Services that fail on this experiment and on no other. -/
def HookServices.failingOn (experimentId : String) : HookServices :=
  { HookServices.allBut .denyNonAdmin with
    experimentOwner := fun asked => if asked = experimentId then .error (.other "") else .ok none }

theorem quotaCharge_upload (proxied : isProxyArtifactPath request.path = true)
    (upload : request.method = .put) (services : HookServices) (username : String) :
    quotaCharge services request username =
      match experimentOfRemainder request with
      | some charged => chargeOwner services charged request.contentLength
      | none => .ok () := by
  unfold quotaCharge experimentOfRemainder
  rw [upload,if_neg (by simp),if_neg (by simp),if_pos ⟨proxied,rfl⟩]
  dsimp only
  generalize String.ofList _ = taken
  by_cases named : taken = ""
  · subst named
    rfl
  · have kept : truthy (some taken) = some taken := if_pos (decide_eq_true named)
    rw [kept,if_pos named]

theorem chargedTo_iff (proxied : isProxyArtifactPath request.path = true)
    (upload : request.method = .put) :
    ChargedTo request experimentId ↔ experimentOfRemainder request = some experimentId := by
  unfold ChargedTo
  simp only [quotaCharge_upload proxied upload]
  constructor
  · intro charged
    have own := charged (.failingOn experimentId) "user"
    cases taken : experimentOfRemainder request with
    | none => simp [taken,chargeOwner,HookServices.failingOn,bind,Except.bind] at own
    | some asked =>
      by_cases same : asked = experimentId
      · rw [same]
      · simp [taken,chargeOwner,HookServices.failingOn,bind,Except.bind,same,truthy,pure,
          Except.pure] at own
  · intro taken services username
    rw [taken]

theorem reconciledFor_iff : ReconciledFor request experimentId ↔
    experimentOfRemainder request = some experimentId := by
  unfold ReconciledFor reconcileQuotaAfterArtifactDelete
  constructor
  · intro reconciled
    have own := reconciled (.failingOn experimentId)
    cases taken : experimentOfRemainder request with
    | none => simp [taken,HookServices.failingOn,Except.map] at own
    | some asked =>
      by_cases same : asked = experimentId
      · rw [same]
      · simp [taken,HookServices.failingOn,Except.map,same] at own
  · intro taken services
    rw [taken]

end Behaviour

section Parsing
variable {classes : CharClasses} {experimentId : String} {text : List Char}

namespace CharClasses

theorem slash_not_digit (classes : CharClasses) : classes.digit '/' = false :=
  classes.digit_ascii '/' (by decide)

theorem slash_not_workspaceName (classes : CharClasses) : classes.workspaceName '/' = false := by
  unfold workspaceName
  rw [classes.word_ascii '/' (by decide)]
  rfl

theorem experimentIdPattern_eq_some {found : List Char} :
    classes.experimentIdPattern text = some found ↔ found ≠ [] ∧
      (∀ c ∈ found, classes.digit c = true) ∧ ∃ rest, text = found ++ '/' :: rest := by
  simp only [experimentIdPattern,Option.map_eq_some_iff,Prod.exists,
    runTo_eq_some classes.slash_not_digit]
  constructor
  · rintro ⟨run,rest,⟨some',digits,same⟩,rfl⟩
    exact ⟨some',digits,rest,same⟩
  · rintro ⟨some',digits,rest,same⟩
    exact ⟨found,rest,⟨some',digits,same⟩,rfl⟩

theorem workspacesExperimentIdPattern_eq_some {found : List Char}
    (matched : classes.workspacesExperimentIdPattern text = some found) :
    (found ≠ [] ∧ ∀ c ∈ found, classes.digit c = true) ∧ ∃ name rest, name ≠ [] ∧ '/' ∉ name ∧
      text = "workspaces".toList ++ '/' :: (name ++ '/' :: (found ++ '/' :: rest)) := by
  obtain ⟨named,prefixed,later⟩ := Option.bind_eq_some_iff.mp matched
  obtain ⟨⟨name,numbered⟩,run,last⟩ := Option.bind_eq_some_iff.mp later
  obtain ⟨start,rfl,same⟩ := List.dropPrefix?_eq_some_iff.mp prefixed
  obtain ⟨some',chars,rfl⟩ := (runTo_eq_some classes.slash_not_workspaceName).mp run
  obtain ⟨nonempty,digits,rest,rfl⟩ := experimentIdPattern_eq_some.mp last
  refine ⟨⟨nonempty,digits⟩,name,rest,some',?_,?_⟩
  · intro slash
    have accepted := chars _ slash
    rw [classes.slash_not_workspaceName] at accepted
    cases accepted
  · rw [eq_of_beq same]
    rfl

theorem IsExperimentId.no_slash (named : classes.IsExperimentId experimentId) :
    '/' ∉ experimentId.toList := by
  intro slash
  have digit := named.2 _ slash
  rw [classes.slash_not_digit] at digit
  cases digit

theorem IsExperimentId.ne_workspaces (named : classes.IsExperimentId experimentId) :
    experimentId.toList ≠ "workspaces".toList := by
  intro same
  have digit := named.2 'w' (by rw [same]; decide)
  rw [classes.digit_ascii 'w' (by decide)] at digit
  cases digit

end CharClasses

theorem first_segment_iff {segment : List Char} : [segment] <+: text.splitOn '/' ↔
    text.takeWhile (fun c => decide (c ≠ '/')) = segment := by
  have first := head_splitOn '/' text
  cases pieces : text.splitOn '/' with
  | nil => exact absurd pieces (List.splitOn_ne_nil '/' text)
  | cons piece pieces' =>
    rw [pieces,List.head?_cons,Option.some.injEq] at first
    rw [← first,List.cons_prefix_cons]
    constructor
    · rintro ⟨same,_⟩
      exact same.symm
    · intro same
      exact ⟨same.symm,List.nil_prefix⟩

end Parsing

section Paths
variable {classes : CharClasses} {request : FlaskRequest} {method : Method}
  {experimentId artifactPath : String} {text : List Char}

theorem experimentOfRemainder_iff (named : classes.IsExperimentId experimentId) :
    experimentOfRemainder (request.forArtifact method artifactPath) = some experimentId ↔
      [experimentId.toList] <+: artifactPath.toList.splitOn '/' := by
  have remainder : (request.forArtifact method artifactPath).path.toList.drop
      proxyArtifactPrefix.toList.length = artifactPath.toList := by
    simp only [FlaskRequest.forArtifact,String.toList_append,List.drop_left]
  unfold experimentOfRemainder
  rw [remainder,first_segment_iff]
  constructor
  · intro taken
    obtain ⟨same,_⟩ := Option.filter_eq_some_iff.mp taken
    rw [← Option.some.inj same,String.toList_ofList]
  · intro first
    dsimp only
    rw [first,String.ofList_toList]
    apply if_pos
    apply decide_eq_true
    rintro rfl
    exact named.1 rfl

/-- An experiment that the validators find is named at the front, with a slash after it, or
after a workspace's name. -/
theorem found_in_path
    (found : getExperimentIdFromViewArgs classes (request.forArtifact method artifactPath) =
      some experimentId) : classes.IsExperimentId experimentId ∧
        ((∃ rest, artifactPath.toList = experimentId.toList ++ '/' :: rest) ∨
          ∃ name rest, name ≠ [] ∧ '/' ∉ name ∧ artifactPath.toList =
            "workspaces".toList ++ '/' :: (name ++ '/' :: (experimentId.toList ++ '/' :: rest))) := by
  obtain ⟨view,viewed,found⟩ := Option.bind_eq_some_iff.mp found
  obtain ⟨same,_⟩ := Option.filter_eq_some_iff.mp viewed
  obtain rfl : artifactPath = view := Option.some.inj same
  obtain ⟨digits,matched,rfl⟩ := Option.map_eq_some_iff.mp found
  simp only [CharClasses.IsExperimentId,String.toList_ofList]
  obtain first | ⟨_,second⟩ := Option.or_eq_some_iff.mp matched
  · obtain ⟨some',all,rest,same⟩ := CharClasses.experimentIdPattern_eq_some.mp first
    exact ⟨⟨some',all⟩,.inl ⟨rest,same⟩⟩
  · obtain ⟨named,name,rest,same⟩ := CharClasses.workspacesExperimentIdPattern_eq_some second
    exact ⟨named,.inr ⟨name,rest,same⟩⟩

theorem splitOn_cut {segment rest : List Char} (whole : '/' ∉ segment)
    (cut : text = segment ++ '/' :: rest) : text.splitOn '/' = segment :: rest.splitOn '/' := by
  rw [cut,List.splitOn_append_cons_self_of_not_mem whole]

theorem liesIn_of_found
    (found : getExperimentIdFromViewArgs classes (request.forArtifact method artifactPath) =
      some experimentId) : LiesIn experimentId artifactPath := by
  obtain ⟨named,⟨rest,front⟩ | ⟨name,rest,some',whole,behind⟩⟩ := found_in_path found
  · apply Or.inl
    rw [splitOn_cut named.no_slash front]
    exact List.prefix_append [_] _
  · refine .inr ⟨name,some',?_⟩
    rw [splitOn_cut (by decide) behind,splitOn_cut whole rfl,splitOn_cut named.no_slash rfl]
    exact List.prefix_append [_,_,_] _

/-- A path that begins with an experiment's id and a slash is that experiment's alone. -/
theorem front_iff {rest : List Char} {other : String} (named : classes.IsExperimentId experimentId)
    (front : artifactPath.toList = experimentId.toList ++ '/' :: rest) :
    LiesIn other artifactPath ↔ other = experimentId := by
  unfold LiesIn
  rw [splitOn_cut named.no_slash front]
  simp only [List.cons_prefix_cons]
  constructor
  · rintro (⟨same,_⟩ | ⟨_,_,same,_⟩)
    · exact String.toList_inj.mp same
    · exact absurd same.symm named.ne_workspaces
  · rintro rfl
    exact .inl ⟨rfl,List.nil_prefix⟩

theorem found_of_front {rest : List Char} (named : classes.IsExperimentId experimentId)
    (front : artifactPath.toList = experimentId.toList ++ '/' :: rest) :
    getExperimentIdFromViewArgs classes (request.forArtifact method artifactPath) =
      some experimentId := by
  have matched := CharClasses.experimentIdPattern_eq_some.mpr ⟨named.1,named.2,rest,front⟩
  have given : artifactPath ≠ "" := by
    rintro rfl
    simp at front
  have view : truthy ((request.forArtifact method artifactPath).viewArg "artifact_path") =
      some artifactPath := if_pos (decide_eq_true given)
  rw [getExperimentIdFromViewArgs,view,Option.bind_some,matched,Option.some_or,Option.map_some,
    String.ofList_toList]

end Paths

/-- The agreement holds for a path that lies in no experiment's directory or begins with
the experiment's id and a slash, and for no other. -/
theorem sameExperiment_iff (classes : CharClasses) (request : FlaskRequest)
    (artifactPath : String) :
    (∀ experimentId, classes.IsExperimentId experimentId →
      SameExperiment classes request experimentId artifactPath) ↔
    (∀ experimentId, classes.IsExperimentId experimentId → ¬ LiesIn experimentId artifactPath) ∨
      ∃ experimentId, classes.IsExperimentId experimentId ∧
        startsWith (experimentId ++ "/") artifactPath = true := by
  have proxied : ∀ method, isProxyArtifactPath (request.forArtifact method artifactPath).path =
      true := by
    intro method
    simp [isProxyArtifactPath,startsWith,FlaskRequest.forArtifact]
  constructor
  · intro same
    by_contra neither
    obtain ⟨somewhere,notFront⟩ := not_or.mp neither
    apply somewhere
    intro experimentId named lies
    have agree := same experimentId named
    have found := authorisedAs_iff.mp ((agree.authorised .get).mpr lies)
    have taken := (chargedTo_iff (proxied .put) rfl).mp (agree.charged.mpr lies)
    obtain ⟨_,⟨rest,front⟩ | ⟨name,rest,_,_,behind⟩⟩ := found_in_path found
    · apply notFront
      refine ⟨experimentId,named,List.isPrefixOf_iff_prefix.mpr ⟨rest,?_⟩⟩
      rw [front,String.toList_append,List.append_assoc]
      rfl
    · -- the quota hooks take the path for an experiment called workspaces
      have first := (experimentOfRemainder_iff named).mp taken
      rw [splitOn_cut (by decide) behind,List.cons_prefix_cons] at first
      exact named.ne_workspaces first.1
  · intro regular experimentId named
    have front : LiesIn experimentId artifactPath →
        ∃ rest, artifactPath.toList = experimentId.toList ++ '/' :: rest := by
      intro lies
      obtain none' | ⟨other,namedOther,starts⟩ := regular
      · exact absurd lies (none' experimentId named)
      · obtain ⟨rest,same⟩ := List.isPrefixOf_iff_prefix.mp starts
        have front : artifactPath.toList = other.toList ++ '/' :: rest := by
          rw [← same,String.toList_append,List.append_assoc]
          rfl
        rw [(front_iff namedOther front).mp lies]
        exact ⟨rest,front⟩
    have taken : ∀ method, experimentOfRemainder (request.forArtifact method artifactPath) =
        some experimentId ↔ LiesIn experimentId artifactPath := by
      intro method
      rw [experimentOfRemainder_iff named]
      constructor
      · exact Or.inl
      · intro lies
        obtain ⟨rest,front⟩ := front lies
        rw [splitOn_cut named.no_slash front]
        exact List.prefix_append [_] _
    refine ⟨?_,?_,?_⟩
    · intro method
      rw [authorisedAs_iff]
      refine ⟨liesIn_of_found,?_⟩
      intro lies
      obtain ⟨rest,front⟩ := front lies
      exact found_of_front named front
    · rw [chargedTo_iff (proxied _) rfl,taken]
    · rw [reconciledFor_iff,taken]

/-- Deleting the directory `5` itself asks for no permission on experiment 5, and an upload
into it as part of a workspace is not charged to its owner. -/
theorem misses_experiment_five :
    ¬ SameExperiment .ascii (requestTo .delete "" []) "5" "5" ∧
      ¬ SameExperiment .ascii (requestTo .put "" []) "5" "workspaces/team/5/model.pkl" := by
  constructor
  · intro same
    have lies : LiesIn "5" "5" := by
      have whole : "5".toList.splitOn '/' = ["5".toList] := List.splitOn_eq_singleton (by decide)
      exact .inl (whole ▸ List.prefix_rfl)
    have found := authorisedAs_iff.mp ((same.authorised .delete).mpr lies)
    exact absurd found (by decide)
  · intro same
    have lies : LiesIn "5" "workspaces/team/5/model.pkl" := by
      refine .inr ⟨"team".toList,by decide,?_⟩
      have whole : "workspaces/team/5/model.pkl".toList = "workspaces".toList ++
          '/' :: ("team".toList ++ '/' :: ("5".toList ++ '/' :: "model.pkl".toList)) := by decide
      rw [splitOn_cut (by decide) whole,splitOn_cut (by decide) rfl,splitOn_cut (by decide) rfl]
      exact List.prefix_append [_,_,_] _
    have taken := (chargedTo_iff (by decide) rfl).mp (same.charged.mpr lies)
    exact absurd taken (by decide)

end MlflowOidcAuth
