import MlflowOidcAuth.Hook.Request

/-! The resource a validator checks and the resource the request acts on. The
validators of experiments and registered models search path, query and body in that
order, while the handlers of a write read the body alone. -/
namespace MlflowOidcAuth

/-- The validators that check an experiment or a registered model. -/
inductive Guard
  | experiment
  | experimentByName
  | registeredModel
deriving DecidableEq, Repr

/-- The parameter that the guarded handlers take. -/
def Guard.param : Guard → String
  | .experiment => "experiment_id"
  | .experimentByName => "experiment_name"
  | .registeredModel => "name"

/-- What the validators ask of the tracking store and of the permission resolver, for
the requesting user. -/
structure Lookups where
  getExperimentByName : JsonValue → Except Failure (Option Experiment)
  effectiveExperimentPermission : JsonValue → Except Failure Permission
  effectiveRegisteredModelPermission : JsonValue → Except Failure Permission

section Validators
variable (lookups : Lookups) (request : FlaskRequest)

def experimentIdFromName (experimentName : JsonValue) : Except Failure JsonValue :=
  match lookups.getExperimentByName experimentName with
  | .ok (some experiment) => .ok (.string experiment.experimentId)
  | .ok none => .error (.mlflow .invalidParameterValue
      ("Experiment with name '" ++ experimentName.text ++ "' not found."))
  | .error failure =>
    if failure.isMlflow then .error failure
    else .error (.mlflow .invalidParameterValue
      ("Error looking up experiment '" ++ experimentName.text ++ "'"))

def getExperimentId : Except Failure JsonValue :=
  match request.extracted "experiment_id" with
  | some experimentId => .ok experimentId
  | none =>
    match request.extracted "experiment_name" with
    | some experimentName => experimentIdFromName lookups experimentName
    | none => .error (.mlflow .invalidParameterValue
        "Either 'experiment_id' or 'experiment_name' must be provided in the request data.")

def getModelName : Except Failure JsonValue :=
  match request.extracted "name" with
  | some name => .ok name
  | none => .error (.mlflow .invalidParameterValue "Model name must be provided in the request data.")

/-- The resource whose permission the validator looks up. -/
def Guard.checked : Guard → Except Failure JsonValue
  | .experiment => getExperimentId lookups request
  | .experimentByName => request.getRequestParam "experiment_name"
  | .registeredModel => getModelName request

/-- An experiment that does not exist yet may be asked for by anyone. -/
def Guard.permissionOn (resource : JsonValue) : Guard → Except Failure Permission
  | .experiment => lookups.effectiveExperimentPermission resource
  | .experimentByName => do
    match ← lookups.getExperimentByName resource with
    | none => return .manage
    | some found => lookups.effectiveExperimentPermission (.string found.experimentId)
  | .registeredModel => lookups.effectiveRegisteredModelPermission resource

/-- `validate_can_…`: the right a validator demands is one of the permission's flags. -/
def Guard.validate (guard : Guard) (allows : Permission → Bool) : Except Failure Bool := do
  let resource ← guard.checked lookups request
  let permission ← guard.permissionOn lookups resource
  return allows permission

end Validators

section Handlers
variable (request : FlaskRequest)

/-- Where the handlers take a parameter from: the query string of a `GET` that has one,
and the JSON body otherwise. -/
def FlaskRequest.handlerField (param : String) : Option JsonValue :=
  if request.method = .get ∧ request.args ≠ [] then (request.args.lookup param).map .string
  else request.forcedField param

/-- The parameter as the handlers take it: `str(experiment_id)`, whatever the body holds
there, while any other field has to be a string. -/
def FlaskRequest.actedOn (param : String) : Option String :=
  match request.handlerField param with
  | none => none
  | some .null => none
  | some (.string value) => some value
  | some value => if param = "experiment_id" then some value.text else none

/-- `_rename_registered_model_permission`: the names whose rows it renames. -/
def renamedModels : Option (JsonValue × JsonValue) :=
  match request.forcedField "name", request.forcedField "new_name" with
  | some name, some newName => if name.truthy && newName.truthy then some (name,newName) else none
  | _, _ => none

/-- A value found before the body is searched. -/
def FlaskRequest.overriding (param : String) : Option String :=
  (request.viewArg param).orElse (fun _ => request.args.lookup param)

end Handlers

section Agreement
variable (lookups : Lookups) (request : FlaskRequest)

/-- Whatever the validator checks is what the handlers act on. -/
def ChecksActedOn (guard : Guard) : Prop :=
  ∀ checked acted, guard.checked lookups request = .ok checked →
    request.actedOn guard.param = some acted → checked.text = acted

/-- Every place that is searched before, or instead of, the handlers' own holds the
value they act on, if it holds any. -/
def Guard.SameElsewhere (acted : String) : Guard → Prop
  | .experiment =>
    match request.overriding "experiment_id" with
    | some value => value = acted
    | none => request.isJson = true ∨ ∀ name id, request.extracted "experiment_name" = some name →
        experimentIdFromName lookups name = .ok id → id.text = acted
  | .experimentByName =>
    request.method ∈ [.post,.patch,.delete] → request.isJson = false →
      ∀ value, request.form.lookup "experiment_name" = some value → strip value.toList ≠ "" →
        value = acted
  | .registeredModel =>
    match request.overriding "name" with
    | some value => value = acted
    | none => True

variable {request}

theorem extracted_of_overriding {param value : String}
    (found : request.overriding param = some value) :
    request.extracted param = some (.string value) := by
  unfold FlaskRequest.overriding at found
  unfold FlaskRequest.extracted FlaskRequest.extractParamFromAllSources
  cases inPath : request.viewArg param with
  | some first =>
    simp only [inPath,Option.orElse_some,Option.some.injEq] at found
    simp [found]
  | none =>
    simp only [inPath,Option.orElse_none] at found
    simp [found]

theorem extracted_of_body {param : String} (absent : request.overriding param = none) :
    request.extracted param =
      (request.jsonField param).filter (fun value => decide (value ≠ .null)) := by
  unfold FlaskRequest.overriding at absent
  unfold FlaskRequest.extracted FlaskRequest.extractParamFromAllSources
  cases inPath : request.viewArg param with
  | some first => simp [inPath] at absent
  | none =>
    simp only [inPath,Option.orElse_none] at absent
    simp [absent]

theorem handlerField_of_acted {param acted : String}
    (acts : request.actedOn param = some acted) :
    ∃ value, request.handlerField param = some value ∧ value ≠ .null ∧ value.text = acted := by
  unfold FlaskRequest.actedOn at acts
  split at acts
  · cases acts
  · cases acts
  · next value field =>
    cases acts
    exact ⟨_,field,by simp,rfl⟩
  · next value notNull _ field =>
    split at acts
    · cases acts
      refine ⟨value,field,?_,rfl⟩
      rintro rfl
      exact notNull rfl
    · cases acts

/-- A field other than the experiment id is acted on as a string only. -/
theorem handlerField_of_string {param acted : String} (other : param ≠ "experiment_id")
    (acts : request.actedOn param = some acted) :
    request.handlerField param = some (.string acted) := by
  unfold FlaskRequest.actedOn at acts
  split at acts
  · cases acts
  · cases acts
  · next value field =>
    cases acts
    exact field
  · rw [if_neg other] at acts
    cases acts

theorem forcedField_of_handlerField {param : String} {value : JsonValue}
    (field : request.handlerField param = some value)
    (absent : request.overriding param = none) : request.forcedField param = some value := by
  have noQuery : request.args.lookup param = none := by
    unfold FlaskRequest.overriding at absent
    cases inPath : request.viewArg param with
    | some first => simp [inPath] at absent
    | none => simpa [inPath] using absent
  unfold FlaskRequest.handlerField at field
  split at field
  · simp [noQuery] at field
  · exact field

theorem extracted_of_acted {param acted : String} (acts : request.actedOn param = some acted)
    (absent : request.overriding param = none) (json : request.isJson = true) :
    ∃ value, request.extracted param = some value ∧ value.text = acted := by
  obtain ⟨value,field,notNull,reads⟩ := handlerField_of_acted acts
  have forced := forcedField_of_handlerField field absent
  refine ⟨value,?_,reads⟩
  simp [extracted_of_body absent,FlaskRequest.jsonField,json,forced,notNull]

/-- A validator that reads a text checks what is acted on if that is the same text. -/
theorem checks_of_string {guard : Guard} {value : String}
    (looked : guard.checked lookups request = .ok (.string value)) :
    ChecksActedOn lookups request guard ↔
      ∀ acted, request.actedOn guard.param = some acted → value = acted := by
  unfold ChecksActedOn
  rw [looked]
  constructor
  · intro checks acted acts
    exact checks _ acted rfl acts
  · intro same checked acted isChecked acts
    cases isChecked
    exact same acted acts

theorem checksExperiment_iff :
    ChecksActedOn lookups request .experiment ↔ ∀ acted, request.actedOn "experiment_id" = some acted →
      Guard.SameElsewhere lookups request acted .experiment := by
  cases elsewhere : request.overriding "experiment_id" with
  | some value =>
    have looked : Guard.checked lookups request .experiment = .ok (.string value) := by
      simp only [Guard.checked,getExperimentId,extracted_of_overriding elsewhere]
    simp only [checks_of_string lookups looked,Guard.param,Guard.SameElsewhere,elsewhere]
  | none =>
    simp only [Guard.SameElsewhere,elsewhere]
    by_cases json : request.isJson = true
    · refine ⟨fun _ _ _ => .inl json,fun _ checked acted isChecked acts => ?_⟩
      obtain ⟨value,seen,reads⟩ := extracted_of_acted acts elsewhere json
      have looked : getExperimentId lookups request = .ok value := by
        simp only [getExperimentId,Guard.param] at seen ⊢
        rw [seen]
      rw [Guard.checked,looked] at isChecked
      cases isChecked
      exact reads
    · have unseen : request.extracted "experiment_id" = none := by
        simp [extracted_of_body elsewhere,FlaskRequest.jsonField,json]
      constructor
      · intro checks acted acts
        refine .inr fun name id named looked => checks id acted ?_ acts
        simp only [Guard.checked,getExperimentId,unseen,named,looked]
      · intro same checked acted isChecked acts
        have byName := (same acted acts).resolve_left json
        simp only [Guard.checked,getExperimentId,unseen] at isChecked
        split at isChecked
        · next name named => exact byName name checked named isChecked
        · cases isChecked

theorem checksModel_iff :
    ChecksActedOn lookups request .registeredModel ↔ ∀ acted, request.actedOn "name" = some acted →
      Guard.SameElsewhere lookups request acted .registeredModel := by
  cases elsewhere : request.overriding "name" with
  | some value =>
    have looked : Guard.checked lookups request .registeredModel = .ok (.string value) := by
      simp only [Guard.checked,getModelName,extracted_of_overriding elsewhere]
    simp only [checks_of_string lookups looked,Guard.param,Guard.SameElsewhere,elsewhere]
  | none =>
    simp only [Guard.SameElsewhere,elsewhere,implies_true,iff_true]
    intro checked acted isChecked acts
    by_cases json : request.isJson = true
    · obtain ⟨value,seen,reads⟩ := extracted_of_acted acts elsewhere json
      simp only [Guard.param] at seen
      simp only [Guard.checked,getModelName,seen,Except.ok.injEq] at isChecked
      rw [← isChecked]
      exact reads
    · simp [Guard.checked,getModelName,extracted_of_body elsewhere,FlaskRequest.jsonField,
        json] at isChecked

/-- `get_request_param` returns the value its source holds, unless that is blank. -/
theorem getRequestParam_eq_ok {param : String} (plain : param ≠ "run_id") {checked : JsonValue} :
    request.getRequestParam param = .ok checked ↔
      request.paramSource param = .ok (some checked) ∧ checked.isBlank = false := by
  unfold FlaskRequest.getRequestParam
  cases source : request.paramSource param with
  | error failure => simp [bind,Except.bind]
  | ok value =>
    cases value with
    | none => simp [plain,bind,Except.bind]
    | some value =>
      cases blank : value.isBlank with
      | true =>
        simp only [FlaskRequest.requiredParam,source,blank,bind,Except.bind,if_true]
        constructor
        · intro raised
          cases raised
        · rintro ⟨same,notBlank⟩
          cases same
          rw [blank] at notBlank
          cases notBlank
      | false =>
        simp only [FlaskRequest.requiredParam,source,blank,bind,Except.bind]
        constructor
        · intro same
          cases same
          exact ⟨rfl,blank⟩
        · rintro ⟨same,_⟩
          cases same
          rfl

theorem isBlank_string {text : String} : (JsonValue.string text).isBlank = false ↔
    strip text.toList ≠ "" := by
  by_cases empty : text = ""
  · subst empty
    decide
  · simp [JsonValue.isBlank,JsonValue.truthy,empty]

theorem checksByName_iff :
    ChecksActedOn lookups request .experimentByName ↔
      ∀ acted, request.actedOn "experiment_name" = some acted →
        Guard.SameElsewhere lookups request acted .experimentByName := by
  simp only [ChecksActedOn,Guard.checked,Guard.param,Guard.SameElsewhere,
    getRequestParam_eq_ok (show "experiment_name" ≠ "run_id" by decide)]
  constructor
  · intro checks acted acts write form value filled notBlank
    have source : request.paramSource "experiment_name" = .ok (some (.string value)) := by
      simp only [List.mem_cons,List.not_mem_nil,or_false] at write
      rcases write with method | method | method <;>
        simp [FlaskRequest.paramSource,method,form,filled]
    exact checks _ acted ⟨source,isBlank_string.mpr notBlank⟩ acts
  · rintro same checked acted ⟨source,notBlank⟩ acts
    have field := handlerField_of_string (by decide) acts
    by_cases write : request.method ∈ [.post,.patch,.delete]
    · have body : request.method ≠ .get := by
        intro get
        simp [get] at write
      have forced : request.forcedField "experiment_name" = some (.string acted) := by
        simpa [FlaskRequest.handlerField,body,Guard.param] using field
      have written : request.paramSource "experiment_name" =
          if request.isJson then .ok (request.forcedField "experiment_name")
          else .ok ((request.form.lookup "experiment_name").map .string) := by
        simp only [List.mem_cons,List.not_mem_nil,or_false] at write
        rcases write with method | method | method <;> simp [FlaskRequest.paramSource,method]
      by_cases json : request.isJson = true
      · rw [written,if_pos json,forced] at source
        cases source
        rfl
      · rw [written,if_neg json] at source
        cases filled : request.form.lookup "experiment_name" with
        | none => simp [filled] at source
        | some value =>
          simp only [filled,Option.map_some,Except.ok.injEq,Option.some.injEq] at source
          subst source
          exact same acted acts write (by simpa using json) value filled
            (isBlank_string.mp notBlank)
    · cases method : request.method with
      | get =>
        simp only [FlaskRequest.paramSource,method,Except.ok.injEq] at source
        have query : request.args ≠ [] := by
          rintro empty
          simp [empty] at source
        simp only [FlaskRequest.handlerField,method,query,ne_eq,not_false_eq_true,and_self,
          if_true] at field
        rw [field] at source
        cases source
        rfl
      | post => simp [method] at write
      | patch => simp [method] at write
      | delete => simp [method] at write
      | head => simp [FlaskRequest.paramSource,method] at source
      | put => simp [FlaskRequest.paramSource,method] at source
      | options => simp [FlaskRequest.paramSource,method] at source

/-- For every request, the resource that is checked is the one acted on exactly when
every place searched before, or instead of, the handlers' own holds the same value. -/
theorem checksActedOn_iff (lookups : Lookups) (request : FlaskRequest) (guard : Guard) :
    ChecksActedOn lookups request guard ↔ ∀ acted, request.actedOn guard.param = some acted →
      Guard.SameElsewhere lookups request acted guard := by
  cases guard with
  | experiment => exact checksExperiment_iff lookups
  | experimentByName => exact checksByName_iff lookups
  | registeredModel => exact checksModel_iff lookups

/-- Where the two agree, a validator that lets a request through has found the right it
demands on the resource the request acts on. -/
theorem allowed_on_acted {guard : Guard} {acted : String} {allows : Permission → Bool}
    (agree : ChecksActedOn lookups request guard) (acts : request.actedOn guard.param = some acted)
    (validated : guard.validate lookups request allows = .ok true) :
    ∃ resource permission, resource.text = acted ∧
      guard.permissionOn lookups resource = .ok permission ∧ allows permission = true := by
  unfold Guard.validate at validated
  cases checked : guard.checked lookups request with
  | error failure => simp [checked,bind,Except.bind] at validated
  | ok resource =>
    cases found : guard.permissionOn lookups resource with
    | error failure => simp [checked,found,bind,Except.bind] at validated
    | ok permission =>
      refine ⟨resource,permission,agree resource acted checked acts,found,?_⟩
      simpa [checked,found,bind,Except.bind,pure,Except.pure] using validated

/-- The query string names an experiment of the user's own, the body another. -/
def splitRequest : FlaskRequest where
  path := "/api/2.0/mlflow/experiments/delete"
  method := .post
  viewArgs := some []
  args := [("experiment_id","1")]
  form := []
  isJson := true
  body := some [("experiment_id",.string "2")]

theorem checks_other_experiment : ¬ ∀ lookups request guard, ChecksActedOn lookups request guard := by
  intro checks
  have same := checks ⟨fun _ => .ok none,fun _ => .ok .manage,fun _ => .ok .manage⟩ splitRequest
    .experiment (.string "1") "2" rfl (by decide)
  exact absurd same (by decide)

end Agreement
end MlflowOidcAuth
