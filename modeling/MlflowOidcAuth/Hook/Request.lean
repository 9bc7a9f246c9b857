import MlflowOidcAuth.Tracking

/-! Flask requests and the helpers that take parameters out of them. Each helper
looks in its own places and in its own order. -/
namespace MlflowOidcAuth

inductive Method
  | get
  | head
  | post
  | put
  | patch
  | delete
  | options
deriving DecidableEq, Repr

def Method.name : Method → String
  | .get => "GET"
  | .head => "HEAD"
  | .post => "POST"
  | .put => "PUT"
  | .patch => "PATCH"
  | .delete => "DELETE"
  | .options => "OPTIONS"

/-- A JSON value; a float counts by its text and by whether it is zero, an array or object
by its text and by whether it is empty. -/
inductive JsonValue
  | null
  | bool (value : Bool)
  | integer (value : Int)
  | float (text : String) (isZero : Bool)
  | string (value : String)
  | compound (text : String) (isEmpty : Bool)
deriving DecidableEq

def JsonValue.truthy : JsonValue → Bool
  | .null => false
  | .bool value => value
  | .integer value => decide (value ≠ 0)
  | .float _ isZero => !isZero
  | .string value => decide (value ≠ "")
  | .compound _ isEmpty => !isEmpty

/-- `str(value)`. -/
def JsonValue.text : JsonValue → String
  | .null => "None"
  | .bool value => if value then "True" else "False"
  | .integer value => toString value
  | .float text _ => text
  | .string value => value
  | .compound text _ => text

/-- Falsy, or a string of spaces. -/
def JsonValue.isBlank (value : JsonValue) : Bool :=
  !value.truthy || match value with
    | .string text => decide (strip text.toList = "")
    | _ => false

/-- The part of a Flask request that the hooks read. The body is the JSON object it
parses to, if it does. -/
structure FlaskRequest where
  path : String
  method : Method
  viewArgs : Option (List (String × String))
  args : List (String × String)
  form : List (String × String)
  isJson : Bool
  body : Option (List (String × JsonValue))
  contentLength : Option Nat := none

namespace FlaskRequest
variable (request : FlaskRequest)

/-- `request.get_json(force=True, silent=True)`, whatever the content type says. -/
def forcedField (param : String) : Option JsonValue :=
  request.body.bind (List.lookup param)

/-- `request.json` and `request.get_json(silent=True)`: only with a JSON content type. -/
def jsonField (param : String) : Option JsonValue :=
  if request.isJson then request.forcedField param else none

def viewArg (param : String) : Option String :=
  request.viewArgs.bind (List.lookup param)

def unsupportedMethod : Failure :=
  .mlflow .badRequest ("Unsupported HTTP method '" ++ request.method.name ++ "'")

/-- The place `get_request_param` looks in for this method. -/
def paramSource (param : String) : Except Failure (Option JsonValue) :=
  match request.method with
  | .get => .ok ((request.args.lookup param).map .string)
  | .post | .patch | .delete =>
    if request.isJson then .ok (request.forcedField param)
    else .ok ((request.form.lookup param).map .string)
  | _ => .error request.unsupportedMethod

def missingParam (param : String) : Failure :=
  .mlflow .invalidParameterValue ("Missing value for required parameter '" ++ param ++
    "'. See the API docs for more information about request parameters.")

def emptyParam (param : String) : Failure :=
  .mlflow .invalidParameterValue ("Empty value for required parameter '" ++ param ++
    "'. See the API docs for more information about request parameters.")

def requiredParam (param : String) : Except Failure JsonValue := do
  match ← request.paramSource param with
  | none => .error (missingParam param)
  | some value => if value.isBlank then .error (emptyParam param) else .ok value

/-- `get_request_param`; a missing `run_id` may be given as `run_uuid`. -/
def getRequestParam (param : String) : Except Failure JsonValue := do
  match ← request.paramSource param with
  | none => if param = "run_id" then request.requiredParam "run_uuid" else .error (missingParam param)
  | some _ => request.requiredParam param

/-- `_extract_param_from_all_sources`: path, then query, then JSON body. -/
def extractParamFromAllSources (param : String) : Option JsonValue :=
  match request.viewArg param with
  | some value => some (.string value)
  | none =>
    match request.args.lookup param with
    | some value => some (.string value)
    | none => request.jsonField param

/-- The parameter is found and not `None`. -/
def extracted (param : String) : Option JsonValue :=
  (request.extractParamFromAllSources param).filter (fun value => decide (value ≠ .null))

end FlaskRequest
end MlflowOidcAuth
