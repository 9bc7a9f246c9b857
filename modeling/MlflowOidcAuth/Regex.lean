import MlflowOidcAuth.Permissions

/-! Regular expressions as the plugin uses them. Compilation and matching belong
to the interpreter's `re` module and are a parameter; the safety checks of
`validate_regex` are the plugin's own. -/
namespace MlflowOidcAuth

/-- The regular-expression engine: compiling yields an error text or the syntax
warnings it emitted, and a compiled pattern matches at the start of a string. -/
structure RegexEngine where
  compile : String → Except String (List String)
  matchesStart : String → String → Bool
  isDecimal : Char → Bool

/-- `re.match(pattern, name)`, which compiles the pattern first. -/
def reMatch (engine : RegexEngine) (pattern name : String) : Except Failure Bool :=
  match engine.compile pattern with
  | .error _ => .error (.reError pattern)
  | .ok _ => .ok (engine.matchesStart pattern name)

namespace RegexEngine

/-- The engine on patterns without special characters, which match as prefixes. -/
def literal : RegexEngine where
  compile := fun _ => .ok []
  matchesStart := fun pattern name => pattern.toList.isPrefixOf name.toList
  isDecimal := Char.isDigit

def isQuantifier (c : Char) : Bool := c == '+' || c == '*' || c == '?'

/-- The rest of a pattern starts with a repeating quantifier: `+`, `*`, `{n,}` or `{n,m}`. -/
def repeats (engine : RegexEngine) : List Char → Bool
  | '+' :: _ => true
  | '*' :: _ => true
  | '{' :: rest =>
    !(rest.takeWhile engine.isDecimal).isEmpty &&
      match rest.dropWhile engine.isDecimal with
      | ',' :: more => (more.dropWhile engine.isDecimal).head? == some '}'
      | _ => false
  | _ => false

/-- A group that opens here holds a quantifier before the first closing
parenthesis, and a repeating quantifier follows that parenthesis. -/
def nestedQuantifierAt (engine : RegexEngine) : List Char → Bool
  | '(' :: rest =>
    (rest.takeWhile (· != ')')).any isQuantifier &&
      match rest.dropWhile (· != ')') with
      | ')' :: after => engine.repeats after
      | _ => false
  | _ => false

/-- `_NESTED_QUANTIFIER_RE.search`. -/
def hasNestedQuantifiers (engine : RegexEngine) (pattern : String) : Bool :=
  pattern.toList.tails.any engine.nestedQuantifierAt

end RegexEngine

/-- The characters of `\d` and `\w`. -/
structure CharClasses where
  digit : Char → Bool
  word : Char → Bool
  digit_ascii : ∀ c, c.toNat < 128 → digit c = c.isDigit
  word_ascii : ∀ c, c.toNat < 128 → word c = (c.isAlphanum || c == '_')

def CharClasses.ascii : CharClasses where
  digit := Char.isDigit
  word := fun c => c.isAlphanum || c == '_'
  digit_ascii := fun _ _ => rfl
  word_ascii := fun _ _ => rfl

def checkRedosPatterns (engine : RegexEngine) (regex : String) : Except Failure Unit :=
  if engine.hasNestedQuantifiers regex then
    .error (.mlflow .invalidState
      ("Regex pattern rejected: nested quantifiers detected (potential ReDoS). Pattern: " ++ regex))
  else .ok ()

def validateRegex (engine : RegexEngine) (regex : String) : Except Failure Unit :=
  if regex.toList.isEmpty then .error (.mlflow .invalidState "Regex pattern cannot be empty")
  else if 1024 < regex.toList.length then
    .error (.mlflow .invalidState ("Regex pattern exceeds maximum length of 1024 characters (got " ++
      toString regex.toList.length ++ ")"))
  else match engine.compile regex with
    | .error problem =>
      .error (.mlflow .invalidState ("Invalid regex pattern: " ++ regex ++ ". Error: " ++ problem))
    | .ok (warning :: _) =>
      .error (.mlflow .invalidState ("Regex pattern may contain invalid escape sequences: " ++ regex ++
        ". Warning: " ++ warning))
    | .ok [] => checkRedosPatterns engine regex

end MlflowOidcAuth
