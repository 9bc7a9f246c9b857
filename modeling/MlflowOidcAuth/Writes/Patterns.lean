import MlflowOidcAuth.Resolution.RegexErrors
import MlflowOidcAuth.Writes.Sequences

/-! Which patterns the tables hold after any sequence of writes, and what their resolutions then
raise. The group table of registered models, which prompts share, stores what it is given. -/
namespace MlflowOidcAuth
open Effects

/-- No resolution raises a compilation error: of one resource, in bulk, or by the workspace
patterns, whose errors the lookup of a workspace would turn into a denial. -/
structure ResolvesPlainly (env : Env) (t : Tables) : Prop where
  resource : ∀ context request caches,
    RaisesOnly Failure.NotRegex (resolvePermission env t context request caches).1
  bulk : ∀ (kind : BatchKind) context username items cache,
    RaisesOnly Failure.NotRegex (kind.batchResolvePermissions env t context username items cache).1
  workspace : ∀ holder workspace rows, (∀ row ∈ rows, row ∈ t.workspaceRegex holder) →
    RaisesOnly Failure.NotRegex (matchWorkspaceRegexPermission env.regex workspace none rows)

def PatternsAccepted (engine : RegexEngine) (t : Tables) : Prop :=
  RowsSatisfy (fun _ => True) (fun pattern => validateRegex engine pattern = .ok ()) t

structure PatternsSafe (env : Env) (t : Tables) : Prop where
  accepted : PatternsAccepted env.regex t
  resolves : ResolvesPlainly env t

section Safety
variable {env : Env} {t : Tables}

theorem patternsCompile_of_accepted {engine : RegexEngine} (accepted : PatternsAccepted engine t) :
    PatternsCompile engine t where
  regex := fun holder family row stored =>
    compiles_of_accepted (accepted.regex holder family row stored).2
  workspaceRegex := fun holder row stored =>
    compiles_of_accepted (accepted.workspaceRegex holder row stored).2

theorem resolvesPlainly_of_compile (tracking : TrackingStorePlain env)
    (compile : PatternsCompile env.regex t) : ResolvesPlainly env t where
  resource := resolvePermission_notRegex compile tracking
  bulk := fun kind _ => batchResolvePermissions_notRegex compile kind
  workspace := by
    intro holder workspace rows stored
    apply matchWorkspaceRegexPermission_notRegex
    intro row member
    exact compile.workspaceRegex holder row (stored row member)

theorem patternsSafe_of_accepted (tracking : TrackingStorePlain env)
    (accepted : PatternsAccepted env.regex t) : PatternsSafe env t :=
  ⟨accepted,resolvesPlainly_of_compile tracking (patternsCompile_of_accepted accepted)⟩

end Safety

/-- When every pattern given to the group table of registered models is acceptable, every stored
pattern was accepted, in every state that a sequence of writes reaches. -/
theorem patternsSafe_run (env : LoginEnv) (start : Database) (writes : List Write)
    (tracking : TrackingStorePlain env.resolution)
    (initial : PatternsAccepted env.resolution.regex start.tables)
    (careful : ∀ write ∈ writes, ∀ pattern ∈ write.uncheckedPatterns,
      validateRegex env.resolution.regex pattern = .ok ()) :
    (∀ moment ∈ Run.moments (writeStep env) start writes,
        PatternsSafe env.resolution moment.before.tables) ∧
      PatternsSafe env.resolution (Run.final (writeStep env) start writes).tables := by
  obtain ⟨reached,last⟩ := run_satisfies (fun _ _ => trivial) (fun _ valid => valid) initial
    (fun write listed => ⟨fun _ _ => trivial,careful write listed⟩)
  refine ⟨?_,patternsSafe_of_accepted tracking last⟩
  intro moment member
  exact patternsSafe_of_accepted tracking (reached moment member)

section UnclosedGroup

/-- Literal patterns, except that a lone parenthesis is an unclosed group. -/
def unclosedEngine : RegexEngine :=
  { RegexEngine.literal with
    compile := fun pattern =>
      if pattern = "(" then .error "missing ), unterminated subpattern at position 0" else .ok [] }

def unclosedEnv : LoginEnv :=
  { LoginEnv.bare with
    resolution := { LoginEnv.bare.resolution with regex := unclosedEngine } }

theorem unclosed_tracking : TrackingStorePlain unclosedEnv.resolution :=
  fun _ => raisesOnly_error (by intro pattern; simp)

/-- Bob joins a team, which is then granted a pattern of registered models. -/
def teamWrites (pattern : String) : List Write :=
  [.method (.createUser "bob" "password" "Bob" false false),.method (.populateGroups ["team"]),
    .method (.setUserGroups "bob" ["team"]),
    .method (.grantRegex .group .registeredModel false pattern 1 "READ" "team")]

/-- The grant of an unclosed group is stored, and every model that Bob asks for raises. -/
theorem breaks_team : ¬ ∀ env start writes, TrackingStorePlain env.resolution →
    PatternsAccepted env.resolution.regex start.tables →
    PatternsSafe env.resolution (Run.final (writeStep env) start writes).tables := by
  intro safe
  have reached := safe unclosedEnv emptyDatabase (teamWrites "(") unclosed_tracking rowsSatisfy_empty
  have raised : (resolvePermission unclosedEnv.resolution
      (Run.final (writeStep unclosedEnv) emptyDatabase (teamWrites "(")).tables ⟨none,none⟩
      ⟨.registeredModel,"churn","bob",none⟩ Caches.empty).1 = .error (.reError "(") := by
    decide +kernel
  exact reached.resolves.resource _ _ _ _ raised "(" rfl

theorem patternsSafe_run_churn : PatternsSafe unclosedEnv.resolution
    (Run.final (writeStep unclosedEnv) emptyDatabase (teamWrites "churn")).tables :=
  (patternsSafe_run unclosedEnv emptyDatabase (teamWrites "churn") unclosed_tracking
    rowsSatisfy_empty (by decide +kernel)).2

end UnclosedGroup
end MlflowOidcAuth
