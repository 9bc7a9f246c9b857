import MlflowOidcAuth.Resolution.CachedRuns

/-! Scorer permissions through the cache. The cache key holds the experiment but
not the scorer, so an entry answers for whichever scorer filled it first. -/
namespace MlflowOidcAuth
open KeyedCache

/-- A call of `effective_scorer_permission(experiment_id, scorer_name, user)`. -/
structure ScorerLookup where
  experimentId : String
  scorerName : String
  user : String
deriving DecidableEq, Repr

def ScorerLookup.request (lookup : ScorerLookup) : ResourceRequest :=
  ⟨.scorer,lookup.experimentId,lookup.user,some lookup.scorerName⟩

def effectiveScorerPermission (context : RequestContext) (lookup : ScorerLookup) : Resolution :=
  ⟨context,lookup.request⟩

/-- Every scorer permission of the run is the one computed from the store for that
same scorer. -/
def ScorerRunFresh (env : Env) (db : Database) (context : RequestContext)
    (events : List (LookupEvent ScorerLookup)) : Prop :=
  RunFresh env db.tables (effectiveScorerPermission context) events

/-- Whatever holds the key of a scorer lookup was filled by a lookup of that scorer. -/
def HeldBySameScorer (context : RequestContext) (state : TracedCaches)
    (event : LookupEvent ScorerLookup) : Prop :=
  HeldBy (effectiveScorerPermission context)
    (fun holder lookup => holder.request = lookup.request) state event

instance (context : RequestContext) (state : TracedCaches) (event : LookupEvent ScorerLookup) :
    Decidable (HeldBySameScorer context state event) :=
  inferInstanceAs (Decidable (HeldBy _ _ _ _))

section Leak

def scorerEnv : Env := ⟨.default,.literal,fun experimentId => .ok ("experiment " ++ experimentId)⟩

/-- Alice manages one scorer of experiment 1 and is denied the other. -/
def scorerDatabase : Database where
  tables := { Tables.empty with
    users := [⟨1,"alice","Alice","",none,false,false⟩]
    userPermissions := fun
      | .scorer => [⟨1,⟨"1",some "toxicity"⟩,1,"MANAGE",false⟩,
          ⟨2,⟨"1",some "payroll"⟩,1,"NO_PERMISSIONS",false⟩]
      | _ => [] }
  integrity := by decide

def outsideFlask : RequestContext := ⟨none,none⟩

end Leak
end MlflowOidcAuth
