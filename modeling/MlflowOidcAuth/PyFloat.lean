import Mathlib.Data.Rat.Floor
import MlflowOidcAuth.Permissions

/-! Python floats, infinities and NaN included, and what the plugin does with them. -/
namespace MlflowOidcAuth

/-- A float, as the exact number it stands for. -/
inductive PyFloat
  | finite (value : ℚ)
  | infinite (negative : Bool)
  | nan
deriving DecidableEq

namespace PyFloat

/-- `value <= bound`. -/
def atMost (bound : ℚ) : PyFloat → Bool
  | finite value => decide (value ≤ bound)
  | infinite negative => negative
  | nan => false

/-- `value > bound`. -/
def exceeds (bound : ℚ) : PyFloat → Bool
  | finite value => decide (bound < value)
  | infinite negative => !negative
  | nan => false

def minus (less : ℚ) : PyFloat → PyFloat
  | finite value => finite (value - less)
  | infinite negative => infinite negative
  | nan => nan

def truncate (value : ℚ) : Int := if 0 ≤ value then ⌊value⌋ else ⌈value⌉

/-- `int(value)`. -/
def toInt : PyFloat → Except Failure Int
  | finite value => .ok (truncate value)
  | infinite _ => .error (.other "cannot convert float infinity to integer")
  | nan => .error (.other "cannot convert float NaN to integer")

end PyFloat

end MlflowOidcAuth
