import SyntheticTable.Build.Params
import SyntheticTable.Value.Draw

/-!
# Build errors

Why a column cannot be built.
-/

namespace SyntheticTable

/-- Why a column cannot be built. -/
inductive BuildError where
  | notImplemented (error : NotImplemented)
  | invalidDistribution (fault : DistributionFault)
  /-- The null frequency is not a number from zero to one. -/
  | invalidNullFrequency (frequency : Single)
  /-- So many bytes of text are more than an offset can count. -/
  | textOverflow (bytes : Nat)
  /-- A buffer would take more bytes than can be addressed. -/
  | bufferTooLarge
deriving DecidableEq, Repr

/-- The wording of the error. -/
def BuildError.message : BuildError → String
  | notImplemented error => error.message
  | invalidDistribution fault => fault.message
  | invalidNullFrequency frequency =>
      "Invalid distribution parameters: null frequency "
        ++ frequency.text .prose ++ " is not a probability"
  | textOverflow bytes =>
      s!"string column exceeds the 32-bit offset range ({bytes} bytes)"
  | bufferTooLarge => "capacity overflow"

end SyntheticTable
