import Conform.Proofs.Conversions
import Conform.Proofs.Enforcement

/-!
# Choices

A record that is accepted holds, for a field with choices, a value that is identical or equal to one
of them, if the value can be looked up among them.  In lists and tuples every value can; in mappings
only what can be a key, in sets also other sets, in an enumeration only members of enumerations, and
in bytes only numbers and other bytes, which are found as a part.  Choices do not apply to a value
that cannot be looked up, so that it passes.
-/

namespace Conform

namespace Value

/-- Whether choices leave a value alone: it is found among them, or it cannot be looked up. -/
def Passes (value choices : Value) : Prop :=
  value.within? choices = .ok none ∨ value.within? choices = .ok (some true)

end Value

namespace Schema

end Schema

end Conform
