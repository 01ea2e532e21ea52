import Conform.Value.Equality
import Conform.Value.Literal

/-!
# Violations

The records that checks produce.  Each sort of violation has one constructor function, which holds
its code, its wording and its details; `Violation.under` moves a record below a root.
-/

namespace Conform

namespace Violation

/-- A record without details. -/
def plain (path : Path) (code message : String) : Violation :=
  ⟨path, .str code, .str message, .null⟩

/-- A record with details. -/
def detailed (path : Path) (code message : String) (details : List (String × Value)) : Violation :=
  ⟨path, .str code, .str message, .record details⟩

/-- The input as a whole is no mapping. -/
def notMapping (path : Path) (actual : String) : Violation :=
  detailed path "input_format" ("expected a map, got " ++ actual) [("actual", .str actual)]

/-- A required field is absent. -/
def missingField (path : Path) : Violation := plain path "required" "field is required"

/-- A value has another sort than the expected one. -/
def wrongSort (path : Path) (expected actual : String) : Violation :=
  detailed path "type" ("expected " ++ expected ++ ", got " ++ actual)
    [("expected", .str expected), ("actual", .str actual)]

/-- A value has none of the types of a union. -/
def noAlternative (path : Path) (expected actual : String) : Violation :=
  detailed path "type"
    ("value does not match any type in union (" ++ expected ++ "), got " ++ actual)
    [("expected", .str expected), ("actual", .str actual)]

/-- A sequence has another length than a tuple type. -/
def wrongArity (path : Path) (expected actual : Nat) : Violation :=
  detailed path "tuple_size"
    (s!"expected tuple of size {expected}, got size {actual}")
    [("expected", .int expected), ("actual", .int actual)]

/-- A value cannot be converted. -/
def notCoercible (path : Path) (target actual reason : String) : Violation :=
  detailed path "coercion" ("cannot coerce " ++ actual ++ " to " ++ target ++ ": " ++ reason)
    [("target", .str target), ("actual", .str actual)]

/-- A mapping has keys that are no fields. -/
def unexpectedFields (path : Path) (extra : List String) : Violation :=
  detailed path "strict" ("unexpected fields: " ++ Value.literalTexts extra)
    [("extra_fields", .ofStrings extra)]

/-- An opaque target refused a value for a reason of its own. -/
def refusedByTarget (path : Path) (reason : String) : Violation := plain path "schema" reason

/-- A review of the whole record found fault. -/
def review (path : Path) (message : String) : Violation := plain path "post_validation" message

/-- A review of the whole record failed. -/
def failedReview (path : Path) (exception account : String) : Violation :=
  detailed path "post_validation" ("post-validation hook failed: " ++ account)
    [("exception", .str exception)]

/-- Text could not be read as data. -/
def unreadable (reason preview : String) : Violation :=
  detailed [] "parse" ("could not parse JSON: " ++ reason) [("output", .str preview)]

/-- The record with its path below a root. -/
def under (root : Path) (violation : Violation) : Violation :=
  { violation with path := root ++ violation.path }

/-- The plain texts of the places of a path. -/
def placeTexts : Path → Attempt (List String)
  | [] => .ok []
  | place :: rest => do return (← place.plain) :: (← placeTexts rest)

end Violation

end Conform
