import Conform.TypeSpec.Flaw
import Conform.Value.Access

/-!
# The compact form of type specifications

Field definitions write types compactly: a kind by its name, a data type by itself, the composite
types as tuples that begin with a tag.  `Value.toSpec` reads that form.  A ready-made node is
checked all the way down and then stands as it was given.
-/

namespace Conform

/-- The specification that a data type stands for, if it stands for one. -/
def DataType.toSpec? : DataType → Option TypeSpec
  | .text => some (.primitive .string)
  | .integer => some (.primitive .integer)
  | .float => some (.primitive .float)
  | .boolean => some (.primitive .boolean)
  | .mapping => some (.primitive .map)
  | .symbol => some (.primitive .atom)
  | .list => some (.array (.primitive .any) .null .null)
  | _ => none

/-- The text of the value that a kind holds if it is no kind; most values hold none. -/
def Value.heldText : Value → Attempt String
  | .member _ _ payload | .ok payload => payload.plain
  | .spec (.map _ value) => value.toValue.plain
  | _ => .error .missingAttribute

/-- Whether a value can bound a number of items: absent, or a natural number. -/
def Value.isBound : Value → Bool
  | .null => true
  | .int n => 0 ≤ n
  | _ => false

namespace TypeSpec

/-- Refuse a type specification. -/
def refuse {α : Type} (spec : Value) (flaw : TypeFlaw) : Attempt α :=
  (DefinitionFlaw.type spec flaw).refuse

/-- Check a bound of an array type. -/
def checkBound (spec : Value) (name : String) (bound : Value) : Attempt Unit :=
  if bound.isBound then .ok () else refuse spec (.malformedBound name)

/-- Refuse the first of values that denote no type specifications: texts, numbers and members of
enumerations that stand where components belong. -/
def refuseFirst : List Value → Attempt Unit
  | [] => .ok ()
  | first :: _ => refuse first (if first.text?.isSome then .unknownName else .unrecognized)

/-- Check that an array type is given no other options than its bounds. -/
def checkArrayOptions (spec : Value) (options : Entries) : Attempt Unit :=
  let unknown := (options.map Prod.fst).filter fun key =>
    !(key == .str "min_items" || key == .str "max_items")
  if unknown.isEmpty then .ok () else refuse spec (.unknownArrayOptions unknown)

end TypeSpec

mutual

/-- The type specification that a value denotes. -/
def Value.toSpec : Value → Attempt TypeSpec
  | .spec node => do
    node.checkForm
    return node
  | .str name =>
    match Kind.ofName? name with
    | some kind => .ok (.primitive kind)
    | none => TypeSpec.refuse (.str name) .unknownName
  | .type type =>
    match type.toSpec? with
    | some spec => .ok spec
    | none => TypeSpec.refuse (.type type) .unsupportedDataType
  | .enumeration name members =>
    TypeSpec.refuse (.enumeration name members) .unsupportedDataType
  | .tuple [.str "array", inner] => do
    return .array (← inner.toSpec) .null .null
  | .tuple [.str "array", inner, .map options] => do
    let spec := Value.tuple [.str "array", inner, .map options]
    TypeSpec.checkArrayOptions spec options
    let innerSpec ← inner.toSpec
    let minItems := Entries.getText options "min_items"
    let maxItems := Entries.getText options "max_items"
    TypeSpec.checkBound spec "min_items" minItems
    TypeSpec.checkBound spec "max_items" maxItems
    return .array innerSpec minItems maxItems
  | .tuple (.str "array" :: arguments) =>
    TypeSpec.refuse (.tuple (.str "array" :: arguments)) .arrayForm
  | .tuple [.str "union", .list members] => do
    let alternatives ← Value.toSpecs members
    if alternatives.isEmpty then
      TypeSpec.refuse (.tuple [.str "union", .list members]) .emptyUnion
    else return .union alternatives
  | .tuple [.str "union", .tuple members] => do
    let alternatives ← Value.toSpecs members
    if alternatives.isEmpty then
      TypeSpec.refuse (.tuple [.str "union", .tuple members]) .emptyUnion
    else return .union alternatives
  | .tuple (.str "union" :: arguments) =>
    TypeSpec.refuse (.tuple (.str "union" :: arguments)) (.membersForm "union")
  | .tuple [.str "tuple", .list members] => do return .tuple (← Value.toSpecs members)
  | .tuple [.str "tuple", .tuple members] => do return .tuple (← Value.toSpecs members)
  | .tuple (.str "tuple" :: arguments) =>
    TypeSpec.refuse (.tuple (.str "tuple" :: arguments)) (.membersForm "tuple")
  | .tuple [.str "map", key, value] => do return .map (← key.toSpec) (← value.toSpec)
  | .tuple [.str "map", .tuple [key, value]] => do return .map (← key.toSpec) (← value.toSpec)
  | .tuple (.str "map" :: arguments) =>
    TypeSpec.refuse (.tuple (.str "map" :: arguments)) .mapForm
  | .tuple (.str tag :: arguments) =>
    TypeSpec.refuse (.tuple (.str tag :: arguments)) (.unknownTag tag)
  | value =>
    if value.validates then .ok (.ref value) else TypeSpec.refuse value .unrecognized

/-- The type specifications that values denote. -/
def Value.toSpecs : List Value → Attempt (List TypeSpec)
  | [] => .ok []
  | value :: rest => do return (← value.toSpec) :: (← Value.toSpecs rest)

/-- Check that what a value yields denotes type specifications. -/
def Value.checkMembers : Value → Attempt Unit
  | .list items | .tuple items | .set items | .frozenset items => do
    let _ ← Value.toSpecs items
  | .map entries => Value.checkKeys entries
  | other => do TypeSpec.refuseFirst (← other.elements)

/-- Check that the keys of entries denote type specifications. -/
def Value.checkKeys : List (Value × Value) → Attempt Unit
  | [] => .ok ()
  | (key, _) :: rest => do
    let _ ← key.toSpec
    Value.checkKeys rest

/-- Check a node and all its components; a raw component has to denote a specification. -/
def TypeSpec.checkForm : TypeSpec → Attempt Unit
  | .primitive _ => .ok ()
  | .unknownKind kind => TypeSpec.refuse (.spec (.unknownKind kind)) .unknownKind
  | .array inner minItems maxItems => do
    let spec := Value.spec (.array inner minItems maxItems)
    TypeSpec.checkBound spec "min_items" minItems
    TypeSpec.checkBound spec "max_items" maxItems
    inner.checkForm
  | .union alternatives =>
    if alternatives.isEmpty then TypeSpec.refuse (.spec (.union alternatives)) .emptyUnion
    else TypeSpec.checkForms alternatives
  | .rawUnion alternatives =>
    if alternatives.truthy then alternatives.checkMembers
    else TypeSpec.refuse (.spec (.rawUnion alternatives)) .emptyUnion
  | .tuple elements => TypeSpec.checkForms elements
  | .rawTuple elements => elements.checkMembers
  | .map key value => do
    key.checkForm
    value.checkForm
  | .ref target =>
    if target.validates then .ok () else TypeSpec.refuse (.spec (.ref target)) .cannotValidate
  | .raw component => do
    let _ ← component.toSpec

/-- Check nodes and all their components. -/
def TypeSpec.checkForms : List TypeSpec → Attempt Unit
  | [] => .ok ()
  | spec :: rest => do
    spec.checkForm
    TypeSpec.checkForms rest

end

mutual

/-- The name of a type in messages; a component that was never resolved has none. -/
def TypeSpec.describe : TypeSpec → Attempt String
  | .primitive kind => .ok kind.name
  | .unknownKind kind => kind.heldText
  | .array inner _ _ => do return "array of " ++ (← inner.describe)
  | .union alternatives => do return joinWith " | " (← TypeSpec.describeAll alternatives)
  | .rawUnion alternatives => do return joinWith " | " (← alternatives.describeMembers)
  | .tuple elements => do
    return "tuple of (" ++ joinWith ", " (← TypeSpec.describeAll elements) ++ ")"
  | .rawTuple elements => do
    return "tuple of (" ++ joinWith ", " (← elements.describeMembers) ++ ")"
  | .map key value => do return "map of " ++ (← key.describe) ++ " to " ++ (← value.describe)
  | .ref target => .ok target.label
  | .raw _ => .error .missingAttribute

/-- The names of types in messages. -/
def TypeSpec.describeAll : List TypeSpec → Attempt (List String)
  | [] => .ok []
  | spec :: rest => do return (← spec.describe) :: (← TypeSpec.describeAll rest)

/-- The names of the components that a value yields. -/
def Value.describeMembers : Value → Attempt (List String)
  | .list items | .tuple items | .set items | .frozenset items => Value.describeEach items
  | .map entries => Value.describeKeys entries
  | other => do
    match ← other.elements with
    | [] => return []
    | _ => throw .missingAttribute

/-- The names of values as components. -/
def Value.describeEach : List Value → Attempt (List String)
  | [] => .ok []
  | .spec spec :: rest => do return (← spec.describe) :: (← Value.describeEach rest)
  | _ :: _ => .error .missingAttribute

/-- The names of the keys of entries as components. -/
def Value.describeKeys : List (Value × Value) → Attempt (List String)
  | [] => .ok []
  | (.spec spec, _) :: rest => do return (← spec.describe) :: (← Value.describeKeys rest)
  | _ :: _ => .error .missingAttribute

end

end Conform
