import Conform.Number.Double
import Conform.Pattern.Basic

/-!
# Values

One universe holds everything that is validated, and everything that says how: data, the types data
is checked against, records of what is wrong with it, and schemas.  Types occur as values because
type notation is itself data, and components of a type node that were never resolved are kept as
they were given (`TypeSpec.raw`, `TypeSpec.rawUnion`, `TypeSpec.rawTuple`).

A value is what it holds: there is no object identity, and a copy of a value is the value itself.
Where identity decides, it is part of what is held: targets and schemas have handles, symbols,
enumerations and their members have names, and doubles that stand for no number are told apart by
their fractions.  So a copy of a target is that target here, whereas a copied object is another one,
equal to itself alone.

Collections of other sorts than those below (queues, ranges, views of mappings, collections of
classes defined elsewhere) are left out, as are enumerations whose members are texts or numbers
themselves.
-/

namespace Conform

/-- The primitive kinds of the type grammar. -/
inductive Kind where
  | string
  | integer
  | float
  | boolean
  | atom
  | any
  | map
deriving DecidableEq

namespace Kind

/-- The name of a kind in type notation. -/
def name : Kind → String
  | .string => "string"
  | .integer => "integer"
  | .float => "float"
  | .boolean => "boolean"
  | .atom => "atom"
  | .any => "any"
  | .map => "map"

/-- The name of a kind as a member of the enumeration of kinds. -/
def memberName : Kind → String
  | .string => "STRING"
  | .integer => "INTEGER"
  | .float => "FLOAT"
  | .boolean => "BOOLEAN"
  | .atom => "ATOM"
  | .any => "ANY"
  | .map => "MAP"

/-- The kind of a name, if it is one. -/
def ofName? : String → Option Kind
  | "string" => some .string
  | "integer" => some .integer
  | "float" => some .float
  | "boolean" => some .boolean
  | "atom" => some .atom
  | "any" => some .any
  | "map" => some .map
  | _ => none

end Kind

/-- The data types that type notation may name directly. -/
inductive DataType where
  | text
  | integer
  | float
  | boolean
  | mapping
  | list
  | bytes
  | tuple
  | set
  | object
  | null
  | symbol
deriving DecidableEq

/-- The constraints that a field may carry. -/
inductive ConstraintKey where
  | minLength
  | maxLength
  | minItems
  | maxItems
  | gt
  | gteq
  | lt
  | lteq
  | format
  | choices
deriving DecidableEq

/-- An opaque object that can validate a value: its handle, which no other object has, its own name
and the label shown in type descriptions.  What it does is part of the environment. -/
structure Target where
  handle : Nat
  name : String
  label : String
deriving DecidableEq

mutual

/-- Everything that can be validated, or that can occur where a value is expected. -/
inductive Value where
  | null
  | bool (flag : Bool)
  | int (n : Int)
  | float (x : Double)
  | str (text : String)
  | bytes (bytes : List UInt8)
  | bytearray (octets : List UInt8)
  | list (items : List Value)
  | tuple (items : List Value)
  | set (items : List Value)
  | frozenset (items : List Value)
  | map (entries : List (Value × Value))
  | symbol (name : String)
  | member (enumeration name : String) (payload : Value)
  | enumeration (name : String) (members : List (String × Value))
  | pattern (pattern : Pattern)
  | type (type : DataType)
  | spec (spec : TypeSpec)
  | violation (violation : Violation)
  | ok (value : Value)
  | err (reason : Value)
  | target (target : Target)
  | schema (handle : Nat) (schema : Schema)

/-- Type specifications.  A specification is canonical when it holds no `unknownKind`, `rawUnion`,
`rawTuple` or `raw` and its bounds are absent or natural numbers.  A raw union or tuple holds
something other than a tuple where its components belong; it may still yield components. -/
inductive TypeSpec where
  | primitive (kind : Kind)
  | unknownKind (kind : Value)
  | array (inner : TypeSpec) (minItems maxItems : Value)
  | union (alternatives : List TypeSpec)
  | rawUnion (alternatives : Value)
  | tuple (elements : List TypeSpec)
  | rawTuple (elements : Value)
  | map (key value : TypeSpec)
  | ref (target : Value)
  | raw (component : Value)

/-- A record of one failure: where, what sort, a description and optional details. -/
structure Violation where
  path : List Value
  code : Value
  message : Value
  context : Value

/-- One field of a schema. -/
structure Field where
  name : String
  type : TypeSpec
  required : Bool
  constraints : List (ConstraintKey × Value)
  description : Value
  sample : Value
  default : Value

/-- A collection of fields in definition order, with the settings of the whole.  The hook is a
handle; what it does is part of the environment. -/
structure Schema where
  fields : List Field
  title : Value
  description : Value
  strict : Bool
  hook : Option Nat
  metadata : List (Value × Value)

end

/-- Where a value lies: field names, indices and keys from the root. -/
abbrev Path := List Value

/-- The entries of a mapping, in order. -/
abbrev Entries := List (Value × Value)

/-- A constraint and its bound. -/
abbrev Constraint := ConstraintKey × Value

namespace ConstraintKey

/-- The name of a constraint in field options, which is also the code of its violation. -/
def name : ConstraintKey → String
  | .minLength => "min_length"
  | .maxLength => "max_length"
  | .minItems => "min_items"
  | .maxItems => "max_items"
  | .gt => "gt"
  | .gteq => "gteq"
  | .lt => "lt"
  | .lteq => "lteq"
  | .format => "format"
  | .choices => "choices"

/-- The constraint of a name, if it is one. -/
def ofName? : String → Option ConstraintKey
  | "min_length" => some .minLength
  | "max_length" => some .maxLength
  | "min_items" => some .minItems
  | "max_items" => some .maxItems
  | "gt" => some .gt
  | "gteq" => some .gteq
  | "lt" => some .lt
  | "lteq" => some .lteq
  | "format" => some .format
  | "choices" => some .choices
  | _ => none

end ConstraintKey

namespace DataType

/-- The name of a data type. -/
def name : DataType → String
  | .text => "str"
  | .integer => "int"
  | .float => "float"
  | .boolean => "bool"
  | .mapping => "dict"
  | .list => "list"
  | .bytes => "bytes"
  | .tuple => "tuple"
  | .set => "set"
  | .object => "object"
  | .null => "NoneType"
  | .symbol => "Symbol"

/-- The data type of a name, if it is one. -/
def ofName? : String → Option DataType
  | "str" => some .text
  | "int" => some .integer
  | "float" => some .float
  | "bool" => some .boolean
  | "dict" => some .mapping
  | "list" => some .list
  | "bytes" => some .bytes
  | "tuple" => some .tuple
  | "set" => some .set
  | "object" => some .object
  | "NoneType" => some .null
  | "Symbol" => some .symbol
  | _ => none

/-- The name of a data type with the module it belongs to. -/
def qualifiedName : DataType → String
  | .symbol => "shapeguard.core.symbols.Symbol"
  | other => other.name

end DataType

namespace TypeSpec

/-- The name of the sort of node that a specification is; a raw component is none. -/
def nodeName : TypeSpec → String
  | .primitive _ | .unknownKind _ => "Primitive"
  | .array .. => "ArrayType"
  | .union _ | .rawUnion _ => "UnionType"
  | .tuple _ | .rawTuple _ => "TupleType"
  | .map .. => "MapType"
  | .ref _ => "RefType"
  | .raw _ => "object"

/-- The component that a value is: a type node stands for itself, anything else is raw. -/
def ofValue : Value → TypeSpec
  | .spec spec => spec
  | value => .raw value

/-- The value that a component is. -/
def toValue : TypeSpec → Value
  | .raw value => value
  | spec => .spec spec

end TypeSpec

namespace Value

/-- The name of the data type that a value belongs to. -/
def typeName : Value → String
  | .null => "NoneType"
  | .bool _ => "bool"
  | .int _ => "int"
  | .float _ => "float"
  | .str _ => "str"
  | .bytes _ => "bytes"
  | .bytearray _ => "bytearray"
  | .list _ => "list"
  | .tuple _ => "tuple"
  | .set _ => "set"
  | .frozenset _ => "frozenset"
  | .map _ => "dict"
  | .symbol _ => "Symbol"
  | .member family _ _ => family
  | .enumeration _ _ => "EnumType"
  | .pattern _ => "Pattern"
  | .type _ => "type"
  | .spec node => node.nodeName
  | .violation _ => "ValidationError"
  | .ok _ => "Ok"
  | .err _ => "Err"
  | .target object => object.name
  | .schema _ _ => "Schema"

/-- The name under which a value appears as a type: its own if it has one, else that of its data
type. -/
def label : Value → String
  | .target object => object.label
  | .type dataType => dataType.name
  | .enumeration name _ => name
  | other => other.typeName

/-- The name of the sort of a value in the vocabulary of the type grammar. -/
def sortName : Value → String
  | .null => "null"
  | .bool _ => "boolean"
  | .int _ => "integer"
  | .float _ => "float"
  | .str _ => "string"
  | .symbol _ | .member .. => "atom"
  | .map _ => "map"
  | .tuple _ => "tuple"
  | .list _ => "array"
  | other => other.typeName

/-- The members of a list or tuple. -/
def items? : Value → Option (List Value)
  | .list items => some items
  | .tuple items => some items
  | _ => none

/-- Whether a value is a list or a tuple. -/
def isSequence (value : Value) : Bool := value.items?.isSome

/-- The members of a set, whether it can grow or not. -/
def setMembers? : Value → Option (List Value)
  | .set items => some items
  | .frozenset items => some items
  | _ => none

/-- The bytes of a value that holds bytes, whether it can grow or not. -/
def octets? : Value → Option (List UInt8)
  | .bytes octets => some octets
  | .bytearray octets => some octets
  | _ => none

/-- The entries of a mapping. -/
def entries? : Value → Option Entries
  | .map entries => some entries
  | _ => none

/-- The text of a text value. -/
def text? : Value → Option String
  | .str text => some text
  | _ => none

/-- The number of a numeric value; truth values are none. -/
def number? : Value → Option Number
  | .int n => some (.whole n)
  | .float x => some (.real x)
  | _ => none

/-- The number that counts as equal to a value: that of a number or of a truth value. -/
def numeric? : Value → Option Number
  | .bool flag => some (.whole (if flag then 1 else 0))
  | other => other.number?

/-- Whether a value is the null value. -/
def isNull : Value → Bool
  | .null => true
  | _ => false

/-- Whether a value counts as true where a truth value is asked for: zeros and empty containers do
not. -/
def truthy : Value → Bool
  | .null => false
  | .bool flag => flag
  | .int n => n != 0
  | .float x => !x.isZero
  | .str text => text != ""
  | .bytes octets | .bytearray octets => !octets.isEmpty
  | .list items | .tuple items | .set items | .frozenset items => !items.isEmpty
  | .map entries => !entries.isEmpty
  | _ => true

/-- The members that a value yields one after another: a text its characters, bytes their numbers,
a mapping its keys, an enumeration its members. -/
def elements? : Value → Option (List Value)
  | .str text => some (text.toList.map fun c => .str (String.singleton c))
  | .bytes octets | .bytearray octets => some (octets.map fun octet => .int octet.toNat)
  | .list items | .tuple items | .set items | .frozenset items => some items
  | .map entries => some (entries.map Prod.fst)
  | .enumeration name members =>
    some (members.map fun (label, payload) => .member name label payload)
  | _ => none

/-- The number of members of a value that has members. -/
def length? (value : Value) : Option Nat := value.elements?.map List.length

/-- A list of texts. -/
def ofStrings (texts : List String) : Value := .list (texts.map .str)

end Value

/-- The source of a pattern as a value. -/
def Pattern.sourceValue (pattern : Pattern) : Value :=
  match pattern.source with
  | .text source => .str source
  | .bytes octets => .bytes octets

end Conform
