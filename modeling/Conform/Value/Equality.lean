import Conform.Value.Basic

/-!
# Equality of values

Numbers and truth values are equal when they denote the same number, whatever their sort.  Lists,
tuples, records and type nodes are equal member by member, sets and mappings when they hold equal
members or entries in any order; bytes that can grow equal those that cannot, and so with sets.
Symbols, enumerations and their members, targets and schemas are equal only to themselves.

Wherever a value is compared as a part of another one, sought among members or looked up as a key,
identity is enough: this is `Value.same`, and `==`.  It matters for the doubles that stand for no
number: compared on their own (`Value.equal`) they equal nothing.
-/

namespace Conform

namespace Value

/-- Whether two values denote the same number. -/
def equalNumber (a b : Value) : Bool :=
  match a.numeric?, b.numeric? with
  | some x, some y => x.eq y
  | _, _ => false

/-- Whether a double equals another: the two zeros do, the doubles that stand for no number equal
nothing. -/
def equalDouble (x y : Double) : Bool := Number.eq (.real x) (.real y)

/-- Whether two doubles are identical or equal. -/
def sameDouble (x y : Double) : Bool := x == y || equalDouble x y

end Value

mutual

/-- Whether two values are identical or equal. -/
def Value.same : Value → Value → Bool
  | .null, .null => true
  | .float x, .float y => Value.sameDouble x y
  | .bool a, b => (Value.bool a).equalNumber b
  | .int a, b => (Value.int a).equalNumber b
  | .float a, b => (Value.float a).equalNumber b
  | .str a, .str b => a == b
  | .bytes a, b | .bytearray a, b => b.octets? == some a
  | .list a, .list b => Value.allSame a b
  | .tuple a, .tuple b => Value.allSame a b
  | .set a, b | .frozenset a, b =>
    match b.setMembers? with
    | some b => Value.allWithin a b && b.all (Value.anySame a)
    | none => false
  | .map a, .map b => a.length == b.length && Value.entriesWithin a b
  | .symbol a, .symbol b => a == b
  | .member e a _, .member f b _ => e == f && a == b
  | .enumeration a _, .enumeration b _ => a == b
  | .pattern a, .pattern b => a == b
  | .type a, .type b => a == b
  | .spec a, .spec b => TypeSpec.same a b
  | .violation a, .violation b => Violation.same a b
  | .ok a, .ok b => Value.same a b
  | .err a, .err b => Value.same a b
  | .target a, .target b => a == b
  | .schema a _, .schema b _ => a == b
  | _, _ => false
termination_by structural a => a

/-- Lists of equal length with equal members at equal positions. -/
def Value.allSame : List Value → List Value → Bool
  | [], [] => true
  | a :: as, b :: bs => Value.same a b && Value.allSame as bs
  | _, _ => false
termination_by structural a => a

/-- Every member of the first list equals some member of the second. -/
def Value.allWithin : List Value → List Value → Bool
  | [], _ => true
  | a :: as, bs => bs.any (Value.same a) && Value.allWithin as bs
termination_by structural a => a

/-- Some member of a list equals a value. -/
def Value.anySame : List Value → Value → Bool
  | [], _ => false
  | a :: as, b => Value.same a b || Value.anySame as b
termination_by structural a => a

/-- Every entry of the first mapping has an equal one in the second. -/
def Value.entriesWithin : List (Value × Value) → List (Value × Value) → Bool
  | [], _ => true
  | (key, value) :: rest, entries =>
    (entries.any fun (k, v) => Value.same key k && Value.same value v) &&
      Value.entriesWithin rest entries
termination_by structural a => a

/-- Equality of type specifications, component by component.  A kind is a text as well. -/
def TypeSpec.same : TypeSpec → TypeSpec → Bool
  | .primitive a, .primitive b => a == b
  | .primitive a, .unknownKind b => b.text? == some a.name
  | .unknownKind a, .primitive b => a.text? == some b.name
  | .unknownKind a, .unknownKind b => Value.same a b
  | .array a lo hi, .array b lo' hi' =>
    TypeSpec.same a b && Value.same lo lo' && Value.same hi hi'
  | .union as, .union bs => TypeSpec.allSame as bs
  | .rawUnion a, .rawUnion b => Value.same a b
  | .tuple as, .tuple bs => TypeSpec.allSame as bs
  | .rawTuple a, .rawTuple b => Value.same a b
  | .map k v, .map k' v' => TypeSpec.same k k' && TypeSpec.same v v'
  | .ref a, .ref b => Value.same a b
  | .raw a, .raw b => Value.same a b
  | _, _ => false
termination_by structural a => a

/-- Lists of equal length with equal specifications at equal positions. -/
def TypeSpec.allSame : List TypeSpec → List TypeSpec → Bool
  | [], [] => true
  | a :: as, b :: bs => TypeSpec.same a b && TypeSpec.allSame as bs
  | _, _ => false
termination_by structural a => a

/-- Equality of violation records, field by field. -/
def Violation.same : Violation → Violation → Bool
  | ⟨path, code, message, context⟩, ⟨path', code', message', context'⟩ =>
    Value.allSame path path' && Value.same code code' && Value.same message message' &&
      Value.same context context'
termination_by structural a => a

end

instance : BEq Value := ⟨Value.same⟩

instance : BEq Violation := ⟨Violation.same⟩

instance : BEq TypeSpec := ⟨TypeSpec.same⟩

namespace Value

/-- Whether two values are equal when they are compared on their own. -/
def equal (a b : Value) : Bool :=
  match a, b with
  | .float x, .float y => equalDouble x y
  | _, _ => a == b

end Value

namespace Field

/-- Whether two constraint lists hold the same constraints with the same bounds, in order. -/
def sameConstraints (a b : List Constraint) : Bool :=
  a.length == b.length && (a.zip b).all fun (x, y) => x.1 == y.1 && x.2 == y.2

/-- Whether two field definitions agree in every part. -/
def same (a b : Field) : Bool :=
  a.name == b.name && a.type == b.type && a.required == b.required &&
    sameConstraints a.constraints b.constraints && a.description == b.description &&
    a.sample == b.sample && a.default == b.default

end Field

mutual

/-- The name of the first part of a value that keeps it from being the key of a mapping: a container
that can grow. -/
def Value.unhashable? : Value → Option String
  | .bytearray octets => some (Value.bytearray octets).typeName
  | .list items => some (Value.list items).typeName
  | .set items => some (Value.set items).typeName
  | .map entries => some (Value.map entries).typeName
  | .frozenset items => Value.firstUnhashable? items
  | .tuple items => Value.firstUnhashable? items
  | .spec node => node.unhashable?
  | .violation record => record.unhashable?
  | .ok value => value.unhashable?
  | .err reason => reason.unhashable?
  | _ => none

/-- The first part of values that keeps them from being keys. -/
def Value.firstUnhashable? : List Value → Option String
  | [] => none
  | value :: rest => value.unhashable?.or (Value.firstUnhashable? rest)

/-- The first part of a type specification that keeps it from being a key. -/
def TypeSpec.unhashable? : TypeSpec → Option String
  | .primitive _ => none
  | .unknownKind kind => kind.unhashable?
  | .array inner minItems maxItems =>
    inner.unhashable?.or (minItems.unhashable?.or maxItems.unhashable?)
  | .union alternatives => TypeSpec.firstUnhashable? alternatives
  | .rawUnion alternatives => alternatives.unhashable?
  | .tuple elements => TypeSpec.firstUnhashable? elements
  | .rawTuple elements => elements.unhashable?
  | .map key value => key.unhashable?.or value.unhashable?
  | .ref target => target.unhashable?
  | .raw component => component.unhashable?

/-- The first part of type specifications that keeps them from being keys. -/
def TypeSpec.firstUnhashable? : List TypeSpec → Option String
  | [] => none
  | spec :: rest => spec.unhashable?.or (TypeSpec.firstUnhashable? rest)

/-- The first part of a violation record that keeps it from being a key. -/
def Violation.unhashable? : Violation → Option String
  | ⟨path, code, message, context⟩ =>
    (Value.firstUnhashable? path).or
      (code.unhashable?.or (message.unhashable?.or context.unhashable?))

end

namespace Value

/-- Whether a value can be the key of a mapping: containers that can grow cannot, nor can anything
that holds one. -/
def hashable (value : Value) : Bool := value.unhashable?.isNone

end Value

namespace Entries

/-- The value under a key. -/
def get? (entries : Entries) (key : Value) : Option Value :=
  (entries.find? fun entry => entry.1 == key).map Prod.snd

/-- Whether a key occurs. -/
def has (entries : Entries) (key : Value) : Bool := entries.any fun entry => entry.1 == key

/-- Store a value under a key: an equal key keeps its place and spelling, a new one goes last. -/
def put (entries : Entries) (key value : Value) : Entries :=
  match entries with
  | [] => [(key, value)]
  | (k, v) :: rest => if k == key then (k, value) :: rest else (k, v) :: put rest key value

/-- Store entries one after another. -/
def putAll (entries new : Entries) : Entries :=
  new.foldl (fun entries entry => entries.put entry.1 entry.2) entries

/-- The entry under a text key, or the null value. -/
def getText (entries : Entries) (key : String) : Value := (entries.get? (.str key)).getD .null

/-- The entries in order with text keys. -/
def ofTexts (entries : List (String × Value)) : Entries :=
  entries.map fun (key, value) => (.str key, value)

end Entries

namespace Value

/-- The mapping with the given text keys. -/
def record (entries : List (String × Value)) : Value := .map (Entries.ofTexts entries)

end Value

end Conform
