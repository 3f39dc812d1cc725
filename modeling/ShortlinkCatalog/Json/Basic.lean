import ShortlinkCatalog.Text.Basic
import ShortlinkCatalog.Decimal.Binary64

/-!
# JSON values

Values keep the difference between integers and binary numbers.  An object is a
list of members with distinct names in the order in which the names first came;
`put` keeps them distinct, the later value replacing the earlier one.
-/

namespace ShortlinkCatalog

inductive Json
  | null
  | bool (value : Bool)
  | int (value : Int)
  | float (value : Binary64)
  | string (value : Text)
  | array (items : List Json)
  | object (members : List (Text × Json))
deriving Repr

namespace Json

instance : Inhabited Json := ⟨.null⟩

abbrev Members := List (Text × Json)

/-- Gives `name` the value `value`, in its old place if it has one. -/
def put (name : Text) (value : Json) : Members → Members
  | [] => [(name, value)]
  | member :: members =>
      if member.1 = name then (name, value) :: members else member :: put name value members

/-- Members in the order in which they were written, the last of equal names first
in `written`. -/
def distinct (written : Members) : Members :=
  written.foldr (fun member members => put member.1 member.2 members) []

def member? (name : Text) (members : Members) : Option Json := members.lookup name

/-- An object with members of distinct names. -/
def record (members : List (String × Json)) : Json :=
  .object (members.map fun member => (Text.ofString member.1, member.2))

/-- The name of a value's type in messages about values of the wrong type. -/
def typeName : Json → Text
  | .null => "NoneType"
  | .bool _ => "bool"
  | .int _ => "int"
  | .float _ => "float"
  | .string _ => "str"
  | .array _ => "list"
  | .object _ => "dict"

/-- The values that count as absent: null, false, zero and whatever is empty. -/
def isVoid : Json → Bool
  | .null => true
  | .bool value => !value
  | .int value => value == 0
  | .float value => value.isZero
  | .string value => value.isEmpty
  | .array items => items.isEmpty
  | .object members => members.isEmpty

mutual

/-- Whether a value can be sent: every number in it is finite, and no text in it holds
a surrogate. -/
def isSendable : Json → Bool
  | .float value => value.isFinite
  | .string value => value.isEncodable
  | .array items => areSendable items
  | .object members => haveSendable members
  | .null | .bool _ | .int _ => true

def areSendable : List Json → Bool
  | [] => true
  | item :: items => isSendable item && areSendable items

def haveSendable : List (Text × Json) → Bool
  | [] => true
  | (name, value) :: members =>
      name.isEncodable && isSendable value && haveSendable members

end

end Json

end ShortlinkCatalog
