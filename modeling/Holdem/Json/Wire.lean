import Holdem.Json.Printer
import Holdem.Json.Reader

/-!
# Values with a wire form

`Wire` ties a type to its JSON form. Numbers of a fixed width have to be integers in range, a
missing optional value is `null`, and a record is an object with the members that its type names.

A record may also be written as an array of its fields in order. In an object a required field has
to be there, and no named field may be given twice; members with other names say nothing. In an
array only a tail of optional fields may be left off.
-/

namespace Holdem

/-- A type with a JSON form. -/
class Wire (α : Type) where
  /-- The JSON form of a value. -/
  encode : α → Json
  /-- The value of a JSON form. -/
  decode? : Json → Option α

namespace Json

/-- Whether a field may be missing. -/
inductive Presence where
  /-- Never. -/
  | required
  /-- In an object, where it then counts as `null`. -/
  | nullable
  /-- In an object and at the end of an array, where it then counts as `null`. -/
  | optional
  deriving DecidableEq

structure Field where
  name : String
  presence : Presence

/-- A field that has to be given. -/
def Field.required (name : String) : Field := ⟨name, .required⟩

/-- A field that an object may leave out. -/
def Field.nullable (name : String) : Field := ⟨name, .nullable⟩

/-- A field that an object or the end of an array may leave out. -/
def Field.optional (name : String) : Field := ⟨name, .optional⟩

/-- The value that an object gives a field. -/
def fieldOfMembers? (members : List (Option String × Json)) (field : Field) : Option Json :=
  match members.filter fun member => member.1 = some field.name with
  | [] => if field.presence = .required then none else some .null
  | [(_, value)] => some value
  | _ => none

/-- The values that an array gives the fields. -/
def fieldsOfItems? : List Field → List Json → Option (List Json)
  | [], [] => some []
  | [], _ :: _ => none
  | field :: fields, [] =>
    if field.presence = .optional then (fieldsOfItems? fields []).map (.null :: ·) else none
  | _ :: fields, item :: items => (fieldsOfItems? fields items).map (item :: ·)

/-- The values of a record's fields, in order. -/
def fields? (fields : List Field) : Json → Option (List Json)
  | .object members =>
    if members.all fun member => member.1.isSome then fields.mapM (fieldOfMembers? members)
    else none
  | .array items => fieldsOfItems? fields items
  | _ => none

/-- The variant without content that a name, or an object with the name and `null`, stands for. -/
def unit? (variants : List (String × α)) : Json → Option α
  | .string (some name) => (variants.find? fun variant => variant.1 = name).map Prod.snd
  | .object [(some name, .null)] => (variants.find? fun variant => variant.1 = name).map Prod.snd
  | _ => none

end Json

namespace Wire

def print [Wire α] (value : α) : String := (Wire.encode value).print

def read? (α : Type) [Wire α] (text : String) : Option α := (Json.parse text).bind Wire.decode?

end Wire

instance : Wire String where
  encode := Json.text
  decode? := Json.text?

instance : Wire Bool where
  encode := Json.bool
  decode? := Json.bool?

/-- An integer of a numeral that is not minus zero, below a bound. -/
def Json.countBelow? (bound : Nat) (json : Json) : Option Nat :=
  match json.word? with
  | some (.ofNat value) => if value < bound then some value else none
  | _ => none

instance : Wire UInt32 where
  encode value := Json.integer value.toNat
  decode? json := (json.countBelow? (Text.maxWord32 + 1)).map UInt32.ofNat

instance : Wire UInt64 where
  encode value := Json.integer value.toNat
  decode? json := (json.countBelow? (Text.maxWord64 + 1)).map UInt64.ofNat

def isAmount (value : Int) : Bool :=
  -(Text.maxAmount : Int) - 1 ≤ value && value ≤ Text.maxAmount

/-- Chip amounts are integers of 128 bits. -/
instance : Wire Int where
  encode := Json.integer
  decode? json := json.literal?.filter isAmount

instance [Wire α] : Wire (Option α) where
  encode
    | none => .null
    | some value => Wire.encode value
  decode?
    | .null => some none
    | json => (Wire.decode? json).map some

instance [Wire α] : Wire (List α) where
  encode values := .array (values.map Wire.encode)
  decode? json := json.items?.bind fun items => items.mapM Wire.decode?

end Holdem
