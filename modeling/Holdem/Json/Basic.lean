import Holdem.Json.Number

/-!
# JSON values

The tree of a JSON text as its grammar reads it: members keep their order and their repetitions,
numerals keep their digits. Only what a reader then demands of the tree makes it a value:
`Json.isValue` asks for what a general value needs, and a message (`Holdem.Json.Record`) asks only
for the members that it names.
-/

namespace Holdem

/-- A JSON text's tree. A string literal that names an unpaired surrogate has no text: `none`. -/
inductive Json where
  | null
  | bool (value : Bool)
  | number (numeral : Numeral)
  | string (text : Option String)
  | array (items : List Json)
  | object (members : List (Option String × Json))

namespace Json

def text (content : String) : Json := .string (some content)

def integer (value : Int) : Json := .number (.ofInt value)

def record (members : List (String × Json)) : Json :=
  .object (members.map fun (name, value) => (some name, value))

def nullable (encode : α → Json) : Option α → Json
  | none => .null
  | some value => encode value

def depth : Json → Nat
  | .array items => depthOfItems items + 1
  | .object members => depthOfMembers members + 1
  | _ => 0
where
  /-- The depth of the deepest item. -/
  depthOfItems : List Json → Nat
    | [] => 0
    | item :: rest => max item.depth (depthOfItems rest)
  /-- The depth of the deepest member. -/
  depthOfMembers : List (Option String × Json) → Nat
    | [] => 0
    | (_, value) :: rest => max value.depth (depthOfMembers rest)

/-- Whether every string has a text and every numeral is in range. -/
def isSound : Json → Bool
  | .number numeral => numeral.inRange
  | .string content => content.isSome
  | .array items => soundItems items
  | .object members => soundMembers members
  | _ => true
where
  /-- Whether every item is sound. -/
  soundItems : List Json → Bool
    | [] => true
    | item :: rest => item.isSound && soundItems rest
  /-- Whether every member has a named key and a sound value. -/
  soundMembers : List (Option String × Json) → Bool
    | [] => true
    | (key, value) :: rest => key.isSome && value.isSound && soundMembers rest

/-- The number of nested arrays and objects at which a general reader gives up. -/
def depthLimit : Nat := 128

/-- Whether a general reader accepts the tree as a value. -/
def isValue (json : Json) : Bool :=
  json.depth < depthLimit && json.isSound

/-- Keeps the last of the members with each name. -/
def lastMembers (members : List (Option String × Json)) : List (Option String × Json) :=
  members.foldr
    (fun member later =>
      if later.any fun other => other.1 = member.1 then later else member :: later)
    []

/-- The tree as a general value remembers it: of repeated members the last one, and a numeral that
is no 64-bit integer as a double. -/
def general : Json → Json
  | .number numeral =>
    if numeral.word?.isSome then .number numeral
    else .number { numeral with exponent := some (numeral.exponent.getD 0) }
  | .array items => .array (generalItems items)
  | .object members => .object (lastMembers (generalMembers members))
  | json => json
where
  /-- Every item as a general value. -/
  generalItems : List Json → List Json
    | [] => []
    | item :: rest => item.general :: generalItems rest
  /-- Every member's value as a general value. -/
  generalMembers : List (Option String × Json) → List (Option String × Json)
    | [] => []
    | (key, value) :: rest => (key, value.general) :: generalMembers rest

/-- The tree with the members of every object in the order of their names, of repeated members the
last one. -/
def sorted : Json → Json
  | .array items => .array (sortedItems items)
  | .object members =>
    .object <| (lastMembers (sortedMembers members)).mergeSort fun first second =>
      !(second.1.getD "" < first.1.getD "")
  | json => json
where
  /-- Every item sorted. -/
  sortedItems : List Json → List Json
    | [] => []
    | item :: rest => item.sorted :: sortedItems rest
  /-- Every member's value sorted. -/
  sortedMembers : List (Option String × Json) → List (Option String × Json)
    | [] => []
    | (key, value) :: rest => (key, value.sorted) :: sortedMembers rest

def text? : Json → Option String
  | .string content => content
  | _ => none

def bool? : Json → Option Bool
  | .bool value => some value
  | _ => none

def items? : Json → Option (List Json)
  | .array items => some items
  | _ => none

def members? : Json → Option (List (Option String × Json))
  | .object members => some members
  | _ => none

/-- The value of a member; of several members with the name the last one counts. -/
def lookup (name : String) (members : List (Option String × Json)) : Option Json :=
  (members.reverse.find? fun member => member.1 = some name).map Prod.snd

def member? (name : String) (json : Json) : Option Json :=
  json.members?.bind (lookup name)

def names (members : List (Option String × Json)) : List (Option String) :=
  (members.map Prod.fst).eraseDups

/-- The integer that a 64-bit reader holds. -/
def word? : Json → Option Int
  | .number numeral => numeral.word?
  | _ => none

/-- The integer of a numeral without point and exponent. -/
def literal? : Json → Option Int
  | .number numeral => numeral.literal?
  | _ => none

end Json

end Holdem
