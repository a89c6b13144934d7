import Holdem.Proofs.Json.RoundTrip
import Holdem.Proofs.Text.Words

/-!
# Reading general values

A plain tree is read back from its text as a tree. A general reader asks for more before it takes
the tree for a value: few brackets around one another, and numerals in range (`Held`). Integers of
64 bits are in range whatever their double is, and longer ones where they have a double.
-/

namespace Holdem.Json

variable {levels : Nat} {items : List Json} {members : List (String × Json)}

/-! ## Brackets and numerals -/

theorem depthOfItems_le (shallow : ∀ item ∈ items, item.depth ≤ levels) :
    depth.depthOfItems items ≤ levels := by
  induction items with
  | nil => exact Nat.zero_le levels
  | cons item items hypothesis =>
    rw [List.forall_mem_cons] at shallow
    rw [depth.depthOfItems]
    exact Nat.max_le.mpr ⟨shallow.1, hypothesis shallow.2⟩

theorem depthOfMembers_named_le (shallow : ∀ member ∈ members, member.2.depth ≤ levels) :
    depth.depthOfMembers (named members) ≤ levels := by
  induction members with
  | nil => exact Nat.zero_le levels
  | cons member members hypothesis =>
    rw [List.forall_mem_cons] at shallow
    rw [named, List.map_cons, ← named, depth.depthOfMembers]
    exact Nat.max_le.mpr ⟨shallow.1, hypothesis shallow.2⟩

theorem soundItems_iff : isSound.soundItems items = true ↔ ∀ item ∈ items, item.isSound := by
  induction items with
  | nil => simp [isSound.soundItems]
  | cons item items hypothesis => simp [isSound.soundItems, hypothesis]

theorem soundMembers_named_iff :
    isSound.soundMembers (named members) = true ↔ ∀ member ∈ members, member.2.isSound := by
  induction members with
  | nil => simp [named, isSound.soundMembers]
  | cons member members hypothesis =>
    rw [named, List.map_cons, ← named, isSound.soundMembers]
    simp [hypothesis]

/-- A tree whose text is read back as a general value, with at most so many brackets around one
another. -/
structure Held (levels : Nat) (json : Json) : Prop where
  plain : json.Plain
  sound : json.isSound = true
  shallow : json.depth ≤ levels

theorem held_text (content : String) : Held levels (text content) :=
  ⟨.text content, rfl, Nat.zero_le levels⟩

theorem held_bool (value : Bool) : Held levels (.bool value) :=
  ⟨.bool value, rfl, Nat.zero_le levels⟩

theorem held_integer {value : Int} (inRange : (Numeral.ofInt value).inRange = true) :
    Held levels (integer value) where
  plain := .integer value
  sound := inRange
  shallow := Nat.zero_le levels

theorem Held.array (held : ∀ item ∈ items, Held levels item) :
    Held (levels + 1) (.array items) where
  plain := .array fun item member => (held item member).plain
  sound := soundItems_iff.mpr fun item member => (held item member).sound
  shallow := Nat.succ_le_succ (depthOfItems_le fun item member => (held item member).shallow)

theorem Held.record (held : ∀ member ∈ members, Held levels member.2) :
    Held (levels + 1) (record members) where
  plain := .record fun member among => (held member among).plain
  sound := soundMembers_named_iff.mpr fun member among => (held member among).sound
  shallow :=
    Nat.succ_le_succ (depthOfMembers_named_le fun member among => (held member among).shallow)

theorem Held.isValue {json : Json} (held : Held levels json) (few : levels < depthLimit) :
    json.isValue = true := by
  have shallow : json.depth < depthLimit := Nat.lt_of_le_of_lt held.shallow few
  simp [Json.isValue, shallow, held.sound]

/-- A plain tree is read as a general value exactly when it is one. -/
theorem parseValue_print {json : Json} (plain : json.Plain) :
    parseValue json.print = if json.isValue then some json else none := by
  rw [parseValue, parse_print plain]
  rfl

/-! ## Records -/

theorem getLast?_memberLetters (members : List (Option String × Json)) :
    (memberLetters members).getLast? = some '\x7d' := by
  induction members with
  | nil => rfl
  | cons member members hypothesis =>
    rw [memberLetters, List.getLast?_append, hypothesis]
    rfl

/-- The text of a record begins and ends with a brace, so nothing is trimmed from it. -/
theorem trim_print_record (members : List (String × Json)) :
    Text.trim (record members).print = (record members).print := by
  have braces : (record members).letters.head? = some '\x7b' ∧
      (record members).letters.getLast? = some '\x7d' := by
    cases members with
    | nil =>
      rw [record, List.map_nil, letters]
      exact ⟨rfl, rfl⟩
    | cons member members =>
      rw [record, List.map_cons, letters, List.getLast?_append, getLast?_memberLetters]
      exact ⟨rfl, rfl⟩
  apply Text.trim_of_firm
  rw [print, String.toList_ofList]
  constructor
  · intro c first
    cases braces.1.symm.trans first
    rfl
  · intro c final
    cases braces.2.symm.trans final
    rfl

theorem lookup_nil (name : String) : lookup name [] = none := rfl

/-- A member counts where none of those after it has its name. -/
theorem lookup_cons (name : String) (member : Option String × Json)
    (members : List (Option String × Json)) :
    lookup name (member :: members) =
      (lookup name members).or (if member.1 = some name then some member.2 else none) := by
  rw [lookup, List.reverse_cons, List.find?_append, Option.map_or, ← lookup]
  congr 1
  by_cases same : member.1 = some name <;> simp [same]

end Holdem.Json
