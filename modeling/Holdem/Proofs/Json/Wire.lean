import Holdem.Json.Wire
import Holdem.Proofs.Json.RoundTrip

/-!
# Values that survive the wire

A value is carried when its JSON form is plain and decodes to it; then it is read back from its text.
Integers are carried as far as their width allows, lists and optional values with what they hold, and
a record with the values of its fields, because the names of the fields are distinct.
-/

namespace Holdem

theorem mapM_map_eq_some {write : α → β} {read : β → Option α} {values : List α}
    (carried : ∀ value ∈ values, read (write value) = some value) :
    (values.map write).mapM read = some values := by
  induction values with
  | nil => rfl
  | cons value values hypothesis =>
    rw [List.forall_mem_cons] at carried
    rw [List.map_cons, List.mapM_cons, carried.1, hypothesis carried.2]
    rfl

/-! ## Records -/

namespace Json

variable {members : List (String × Json)} {fields : List Field}

theorem filter_named {name : String} {value : Json} (distinct : (members.map Prod.fst).Nodup)
    (member : (name, value) ∈ members) :
    (named members).filter (fun member => member.1 = some name) = [(some name, value)] := by
  induction members with
  | nil => cases member
  | cons first others hypothesis =>
    rw [List.map_cons, List.nodup_cons] at distinct
    rw [named, List.map_cons, ← named]
    rcases List.mem_cons.mp member with rfl | later
    · have none : ∀ other ∈ named others, ¬decide (other.1 = some name) = true := by
        intro other among same
        rcases List.mem_map.mp among with ⟨found, known, rfl⟩
        exact distinct.1 (List.mem_map.mpr ⟨found, known, by simpa using same⟩)
      rw [List.filter_cons_of_pos (by simp), List.filter_eq_nil_iff.mpr none]
    · have other : first.1 ≠ name := by
        rintro rfl
        exact distinct.1 (List.mem_map.mpr ⟨_, later, rfl⟩)
      rw [List.filter_cons_of_neg (by simpa using other)]
      exact hypothesis distinct.2 later

theorem fieldOfMembers?_named {field : Field} {value : Json}
    (distinct : (members.map Prod.fst).Nodup) (member : (field.name, value) ∈ members) :
    fieldOfMembers? (named members) field = some value := by
  rw [fieldOfMembers?, filter_named distinct member]

theorem mapM_fieldOfMembers? {part : List (String × Json)}
    (distinct : (members.map Prod.fst).Nodup) (within : ∀ member ∈ part, member ∈ members)
    (names : fields.map Field.name = part.map Prod.fst) :
    fields.mapM (fieldOfMembers? (named members)) = some (part.map Prod.snd) := by
  induction part generalizing fields with
  | nil =>
    rw [List.map_eq_nil_iff.mp names]
    rfl
  | cons first part hypothesis =>
    rw [List.map_cons, List.map_eq_cons_iff] at names
    rcases names with ⟨field, fields, rfl, name, names⟩
    rw [List.forall_mem_cons] at within
    have found : fieldOfMembers? (named members) field = some first.2 :=
      fieldOfMembers?_named distinct (name ▸ within.1)
    rw [List.mapM_cons, found, hypothesis within.2 names]
    rfl

/-- A record with all its fields gives them back in order. -/
theorem fields?_record (names : fields.map Field.name = members.map Prod.fst)
    (distinct : (fields.map Field.name).Nodup) :
    fields? fields (record members) = some (members.map Prod.snd) := by
  rw [record, ← named, fields?, if_pos (by simp [named])]
  exact mapM_fieldOfMembers? (names ▸ distinct) (fun _ member => member) names

theorem bind_fields?_record {build : List Json → Option α} {value : α}
    (names : fields.map Field.name = members.map Prod.fst)
    (distinct : (fields.map Field.name).Nodup)
    (built : build (members.map Prod.snd) = some value) :
    (fields? fields (record members) >>= build) = some value := by
  rw [fields?_record names distinct]
  exact built

end Json

namespace Wire

/-- The value is read back from its JSON form, and the form from its text. -/
structure Carried [Wire α] (value : α) : Prop where
  plain : (Wire.encode value).Plain
  decoded : Wire.decode? (Wire.encode value) = some value

attribute [simp] Carried.plain Carried.decoded

/-- The value is read from the text that is written for it. -/
def Survives [Wire α] (value : α) : Prop :=
  read? α (print value) = some value

theorem Carried.survives [Wire α] {value : α} (carried : Carried value) : Survives value := by
  rw [Survives, read?, print, Json.parse_print carried.plain]
  exact carried.decoded

@[simp]
theorem carried_string (text : String) : Carried text where
  plain := .text text
  decoded := rfl

@[simp]
theorem carried_bool (value : Bool) : Carried value where
  plain := .bool value
  decoded := rfl

theorem countBelow?_integer (bound : Nat) {value : Nat} (small : value < bound)
    (fits : bound ≤ Text.maxWord64 + 1) :
    (Json.integer value).countBelow? bound = some value := by
  have word : Numeral.isWord value = true := by
    simp only [Numeral.isWord, Bool.and_eq_true, decide_eq_true_eq]
    omega
  simp [Json.countBelow?, Json.integer, Json.word?, Numeral.word?_ofInt, word, small]

@[simp]
theorem carried_uint32 (value : UInt32) : Carried value where
  plain := .integer _
  decoded := by
    have read := countBelow?_integer (Text.maxWord32 + 1) value.toNat_lt (by decide)
    simp [Wire.encode, Wire.decode?, read]

@[simp]
theorem carried_uint64 (value : UInt64) : Carried value where
  plain := .integer _
  decoded := by
    have read := countBelow?_integer (Text.maxWord64 + 1) value.toNat_lt (by decide)
    simp [Wire.encode, Wire.decode?, read]

theorem carried_amount {amount : Int} (bounded : isAmount amount = true) : Carried amount where
  plain := .integer amount
  decoded := by
    simp [Wire.encode, Wire.decode?, Json.integer, Json.literal?, Numeral.literal?_ofInt, bounded]

@[simp]
theorem Carried.list [Wire α] {values : List α} (carried : ∀ value ∈ values, Carried value) :
    Carried values where
  plain := by
    apply Json.Plain.array
    intro item member
    rcases List.mem_map.mp member with ⟨value, among, rfl⟩
    exact (carried value among).plain
  decoded := mapM_map_eq_some fun value member => (carried value member).decoded

theorem decode?_option [Wire α] {json : Json} (solid : json ≠ .null) :
    (Wire.decode? json : Option (Option α)) = (Wire.decode? json).map some := by
  cases json with
  | null => exact absurd rfl solid
  | bool | number | string | array | object => rfl

theorem Carried.option [Wire α] {value : Option α}
    (carried : ∀ given, value = some given → Carried given)
    (solid : ∀ given, value = some given → Wire.encode given ≠ Json.null) : Carried value := by
  cases value with
  | none => exact ⟨.null, rfl⟩
  | some given =>
    have carried := carried given rfl
    refine ⟨carried.plain, ?_⟩
    change Wire.decode? (Wire.encode given) = _
    rw [decode?_option (solid given rfl), carried.decoded, Option.map_some]

@[simp]
theorem carried_string? (text : Option String) : Carried text :=
  .option (fun given _ => carried_string given) (fun _ _ => nofun)

@[simp]
theorem carried_bool? (value : Option Bool) : Carried value :=
  .option (fun given _ => carried_bool given) (fun _ _ => nofun)

@[simp]
theorem carried_uint32? (value : Option UInt32) : Carried value :=
  .option (fun given _ => carried_uint32 given) (fun _ _ => nofun)

theorem carried_amount? {amount : Option Int}
    (bounded : ∀ given, amount = some given → isAmount given = true) : Carried amount :=
  .option (fun given named => carried_amount (bounded given named)) (fun _ _ => nofun)

end Wire

end Holdem
