import Holdem.Proofs.Json.Numeral

/-!
# Reading what was written

The reader undoes the printer. Escaped letters are read back one by one, and the letters of a tree are
read whatever ends it: nothing, a comma or a closing bracket. This is what the induction on trees
carries (`Legible`), because an item of an array is followed by the next one. Along the items of one
bracket a second induction follows the list.

Trees are taken with known texts and integer numerals (`Plain`), which is all that messages have.
-/

namespace Holdem.Json

variable {rest : List Char}

/-! ## Strings -/

theorem hexValue?_hexDigit : ∀ digit < 16, Text.hexValue? (Text.hexDigit digit) = some digit := by
  decide

theorem unitPiece?_hexDigit {c : Char} (control : c.toNat < 0x20) :
    unitPiece? '0' '0' (Text.hexDigit (c.toNat / 16)) (Text.hexDigit (c.toNat % 16)) =
      some (.character c) := by
  have zero : Text.hexValue? '0' = some 0 := by decide
  have high := hexValue?_hexDigit (c.toNat / 16) (by omega)
  have low := hexValue?_hexDigit (c.toNat % 16) (by omega)
  have unit : 16 * (c.toNat / 16) + c.toNat % 16 = c.toNat := Nat.div_add_mod _ _
  have noHalf : ¬(0xD800 ≤ c.toNat ∧ c.toNat < 0xE000) := by omega
  simp [unitPiece?, zero, high, low, unit, noHalf]

theorem pieces_of_escaped? {letter c : Char} (found : escaped? letter = some c) (rest : List Char) :
    pieces ('\\' :: letter :: rest) =
      (pieces rest).map fun (more, left) => (.character c :: more, left) := by
  have other : letter ≠ 'u' := by
    rintro rfl
    cases found
  rw [pieces]
  · cases pieces rest <;> simp [found]
  · simp [other]

theorem pieces_of_plain {c : Char} (noQuote : c ≠ '"') (noBackslash : c ≠ '\\')
    (noControl : ¬c.toNat < 0x20) (rest : List Char) :
    pieces (c :: rest) = (pieces rest).map fun (more, left) => (.character c :: more, left) := by
  rw [pieces, if_neg noControl]
  · cases pieces rest <;> rfl
  · simp [noQuote]
  · simp [noBackslash]
  · simp [noBackslash]

/-- A character is read from what is written for it. -/
theorem pieces_escape (c : Char) (rest : List Char) :
    pieces (escape c ++ rest) =
      (pieces rest).map fun (more, left) => (.character c :: more, left) := by
  unfold escape
  iterate 7
    split
    case isTrue same =>
      subst same
      exact pieces_of_escaped? rfl rest
  split
  case isTrue control =>
    simp only [List.cons_append, List.nil_append, pieces, unitPiece?_hexDigit control]
    cases pieces rest <;> rfl
  case isFalse noControl =>
    exact pieces_of_plain (by assumption) (by assumption) noControl rest

theorem pieces_flatMap_escape (content rest : List Char) :
    pieces (content.flatMap escape ++ '"' :: rest) = some (content.map .character, rest) := by
  induction content with
  | nil => rfl
  | cons c content hypothesis =>
    rw [List.flatMap_cons, List.append_assoc, pieces_escape, hypothesis]
    rfl

theorem characters?_map_character (content : List Char) :
    characters? (content.map .character) = some content := by
  induction content with
  | nil => rfl
  | cons c content hypothesis => simp [characters?, hypothesis]

theorem stringTail_flatMap_escape (content : String) (rest : List Char) :
    stringTail (content.toList.flatMap escape ++ '"' :: rest) = some (some content, rest) := by
  simp [stringTail, pieces_flatMap_escape, characters?_map_character]

theorem quoted_append (content : String) (rest : List Char) :
    quoted content ++ rest = '"' :: (content.toList.flatMap escape ++ '"' :: rest) := by
  simp [quoted]

/-! ## Trees -/

/-- Trees whose texts are known, and whose numerals are integers. -/
inductive Plain : Json → Prop where
  | null : Plain .null
  | bool (value : Bool) : Plain (.bool value)
  | integer (value : Int) : Plain (integer value)
  | text (content : String) : Plain (text content)
  | array {items : List Json} (plain : ∀ item ∈ items, Plain item) : Plain (.array items)
  | record {members : List (String × Json)} (plain : ∀ member ∈ members, Plain member.2) :
      Plain (record members)

theorem afterGap_cons {c : Char} (solid : isGap c = false) (rest : List Char) :
    afterGap (c :: rest) = c :: rest :=
  List.dropWhile_cons_of_neg (by simp [solid])

/-- The tree is read from its letters with enough fuel. -/
def Legible (json : Json) : Prop :=
  ∀ fuel rest, 2 * json.letters.length ≤ fuel → Ends rest →
    value fuel (json.letters ++ rest) = some (json, rest)

theorem ends_cons {c : Char} (special : c ∈ [',', ']', '\x7d']) (rest : List Char) :
    Ends (c :: rest) := by
  rintro _ ⟨⟩
  exact special

variable {first : Json} {fuel : Nat}

theorem items_last (legible : Legible first) (enough : 2 * first.letters.length ≤ fuel)
    (rest : List Char) : items (fuel + 1) (first.letters ++ ']' :: rest) = some ([first], rest) := by
  have read := legible fuel (']' :: rest) enough (ends_cons (by decide) rest)
  simp [items, read, afterGap_cons (c := ']') rfl]

theorem items_next (legible : Legible first) (enough : 2 * first.letters.length ≤ fuel)
    {letters : List Char} {more : List Json} (further : items fuel letters = some (more, rest)) :
    items (fuel + 1) (first.letters ++ ',' :: letters) = some (first :: more, rest) := by
  have read := legible fuel (',' :: letters) enough (ends_cons (by decide) letters)
  simp [items, read, afterGap_cons (c := ',') rfl, further]

theorem items_letters (legible : Legible first) {others : List Json}
    (othersLegible : ∀ item ∈ others, Legible item)
    (enough : 2 * (first.letters ++ itemLetters others).length ≤ fuel) (rest : List Char) :
    items fuel (first.letters ++ (itemLetters others ++ rest)) = some (first :: others, rest) := by
  induction others generalizing first fuel with
  | nil =>
    rw [itemLetters, List.length_append, List.length_singleton] at enough
    obtain ⟨fuel, rfl⟩ : ∃ less, fuel = less + 1 := ⟨fuel - 1, by omega⟩
    exact items_last legible (by omega) rest
  | cons next others hypothesis =>
    rw [List.forall_mem_cons] at othersLegible
    rw [itemLetters] at enough ⊢
    simp only [List.cons_append, List.append_assoc, List.length_append, List.length_cons]
      at enough ⊢
    obtain ⟨fuel, rfl⟩ : ∃ less, fuel = less + 1 := ⟨fuel - 1, by omega⟩
    apply items_next legible (by omega)
    exact hypothesis othersLegible.1 othersLegible.2 (by rw [List.length_append]; omega)

/-- Members as an object keeps them. -/
def named (members : List (String × Json)) : List (Option String × Json) :=
  members.map fun (name, value) => (some name, value)

theorem members_last (name : String) (legible : Legible first)
    (enough : 2 * first.letters.length ≤ fuel) (rest : List Char) :
    members (fuel + 1) (quoted name ++ ':' :: (first.letters ++ '\x7d' :: rest)) =
      some ([(some name, first)], rest) := by
  have read := legible fuel ('\x7d' :: rest) enough (ends_cons (by decide) rest)
  rw [quoted_append, members, afterGap_cons (c := '"') rfl]
  simp [stringTail_flatMap_escape, afterGap_cons (c := ':') rfl, read,
    afterGap_cons (c := '\x7d') rfl]

theorem members_next (name : String) (legible : Legible first)
    (enough : 2 * first.letters.length ≤ fuel) {letters : List Char}
    {more : List (Option String × Json)} (further : members fuel letters = some (more, rest)) :
    members (fuel + 1) (quoted name ++ ':' :: (first.letters ++ ',' :: letters)) =
      some ((some name, first) :: more, rest) := by
  have read := legible fuel (',' :: letters) enough (ends_cons (by decide) letters)
  rw [quoted_append, members, afterGap_cons (c := '"') rfl]
  simp [stringTail_flatMap_escape, afterGap_cons (c := ':') rfl, read,
    afterGap_cons (c := ',') rfl, further]

theorem members_letters (name : String) (legible : Legible first) {others : List (String × Json)}
    (othersLegible : ∀ member ∈ others, Legible member.2)
    (enough : 2 * (first.letters ++ memberLetters (named others)).length ≤ fuel)
    (rest : List Char) :
    members fuel (quoted name ++ ':' :: (first.letters ++ (memberLetters (named others) ++ rest))) =
      some (named ((name, first) :: others), rest) := by
  induction others generalizing name first fuel with
  | nil =>
    change 2 * (first.letters ++ ['\x7d']).length ≤ fuel at enough
    rw [List.length_append, List.length_singleton] at enough
    obtain ⟨fuel, rfl⟩ : ∃ less, fuel = less + 1 := ⟨fuel - 1, by omega⟩
    exact members_last name legible (by omega) rest
  | cons next others hypothesis =>
    rw [List.forall_mem_cons] at othersLegible
    rw [named, List.map_cons, ← named, memberLetters] at enough ⊢
    simp only [Option.getD_some, List.cons_append, List.append_assoc, List.length_append,
      List.length_cons] at enough ⊢
    obtain ⟨fuel, rfl⟩ : ∃ less, fuel = less + 1 := ⟨fuel - 1, by omega⟩
    apply members_next name legible (by omega)
    exact hypothesis next.1 othersLegible.1 othersLegible.2 (by rw [List.length_append]; omega)

/-- A tree begins with a letter that is no gap and no closing bracket. -/
theorem Plain.exists_letters_eq_cons {json : Json} (plain : Plain json) :
    ∃ c more, json.letters = c :: more ∧ isGap c = false ∧ c ≠ ']' := by
  cases plain with
  | null => exact ⟨'n', _, by rw [letters], by decide, by decide⟩
  | bool value =>
    cases value with
    | false => exact ⟨'f', _, by rw [letters], by decide, by decide⟩
    | true => exact ⟨'t', _, by rw [letters], by decide, by decide⟩
  | integer value =>
    rcases exists_numeralLetters_eq_cons value with ⟨c, more, cut, other⟩
    refine ⟨c, more, by rw [Json.integer, letters, cut], isGap_of_notMem_signs other, ?_⟩
    rintro rfl
    exact other (by decide)
  | text content =>
    exact ⟨'"', _, by rw [Json.text, letters, Option.getD_some]; rfl, by decide, by decide⟩
  | @array items _ =>
    cases items <;> exact ⟨'[', _, by rw [letters] <;> rfl, by decide, by decide⟩
  | @record members _ =>
    cases members with
    | nil => exact ⟨'\x7b', _, by rw [Json.record, List.map_nil, letters], by decide, by decide⟩
    | cons first others =>
      exact ⟨'\x7b', _, by rw [Json.record, List.map_cons, letters]; rfl, by decide, by decide⟩

theorem exists_fuel {length : Nat} (enough : 2 * (length + 1) ≤ fuel) :
    ∃ less, fuel = less + 1 ∧ 2 * length ≤ less :=
  ⟨fuel - 1, by omega, by omega⟩

theorem value_integer (number : Int) (ends : Ends rest) :
    value (fuel + 1) (numeralLetters (.ofInt number) ++ rest) = some (integer number, rest) := by
  have read := numeral_numeralLetters number ends
  rcases exists_numeralLetters_eq_cons number with ⟨c, more, cut, other⟩
  rw [cut, List.cons_append] at read ⊢
  rw [value, afterGap_cons (isGap_of_notMem_signs other)]
  simp only [signs, List.mem_cons, not_or] at other
  split
  case h_7 => simp [read, integer]
  all_goals simp_all

theorem value_items {c : Char} {letters : List Char} {found : List Json} (solid : isGap c = false)
    (filled : c ≠ ']') (read : items fuel (c :: letters) = some (found, rest)) :
    value (fuel + 1) ('[' :: c :: letters) = some (.array found, rest) := by
  simp only [value, afterGap_cons (c := '[') rfl, afterGap_cons solid]
  split
  case h_1 letters empty =>
    exact absurd (List.cons.inj empty).1 filled
  case h_2 => simp [read]

theorem value_members {letters : List Char} {found : List (Option String × Json)}
    (read : members fuel ('"' :: letters) = some (found, rest)) :
    value (fuel + 1) ('\x7b' :: '"' :: letters) = some (.object found, rest) := by
  simp [value, afterGap_cons (c := '\x7b') rfl, afterGap_cons (c := '"') rfl, read]

/-- A tree whose letters are read whatever comes after them. -/
theorem Legible.of_read {json : Json} (filled : json.letters ≠ [])
    (read : ∀ fuel rest, value (fuel + 1) (json.letters ++ rest) = some (json, rest)) :
    Legible json := by
  intro fuel rest enough _
  cases fuel with
  | zero => exact absurd (List.eq_nil_of_length_eq_zero (by omega)) filled
  | succ fuel => exact read fuel rest

theorem legible_text (content : String) : Legible (text content) := by
  apply Legible.of_read
  · simp [text, letters, quoted]
  · intro fuel rest
    rw [text, letters, Option.getD_some, quoted_append, value, afterGap_cons (c := '"') rfl]
    simp [stringTail_flatMap_escape]

theorem legible_integer (number : Int) : Legible (integer number) := by
  intro fuel rest enough ends
  rw [integer, letters] at enough ⊢
  rcases exists_numeralLetters_eq_cons number with ⟨c, more, cut, _⟩
  obtain ⟨fuel, rfl, _⟩ := exists_fuel (cut ▸ enough)
  exact value_integer number ends

/-- A tree is read from its letters. The induction is on the tree; the fuel is spent on the brackets
and commas of its text. -/
theorem Plain.legible {json : Json} (plain : Plain json) : Legible json := by
  induction plain with
  | null => exact .of_read (by simp [letters]) fun fuel rest => by rw [letters]; rfl
  | bool value =>
    cases value with
    | false => exact .of_read (by simp [letters]) fun fuel rest => by rw [letters]; rfl
    | true => exact .of_read (by simp [letters]) fun fuel rest => by rw [letters]; rfl
  | integer number => exact legible_integer number
  | text content => exact legible_text content
  | @array items plain hypothesis =>
    cases items with
    | nil => exact .of_read (by simp [letters]) fun fuel rest => by rw [letters]; rfl
    | cons first others =>
      intro fuel rest enough _
      rw [letters] at enough ⊢
      obtain ⟨fuel, rfl, within⟩ := exists_fuel enough
      rw [List.forall_mem_cons] at hypothesis
      have read := items_letters hypothesis.1 hypothesis.2 within rest
      have begins := (plain first List.mem_cons_self).exists_letters_eq_cons
      rcases begins with ⟨c, more, cut, solid, filled⟩
      rw [cut, List.cons_append] at read
      have whole := value_items solid filled read
      simpa [cut] using whole
  | @record members _ hypothesis =>
    cases members with
    | nil =>
      exact .of_read (by simp [Json.record, letters]) fun fuel rest => by
        rw [Json.record, List.map_nil, letters]
        rfl
    | cons first others =>
      intro fuel rest enough _
      rw [Json.record, List.map_cons, ← named, letters, Option.getD_some] at enough ⊢
      obtain ⟨fuel, rfl, within⟩ := exists_fuel enough
      rw [List.forall_mem_cons] at hypothesis
      have room : 2 * (first.2.letters ++ memberLetters (named others)).length ≤ fuel := by
        simp only [List.append_eq, List.length_append, List.length_cons] at within ⊢
        omega
      have read := members_letters first.1 hypothesis.1 hypothesis.2 room rest
      rw [quoted_append] at read
      have whole := value_members read
      simpa [quoted, named, Json.record] using whole

/-- A tree is read from its text. -/
theorem parse_print {json : Json} (plain : Plain json) : parse json.print = some json := by
  have read := plain.legible (2 * json.letters.length + 2) [] (by omega) (by simp [Ends])
  rw [List.append_nil] at read
  rw [parse, print, String.toList_ofList]
  simp [read, afterGap]

end Holdem.Json
