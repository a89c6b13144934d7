import Holdem.Proofs.Command.Grammar
import Holdem.Proofs.Text.Printed

/-!
# Typing a command

Every command has a spelling, and a line that spells it is read as the command: with keywords in any
letter case and under any of their names, with amounts in any decimal, and with any blanks between the
words and around them. Both directions go through the words of the line: the line lays out the words,
and the words are a form of the command.
-/

namespace Holdem

namespace Text

theorem exists_spaced (first : String) (words : List String) :
    ∃ letters, Spaced (first :: words) letters := by
  induction words generalizing first with
  | nil => exact ⟨_, .last first⟩
  | cons next words hypothesis =>
    rcases hypothesis next with ⟨letters, spaced⟩
    exact ⟨_, .next first [' '] (by simp) (by simp [Text.isWordBreak]) spaced⟩

/-- Some line lays out the words, if there are any and they are solid. -/
theorem exists_lays {words : List String} (filled : words ≠ [])
    (solid : ∀ word ∈ words, IsSolid word) : ∃ line, Lays words line := by
  rcases List.exists_cons_of_ne_nil filled with ⟨first, rest, rfl⟩
  rcases exists_spaced first rest with ⟨letters, spaced⟩
  exact ⟨String.ofList letters, solid, [], letters, [], by simp, spaced, by simp, by simp⟩

end Text

namespace Command

/-- Amounts are positive and as large as an amount can be, and opponents are words. -/
def Typable : Command → Prop
  | .intent (.start opponents) => ∀ opponent ∈ opponents, Text.IsSolid opponent
  | .intent (.join (some amount)) => 0 < amount ∧ amount ≤ Text.maxAmount
  | .intent (.bet (.bet amount)) => 0 < amount ∧ amount ≤ Text.maxAmount
  | .intent (.bet (.raise amount)) => 0 < amount ∧ amount ≤ Text.maxAmount
  | _ => True

/-- The words of a command with each word in its first name and numbers as they are printed. -/
def spelling : Command → List String
  | .intent (.start opponents) => "start" :: opponents
  | .intent (.join none) => ["join"]
  | .intent (.join (some amount)) => ["join", toString amount]
  | .intent (.bet (.bet amount)) => ["bet", toString amount]
  | .intent (.bet (.raise amount)) => ["raise", toString amount]
  | .create none => ["create"]
  | .create (some seats) => ["create", toString seats.toNat]
  | .table tableId => ["table", toString tableId.toNat]
  | command => command.names.take 1

theorem writesAmount_toString {amount : Chips} (positive : 0 < amount)
    (bounded : amount ≤ Text.maxAmount) : WritesAmount (toString amount) amount := by
  obtain ⟨number, rfl⟩ := Int.eq_ofNat_of_zero_le (Int.le_of_lt positive)
  exact ⟨positive, bounded, Text.decimal_toString number⟩

/-- The spelling of a command is one of its forms. -/
theorem form_spelling (command : Command) (typable : command.Typable) :
    Form command command.spelling := by
  cases command with
  | intent wish =>
    cases wish with
    | start opponents => exact .start (by decide) opponents
    | join buyIn =>
      cases buyIn with
      | none => exact .join rfl
      | some amount => exact .argument (.join (writesAmount_toString typable.1 typable.2))
    | bet action =>
      cases action with
      | bet amount => exact .argument (.bet (writesAmount_toString typable.1 typable.2))
      | raise amount => exact .argument (.raise (writesAmount_toString typable.1 typable.2))
      | fold | check | call | allIn => exact .alone (by decide)
    | reveal street => cases street <;> exact .alone (by decide)
    | showdown => exact .alone (by decide)
  | create seats =>
    cases seats with
    | none => exact .create rfl
    | some seats => exact .argument (.create (Text.decimal_toString _))
  | table tableId => exact .argument (.table (Text.decimal_toString _))
  | tables | lobby | committee | chain | view | help | quit => exact .alone (by decide)

theorem Form.ne_nil {command : Command} {words : List String} (form : Form command words) :
    words ≠ [] := by
  cases form <;> exact List.cons_ne_nil _ _

/-- The spelling of a command has no blanks in its words. -/
theorem solid_of_mem_spelling (command : Command) (typable : command.Typable) :
    ∀ word ∈ command.spelling, Text.IsSolid word := by
  have pair {keyword word : String} (first : Text.IsSolid keyword) (second : Text.IsSolid word) :
      ∀ other ∈ [keyword, word], Text.IsSolid other := by
    simpa using ⟨first, second⟩
  cases command with
  | intent wish =>
    cases wish with
    | start opponents => exact List.forall_mem_cons.mpr ⟨by decide, typable⟩
    | join buyIn =>
      cases buyIn with
      | none => decide
      | some amount => exact pair (by decide) (Text.isSolid_toString amount)
    | bet action =>
      cases action with
      | bet amount | raise amount => exact pair (by decide) (Text.isSolid_toString amount)
      | fold | check | call | allIn => decide
    | reveal street => cases street <;> decide
    | showdown => decide
  | create seats =>
    cases seats with
    | none => decide
    | some seats => exact pair (by decide) (Text.isSolid_toString seats.toNat)
  | table tableId => exact pair (by decide) (Text.isSolid_toString tableId.toNat)
  | tables | lobby | committee | chain | view | help | quit => decide

/-- A command is read from every line that lays out one of its forms, and there is such a line for its
plain spelling. -/
theorem ofLine_of_form (command : Command) (typable : command.Typable) :
    (Form command command.spelling ∧ ∃ line, Text.Lays command.spelling line) ∧
      ∀ words line, Form command words → Text.Lays words line → ofLine line = .ok command := by
  have form := form_spelling command typable
  have solid := solid_of_mem_spelling command typable
  refine ⟨⟨form, Text.exists_lays form.ne_nil solid⟩, ?_⟩
  intro words line form lays
  apply ofLine_eq_ok_iff.mpr
  rw [lays.words_trim]
  exact .inl form

/-- Opponents keep their letters, also where they spell another command. -/
theorem ofLine_of_mixed_case :
    Command.Typable (.intent (.start ["Fold", "Älice"])) ∧
      Form (.intent (.start ["Fold", "Älice"])) ["DeAL", "Fold", "Älice"] ∧
      Text.Lays ["DeAL", "Fold", "Älice"] "\u00a0\x0bDeAL\t\x0cFold \t Älice\u2003\r\n" ∧
      ofLine "\u00a0\x0bDeAL\t\x0cFold \t Älice\u2003\r\n" =
        .ok (.intent (.start ["Fold", "Älice"])) := by
  have typable : Command.Typable (.intent (.start ["Fold", "Älice"])) := by
    change ∀ opponent ∈ ["Fold", "Älice"], Text.IsSolid opponent
    decide
  have form : Form (.intent (.start ["Fold", "Älice"])) ["DeAL", "Fold", "Älice"] :=
    .start (by decide) _
  have lays : Text.Lays ["DeAL", "Fold", "Älice"]
      "\u00a0\x0bDeAL\t\x0cFold \t Älice\u2003\r\n" := by
    have last := Text.Spaced.last "Älice"
    have spaced := last.next "Fold" [' ', '\t', ' '] (by simp) (by simp [Text.isWordBreak])
    have spaced := spaced.next "DeAL" ['\t', '\x0c'] (by simp) (by simp [Text.isWordBreak])
    exact ⟨by decide, ['\u00a0', '\x0b'], _, ['\u2003', '\r', '\n'], by simp [Text.isBlank], spaced,
      by simp [Text.isBlank], by decide⟩
  exact ⟨typable, form, lays, (ofLine_of_form _ typable).2 _ _ form lays⟩

end Command

end Holdem
