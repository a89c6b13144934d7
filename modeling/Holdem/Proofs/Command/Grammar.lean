import Holdem.Command
import Holdem.Proofs.Text.Decimal
import Holdem.Proofs.Text.Words

/-!
# The grammar of commands

Which lines are accepted, and as what. The usage lists the forms of a command as words (`Form`). A line
is either one name, matched as a whole, or it is cut into words, and then the keyword before the first
gap decides how many of the others are read: `start` reads them all, every other keyword at most one.
A line that goes on after the argument is therefore accepted too, although it is no form.
-/

namespace Holdem

/-! ## The amount of an intent -/

namespace Intent

variable {intent : Intent}

/-- The amount that an intent names. -/
def amount? : Intent → Option Chips
  | .join buyIn => buyIn
  | .bet action => action.amount?
  | _ => none

/-- The check of an intent that names no amount, or a positive one, never finds fault with it. -/
theorem check_ne_invalidAmount (positive : ∀ amount, intent.amount? = some amount → 0 < amount)
    (table : Table) (mode : PlayMode) (hero : Address) (action : String) :
    intent.check table mode hero ≠ .error (.invalidAmount action) := by
  have good : isBadAmount intent.amount? = false := by
    cases given : intent.amount? with
    | none => rfl
    | some amount => simp [isBadAmount, positive amount given]
  cases intent with
  | start opponents =>
    rw [check]
    split <;> simp [wrongPhase]
  | join buyIn =>
    rw [amount?] at good
    rw [check, good]
    repeat' split
    all_goals simp [wrongPhase] at *
  | bet action =>
    rw [amount?] at good
    rw [check, checkBet, good]
    repeat' split
    all_goals simp [wrongPhase] at *
  | reveal street =>
    rw [check]
    split <;> simp [wrongPhase]
  | showdown =>
    rw [check]
    split <;> simp [wrongPhase]

end Intent

namespace Command

/-- The words that stand alone for a command. -/
def names : Command → List String
  | .intent (.bet .fold) => ["fold"]
  | .intent (.bet .check) => ["check"]
  | .intent (.bet .call) => ["call"]
  | .intent (.bet .allIn) => ["allin", "all-in"]
  | .intent (.reveal street) => [street.name]
  | .intent .showdown => ["showdown"]
  | .tables => ["tables"]
  | .lobby => ["lobby"]
  | .committee => ["committee"]
  | .chain => ["chain"]
  | .view => ["show", "state"]
  | .help => ["help", "?"]
  | .quit => ["quit", "exit"]
  | _ => []

/-- The word is a positive amount in decimal. -/
def WritesAmount (word : String) (amount : Chips) : Prop :=
  0 < amount ∧ amount ≤ Text.maxAmount ∧ Text.Decimal word amount.toNat

/-- What a keyword and the one word after it stand for. A street's name may have blanks around it that
are no breaks between words. -/
inductive Argument : Command → String → String → Prop where
  | bet {word : String} {amount : Chips} (writes : WritesAmount word amount) :
      Argument (bet (.bet amount)) "bet" word
  | raise {word : String} {amount : Chips} (writes : WritesAmount word amount) :
      Argument (Command.bet (.raise amount)) "raise" word
  | join {word : String} {amount : Chips} (writes : WritesAmount word amount) :
      Argument (.intent (.join (some amount))) "join" word
  | reveal {word : String} {street : Street}
      (named : Text.lower (Text.trim word) = street.name) :
      Argument (.intent (.reveal street)) "reveal" word
  | table {word : String} {tableId : UInt32} (decimal : Text.Decimal word tableId.toNat) :
      Argument (.table tableId) "table" word
  | create {word : String} {seats : UInt32} (decimal : Text.Decimal word seats.toNat) :
      Argument (.create (some seats)) "create" word

/-- The words of a command, in the forms that the usage lists and with the other names that words
have. Keywords are in any letter case. -/
inductive Form : Command → List String → Prop where
  | alone {command : Command} {word : String} (named : Text.lower word ∈ command.names) :
      Form command [word]
  | start {keyword : String} (named : Text.lower keyword ∈ ["start", "deal"])
      (opponents : List String) : Form (.intent (.start opponents)) (keyword :: opponents)
  | join {keyword : String} (named : Text.lower keyword = "join") :
      Form (.intent (.join none)) [keyword]
  | create {keyword : String} (named : Text.lower keyword = "create") :
      Form (.create none) [keyword]
  | argument {command : Command} {keyword word : String}
      (argument : Argument command (Text.lower keyword) word) : Form command [keyword, word]

variable {command : Command} {word keyword line : String} {words : List String}

/-! ## Words that stand alone -/

theorem ofFixed?_eq_some_iff : ofFixed? word = some command ↔ word ∈ command.names := by
  constructor
  · intro fixed
    unfold ofFixed? at fixed
    split at fixed <;> cases fixed <;> simp [names, bet, Street.name]
  · intro named
    unfold names at named
    split at named
    case h_5 street =>
      rw [List.mem_singleton.mp named]
      cases street <;> rfl
    all_goals simp only [List.mem_cons, List.not_mem_nil, or_false] at named
    all_goals rcases named with rfl | rfl <;> rfl

/-! ## Arguments -/

theorem positive_eq_ok_iff {amount : Chips} :
    positive word = .ok amount ↔ WritesAmount word amount := by
  have filtered : positive word = .ok amount ↔ 0 < amount ∧ Text.amount? word = some amount := by
    rw [positive]
    cases read : Text.amount? word with
    | none => simp
    | some found =>
      by_cases above : 0 < found
      · simp only [Option.filter_some, above, decide_true, if_true, Except.ok.injEq,
          Option.some.injEq]
        exact ⟨fun same => ⟨same ▸ above, same⟩, And.right⟩
      · simp only [Option.filter_some, above, decide_false, Bool.false_eq_true, if_false,
          reduceCtorEq, Option.some.injEq, false_iff]
        exact fun ⟨positive, same⟩ => above (same ▸ positive)
  rw [filtered, WritesAmount]
  apply and_congr_right
  intro above
  rw [Text.amount?_eq_some_iff_of_pos above]
  constructor
  · rintro ⟨number, decimal, bounded, rfl⟩
    exact ⟨Int.ofNat_le.mpr bounded, decimal⟩
  · rintro ⟨bounded, decimal⟩
    exact ⟨amount.toNat, decimal, Int.toNat_le.mpr bounded, Int.toNat_of_nonneg (Int.le_of_lt above)⟩

/-- A number of 32 bits is read from each of its decimals. -/
theorem exists_count32?_iff {number : UInt32} :
    (∃ read, Text.count32? word = some read ∧ UInt32.ofNat read = number) ↔
      Text.Decimal word number.toNat := by
  simp only [Text.count32?_eq_some_iff]
  constructor
  · rintro ⟨read, ⟨decimal, bounded⟩, rfl⟩
    have small : read < UInt32.size := Nat.lt_succ_of_le bounded
    rwa [UInt32.toNat_ofNat_of_lt' small]
  · intro decimal
    have small : number.toNat < UInt32.size := number.toNat_lt
    exact ⟨number.toNat, ⟨decimal, Nat.le_of_lt_succ small⟩, UInt32.ofNat_toNat⟩

theorem ofName?_eq_ok_iff {street : Street} :
    Street.ofName? word = .ok street ↔ Text.lower (Text.trim word) = street.name := by
  rw [Street.ofName?]
  split <;> cases street <;> simp_all [Street.name]

theorem amountAfter_eq_ok_iff {amount : Chips} :
    amountAfter keyword words = .ok amount ↔
      ∃ word ignored, words = word :: ignored ∧ WritesAmount word amount := by
  cases words with
  | nil => simp [amountAfter]
  | cons word ignored => simp [amountAfter, positive_eq_ok_iff]

/-- An argument is read whatever words come after it. -/
theorem Argument.ofKeyword_eq (argument : Argument command keyword word) (ignored : List String) :
    ofKeyword line keyword (word :: ignored) = .ok command := by
  cases argument with
  | bet writes => simp [ofKeyword, amountAfter, positive_eq_ok_iff.mpr writes, Except.map]
  | raise writes => simp [ofKeyword, amountAfter, positive_eq_ok_iff.mpr writes, Except.map]
  | join writes => simp [ofKeyword, positive_eq_ok_iff.mpr writes, Except.map]
  | reveal named => simp [ofKeyword, ofName?_eq_ok_iff.mpr named]
  | table decimal =>
    rcases exists_count32?_iff.mpr decimal with ⟨number, read, rfl⟩
    simp [ofKeyword, read]
  | create decimal =>
    rcases exists_count32?_iff.mpr decimal with ⟨number, read, rfl⟩
    simp [ofKeyword, read]

/-- A keyword is read alone, with all the words after it as opponents, or with the first of them as its
argument. -/
theorem ofKeyword_cases (read : ofKeyword line keyword words = .ok command) :
    (keyword ∈ ["start", "deal"] ∧ command = .intent (.start words)) ∨
      (keyword = "join" ∧ words = [] ∧ command = .intent (.join none)) ∨
      (keyword = "create" ∧ words = [] ∧ command = .create none) ∨
      ∃ word ignored, words = word :: ignored ∧ Argument command keyword word := by
  unfold ofKeyword at read
  split at read
  case h_1 | h_2 =>
    cases read
    simp
  case h_3 =>
    cases words with
    | nil =>
      cases read
      simp
    | cons word ignored =>
      rcases map_eq_ok_iff.mp read with ⟨amount, found, rfl⟩
      exact .inr (.inr (.inr ⟨word, ignored, rfl, .join (positive_eq_ok_iff.mp found)⟩))
  case h_4 =>
    rcases map_eq_ok_iff.mp read with ⟨amount, found, rfl⟩
    rcases amountAfter_eq_ok_iff.mp found with ⟨word, ignored, rfl, writes⟩
    exact .inr (.inr (.inr ⟨word, ignored, rfl, .bet writes⟩))
  case h_5 =>
    rcases map_eq_ok_iff.mp read with ⟨amount, found, rfl⟩
    rcases amountAfter_eq_ok_iff.mp found with ⟨word, ignored, rfl, writes⟩
    exact .inr (.inr (.inr ⟨word, ignored, rfl, .raise writes⟩))
  case h_6 =>
    cases words with
    | nil => cases read
    | cons word ignored =>
      dsimp only [List.headD_cons] at read
      split at read <;> cases read
      rename_i street named
      exact .inr (.inr (.inr ⟨word, ignored, rfl, .reveal (ofName?_eq_ok_iff.mp named)⟩))
  case h_7 =>
    cases words with
    | nil => cases read
    | cons word ignored =>
      dsimp only [List.headD_cons] at read
      split at read <;> cases read
      rename_i number found
      have decimal := exists_count32?_iff.mp ⟨number, found, rfl⟩
      exact .inr (.inr (.inr ⟨word, ignored, rfl, .table decimal⟩))
  case h_8 =>
    cases words with
    | nil =>
      cases read
      simp
    | cons word ignored =>
      dsimp only at read
      split at read <;> cases read
      rename_i number found
      have decimal := exists_count32?_iff.mp ⟨number, found, rfl⟩
      exact .inr (.inr (.inr ⟨word, ignored, rfl, .create decimal⟩))
  case h_9 => cases read

/-! ## Lines -/

theorem not_isWordBreak_of_lt {c : Char} (above : 32 < c.toNat) : Text.isWordBreak c = false := by
  simp only [Text.isWordBreak, Bool.or_eq_false_iff, decide_eq_false_iff_not]
  refine ⟨⟨⟨⟨?_, ?_⟩, ?_⟩, ?_⟩, ?_⟩ <;> rintro rfl <;> exact absurd above (by decide)

theorem isWordBreak_toLower (c : Char) : Text.isWordBreak c.toLower = Text.isWordBreak c := by
  by_cases capital : c.val ≥ 'A'.val ∧ c.val ≤ 'Z'.val
  · have bounds : 65 ≤ c.toNat ∧ c.toNat ≤ 90 := capital
    have moved : c.toLower.val = c.val + 32 := congrArg Char.val (dif_pos capital)
    have lowered : c.toLower.toNat = c.toNat + 32 := by
      have small : c.val.toNat + (32 : UInt32).toNat < 4294967296 :=
        Nat.lt_of_le_of_lt (Nat.add_le_add_right bounds.2 32) (by decide)
      rw [Char.toNat, moved]
      exact (UInt32.toNat_add c.val 32).trans (Nat.mod_eq_of_lt small)
    rw [not_isWordBreak_of_lt (by omega), not_isWordBreak_of_lt (by omega)]
  · have kept : c.toLower = c := dif_neg capital
    rw [kept]

theorem whole_of_lower (whole : ∀ c ∈ (Text.lower word).toList, Text.isWordBreak c = false) :
    ∀ c ∈ word.toList, Text.isWordBreak c = false := by
  intro c member
  rw [← isWordBreak_toLower]
  apply whole
  rw [Text.lower, String.toList_ofList]
  exact List.mem_map_of_mem member

/-- A name is one word. -/
theorem words_of_mem_names (named : Text.lower word ∈ command.names) : Text.words word = [word] := by
  have solid : Text.IsSolid (Text.lower word) := by
    generalize Text.lower word = name at named
    unfold names at named
    split at named
    case h_5 street =>
      rw [List.mem_singleton.mp named]
      cases street <;> decide
    all_goals simp only [List.mem_cons, List.not_mem_nil, or_false] at named
    all_goals rcases named with rfl | rfl <;> decide
  apply Text.words_of_whole _ (whole_of_lower solid.whole)
  rintro rfl
  exact solid.filled rfl

/-- A name is read as one command only. -/
theorem eq_of_ofFixed? {found : Command} (fixed : ofFixed? (Text.lower word) = some found)
    (form : Form command [word]) : found = command := by
  cases form with
  | alone named => exact Option.some.inj (fixed.symm.trans (ofFixed?_eq_some_iff.mpr named))
  | start named =>
    simp only [List.mem_cons, List.not_mem_nil, or_false] at named
    rcases named with named | named <;> simp [named, ofFixed?] at fixed
  | join named => simp [named, ofFixed?] at fixed
  | create named => simp [named, ofFixed?] at fixed

theorem Form.ofKeyword_eq (form : Form command (keyword :: words))
    (unfixed : words = [] → ofFixed? (Text.lower keyword) = none) :
    ofKeyword line (Text.lower keyword) words = .ok command := by
  cases form with
  | alone named =>
    have fixed := ofFixed?_eq_some_iff.mpr named
    rw [unfixed rfl] at fixed
    cases fixed
  | start named =>
    simp only [List.mem_cons, List.not_mem_nil, or_false] at named
    rcases named with named | named <;> rw [named] <;> rfl
  | join named => rw [named]; rfl
  | create named => rw [named]; rfl
  | argument argument => exact argument.ofKeyword_eq []

theorem form_or_argument_of_ofKeyword
    (read : ofKeyword line (Text.lower keyword) words = .ok command) :
    Form command (keyword :: words) ∨
      ∃ word ignored, words = word :: ignored ∧ Argument command (Text.lower keyword) word := by
  rcases ofKeyword_cases read with ⟨named, rfl⟩ | ⟨named, rfl, rfl⟩ | ⟨named, rfl, rfl⟩ | argument
  · exact .inl (.start named words)
  · exact .inl (.join named)
  · exact .inl (.create named)
  · exact .inr argument

/-- The words of a line decide which command it is. -/
theorem ofLine_eq_ok_iff :
    ofLine line = .ok command ↔
      Form command (Text.words (Text.trim line)) ∨
        ∃ keyword word ignored, Text.words (Text.trim line) = keyword :: word :: ignored ∧
          Argument command (Text.lower keyword) word := by
  rw [ofLine]
  cases fixed : ofFixed? (Text.lower (Text.trim line)) with
  | some found =>
    have named := ofFixed?_eq_some_iff.mp fixed
    simp only [words_of_mem_names named, Except.ok.injEq]
    constructor
    · rintro rfl
      exact .inl (.alone named)
    · rintro (form | ⟨_, _, _, cut, _⟩)
      · exact eq_of_ofFixed? fixed form
      · cases cut
  | none =>
    cases cut : Text.words (Text.trim line) with
    | nil =>
      simp only [reduceCtorEq, false_iff]
      rintro (form | ⟨_, _, _, empty, _⟩)
      · cases form
      · cases empty
    | cons keyword words =>
      -- A line of one word is that word, so it has been looked for among the names.
      have unfixed : words = [] → ofFixed? (Text.lower keyword) = none := by
        rintro rfl
        rw [← Text.trim_eq_of_words cut, fixed]
      constructor
      · intro read
        rcases form_or_argument_of_ofKeyword read with form | ⟨word, ignored, rfl, argument⟩
        · exact .inl form
        · exact .inr ⟨keyword, word, ignored, rfl, argument⟩
      · rintro (form | ⟨_, word, ignored, same, argument⟩)
        · exact form.ofKeyword_eq unfixed
        · cases same
          exact argument.ofKeyword_eq ignored

/-! ## Amounts -/

theorem Argument.amount_pos {intent : Intent} (argument : Argument (.intent intent) keyword word)
    {amount : Chips} (named : intent.amount? = some amount) : 0 < amount := by
  cases argument with
  | bet writes | raise writes | join writes =>
    cases named
    exact writes.1
  | reveal => cases named

theorem Form.amount_pos {intent : Intent} (form : Form (.intent intent) words) {amount : Chips}
    (named : intent.amount? = some amount) : 0 < amount := by
  cases form with
  | alone standing =>
    unfold names at standing
    split at standing <;> simp_all [Intent.amount?, Action.amount?]
  | start | join => cases named
  | argument argument => exact argument.amount_pos named

/-- A line is accepted exactly where its words are a form of the command, or where they begin with an
argument form and go on after it. In the second case they are no form. An amount that was accepted is
positive, and no check finds fault with it. -/
theorem accepted_iff (line : String) (command : Command) :
    (ofLine line = .ok command ↔
      Form command (Text.words (Text.trim line)) ∨
        ∃ keyword word ignored, ignored ≠ [] ∧
          Text.words (Text.trim line) = keyword :: word :: ignored ∧
          Argument command (Text.lower keyword) word) ∧
      (∀ keyword word ignored, ignored ≠ [] → Argument command (Text.lower keyword) word →
        ¬Form command (keyword :: word :: ignored)) ∧
      ∀ intent, command = .intent intent → ofLine line = .ok command →
        (∀ amount, intent.amount? = some amount → 0 < amount) ∧
          ∀ table mode hero action,
            intent.check table mode hero ≠ .error (.invalidAmount action) := by
  refine ⟨?_, ?_, ?_⟩
  · rw [ofLine_eq_ok_iff]
    constructor
    · rintro (form | ⟨keyword, word, ignored, cut, argument⟩)
      · exact .inl form
      · cases ignored with
        | nil => exact .inl (cut ▸ .argument argument)
        | cons next rest =>
          exact .inr ⟨keyword, word, next :: rest, List.cons_ne_nil _ _, cut, argument⟩
    · rintro (form | ⟨keyword, word, ignored, _, cut, argument⟩)
      · exact .inl form
      · exact .inr ⟨keyword, word, ignored, cut, argument⟩
  · intro keyword word ignored further argument form
    cases form with
    | start => cases argument
    | argument => exact further rfl
  · rintro intent rfl read
    have positive : ∀ amount, intent.amount? = some amount → 0 < amount := by
      intro amount named
      rcases ofLine_eq_ok_iff.mp read with form | ⟨_, _, _, _, argument⟩
      · exact form.amount_pos named
      · exact argument.amount_pos named
    exact ⟨positive, Intent.check_ne_invalidAmount positive⟩

/-- An amount may have a sign and zeros in front. Behind it a word is let pass, and the line is then no
form. -/
theorem accepted_iff_of_trailing_word :
    ofLine " Raise +007 now" = .ok (bet (.raise 7)) ∧
      ¬Form (bet (.raise 7)) ["Raise", "+007", "now"] ∧
      ∀ table mode hero action,
        (Intent.bet (.raise 7)).check table mode hero ≠ .error (.invalidAmount action) := by
  have read : ofLine " Raise +007 now" = .ok (bet (.raise 7)) := by rfl
  have lowered : Text.lower "Raise" = "raise" := by rfl
  have decimal : Text.Decimal "+007" 7 := ⟨['0', '0', '7'], .inr rfl, by decide, by simp, by decide⟩
  have argument : Argument (bet (.raise 7)) (Text.lower "Raise") "+007" :=
    lowered ▸ .raise ⟨by decide, by decide, decimal⟩
  rcases accepted_iff " Raise +007 now" (bet (.raise 7)) with ⟨_, noForm, amounts⟩
  exact ⟨read, noForm _ _ _ (List.cons_ne_nil "now" []) argument, (amounts _ rfl read).2⟩

/-- An amount with a gap in it is taken for its first part. -/
theorem accepts_what_is_no_form :
    ¬∀ line command, ofLine line = .ok command → Form command (Text.words (Text.trim line)) := by
  intro forms
  have read : ofLine "bet 1 000" = .ok (bet (.bet 1)) := by rfl
  have cut : Text.words (Text.trim "bet 1 000") = ["bet", "1", "000"] := by rfl
  have form := forms _ _ read
  rw [cut] at form
  cases form

end Command

end Holdem
