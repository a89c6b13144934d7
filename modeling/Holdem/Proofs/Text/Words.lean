import Holdem.Text.Blank

/-!
# Trimmed texts and their words

A line is first trimmed of all blanks and then cut at word breaks, which are only some of the blanks.
The two steps are joined by what trimming leaves: a text that is firm, with no blank at either end.
The cut takes one word off a text that does not begin with a break (`pieces_of_head`), and a break in
front makes no difference (`pieces_dropWhile`); everything about words is derived from these two.
-/

namespace Holdem.Text

variable {letters before after : List Char} {c : Char} {text : String}

/-! ## Trimming -/

theorem dropWhile_isBlank_of_head (head : ∀ c, letters.head? = some c → isBlank c = false) :
    letters.dropWhile isBlank = letters := by
  cases letters with
  | nil => rfl
  | cons first rest => rw [List.dropWhile_cons_of_neg (by simp [head first rfl])]

/-- A text that has no blank at either end. -/
structure Firm (letters : List Char) : Prop where
  head : ∀ c, letters.head? = some c → isBlank c = false
  last : ∀ c, letters.getLast? = some c → isBlank c = false

theorem firm_of_no_blank (none : ∀ c ∈ letters, isBlank c = false) : Firm letters where
  head c first := none c (List.mem_of_head? first)
  last c final := none c (List.mem_of_getLast? final)

theorem Firm.dropEnd (firm : Firm letters) : dropEnd isBlank letters = letters := by
  rw [Text.dropEnd, dropWhile_isBlank_of_head (by simpa using firm.last), List.reverse_reverse]

/-- Trimming takes exactly the blanks around a firm text. -/
theorem Firm.trimmed_append (firm : Firm letters) (filled : letters ≠ [])
    (blankBefore : ∀ c ∈ before, isBlank c = true) (blankAfter : ∀ c ∈ after, isBlank c = true) :
    trimmed (before ++ letters ++ after) = letters := by
  have head : ∀ c, (letters ++ after).head? = some c → isBlank c = false := by
    intro c first
    rw [List.head?_append, List.head?_eq_some_head filled] at first
    exact firm.head c (by rw [List.head?_eq_some_head filled, ← first, Option.some_or])
  have behind : Text.dropEnd isBlank (letters ++ after) = Text.dropEnd isBlank letters := by
    rw [Text.dropEnd, List.reverse_append, List.dropWhile_append_of_pos (by simpa using blankAfter),
      ← Text.dropEnd]
  rw [trimmed, List.append_assoc, List.dropWhile_append_of_pos blankBefore,
    dropWhile_isBlank_of_head head, behind, firm.dropEnd]

theorem not_isBlank_of_head?_dropWhile (first : (letters.dropWhile isBlank).head? = some c) :
    isBlank c = false := by
  have head := List.head?_dropWhile_not isBlank letters
  rw [first] at head
  exact head

/-- What trimming leaves is firm. -/
theorem firm_trimmed (letters : List Char) : Firm (trimmed letters) where
  head c first := by
    -- The end is dropped last, and that leaves the first letter where it is.
    let kept := letters.dropWhile isBlank
    have cut : trimmed letters ++ (kept.reverse.takeWhile isBlank).reverse = kept := by
      rw [trimmed, dropEnd, ← List.reverse_append, List.takeWhile_append_dropWhile,
        List.reverse_reverse]
    have first : kept.head? = some c := by rw [← cut, List.head?_append, first, Option.some_or]
    exact not_isBlank_of_head?_dropWhile first
  last c final := by
    rw [trimmed, dropEnd, List.getLast?_reverse] at final
    exact not_isBlank_of_head?_dropWhile final

theorem trim_of_firm (firm : Firm text.toList) : trim text = text := by
  rw [trim, trimmed, dropWhile_isBlank_of_head firm.head, firm.dropEnd, String.ofList_toList]

theorem trim_of_no_blank (none : ∀ c ∈ text.toList, isBlank c = false) : trim text = text :=
  trim_of_firm (firm_of_no_blank none)

/-! ## Words -/

/-- The pieces of a text that are its words. -/
def pieces (letters : List Char) : List (List Char) :=
  (letters.splitOnP isWordBreak).filter fun piece => !piece.isEmpty

theorem isWordBreak_of_not_isBlank (solid : isBlank c = false) : isWordBreak c = false := by
  cases isBreak : isWordBreak c with
  | true => simpa [solid] using isBlank_of_isWordBreak isBreak
  | false => rfl

theorem words_eq (text : String) : words text = (pieces text.toList).map String.ofList := rfl

theorem pieces_cons_of_isWordBreak (isBreak : isWordBreak c = true) (rest : List Char) :
    pieces (c :: rest) = pieces rest := by
  simp [pieces, List.splitOnP_cons_eq_if_modifyHead, isBreak]

/-- Breaks in front make no difference. -/
theorem pieces_append_of_isWordBreak {gap : List Char} (breaks : ∀ c ∈ gap, isWordBreak c = true)
    (rest : List Char) : pieces (gap ++ rest) = pieces rest := by
  induction gap with
  | nil => rfl
  | cons c gap hypothesis =>
    rw [List.forall_mem_cons] at breaks
    rw [List.cons_append, pieces_cons_of_isWordBreak breaks.1, hypothesis breaks.2]

/-- A word is all letters up to a break. -/
theorem pieces_append {word rest : List Char} (filled : word ≠ [])
    (whole : ∀ c ∈ word, isWordBreak c = false)
    (ends : ∀ c, rest.head? = some c → isWordBreak c = true) :
    pieces (word ++ rest) = word :: pieces rest := by
  cases rest with
  | nil => simp [pieces, List.splitOnP_eq_singleton whole, filled]
  | cons c rest =>
    have isBreak := ends c rfl
    rw [pieces_cons_of_isWordBreak isBreak, pieces,
      List.splitOnP_append_cons_of_forall_mem whole c isBreak,
      List.filter_cons_of_pos (by simpa using filled), ← pieces]

theorem pieces_of_whole (filled : letters ≠ []) (whole : ∀ c ∈ letters, isWordBreak c = false) :
    pieces letters = [letters] := by
  have cut := @pieces_append letters [] filled whole (by simp)
  simpa [pieces] using cut

/-- A text that does not begin with a break begins with a word. -/
theorem exists_pieces_append (letter : isWordBreak c = false) (rest : List Char) :
    ∃ word left, c :: rest = word ++ left ∧ word ≠ [] ∧ (∀ c ∈ word, isWordBreak c = false) ∧
      pieces (c :: rest) = word :: pieces left := by
  let isLetter : Char → Bool := fun c => !isWordBreak c
  have cut : (c :: rest).takeWhile isLetter ++ (c :: rest).dropWhile isLetter = c :: rest :=
    List.takeWhile_append_dropWhile
  have filled : (c :: rest).takeWhile isLetter ≠ [] := by
    rw [List.takeWhile_cons_of_pos (by simp [isLetter, letter])]
    exact List.cons_ne_nil _ _
  have whole : ∀ d ∈ (c :: rest).takeWhile isLetter, isWordBreak d = false := by
    intro d member
    simpa [isLetter] using List.all_eq_true.mp List.all_takeWhile d member
  have ends : ∀ d, ((c :: rest).dropWhile isLetter).head? = some d → isWordBreak d = true := by
    intro d first
    have head := List.head?_dropWhile_not isLetter (c :: rest)
    rw [first] at head
    simpa [isLetter] using head
  refine ⟨_, _, cut.symm, filled, whole, ?_⟩
  rw [← pieces_append filled whole ends, cut]

theorem pieces_ne_nil (member : c ∈ letters) (letter : isWordBreak c = false) :
    pieces letters ≠ [] := by
  induction letters with
  | nil => exact absurd member List.not_mem_nil
  | cons first rest hypothesis =>
    cases isBreak : isWordBreak first with
    | true =>
      rw [pieces_cons_of_isWordBreak isBreak]
      apply hypothesis
      exact (List.mem_cons.mp member).resolve_left fun same => by simp [same, isBreak] at letter
    | false =>
      rcases exists_pieces_append isBreak rest with ⟨_, _, _, _, _, cut⟩
      rw [cut]
      exact List.cons_ne_nil _ _

/-- A firm text with one word is that word. -/
theorem Firm.eq_of_pieces (firm : Firm letters) {word : List Char} (one : pieces letters = [word]) :
    letters = word := by
  cases letters with
  | nil => simp [pieces] at one
  | cons first rest =>
    have letter := isWordBreak_of_not_isBlank (firm.head first rfl)
    rcases exists_pieces_append letter rest with ⟨front, left, cut, _, _, split⟩
    rw [split, List.cons.injEq] at one
    rw [cut, one.1]
    -- What is left over would end in a letter, and so have another word.
    cases final : left.getLast? with
    | none => rw [List.getLast?_eq_none_iff.mp final, List.append_nil]
    | some c =>
      have last : isBlank c = false := by
        apply firm.last
        rw [cut, List.getLast?_append, final, Option.some_or]
      have other := pieces_ne_nil (List.mem_of_getLast? final) (isWordBreak_of_not_isBlank last)
      exact absurd one.2 other

theorem words_of_whole {word : String} (filled : word ≠ "")
    (whole : ∀ c ∈ word.toList, isWordBreak c = false) : words word = [word] := by
  rw [words_eq, pieces_of_whole (by simpa using filled) whole, List.map_singleton,
    String.ofList_toList]

/-- A trimmed text with one word is that word. -/
theorem trim_eq_of_words {word : String} (one : words (trim text) = [word]) :
    trim text = word := by
  rw [words_eq, List.map_eq_singleton_iff] at one
  rcases one with ⟨letters, one, rfl⟩
  have firm : Firm (trim text).toList := by
    rw [trim, String.toList_ofList]
    exact firm_trimmed _
  rw [← firm.eq_of_pieces one, String.ofList_toList]

/-! ## Laid out words -/

/-- A word without any blanks. -/
structure IsSolid (word : String) : Prop where
  filled : word ≠ ""
  noBlank : ∀ c ∈ word.toList, isBlank c = false

theorem isSolid_iff {word : String} :
    IsSolid word ↔ word ≠ "" ∧ word.toList.all fun c => !isBlank c := by
  simp only [List.all_eq_true, Bool.not_eq_true']
  exact ⟨fun solid => ⟨solid.filled, solid.noBlank⟩, fun ⟨filled, noBlank⟩ => ⟨filled, noBlank⟩⟩

instance (word : String) : Decidable (IsSolid word) :=
  decidable_of_decidable_of_iff isSolid_iff.symm

theorem IsSolid.ne_nil {word : String} (solid : IsSolid word) : word.toList ≠ [] := by
  simpa using solid.filled

theorem IsSolid.whole {word : String} (solid : IsSolid word) :
    ∀ c ∈ word.toList, isWordBreak c = false :=
  fun c member => isWordBreak_of_not_isBlank (solid.noBlank c member)

/-- Words with one or more breaks between any two of them. -/
inductive Spaced : List String → List Char → Prop where
  | last (word : String) : Spaced [word] word.toList
  | next (word : String) (gap : List Char) {words : List String} {letters : List Char}
      (filled : gap ≠ []) (breaks : ∀ c ∈ gap, isWordBreak c = true) (spaced : Spaced words letters) :
      Spaced (word :: words) (word.toList ++ (gap ++ letters))

/-- A line that consists of solid words, with breaks between them and blanks around them. -/
structure Lays (words : List String) (line : String) : Prop where
  solid : ∀ word ∈ words, IsSolid word
  laid : ∃ before letters after, (∀ c ∈ before, isBlank c = true) ∧ Spaced words letters ∧
    (∀ c ∈ after, isBlank c = true) ∧ line.toList = before ++ letters ++ after

namespace Spaced

variable {words : List String}

theorem ne_nil (spaced : Spaced words letters) (solid : ∀ word ∈ words, IsSolid word) :
    letters ≠ [] := by
  cases spaced with
  | last word => exact (solid word List.mem_cons_self).ne_nil
  | next word _ _ _ => simp [(solid word List.mem_cons_self).ne_nil]

theorem firm (spaced : Spaced words letters) (solid : ∀ word ∈ words, IsSolid word) :
    Firm letters := by
  induction spaced with
  | last word => exact firm_of_no_blank (solid word List.mem_cons_self).noBlank
  | @next word gap words letters filled breaks spaced hypothesis =>
    rw [List.forall_mem_cons] at solid
    constructor
    · intro c first
      rw [List.head?_append, List.head?_eq_some_head solid.1.ne_nil, Option.some_or] at first
      exact solid.1.noBlank c (List.mem_of_head? (first ▸ List.head?_eq_some_head solid.1.ne_nil))
    · intro c final
      rw [← List.append_assoc, List.getLast?_append,
        List.getLast?_eq_some_getLast (spaced.ne_nil solid.2), Option.some_or] at final
      apply (hypothesis solid.2).last c
      rw [List.getLast?_eq_some_getLast (spaced.ne_nil solid.2), final]

theorem pieces (spaced : Spaced words letters) (solid : ∀ word ∈ words, IsSolid word) :
    pieces letters = words.map String.toList := by
  induction spaced with
  | last word =>
    have word := solid word List.mem_cons_self
    exact pieces_of_whole word.ne_nil word.whole
  | @next word gap words letters filled breaks spaced hypothesis =>
    rw [List.forall_mem_cons] at solid
    have ends : ∀ c, (gap ++ letters).head? = some c → isWordBreak c = true := by
      intro c first
      rw [List.head?_append, List.head?_eq_some_head filled, Option.some_or] at first
      exact breaks c (List.mem_of_head? (first ▸ List.head?_eq_some_head filled))
    rw [pieces_append solid.1.ne_nil solid.1.whole ends, pieces_append_of_isWordBreak breaks,
      hypothesis solid.2, List.map_cons]

end Spaced

/-- The words that a line lays out are read from it. -/
theorem Lays.words_trim {ws : List String} {line : String} (lays : Lays ws line) :
    words (trim line) = ws := by
  rcases lays.laid with ⟨before, letters, after, blankBefore, spaced, blankAfter, same⟩
  have firm := spaced.firm lays.solid
  rw [words_eq, trim, String.toList_ofList, same,
    firm.trimmed_append (spaced.ne_nil lays.solid) blankBefore blankAfter,
    spaced.pieces lays.solid, List.map_map]
  simp [Function.comp_def]

end Holdem.Text
