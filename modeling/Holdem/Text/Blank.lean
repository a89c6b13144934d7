/-!
# Blank characters

Trimming, letter case and word splitting as the table's texts need them.

Three different notions of a blank character meet in this library. Names and amounts are trimmed of
every character that Unicode calls white space (`isBlank`), a line of input is cut into words at the
five ASCII blanks only (`isWordBreak`), and letters are lowered in ASCII alone. A character such as
the vertical tab is therefore trimmed from the ends of a line but does not separate two words.
-/

namespace Holdem.Text

/-- The characters with the Unicode property White_Space. -/
def isBlank (c : Char) : Bool :=
  let code := c.toNat
  (9 ≤ code && code ≤ 13) || code = 0x20 || code = 0x85 || code = 0xA0 || code = 0x1680 ||
    (0x2000 ≤ code && code ≤ 0x200A) || code = 0x2028 || code = 0x2029 || code = 0x202F ||
    code = 0x205F || code = 0x3000

/-- The ASCII characters that end a word: space, tab, line feed, form feed and carriage return. -/
def isWordBreak (c : Char) : Bool :=
  c = ' ' || c = '\t' || c = '\n' || c = '\x0c' || c = '\r'

/-- A character that ends a word is blank, so trimming a line never joins two words. -/
theorem isBlank_of_isWordBreak {c : Char} (h : isWordBreak c = true) : isBlank c = true := by
  simp only [isWordBreak, Bool.or_eq_true, decide_eq_true_eq] at h
  rcases h with (((rfl | rfl) | rfl) | rfl) | rfl <;> decide

def dropEnd (drop : Char → Bool) (letters : List Char) : List Char :=
  (letters.reverse.dropWhile drop).reverse

def trimmed (letters : List Char) : List Char :=
  dropEnd isBlank (letters.dropWhile isBlank)

def trim (text : String) : String :=
  String.ofList (trimmed text.toList)

/-- The text with its ASCII capitals lowered and every other character left alone. -/
def lower (text : String) : String :=
  String.ofList (text.toList.map Char.toLower)

/-- The words of a line: the non-empty pieces between word breaks. -/
def words (text : String) : List String :=
  ((text.toList.splitOnP isWordBreak).filter fun piece => !piece.isEmpty).map String.ofList

/-- What stands before the first `mark` and what stands after it. -/
def cut (mark : Char) (letters : List Char) : List Char × List Char :=
  (letters.takeWhile (· ≠ mark), (letters.dropWhile (· ≠ mark)).drop 1)

/-- A text with a mark in it consists of what `cut` returns and the mark in between. -/
theorem cut_append_cons {mark : Char} {letters : List Char} (found : mark ∈ letters) :
    (cut mark letters).1 ++ mark :: (cut mark letters).2 = letters := by
  induction letters with
  | nil => simp at found
  | cons c rest ih =>
    by_cases here : c = mark
    · simp [cut, here]
    · have later : mark ∈ rest := (List.mem_cons.1 found).resolve_left fun same => here same.symm
      have := ih later
      simp_all [cut]

/-- The text with blanks added on the right until it has `width` characters. -/
def padRight (width : Nat) (text : String) : String :=
  text ++ String.ofList (List.replicate (width - text.toList.length) ' ')

/-- The text with blanks added on the left until it has `width` characters. -/
def padLeft (width : Nat) (text : String) : String :=
  String.ofList (List.replicate (width - text.toList.length) ' ') ++ text

end Holdem.Text
