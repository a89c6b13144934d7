import Holdem.Envelope
import Holdem.Proofs.Text.Address
import Holdem.Proofs.Text.Printed

/-!
# What a signed line says

The line that a signature covers puts five parts between bars and escapes nothing, and the action in
its middle may be any text, bars and all. It says which request was meant because the other four parts
have no bar: the address and the table are cut off from the left, the time and the nonce from the
right, and what is left over is the action.
-/

namespace Holdem

namespace Text

variable {mark c : Char} {front front' rest rest' : List Char}

theorem cut_append_cons_of_notMem (notMem : mark ∉ front) :
    cut mark (front ++ mark :: rest) = (front, rest) := by
  have others : ∀ c ∈ front, decide (c ≠ mark) = true := by
    intro c member
    simpa using ne_of_mem_of_not_mem member notMem
  rw [cut, List.takeWhile_append_of_pos others, List.dropWhile_append_of_pos others]
  simp

/-- Two texts that are cut off at their first mark. -/
theorem append_cons_eq_iff_of_notMem_left (notMem : mark ∉ front) (notMem' : mark ∉ front') :
    front ++ mark :: rest = front' ++ mark :: rest' ↔ front = front' ∧ rest = rest' := by
  constructor
  · intro same
    have cuts := congrArg (cut mark) same
    rw [cut_append_cons_of_notMem notMem, cut_append_cons_of_notMem notMem'] at cuts
    exact Prod.mk.inj cuts
  · rintro ⟨rfl, rfl⟩
    rfl

/-- Two texts that are cut off at their last mark. -/
theorem append_cons_eq_iff_of_notMem_right (notMem : mark ∉ rest) (notMem' : mark ∉ rest') :
    front ++ mark :: rest = front' ++ mark :: rest' ↔ front = front' ∧ rest = rest' := by
  have backwards := @append_cons_eq_iff_of_notMem_left mark rest.reverse rest'.reverse
    front.reverse front'.reverse (by simpa using notMem) (by simpa using notMem')
  rw [← List.reverse_inj]
  simpa [and_comm] using backwards

theorem bar_notMem_toString_int (integer : Int) : '|' ∉ (toString integer).toList := by
  intro member
  rcases minus_or_isDigit_of_mem_toString member with minus | isDigit
  · exact absurd minus (by decide)
  · exact absurd isDigit (by decide)

theorem bar_notMem_toString_nat (number : Nat) : '|' ∉ (toString number).toList :=
  bar_notMem_toString_int number

end Text

theorem canonicalMessage_eq (address : Address) (tableId : UInt32) (action : String) (nonce : Nat)
    (timestamp : Int) :
    canonicalMessage address tableId action nonce timestamp =
      "stellar-poker|" ++ address ++ "|" ++ toString tableId.toNat ++ "|" ++ action ++ "|" ++
        toString nonce ++ "|" ++ toString timestamp := rfl

/-- The letters of a line with bars between its parts, as they are cut: two parts off from the left
and two from the right. -/
theorem toList_barred (domain address tableId action nonce timestamp : String) :
    (domain ++ address ++ "|" ++ tableId ++ "|" ++ action ++ "|" ++ nonce ++ "|" ++
        timestamp).toList =
      domain.toList ++ (address.toList ++ '|' :: (tableId.toList ++
        '|' :: ((action.toList ++ '|' :: nonce.toList) ++ '|' :: timestamp.toList))) := by
  simp

variable {address address' : Address} {tableId tableId' : UInt32} {action action' : String}
  {nonce nonce' : Nat} {timestamp timestamp' : Int}

/-- The line is cut in four places, and each cut is where either side has its bar. -/
theorem canonicalMessage_eq_iff (free : '|' ∉ address.toList) (free' : '|' ∉ address'.toList) :
    canonicalMessage address tableId action nonce timestamp =
        canonicalMessage address' tableId' action' nonce' timestamp' ↔
      address = address' ∧ tableId = tableId' ∧ action = action' ∧ nonce = nonce' ∧
        timestamp = timestamp' := by
  rw [canonicalMessage_eq, canonicalMessage_eq, ← String.toList_inj, toList_barred, toList_barred,
    List.append_cancel_left_eq,
    Text.append_cons_eq_iff_of_notMem_left free free',
    Text.append_cons_eq_iff_of_notMem_left (Text.bar_notMem_toString_nat _)
      (Text.bar_notMem_toString_nat _),
    Text.append_cons_eq_iff_of_notMem_right (Text.bar_notMem_toString_int _)
      (Text.bar_notMem_toString_int _),
    Text.append_cons_eq_iff_of_notMem_right (Text.bar_notMem_toString_nat _)
      (Text.bar_notMem_toString_nat _)]
  simp only [String.toList_inj, Text.toString_nat_inj, Text.toString_int_inj, UInt32.toNat_inj,
    and_assoc]

/-- The envelope passes for a request: the line that the request makes with the address, the nonce and
the time of the headers is the one that was signed. -/
def Envelope.PassesFor (envelope : Envelope) (tableId : UInt32) (action : String) : Prop :=
  envelope.message =
    canonicalMessage envelope.address tableId action envelope.nonce envelope.timestamp

/-- No account address has a bar, and where the address has none a signed line says all five parts,
whatever the action is. So what was signed for one request passes for no other, under no headers. -/
theorem signed_line_is_of_one_request :
    (∀ address : Address, isAccountAddress address = true → '|' ∉ address.toList) ∧
      ∀ (address : Address) (tableId : UInt32) (action : String) (nonce : Nat) (timestamp : Int),
        '|' ∉ address.toList →
        (∀ (address' : Address) (tableId' : UInt32) (action' : String) (nonce' : Nat)
          (timestamp' : Int), '|' ∉ address'.toList →
          (canonicalMessage address tableId action nonce timestamp =
              canonicalMessage address' tableId' action' nonce' timestamp' ↔
            address = address' ∧ tableId = tableId' ∧ action = action' ∧ nonce = nonce' ∧
              timestamp = timestamp')) ∧
        ∀ (envelope : Envelope) (tableId' : UInt32) (action' : String),
          envelope.message = canonicalMessage address tableId action nonce timestamp →
          '|' ∉ envelope.address.toList →
          (envelope.PassesFor tableId' action' ↔
            address = envelope.address ∧ tableId = tableId' ∧ action = action' ∧
              nonce = envelope.nonce ∧ timestamp = envelope.timestamp) := by
  refine ⟨fun _ => bar_notMem_of_isAccountAddress, ?_⟩
  intro address tableId action nonce timestamp free
  constructor
  · intro address' tableId' action' nonce' timestamp' free'
    exact canonicalMessage_eq_iff free free'
  · intro envelope tableId' action' signed free'
    rw [Envelope.PassesFor, signed]
    exact canonicalMessage_eq_iff free free'

/-- An action that ends like a nonce does not make its line that of another action. -/
theorem signed_line_is_of_one_request_of_bar :
    '|' ∉ "hero".toList ∧
      canonicalMessage "hero" 7 "request_deal|1" 2 (-3) ≠
        canonicalMessage "hero" 7 "request_deal" 12 (-3) := by
  have free : '|' ∉ "hero".toList := by decide
  have lines := (signed_line_is_of_one_request.2 "hero" 7 "request_deal|1" 2 (-3) free).1
  refine ⟨free, fun same => ?_⟩
  have parts := (lines "hero" 7 "request_deal" 12 (-3) free).mp same
  exact absurd parts.2.2.2.1 (by decide)

end Holdem
