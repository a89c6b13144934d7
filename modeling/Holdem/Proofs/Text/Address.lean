import Holdem.Proofs.Text.Words
import Holdem.Wallet

/-!
# Letters of an account address

An account address is written in base 32, so every letter of it is one of 32: a capital or one of six
digits. It has no blank, and none of the marks that texts put between their parts.
-/

namespace Holdem

theorem isSome_of_mapM_eq_some {read : α → Option β} {elements : List α} {values : List β}
    (found : elements.mapM read = some values) : ∀ element ∈ elements, (read element).isSome := by
  induction elements generalizing values with
  | nil => exact fun _ member => absurd member List.not_mem_nil
  | cons first rest hypothesis =>
    simp only [List.mapM_cons, Option.bind_eq_bind, Option.bind_eq_some_iff] at found
    rcases found with ⟨value, foundFirst, values, foundRest, _⟩
    intro element member
    rcases List.mem_cons.mp member with rfl | later
    · rw [foundFirst]
      rfl
    · exact hypothesis foundRest element later

theorem mem_base32Letters_of_isAccountAddress {address : String}
    (valid : isAccountAddress address = true) :
    ∀ c ∈ address.toList, c ∈ Crypto.base32Letters := by
  rcases Option.isSome_iff_exists.mp valid with ⟨key, read⟩
  simp only [Crypto.KeyKind.read?, Crypto.ofBase32?, Option.bind_eq_bind,
    Option.bind_eq_some_iff] at read
  rcases read with ⟨bytes, ⟨values, found, _⟩, _⟩
  intro c member
  have listed := isSome_of_mapM_eq_some found c member
  rw [List.findIdx?_isSome, List.any_eq_true] at listed
  rcases listed with ⟨letter, among, same⟩
  rw [← of_decide_eq_true same]
  exact among

/-- An account address has no blanks around it. -/
theorem trim_of_isAccountAddress {address : String} (valid : isAccountAddress address) :
    Text.trim address = address := by
  have noBlank : Crypto.base32Letters.all fun c => !Text.isBlank c := by decide
  apply Text.trim_of_no_blank
  intro c member
  have letter := mem_base32Letters_of_isAccountAddress valid c member
  simpa using List.all_eq_true.mp noBlank c letter

/-- An account address has no bar. -/
theorem bar_notMem_of_isAccountAddress {address : String}
    (valid : isAccountAddress address = true) : '|' ∉ address.toList := by
  intro bar
  exact absurd (mem_base32Letters_of_isAccountAddress valid '|' bar) (by decide)

end Holdem
