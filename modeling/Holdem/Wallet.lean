import Holdem.Action
import Holdem.Crypto.AccountKey
import Holdem.Crypto.Ed25519
import Holdem.Text.Blank
import Holdem.Text.Hex

/-!
# Wallets

A wallet stands for one account: it signs messages and transactions, or refuses. `LocalKey` is the
wallet that holds its secret seed in the process.

Browser wallets do not sign a message itself but the digest of it behind a fixed introduction, so a
signature is accepted in either form.
-/

namespace Holdem

inductive WalletFault where
  | rejected (reason : String)
  | unavailable (reason : String)
  | invalidKey (reason : String)
  deriving DecidableEq

def WalletFault.message : WalletFault → String
  | .rejected reason => s!"Signing rejected: {reason}"
  | .unavailable reason => s!"Signer unavailable: {reason}"
  | .invalidKey reason => s!"Invalid signing key: {reason}"

def WalletFault.kind : WalletFault → String
  | .rejected _ => "Signer.Rejected"
  | .unavailable _ => "Signer.Unavailable"
  | .invalidKey _ => "Signer.InvalidKey"

/-- Whether a text is a well-formed account address. -/
def isAccountAddress (address : String) : Bool :=
  (Crypto.KeyKind.account.read? address).isSome

/-- A wallet that holds its secret seed. -/
structure LocalKey where
  /-- The 32 bytes of the seed. -/
  seed : List UInt8
  deriving DecidableEq

namespace LocalKey

def ofSecret? (text : String) : Except WalletFault LocalKey :=
  match Crypto.KeyKind.seed.read? (Text.trim text) with
  | some seed => .ok ⟨seed⟩
  | none => .error (.invalidKey "not a Stellar secret seed")

def publicKey (key : LocalKey) : List UInt8 :=
  Crypto.Ed25519.publicKey key.seed

def address (key : LocalKey) : Address :=
  Crypto.KeyKind.account.write key.publicKey

def secret (key : LocalKey) : String :=
  Crypto.KeyKind.seed.write key.seed

/-- The signature of a message's UTF-8 bytes, in hexadecimal. -/
def signMessage (key : LocalKey) (message : String) : String :=
  Text.toHex (Crypto.Ed25519.sign key.seed (Crypto.utf8 message))

end LocalKey

/-- What browser wallets put in front of a message before they take its digest. -/
def signedMessageIntroduction : String := "Stellar Signed Message:\n"

/-- The digest that a browser wallet signs for a message. -/
def signedMessageDigest (message : String) : List UInt8 :=
  Crypto.sha256 (Crypto.utf8 (signedMessageIntroduction ++ message))

def dropHexMark : List Char → List Char
  | '0' :: 'x' :: rest => dropHexMark rest
  | letters => letters

/-- Whether a hexadecimal signature over a message, or over its digest, belongs to an address. -/
def verifyMessage (address message signature : String) : Bool :=
  match Crypto.KeyKind.account.read? address,
      Text.hexBytes? (dropHexMark (Text.trim signature).toList) with
  | some key, some bytes =>
    bytes.length = 64 &&
      (Crypto.Ed25519.verify key (Crypto.utf8 message) bytes ||
        Crypto.Ed25519.verify key (signedMessageDigest message) bytes)
  | _, _ => false

end Holdem
