import Holdem.Session.Basic

/-!
# Calling the coordinator

A call that names a purpose goes out signed. The signature covers the call's own table and purpose,
a fresh nonce and the time, and a wallet that refuses means that nothing is sent.

During development such a call first goes out with the sender's name alone. Only when the
coordinator refuses the sender it is sent again, signed; any other answer is final, so that nothing
that was accepted is sent twice.
-/

namespace Holdem

namespace Settings

def credentials (settings : Settings) (call : CoordinatorCall) (purpose : Purpose) :
    Step Credentials := do
  if settings.hero = "" then throw (.signing .missingAddress)
  let now ← Step.ask .clock
  let before ← ExceptT.lift
    (.update (fun session => { session with nonces := session.nonces.advance now.micros }) .finish)
  let nonce := before.nonces.next now.micros
  let message :=
    canonicalMessage settings.hero call.tableId purpose.label nonce now.seconds
  let signature ← Step.require (← Step.ask (.signMessage message)) fun fault =>
    .signing (.wallet fault)
  return .signed
    { address := settings.hero, nonce, timestamp := now.seconds, signature, message }

def send (credentials : Option Credentials) (call : CoordinatorCall) : Step call.Reply := do
  Step.require (← Step.ask (.coordinator credentials call)) .coordinator

def sendSigned (settings : Settings) (call : CoordinatorCall) (purpose : Purpose) :
    Step call.Reply := do
  let credentials ← settings.credentials call purpose
  send (some credentials) call

def call (settings : Settings) (call : CoordinatorCall) : Step call.Reply :=
  match call.purpose? with
  | none => send none call
  | some purpose =>
    if settings.unsignedFirst then do
      match ← Step.ask (.coordinator (some (.identity settings.hero)) call) with
      | .ok reply => return reply
      | .error fault =>
        if fault.isUnauthorized then settings.sendSigned call purpose
        else throw (.coordinator fault)
    else settings.sendSigned call purpose

end Settings

end Holdem
