import Radius.Packet.Attributes
import Radius.Simulator

/-!
# Replies of the simulator

`Simulator.reply` decides the answer to a request. An access request is accepted with the right
password of a known user, and rejected otherwise; its first state attribute is echoed. An
accounting request gets an accounting response, and a status request an accept. Every other packet
gets no answer.
-/

namespace Radius.Simulator

/-- The seconds a session of an accepted user lasts. -/
def sessionSeconds : Nat := 3600

/-- Random numbers for a reply: a reply takes its authenticator from the request. -/
def noEntropy : Entropy := ⟨0, Bytes.zeros authenticatorSize⟩

/-- The response of a code to a request, with a reply message. -/
def respond (request : Packet) (code : Code) (entropy : Entropy) (message : String) :
    Except PacketError Packet := do
  let (packet, _) ← request.makeResponse code.toValue entropy
  packet.addText (.integer Dictionary.replyMessage) (.text message)

/-- The password of a request; one that cannot be revealed counts as none. -/
def passwordOf (request : Packet) : Except PacketError Value :=
  match request.getPassword with
  | .error (.decode _) => .ok .absent
  | r => r

/-- The name of the user who is to be accepted, if the credentials are right. -/
def acceptedUser (s : Simulator) (request : Packet) : Except PacketError (Option String) := do
  let user ← request.getText (.integer Dictionary.userName)
  let password ← passwordOf request
  match user, password with
  | .text _, .absent => return none
  | .text name, password => return if ← s.accepts user password then some name else none
  | _, _ => return none

/-- The answer to an access request. -/
def replyToAccess (s : Simulator) (request : Packet) (entropy : Entropy) :
    Except PacketError Packet := do
  let reply ← match ← s.acceptedUser request with
    | some name => do
      let accept ← respond request .accessAccept entropy ("welcome " ++ name)
      accept.addInteger (.integer Dictionary.sessionTimeout) (.integer sessionSeconds)
    | none => respond request .accessReject entropy "invalid credentials"
  match ← request.get (.integer Dictionary.state) with
  | .absent => return reply
  | state => reply.add (.integer Dictionary.state) state

/-- The answer to a packet, if it gets one. -/
def reply (s : Simulator) (request : Packet) (entropy : Entropy) :
    Except PacketError (Option Packet) := do
  match request.code? with
  | some .accessRequest => return some (← s.replyToAccess request entropy)
  | some .accountingRequest =>
    let (packet, _) ← request.makeResponse Code.accountingResponse.toValue entropy
    return some packet
  | some .statusServer => return some (← respond request .accessAccept entropy "alive")
  | _ => return none

end Radius.Simulator
