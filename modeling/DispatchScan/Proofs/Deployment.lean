import DispatchScan.Node.Client
import DispatchScan.Proofs.Deployment.Run

/-!
# Code from a node

The text that a client makes of the bytes of a reply is already free of white space and uppercase
letters, so its plain form is that text without the mark.
-/

namespace DispatchScan

namespace Deployment

/-- The plain form of the code that a client gives is the text of its bytes. -/
theorem plain_codeText (bytes : List UInt8) :
    plain (Node.Client.codeText bytes) = Hex.encode bytes :=
  plain_of_sameLetters_digits (frames_digits (by decide : ['0', 'x'] ∈ Hex.marks) bytes) rfl

/-- The code of a client is assessed by its bytes. -/
theorem assessCode_codeText {ε : Type} (bytes : List UInt8) (abi : Abi) (strategy : Strategy) :
    (assessCode (Node.Client.codeText bytes) abi strategy : Except (AssessError ε) Bool) =
      (Assessment.satisfies (Hex.encode bytes) abi strategy).mapError AssessError.refused := by
  rw [assessCode, plain_codeText]

end Deployment

namespace Node

/-- Under the given settings a node is asked for the code at a valid address, and replies with these
bytes. -/
inductive Finds (network : Network) (settings : NodeSettings) (addressText : String)
    (bytes : List UInt8) : Prop where
  /-- The settings make a client that sends requests, and the reply holds code. -/
  | intro {client : Client} {address : Address} {reply : String} :
    Client.ofSettings settings = .ok client → client.sends = true →
    Address.parse addressText = .ok address →
    network client.endpoint (client.codeRequest 1 address).render = .reply reply →
    Reply.parse? reply = some (.code bytes) → Finds network settings addressText bytes

/-- A reply with code gives the text of this code. -/
theorem Client.fetch_of_reply {client : Client} {network : Network} {id : Nat} {address : Address}
    {reply : String} {bytes : List UInt8} (hsends : client.sends = true)
    (hreply : network client.endpoint (client.codeRequest id address).render = .reply reply)
    (hcode : Reply.parse? reply = some (.code bytes)) :
    client.fetch network id address = .ok (codeText bytes) := by
  rw [fetch, if_pos hsends, hreply, receive]
  simp only [hcode]

end Node

end DispatchScan
