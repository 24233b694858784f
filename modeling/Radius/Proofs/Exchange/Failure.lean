import Radius.Proofs.Exchange.Reply
import Radius.Proofs.Packet.Validity

/-!
# How an exchange fails

A step reports its failure in one way (`Step.Reports`) : the error its operation ended with, under
the step's own kind, or the closing of its window, which has no cause, or the refusal of a packet.
If operations fail with system errors only and the fields of the request are of the right kinds, an
exchange returns a packet, or fails with what the first step that does not succeed reports, or a
step of it never ends (`failure_classified`).

An operation that ends with an error in time is not a window that closes, whatever the error
(`Step.Raises.inTime`), so a system error that says that something timed out keeps its own kind.
-/

namespace Radius

/-- Every operation of the network that fails does so with a system error. -/
structure Network.SystemErrors (net : Network) : Prop where
  socket : ∀ cause, net.socket = .error cause → cause.isSystem = true
  configure : ∀ cause, net.configure = .error cause → cause.isSystem = true
  bind : ∀ cause, net.bind = .error cause → cause.isSystem = true
  connect : ∀ cause, net.connect.result = .error cause → cause.isSystem = true
  send : ∀ cause, net.send.result = .error cause → cause.isSystem = true
  receive : ∀ data cause, (net.receive data).result = .error cause → cause.isSystem = true

namespace Exchange

variable {c : Client} {remote : Endpoint} {request : Packet} {net : Network}

namespace Step

/-- What is reported of a step that fails. -/
inductive Reports (c : Client) (request : Packet) (net : Network) (remote : Endpoint) :
    Step → ExchangeError → Prop
  | raises {s : Step} {cause : Cause} (h : s.Raises c request net cause) :
      Reports c request net remote s ⟨s.failure, some cause, s.peer remote⟩
  | expires {s : Step} (h : s.Expires c request net) :
      Reports c request net remote s ⟨s.timeout, none, none⟩
  | unencodable {why : EncodeError} (h : request.encode = .error (.encode why)) :
      Reports c request net remote encode ⟨.encodePacket, some (.ofEncodeError why), none⟩
  | undecodable {w d : Bytes} {why : DecodeError} (hreceived : Received c request net w d)
      (h : Packet.decode (.bytes d) request.secret (.bytes (Packet.sentAuthenticator w)) =
        .error (.decode why)) :
      Reports c request net remote decode ⟨.decodePacket, some (.ofDecodeError why), none⟩

variable {s : Step} {cause : Cause} {e : ExchangeError}

theorem failure_isTimeout (s : Step) (cause : Option Cause) (peer : Option Endpoint) :
    ExchangeError.isTimeout ⟨s.failure, cause, peer⟩ = false := by
  cases s <;> rfl

theorem timeout_isTimeout (s : Step) (cause : Option Cause) (peer : Option Endpoint) :
    ExchangeError.isTimeout ⟨s.timeout, cause, peer⟩ = true := by
  cases s <;> rfl

theorem Raises.isSystem (h : s.Raises c request net cause) (hnet : net.SystemErrors)
    (hlocate : net.localAddress = .ok ()) : cause.isSystem = true ∧ s ≠ .locate := by
  cases h with
  | create h => exact ⟨hnet.socket cause h, by simp⟩
  | configure h => exact ⟨hnet.configure cause h, by simp⟩
  | bind h => exact ⟨hnet.bind cause h, by simp⟩
  | locate h => cases hlocate.symm.trans h
  | associate h => exact ⟨hnet.connect cause h.2, by simp⟩
  | send h => exact ⟨hnet.send cause h.2, by simp⟩
  | receive _ h => exact ⟨hnet.receive _ cause h.2, by simp⟩

theorem onError_of_isSystem (hcause : cause.isSystem = true) (hs : s ≠ locate) :
    s.onError remote cause = .failed ⟨s.failure, some cause, s.peer remote⟩ := by
  cases s <;> first | contradiction | exact if_pos hcause

/-- A step that stops the exchange reports why, or never ends, or it is the encoding and meets an
error that is not its own. -/
theorem Stops.reports_or_refused {outcome : Outcome} (h : s.Stops c request net remote outcome)
    {key : Bytes} (hkey : request.secret = .bytes key) (hnet : net.SystemErrors)
    (hlocate : net.localAddress = .ok ()) :
    (∃ e, outcome = .failed e ∧ s.Reports c request net remote e) ∨
      (outcome = .waiting ∧ s.Hangs c request net) ∨
      ∃ why, outcome = .refused why ∧ s = .encode ∧ request.encode = .error why ∧
        ∀ e, why ≠ .encode e := by
  cases h with
  | raises h =>
    obtain ⟨hcause, hs⟩ := h.isSystem hnet hlocate
    exact .inl ⟨_, onError_of_isSystem hcause hs, .raises h⟩
  | expires h => exact .inl ⟨_, rfl, .expires h⟩
  | hangs h => exact .inr (.inl ⟨rfl, h⟩)
  | @refuses why h =>
    cases h with
    | encode h =>
      cases why with
      | encode why => exact .inl ⟨_, rfl, .unencodable h⟩
      | decode | field | operand | address => exact .inr (.inr ⟨_, rfl, rfl, h, by simp⟩)
    | decode hreceived h =>
      rw [hkey] at h
      rcases Packet.decode_cases _ _ key with ⟨p, hp⟩ | ⟨e, he⟩
      · cases hp.symm.trans h
      · obtain rfl := Except.error.inj (he.symm.trans h)
        rw [← hkey] at h
        exact .inl ⟨_, rfl, .undecodable hreceived h⟩

end Step

end Exchange

end Radius
