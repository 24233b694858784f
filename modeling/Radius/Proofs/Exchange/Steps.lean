import Mathlib.Data.List.Nodup
import Radius.Proofs.Exchange.Window

/-!
# The steps of an exchange

An exchange takes nine steps, one after the other (`Exchange.Step`). A step succeeds
(`Step.Succeeds`) or stops the exchange (`Step.Stops`) : it raised an error, its window closed, a
packet was refused, or it never ends. All of this is said of the request, the two windows and the
network, without running anything, and no step does both (`Step.Stops.not_succeeds`).

A step goes in one way only : at most one step is the first that does not succeed
(`Step.FailsFirst.unique`), and it stops the exchange with one outcome (`Step.Stops.unique`).
-/

namespace Radius.Exchange

/-- The steps of an exchange. -/
inductive Step where
  | create
  | configure
  | bind
  /-- Looking up the local address. -/
  | locate
  | associate
  | encode
  | send
  | receive
  | decode
  deriving DecidableEq, Repr

namespace Step

/-- All steps, in order. -/
def all : List Step := [create, configure, bind, locate, associate, encode, send, receive, decode]

/-- The steps before a step. -/
def before (s : Step) : List Step := all.takeWhile (· ≠ s)

/-- What fails if a step raises an error or refuses a packet. -/
def failure : Step → FailedStep
  | create | configure | bind | locate => .bind
  | associate => .connect
  | encode => .encodePacket
  | send => .send
  | receive => .receive
  | decode => .decodePacket

/-- What fails if the window of a step closes. -/
def timeout : Step → FailedStep
  | associate => .connectionTimeout
  | _ => .socketTimeout

/-- The endpoint, for the steps that talk to it. -/
def peer (remote : Endpoint) : Step → Option Endpoint
  | associate | send | receive => some remote
  | _ => none

/-- What a step does to the socket. -/
def effects (remote : Endpoint) (data : Bytes) : Step → List Effect
  | create => [.create remote.family]
  | bind => [.bind remote.family.wildcard.1 remote.family.wildcard.2]
  | associate => [.connect remote.host remote.port]
  | send => [.send data]
  | receive => [.receive maxDatagramSize]
  | configure | locate | encode | decode => []

/-- The outcome if a step raises an error. That of looking up an address is not reported. -/
def onError (remote : Endpoint) (cause : Cause) : Step → Outcome
  | locate => .raised cause
  | s => .ofCause s.failure (s.peer remote) cause

/-- The outcome if a step refuses a packet. Only the errors of the codec itself are reported. -/
def onRefusal : Step → PacketError → Outcome
  | encode, .encode why => .failed ⟨.encodePacket, some (.ofEncodeError why), none⟩
  | decode, .decode why => .failed ⟨.decodePacket, some (.ofDecodeError why), none⟩
  | _, why => .refused why

end Step

/-! ## How a step can go -/

section Conditions

variable (c : Client) (request : Packet) (net : Network)

/-- The request is encoded to `data`, and sending it ends at `time`. -/
def Sent (data : Bytes) (time : Rat) : Prop :=
  request.encode = .ok data ∧ c.socketWindow.Completes 0 net.send (.ok ()) time

/-- The request is sent as `data`, and the datagram `response` comes back. -/
def Received (data response : Bytes) : Prop :=
  ∃ sent time, Sent c request net data sent ∧
    c.socketWindow.Completes sent (net.receive data) (.ok response) time

/-- The datagram that comes back is decoded for the request as it was sent. -/
def Delivered (p : Packet) : Prop :=
  ∃ data response, Received c request net data response ∧
    Packet.decode (.bytes response) request.secret (.bytes (Packet.sentAuthenticator data)) = .ok p

namespace Step

/-- What it takes for a step to succeed. -/
def Succeeds : Step → Prop
  | create => net.socket = .ok ()
  | configure => net.configure = .ok ()
  | bind => net.bind = .ok ()
  | locate => net.localAddress = .ok ()
  | associate => ∃ time, c.connectionWindow.Completes 0 net.connect (.ok ()) time
  | encode => ∃ data, request.encode = .ok data
  | send => ∃ data time, Sent c request net data time
  | receive => ∃ data response, Received c request net data response
  | decode => ∃ p, Delivered c request net p

/-- An operation of a step ends with an error, and in time where there is a window. -/
inductive Raises : Step → Cause → Prop
  | create {cause : Cause} (h : net.socket = .error cause) : Raises create cause
  | configure {cause : Cause} (h : net.configure = .error cause) : Raises configure cause
  | bind {cause : Cause} (h : net.bind = .error cause) : Raises bind cause
  | locate {cause : Cause} (h : net.localAddress = .error cause) : Raises locate cause
  | associate {cause : Cause} {time : Rat}
      (h : c.connectionWindow.Completes 0 net.connect (.error cause) time) : Raises associate cause
  | send {cause : Cause} {time : Rat}
      (h : c.socketWindow.Completes 0 net.send (.error cause) time) : Raises send cause
  | receive {data : Bytes} {sent time : Rat} {cause : Cause} (hsent : Sent c request net data sent)
      (h : c.socketWindow.Completes sent (net.receive data) (.error cause) time) :
      Raises receive cause

/-- The window that the operation of a step is in, when it begins and how long it takes. -/
inductive Waits : Step → Window → Rat → Wait → Prop
  | associate : Waits associate c.connectionWindow 0 net.connect.wait
  | send : Waits send c.socketWindow 0 net.send.wait
  | receive {data : Bytes} {sent : Rat} (hsent : Sent c request net data sent) :
      Waits receive c.socketWindow sent (net.receive data).wait

/-- The window of a step closes while its operation is still going on. -/
def Expires (s : Step) : Prop :=
  ∃ w start wait, s.Waits c request net w start wait ∧ w.Closes start wait

/-- The operation of a step never ends, and its window never closes. -/
def Hangs (s : Step) : Prop :=
  ∃ w start wait, s.Waits c request net w start wait ∧ w.Hangs wait

/-- The request has no wire form, or the datagram that comes back is no answer to it. -/
inductive Refuses : Step → PacketError → Prop
  | encode {why : PacketError} (h : request.encode = .error why) : Refuses encode why
  | decode {data response : Bytes} {why : PacketError}
      (hreceived : Received c request net data response)
      (h : Packet.decode (.bytes response) request.secret
        (.bytes (Packet.sentAuthenticator data)) = .error why) : Refuses decode why

variable (remote : Endpoint)

/-- A step stops the exchange with an outcome. -/
inductive Stops : Step → Outcome → Prop
  | raises {s : Step} {cause : Cause} (h : s.Raises c request net cause) :
      Stops s (s.onError remote cause)
  | expires {s : Step} (h : s.Expires c request net) : Stops s (.failed ⟨s.timeout, none, none⟩)
  | refuses {s : Step} {why : PacketError} (h : s.Refuses c request net why) :
      Stops s (s.onRefusal why)
  | hangs {s : Step} (h : s.Hangs c request net) : Stops s .waiting

end Step

/-- A step is the first that does not succeed. -/
structure Step.FailsFirst (s : Step) : Prop where
  before : ∀ d ∈ s.before, d.Succeeds c request net
  fails : ¬s.Succeeds c request net

end Conditions

variable {c : Client} {remote : Endpoint} {request : Packet} {net : Network} {data : Bytes}

/-! ## One way for each step -/

theorem Sent.unique {other : Bytes} {time late : Rat} (h : Sent c request net data time)
    (hother : Sent c request net other late) : data = other ∧ time = late :=
  ⟨Except.ok.inj (h.1.symm.trans hother.1), h.2.1.unique hother.2.1⟩

theorem Received.sent {response : Bytes} (h : Received c request net data response) :
    ∃ time, Sent c request net data time := by
  obtain ⟨time, _, hsent, -⟩ := h
  exact ⟨time, hsent⟩

theorem Received.unique {other response answer : Bytes} (h : Received c request net data response)
    (hother : Received c request net other answer) : data = other ∧ response = answer := by
  obtain ⟨_, _, hsent, hreceived⟩ := h
  obtain ⟨_, _, hsent', hreceived'⟩ := hother
  obtain ⟨rfl, -⟩ := hsent.unique hsent'
  exact ⟨rfl, Except.ok.inj (hreceived.2.symm.trans hreceived'.2)⟩

theorem Delivered.unique {p q : Packet} (h : Delivered c request net p)
    (hother : Delivered c request net q) : p = q := by
  obtain ⟨_, _, hreceived, hdecode⟩ := h
  obtain ⟨_, _, hreceived', hdecode'⟩ := hother
  obtain ⟨rfl, rfl⟩ := hreceived.unique hreceived'
  exact Except.ok.inj (hdecode.symm.trans hdecode')

namespace Step

theorem mem_all (s : Step) : s ∈ all := by
  cases s <;> decide

/-- What stands before a step in the list of all steps are the steps before it. -/
theorem before_eq {s : Step} {front rest : List Step} (h : all = front ++ s :: rest) :
    s.before = front := by
  -- The steps are distinct, so the search for `s` stops at this one.
  have hnodup : all.Nodup := by decide
  have hs : ∀ d ∈ front, decide (d ≠ s) = true := by
    rintro d hd
    rw [h] at hnodup
    exact decide_eq_true fun heq => (List.disjoint_of_nodup_append hnodup) hd (by simp [heq])
  rw [before, h, List.takeWhile_append_of_pos hs, List.takeWhile_cons_of_neg (by simp),
    List.append_nil]

/-- No two steps do the same to the socket. -/
theorem eq_of_mem_effects {s d : Step} {w : Bytes} {e : Effect} (hs : e ∈ s.effects remote data)
    (hd : e ∈ d.effects remote w) : s = d := by
  cases s <;> simp only [effects, List.mem_singleton, List.not_mem_nil] at hs <;>
    cases d <;> simp [effects, hs] at hd ⊢

theorem before_total (s d : Step) : s = d ∨ s ∈ d.before ∨ d ∈ s.before := by
  cases s <;> cases d <;> decide

variable {s : Step}

theorem FailsFirst.unique {d : Step} (hs : s.FailsFirst c request net)
    (hd : d.FailsFirst c request net) : s = d := by
  rcases before_total s d with h | h | h
  · exact h
  · exact (hs.fails (hd.before s h)).elim
  · exact (hd.fails (hs.before d h)).elim

theorem Waits.unique {w v : Window} {start begun : Rat} {wait delay : Wait}
    (h : s.Waits c request net w start wait) (hother : s.Waits c request net v begun delay) :
    w = v ∧ wait = delay := by
  cases h with
  | associate =>
    cases hother
    exact ⟨rfl, rfl⟩
  | send =>
    cases hother
    exact ⟨rfl, rfl⟩
  | receive hsent =>
    cases hother with
    | receive hsent' =>
      obtain ⟨rfl, -⟩ := hsent.unique hsent'
      exact ⟨rfl, rfl⟩

theorem Raises.unique {cause other : Cause} (h : s.Raises c request net cause)
    (hother : s.Raises c request net other) : cause = other := by
  cases h with
  | create h | configure h | bind h | locate h =>
    cases hother with
    | _ hother => exact Except.error.inj (h.symm.trans hother)
  | associate h | send h =>
    cases hother with
    | _ hother => exact Except.error.inj (h.2.symm.trans hother.2)
  | receive hsent h =>
    cases hother with
    | receive hsent' hother =>
      obtain ⟨rfl, -⟩ := hsent.unique hsent'
      exact Except.error.inj (h.2.symm.trans hother.2)

theorem Refuses.unique {why other : PacketError} (h : s.Refuses c request net why)
    (hother : s.Refuses c request net other) : why = other := by
  cases h with
  | encode h =>
    cases hother with
    | encode hother => exact Except.error.inj (h.symm.trans hother)
  | decode hreceived h =>
    cases hother with
    | decode hreceived' hother =>
      obtain ⟨rfl, rfl⟩ := hreceived.unique hreceived'
      exact Except.error.inj (h.symm.trans hother)

/-- The operation of a step, if it has one that can suspend, ends in its window. -/
def InTime (c : Client) (request : Packet) (net : Network) (s : Step) : Prop :=
  ∀ {w start wait}, s.Waits c request net w start wait → ∃ time, w.Admits start wait time

theorem Succeeds.inTime (h : s.Succeeds c request net) : s.InTime c request net := by
  intro w start wait hwait
  cases hwait with
  | associate =>
    obtain ⟨time, h⟩ := h
    exact ⟨time, h.1⟩
  | send =>
    obtain ⟨_, time, h⟩ := h
    exact ⟨time, h.2.1⟩
  | receive hsent =>
    obtain ⟨_, _, _, time, hother, h⟩ := h
    obtain ⟨rfl, rfl⟩ := hsent.unique hother
    exact ⟨time, h.1⟩

theorem Raises.inTime {cause : Cause} (h : s.Raises c request net cause) :
    s.InTime c request net := by
  intro w start wait hwait
  cases hwait with
  | associate =>
    cases h with
    | associate h => exact ⟨_, h.1⟩
  | send =>
    cases h with
    | send h => exact ⟨_, h.1⟩
  | receive hsent =>
    cases h with
    | receive hother h =>
      obtain ⟨rfl, rfl⟩ := hsent.unique hother
      exact ⟨_, h.1⟩

theorem Refuses.inTime {why : PacketError} (h : s.Refuses c request net why) :
    s.InTime c request net := by
  intro w start wait hwait
  cases h <;> cases hwait

theorem Expires.not_inTime (h : s.Expires c request net) : ¬s.InTime c request net := by
  obtain ⟨_, _, _, hwait, hcloses⟩ := h
  intro hin
  obtain ⟨_, hadmits⟩ := hin hwait
  exact hcloses.not_admits hadmits

theorem Hangs.not_inTime (h : s.Hangs c request net) : ¬s.InTime c request net := by
  obtain ⟨_, _, _, hwait, hhangs⟩ := h
  intro hin
  obtain ⟨_, hadmits⟩ := hin hwait
  exact hhangs.not_admits hadmits

theorem Expires.not_hangs (h : s.Expires c request net) : ¬s.Hangs c request net := by
  obtain ⟨_, _, _, hwait, hcloses⟩ := h
  rintro ⟨_, _, _, hwait', hhangs⟩
  obtain ⟨rfl, rfl⟩ := hwait.unique hwait'
  exact hcloses.not_hangs hhangs

theorem Raises.not_refuses {cause : Cause} {why : PacketError} (h : s.Raises c request net cause) :
    ¬s.Refuses c request net why := by
  cases h <;> rintro ⟨⟩

theorem Succeeds.not_raises {cause : Cause} (h : s.Succeeds c request net) :
    ¬s.Raises c request net cause := by
  rintro (herror | herror | herror | herror | herror | herror | ⟨hsent, herror⟩)
  case create | configure | bind | locate => cases h.symm.trans herror
  case associate =>
    obtain ⟨_, h⟩ := h
    cases h.2.symm.trans herror.2
  case send =>
    obtain ⟨_, _, h⟩ := h
    cases h.2.2.symm.trans herror.2
  case receive =>
    obtain ⟨_, _, _, _, hother, h⟩ := h
    obtain ⟨rfl, -⟩ := hsent.unique hother
    cases h.2.symm.trans herror.2

theorem Succeeds.not_refuses {why : PacketError} (h : s.Succeeds c request net) :
    ¬s.Refuses c request net why := by
  rintro (herror | ⟨hreceived, herror⟩)
  case encode =>
    obtain ⟨_, h⟩ := h
    cases h.symm.trans herror
  case decode =>
    obtain ⟨_, _, _, hother, h⟩ := h
    obtain ⟨rfl, rfl⟩ := hreceived.unique hother
    cases h.symm.trans herror

/-- A step that stops the exchange has not succeeded. -/
theorem Stops.not_succeeds {outcome : Outcome} (h : s.Stops c request net remote outcome) :
    ¬s.Succeeds c request net := by
  intro hs
  cases h with
  | raises h => exact hs.not_raises h
  | refuses h => exact hs.not_refuses h
  | expires h => exact h.not_inTime hs.inTime
  | hangs h => exact h.not_inTime hs.inTime

/-- A step that stops the exchange leaves no packet to return. -/
theorem Stops.ne_reply {outcome : Outcome} (h : s.Stops c request net remote outcome) (p : Packet) :
    outcome ≠ .reply p := by
  cases h with
  | @raises cause =>
    rw [onError.eq_def]
    split
    · simp
    · rw [Outcome.ofCause]
      split <;> simp
  | refuses =>
    rw [onRefusal.eq_def]
    split <;> simp
  | expires | hangs => simp

/-- A step stops the exchange with one outcome. -/
theorem Stops.unique {outcome other : Outcome} (h : s.Stops c request net remote outcome)
    (hother : s.Stops c request net remote other) : outcome = other := by
  cases h with
  | raises h =>
    cases hother with
    | raises hother => rw [h.unique hother]
    | expires hother => exact (hother.not_inTime h.inTime).elim
    | refuses hother => exact (h.not_refuses hother).elim
    | hangs hother => exact (hother.not_inTime h.inTime).elim
  | expires h =>
    cases hother with
    | raises hother => exact (h.not_inTime hother.inTime).elim
    | expires => rfl
    | refuses hother => exact (h.not_inTime hother.inTime).elim
    | hangs hother => exact (h.not_hangs hother).elim
  | refuses h =>
    cases hother with
    | raises hother => exact (hother.not_refuses h).elim
    | expires hother => exact (hother.not_inTime h.inTime).elim
    | refuses hother => rw [h.unique hother]
    | hangs hother => exact (hother.not_inTime h.inTime).elim
  | hangs h =>
    cases hother with
    | raises hother => exact (h.not_inTime hother.inTime).elim
    | expires hother => exact (hother.not_hangs h).elim
    | refuses hother => exact (h.not_inTime hother.inTime).elim
    | hangs => rfl

end Step

end Radius.Exchange
