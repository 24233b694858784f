import Radius.Proofs.Exchange.Failure
import Radius.Proofs.Number.Order

/-!
# The two timeouts

A client has a timeout for the association and one for sending and receiving together. Each opens a
window of its own, and a longer timeout opens a wider one (`Window.ofTimeout_within`). An exchange
that does not end in a timeout ends alike in wider windows (`Exchange.outcome_eq_of_within`), and
one that does has met the closing of a window of the kind that it reports
(`Exchange.expires_of_timeout`).

`Exchange.timeouts_independent` : the outcome is monotone in the timeouts, neither window acts
beyond its own phase, and what does not suspend is not timed out.
-/

namespace Radius

/-- The seconds of a timeout. None is infinite. -/
def Timeout.seconds (t : Option Binary64) : Binary64 := t.getD (.infinity false)

/-- Whether an exchange ended because a window closed. -/
def Outcome.isTimeout : Outcome → Bool
  | failed e => e.isTimeout
  | _ => false

namespace Window

theorem ofTimeout_seconds (t : Option Binary64) :
    ofTimeout (some (Timeout.seconds t)) = ofTimeout t := by
  cases t with
  | none =>
    have hnan : (Binary64.infinity false).isNaN = false := by decide
    have hinfinite : (Binary64.infinity false).isInfinite = true := by decide
    have hpositive : (Binary64.infinity false).isNegative = false := by decide
    simp [Timeout.seconds, ofTimeout, hnan, hinfinite, hpositive]
  | some x => rfl

theorem ofTimeout_infinity {t : Option Binary64} (h : Timeout.seconds t = .infinity false) :
    ofTimeout t = unlimited := by
  rw [← ofTimeout_seconds, h]
  exact ofTimeout_seconds none

/-- A longer timeout opens a wider window. -/
theorem ofTimeout_within {t u : Option Binary64}
    (h : (Timeout.seconds t).le (Timeout.seconds u) = true) :
    (ofTimeout t).Within (ofTimeout u) := by
  rw [← ofTimeout_seconds t, ← ofTimeout_seconds u]
  intro time hopen
  obtain ⟨hx, hy, hnegative | hpositive | ⟨hxfinite, hyfinite, hunits⟩⟩ := Binary64.le_cases h
  · -- The window of the negative infinity is never open.
    simp only [ofTimeout, hx, hnegative, Bool.false_eq_true, if_false, if_true, OpenAt] at hopen
    grind
  · simp [ofTimeout, hy, hpositive, OpenAt]
  · have hlimit := Binary64.toRat_le_toRat hunits
    simp only [ofTimeout, hx, hy, hxfinite, hyfinite, Bool.false_eq_true, if_false, OpenAt]
      at hopen ⊢
    grind

end Window

/-- Neither timeout of a client is longer than that of another. -/
structure Client.AtMost (c d : Client) : Prop where
  connection :
    (Timeout.seconds c.connectionTimeout).le (Timeout.seconds d.connectionTimeout) = true
  socket : (Timeout.seconds c.socketTimeout).le (Timeout.seconds d.socketTimeout) = true

namespace Exchange

variable {c d : Client} {remote : Endpoint} {request : Packet} {net : Network} {data : Bytes}
  {outcome : Outcome} {s : Step}

/-! ## Longer timeouts

Every step that succeeds or stops the exchange does so in wider windows as well, unless it stops
because its window closes.
-/

section Within

variable (hconnection : c.connectionWindow.Within d.connectionWindow)
  (hsocket : c.socketWindow.Within d.socketWindow)

include hsocket

theorem Sent.wider {time : Rat} (h : Sent c request net data time) :
    Sent d request net data time :=
  ⟨h.1, hsocket.admits h.2.1, h.2.2⟩

theorem Received.wider {response : Bytes} (h : Received c request net data response) :
    Received d request net data response := by
  obtain ⟨sent, time, hsent, hadmits, hresult⟩ := h
  exact ⟨sent, time, hsent.wider hsocket, hsocket.admits hadmits, hresult⟩

theorem Delivered.wider {p : Packet} (h : Delivered c request net p) :
    Delivered d request net p := by
  obtain ⟨data, response, hreceived, hdecode⟩ := h
  exact ⟨data, response, hreceived.wider hsocket, hdecode⟩

theorem Step.Refuses.wider {why : PacketError} (h : s.Refuses c request net why) :
    s.Refuses d request net why := by
  cases h with
  | encode h => exact .encode h
  | decode hreceived h => exact .decode (hreceived.wider hsocket) h

include hconnection

theorem Step.Succeeds.wider (h : s.Succeeds c request net) : s.Succeeds d request net := by
  cases s with
  | create | configure | bind | locate | encode => exact h
  | associate =>
    obtain ⟨time, hadmits, hresult⟩ := h
    exact ⟨time, hconnection.admits hadmits, hresult⟩
  | send =>
    obtain ⟨data, time, hsent⟩ := h
    exact ⟨data, time, hsent.wider hsocket⟩
  | receive =>
    obtain ⟨data, response, hreceived⟩ := h
    exact ⟨data, response, hreceived.wider hsocket⟩
  | decode =>
    obtain ⟨p, hp⟩ := h
    exact ⟨p, hp.wider hsocket⟩

theorem Step.Raises.wider {cause : Cause} (h : s.Raises c request net cause) :
    s.Raises d request net cause := by
  cases h with
  | create h => exact .create h
  | configure h => exact .configure h
  | bind h => exact .bind h
  | locate h => exact .locate h
  | associate h => exact .associate ⟨hconnection.admits h.1, h.2⟩
  | send h => exact .send ⟨hsocket.admits h.1, h.2⟩
  | receive hsent h => exact .receive (hsent.wider hsocket) ⟨hsocket.admits h.1, h.2⟩

theorem Step.Hangs.wider (h : s.Hangs c request net) : s.Hangs d request net := by
  obtain ⟨_, _, _, hwaits, hhangs⟩ := h
  cases hwaits with
  | associate => exact ⟨_, _, _, .associate, hconnection.hangs hhangs⟩
  | send => exact ⟨_, _, _, .send, hsocket.hangs hhangs⟩
  | receive hsent => exact ⟨_, _, _, .receive (hsent.wider hsocket), hsocket.hangs hhangs⟩

theorem Step.Stops.wider (h : s.Stops c request net remote outcome)
    (hout : outcome.isTimeout = false) : s.Stops d request net remote outcome := by
  cases h with
  | raises h => exact .raises (h.wider hconnection hsocket)
  | refuses h => exact .refuses (h.wider hsocket)
  | hangs h => exact .hangs (h.wider hconnection hsocket)
  | expires h => cases (s.timeout_isTimeout none none).symm.trans hout

/-- In wider windows an exchange has the same outcome, unless it ended because a window closed. -/
theorem outcome_eq_of_within (hout : (c.exchange remote request net).outcome.isTimeout = false) :
    (d.exchange remote request net).outcome = (c.exchange remote request net).outcome := by
  rcases exchange_outcome c remote request net with ⟨p, hp, hdelivered, hall⟩ | ⟨s, hfirst, hstops⟩
  · rw [hp]
    exact outcome_of_delivered (hdelivered.wider hsocket)
      fun s => (hall s).wider hconnection hsocket
  · exact outcome_of_stops (fun s hs => (hfirst.before s hs).wider hconnection hsocket)
      (hstops.wider hconnection hsocket hout)

end Within

/-! ## Timeouts that are reported -/

theorem Step.onError_isTimeout (s : Step) (remote : Endpoint) (cause : Cause) :
    (s.onError remote cause).isTimeout = false := by
  have hcause (peer : Option Endpoint) :
      (Outcome.ofCause s.failure peer cause).isTimeout = false := by
    rw [Outcome.ofCause]
    split
    · exact s.failure_isTimeout _ _
    · rfl
  cases s with
  | locate => rfl
  | _ => exact hcause _

theorem Step.onRefusal_isTimeout (s : Step) (why : PacketError) :
    (s.onRefusal why).isTimeout = false := by
  rw [Step.onRefusal.eq_def]
  split <;> rfl

/-- A step that stops the exchange with a timeout has met the closing of its window. -/
theorem Step.Stops.expires_of_isTimeout (h : s.Stops c request net remote outcome)
    (hout : outcome.isTimeout = true) :
    s.Expires c request net ∧ outcome = .failed ⟨s.timeout, none, none⟩ := by
  cases h with
  | raises => cases (s.onError_isTimeout remote _).symm.trans hout
  | refuses => cases (s.onRefusal_isTimeout _).symm.trans hout
  | hangs => cases hout
  | expires h => exact ⟨h, rfl⟩

/-- An exchange that ends in a timeout has met the closing of the window of a step, and reports the
timeout of this step. -/
theorem expires_of_timeout {e : ExchangeError}
    (h : (c.exchange remote request net).outcome = .failed e) (he : e.isTimeout = true) :
    ∃ s : Step, s.Expires c request net ∧ e.step = s.timeout := by
  rcases exchange_outcome c remote request net with ⟨p, hp, -, -⟩ | ⟨s, -, hstops⟩
  · cases hp.symm.trans h
  · rw [h] at hstops
    obtain ⟨hexpires, herror⟩ := hstops.expires_of_isTimeout he
    exact ⟨s, hexpires, congrArg ExchangeError.step (Outcome.failed.inj herror)⟩

/-- An association that is timed out suspends, in a window with a limit. -/
theorem association_of_timeout {e : ExchangeError}
    (h : (c.exchange remote request net).outcome = .failed e) (he : e.step = .connectionTimeout) :
    c.connectionWindow ≠ .unlimited ∧ net.connect.wait ≠ .immediate := by
  obtain ⟨s, ⟨_, _, _, hwaits, hcloses⟩, hs⟩ :=
    expires_of_timeout h (by simp [ExchangeError.isTimeout, he])
  cases hwaits with
  | associate => exact hcloses.limited
  | send | receive => cases he.symm.trans hs

/-- A conversation that is timed out suspends, in a window with a limit, when it sends the request
or when, the request being sent, it receives. -/
theorem conversation_of_timeout {e : ExchangeError}
    (h : (c.exchange remote request net).outcome = .failed e) (he : e.step = .socketTimeout) :
    c.socketWindow ≠ .unlimited ∧
      (net.send.wait ≠ .immediate ∨
        ∃ data time, Sent c request net data time ∧ (net.receive data).wait ≠ .immediate) := by
  obtain ⟨s, ⟨_, _, _, hwaits, hcloses⟩, hs⟩ :=
    expires_of_timeout h (by simp [ExchangeError.isTimeout, he])
  cases hwaits with
  | associate => cases he.symm.trans hs
  | send => exact ⟨hcloses.limited.1, .inl hcloses.limited.2⟩
  | receive hsent => exact ⟨hcloses.limited.1, .inr ⟨_, _, hsent, hcloses.limited.2⟩⟩

/-! ## One phase at a time -/

/-- The outcome from the encoding on, which is the same however the socket was associated. -/
def continuation (c : Client) (remote : Endpoint) (request : Packet) (net : Network) : Outcome :=
  match request.encode with
  | .error why => Step.onRefusal .encode why
  | .ok data => (c.converse remote request net data).outcome

theorem associate_outcome (h : Step.associate.Succeeds c request net) :
    (c.associate remote request net).outcome = continuation c remote request net := by
  obtain ⟨time, hadmits, hresult⟩ := h
  have hrun := Window.run_of_admits hadmits
  rw [hresult] at hrun
  rw [Client.associate, hrun, continuation]
  cases request.encode with
  | error why => cases why <;> rfl
  | ok data => rfl

/-- What the association itself comes to does not depend on the window after it. -/
theorem associate_outcome_of_fails (h : ¬Step.associate.Succeeds c request net)
    (t : Option Binary64) :
    (Client.associate { c with socketTimeout := t } remote request net).outcome =
      (c.associate remote request net).outcome := by
  have hwindow : Client.connectionWindow { c with socketTimeout := t } = c.connectionWindow := rfl
  rw [Client.associate, Client.associate, hwindow]
  rcases c.connectionWindow.run_cases 0 net.connect with ⟨_, time, hends, -⟩ | ⟨cause, _, -, hrun⟩ |
    ⟨-, _, hrun⟩ | ⟨-, hrun⟩
  · exact (h ⟨time, hends⟩).elim
  · rw [hrun]
  · rw [hrun]
  · rw [hrun]

/-- The outcome depends on the client and on the association only by how the exchange goes on from a
bound socket. -/
theorem exchange_outcome_congr (op : Operation Unit)
    (h : (d.associate remote request { net with connect := op }).outcome =
      (c.associate remote request net).outcome) :
    (d.exchange remote request { net with connect := op }).outcome =
      (c.exchange remote request net).outcome := by
  have hprepare : (d.prepare remote request { net with connect := op }).outcome =
      (c.prepare remote request net).outcome := by
    rw [Client.prepare, Client.prepare]
    cases net.configure with
    | error => rfl
    | ok =>
      cases net.bind with
      | error => rfl
      | ok =>
        cases net.localAddress with
        | error => rfl
        | ok => exact h
  rw [Client.exchange, Client.exchange]
  cases net.socket with
  | error => rfl
  | ok => exact (closing_outcome _).trans (hprepare.trans (closing_outcome _).symm)

/-- The two timeouts of a client act on their own. The outcome stays the same under longer timeouts
unless it is a timeout. A timeout that is infinite is never reported, nor is one of a phase that
does not suspend. Once the association has succeeded, neither its timeout nor how it went has a part
in the outcome, and whether it succeeds, and if not the outcome, depends on its own timeout only. -/
theorem timeouts_independent (c : Client) (remote : Endpoint) (request : Packet) (net : Network) :
    (∀ d : Client, c.AtMost d → (c.exchange remote request net).outcome.isTimeout = false →
        (d.exchange remote request net).outcome = (c.exchange remote request net).outcome) ∧
      (∀ e, (c.exchange remote request net).outcome = .failed e →
        (Timeout.seconds c.connectionTimeout = .infinity false → e.step ≠ .connectionTimeout) ∧
        (Timeout.seconds c.socketTimeout = .infinity false → e.step ≠ .socketTimeout) ∧
        (net.connect.wait = .immediate → e.step ≠ .connectionTimeout) ∧
        (net.send.wait = .immediate →
          (∀ data, request.encode = .ok data → net.send.result = .ok () →
            (net.receive data).wait = .immediate) → e.step ≠ .socketTimeout)) ∧
      (∀ (t : Option Binary64) (op : Operation Unit), Step.associate.Succeeds c request net →
        Step.associate.Succeeds { c with connectionTimeout := t } request
          { net with connect := op } →
        (Client.exchange { c with connectionTimeout := t } remote request
            { net with connect := op }).outcome = (c.exchange remote request net).outcome) ∧
      ∀ t : Option Binary64,
        (Step.associate.Succeeds { c with socketTimeout := t } request net ↔
          Step.associate.Succeeds c request net) ∧
        (¬Step.associate.Succeeds c request net →
          (Client.exchange { c with socketTimeout := t } remote request net).outcome =
            (c.exchange remote request net).outcome) := by
  refine ⟨fun d h hout => ?_, fun e he => ⟨fun ht hstep => ?_, fun ht hstep => ?_,
    fun hnow hstep => ?_, fun hnow hthen hstep => ?_⟩, fun t op h hother => ?_, fun t => ⟨Iff.rfl,
    fun h => ?_⟩⟩
  · exact outcome_eq_of_within (Window.ofTimeout_within h.connection)
      (Window.ofTimeout_within h.socket) hout
  · exact (association_of_timeout he hstep).1 (Window.ofTimeout_infinity ht)
  · exact (conversation_of_timeout he hstep).1 (Window.ofTimeout_infinity ht)
  · exact (association_of_timeout he hstep).2 hnow
  · rcases (conversation_of_timeout he hstep).2 with hsend | ⟨data, time, hsent, hreceive⟩
    · exact hsend hnow
    · exact hreceive (hthen data hsent.1 hsent.2.2)
  · exact exchange_outcome_congr op ((associate_outcome hother).trans (associate_outcome h).symm)
  · exact exchange_outcome_congr net.connect (associate_outcome_of_fails h t)

/-! ## An exchange that takes its time -/

/-- A network that takes half a second to associate the socket and half a second for the reply. -/
def sluggish (response : Bytes) : Network where
  socket := .ok ()
  bind := .ok ()
  connect := ⟨.suspended (1 / 2), .ok ()⟩
  send := .now ()
  receive _ := ⟨.suspended (1 / 2), .ok response⟩

/-- A client that waits for a second, both times. -/
def patient : Client := ⟨some .one, some .one⟩

theorem ofTimeout_one : Window.ofTimeout (some .one) = .limited 1 := by
  have hnan : Binary64.one.isNaN = false := by decide
  have hinfinite : Binary64.one.isInfinite = false := by decide
  have hone : Binary64.one.toRat = 1 := by decide +kernel
  simp [Window.ofTimeout, hnan, hinfinite, hone]

theorem admits_patient :
    (Window.ofTimeout (some .one)).Admits 0 (.suspended (1 / 2)) (0 + 1 / 2) := by
  rw [ofTimeout_one]
  exact .suspended ⟨by decide, by decide +kernel⟩

theorem timeouts_independent_sluggish :
    ∃ p, (patient.exchange loopback Packet.sessionStart
          (sluggish Packet.sessionAnswerWire)).outcome = .reply p ∧
      patient.AtMost ⟨none, none⟩ ∧
      (Client.exchange ⟨none, none⟩ loopback Packet.sessionStart
        (sluggish Packet.sessionAnswerWire)).outcome = .reply p ∧
      (Client.exchange ⟨some .zero, some .one⟩ loopback Packet.sessionStart
        { sluggish Packet.sessionAnswerWire with connect := .now () }).outcome = .reply p := by
  obtain ⟨hlonger, -, hassociated, -⟩ := timeouts_independent patient loopback Packet.sessionStart
    (sluggish Packet.sessionAnswerWire)
  have hassociate : Step.associate.Succeeds patient Packet.sessionStart
      (sluggish Packet.sessionAnswerWire) := ⟨_, admits_patient, rfl⟩
  have hbefore : ∀ s ∈ Step.encode.before,
      s.Succeeds patient Packet.sessionStart (sluggish Packet.sessionAnswerWire) := by
    intro s hs
    cases s with
    | create | configure | bind | locate => rfl
    | associate => exact hassociate
    | _ => exact absurd hs (by decide)
  have hreceived : Received patient Packet.sessionStart (sluggish Packet.sessionAnswerWire)
      Packet.sessionStartWire Packet.sessionAnswerWire :=
    ⟨0, _, ⟨Packet.encode_sessionStart, .immediate, rfl⟩, admits_patient, rfl⟩
  obtain ⟨p, hp⟩ := @Packet.decode_sessionAnswer Packet.sessionStart.secret rfl []
  have hreply : (patient.exchange loopback Packet.sessionStart
      (sluggish Packet.sessionAnswerWire)).outcome = .reply p := by
    rw [outcome_of_received hreceived hbefore, Client.readReply]
    rw [List.append_nil] at hp
    rw [hp]
  have hatMost : patient.AtMost ⟨none, none⟩ := ⟨by decide, by decide⟩
  refine ⟨p, hreply, hatMost, ?_, ?_⟩
  · exact (hlonger _ hatMost (by rw [hreply]; rfl)).trans hreply
  · exact (hassociated (some .zero) (.now ()) hassociate ⟨0, .immediate, rfl⟩).trans hreply

end Exchange

end Radius
