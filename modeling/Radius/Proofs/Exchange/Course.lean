import Mathlib.Data.List.Infix
import Radius.Proofs.Exchange.Steps

/-!
# The course of an exchange

`Proceeds` goes through a list of steps up to the first that does not succeed, and collects what
the steps do to the socket. Every run of `Client.exchange` proceeds through all steps, and then
closes the socket (`exchange_proceeds`), so what holds of every way to proceed holds of every run :
the first step that does not succeed decides the outcome (`exchange_outcome`), the effects are a
beginning of those of all steps (`Proceeds.isPrefix`), and an effect comes after the success of all
steps before its own (`Proceeds.succeeds_of_mem`).
-/

namespace Radius.Exchange

section Definition

variable (c : Client) (request : Packet) (net : Network)

/-- To go through steps in order with an outcome and effects on the socket : up to the first step
that stops the exchange, or to the end, where there is a packet to return. -/
inductive Proceeds (remote : Endpoint) (data : Bytes) : List Step → Outcome → List Effect → Prop
  | finish {p : Packet} (h : Delivered c request net p) : Proceeds remote data [] (.reply p) []
  | stop {s : Step} {rest : List Step} {outcome : Outcome}
      (h : s.Stops c request net remote outcome) :
      Proceeds remote data (s :: rest) outcome (s.effects remote data)
  | pass {s : Step} {rest : List Step} {outcome : Outcome} {effects : List Effect}
      (h : s.Succeeds c request net) (tail : Proceeds remote data rest outcome effects) :
      Proceeds remote data (s :: rest) outcome (s.effects remote data ++ effects)

end Definition

variable {c : Client} {remote : Endpoint} {request : Packet} {net : Network} {data : Bytes}

/-! ## What holds however an exchange proceeds -/

namespace Proceeds

variable {steps : List Step} {outcome : Outcome} {effects : List Effect}

theorem isPrefix (h : Proceeds c request net remote data steps outcome effects) :
    effects <+: steps.flatMap (Step.effects remote data) := by
  induction h with
  | finish => exact List.prefix_rfl
  | stop => exact List.prefix_append _ _
  | pass _ _ ih => exact (List.prefix_append_right_inj _).2 ih

/-- Either all steps succeed and a packet is returned, or the first step that does not succeed stops
the exchange with the outcome. The effects are those of the steps that were taken. -/
theorem outcome_cases (h : Proceeds c request net remote data steps outcome effects) :
    (∃ p, outcome = .reply p ∧ Delivered c request net p ∧ (∀ d ∈ steps, d.Succeeds c request net) ∧
        effects = steps.flatMap (Step.effects remote data)) ∨
      ∃ front s rest, steps = front ++ s :: rest ∧ (∀ d ∈ front, d.Succeeds c request net) ∧
        s.Stops c request net remote outcome ∧
        effects = (front ++ [s]).flatMap (Step.effects remote data) := by
  induction h with
  | @finish p h => exact .inl ⟨p, rfl, h, by simp, rfl⟩
  | @stop s rest _ h => exact .inr ⟨[], s, rest, rfl, by simp, h, by simp⟩
  | @pass s rest outcome effects hs _ ih =>
    rcases ih with ⟨p, rfl, hp, hall, rfl⟩ | ⟨front, d, tail, rfl, hfront, hd, rfl⟩
    · exact .inl ⟨p, rfl, hp, List.forall_mem_cons.2 ⟨hs, hall⟩, rfl⟩
    · exact .inr ⟨s :: front, d, tail, rfl, List.forall_mem_cons.2 ⟨hs, hfront⟩, hd, rfl⟩

/-- Through all steps, either every step succeeds or one is the first that does not. -/
theorem all_cases (h : Proceeds c request net remote data Step.all outcome effects) :
    (∃ p, outcome = .reply p ∧ Delivered c request net p ∧ (∀ s : Step, s.Succeeds c request net) ∧
        effects = Step.all.flatMap (Step.effects remote data)) ∨
      ∃ s : Step, s.FailsFirst c request net ∧ s.Stops c request net remote outcome ∧
        effects = (s.before ++ [s]).flatMap (Step.effects remote data) := by
  rcases h.outcome_cases with ⟨p, hp, hdelivered, hall, heffects⟩ |
    ⟨front, s, rest, hsteps, hfront, hs, heffects⟩
  · exact .inl ⟨p, hp, hdelivered, fun s => hall s s.mem_all, heffects⟩
  · rw [← Step.before_eq hsteps] at hfront heffects
    exact .inr ⟨s, ⟨hfront, hs.not_succeeds⟩, hs, heffects⟩

/-- Every effect is that of a step before which all steps have succeeded. -/
theorem succeeds_of_mem (h : Proceeds c request net remote data steps outcome effects)
    {e : Effect} (he : e ∈ effects) :
    ∃ front s rest, steps = front ++ s :: rest ∧ (∀ d ∈ front, d.Succeeds c request net) ∧
      e ∈ s.effects remote data := by
  induction h with
  | finish => simp at he
  | @stop s rest _ h => exact ⟨[], s, rest, rfl, by simp, he⟩
  | @pass s rest outcome effects hs _ ih =>
    rcases List.mem_append.1 he with he | he
    · exact ⟨[], s, rest, rfl, by simp, he⟩
    · obtain ⟨front, d, tail, rfl, hfront, hd⟩ := ih he
      exact ⟨s :: front, d, tail, rfl, List.forall_mem_cons.2 ⟨hs, hfront⟩, hd⟩

/-- An effect of a step comes after the success of all steps before it. -/
theorem succeeds_before (h : Proceeds c request net remote data Step.all outcome effects)
    {s : Step} {e : Effect} (he : e ∈ effects) (hs : e ∈ s.effects remote data) :
    ∀ d ∈ s.before, d.Succeeds c request net := by
  obtain ⟨front, d, rest, hsteps, hfront, hd⟩ := h.succeeds_of_mem he
  rwa [Step.eq_of_mem_effects hs hd, Step.before_eq hsteps]

end Proceeds

/-! ## Exchanges proceed through the steps -/

/-- A datagram that comes back is decoded, and nothing is done to the socket any more. -/
theorem readReply_proceeds {response : Bytes} (h : Received c request net data response) :
    Proceeds c request net remote data [.decode] (Client.readReply request data response) [] := by
  cases hdecode : Packet.decode (.bytes response) request.secret
      (.bytes (Packet.sentAuthenticator data)) with
  | ok p =>
    rw [Client.readReply, hdecode]
    have hp : Delivered c request net p := ⟨data, response, h, hdecode⟩
    exact .pass ⟨p, hp⟩ (.finish hp)
  | error why =>
    rw [Client.readReply, hdecode]
    have hstop : Step.Stops c request net remote .decode (Step.onRefusal .decode why) :=
      .refuses (.decode h hdecode)
    cases why <;> exact .stop hstop

theorem converse_proceeds (h : request.encode = .ok data) :
    Proceeds c request net remote data [.send, .receive, .decode]
      (c.converse remote request net data).outcome (c.converse remote request net data).trace := by
  rw [Client.converse]
  rcases c.socketWindow.run_cases 0 net.send with ⟨_, sent, hsend, hrun⟩ | ⟨cause, _, hfail, hrun⟩ |
    ⟨hclose, _, hrun⟩ | ⟨hhang, hrun⟩
  · -- Receiving begins where sending has ended, in the same window.
    have hsent : Sent c request net data sent := ⟨h, hsend⟩
    have hpass {outcome effects}
        (tail : Proceeds c request net remote data [.receive, .decode] outcome effects) :
        Proceeds c request net remote data [.send, .receive, .decode] outcome
          (.send data :: effects) := .pass ⟨data, sent, hsent⟩ tail
    rcases c.socketWindow.run_cases sent (net.receive data) with ⟨d, time, hreceive, hreply⟩ |
      ⟨cause, _, hfail, hreply⟩ | ⟨hclose, _, hreply⟩ | ⟨hhang, hreply⟩
    · have hreceived : Received c request net data d := ⟨sent, time, hsent, hreceive⟩
      simp only [hrun, hreply]
      exact hpass (.pass ⟨data, d, hreceived⟩ (readReply_proceeds hreceived))
    · simp only [hrun, hreply]
      exact hpass (.stop (.raises (.receive hsent hfail)))
    · simp only [hrun, hreply]
      exact hpass (.stop (.expires ⟨_, _, _, .receive hsent, hclose⟩))
    · simp only [hrun, hreply]
      exact hpass (.stop (.hangs ⟨_, _, _, .receive hsent, hhang⟩))
  · simp only [hrun]
    exact .stop (.raises (.send hfail))
  · simp only [hrun]
    exact .stop (.expires ⟨_, _, _, .send, hclose⟩)
  · simp only [hrun]
    exact .stop (.hangs ⟨_, _, _, .send, hhang⟩)

theorem associate_proceeds (hdata : ∀ w, request.encode = .ok w → w = data) :
    Proceeds c request net remote data [.associate, .encode, .send, .receive, .decode]
      (c.associate remote request net).outcome (c.associate remote request net).trace := by
  rw [Client.associate]
  rcases c.connectionWindow.run_cases 0 net.connect with ⟨_, time, hconnect, hrun⟩ |
    ⟨cause, _, hfail, hrun⟩ | ⟨hclose, _, hrun⟩ | ⟨hhang, hrun⟩
  · have hpass {outcome effects}
        (tail : Proceeds c request net remote data [.encode, .send, .receive, .decode] outcome
          effects) :
        Proceeds c request net remote data [.associate, .encode, .send, .receive, .decode] outcome
          (.connect remote.host remote.port :: effects) := .pass ⟨time, hconnect⟩ tail
    cases hencode : request.encode with
    | ok w =>
      obtain rfl := hdata w hencode
      simp only [hrun]
      exact hpass (.pass ⟨w, hencode⟩ (converse_proceeds hencode))
    | error why =>
      have hstop : Step.Stops c request net remote .encode (Step.onRefusal .encode why) :=
        .refuses (.encode hencode)
      simp only [hrun]
      cases why <;> exact hpass (.stop hstop)
  · simp only [hrun]
    exact .stop (.raises (.associate hfail))
  · simp only [hrun]
    exact .stop (.expires ⟨_, _, _, .associate, hclose⟩)
  · simp only [hrun]
    exact .stop (.hangs ⟨_, _, _, .associate, hhang⟩)

theorem prepare_proceeds (c : Client) (remote : Endpoint) (net : Network)
    (hdata : ∀ w, request.encode = .ok w → w = data) :
    Proceeds c request net remote data
      [.configure, .bind, .locate, .associate, .encode, .send, .receive, .decode]
      (c.prepare remote request net).outcome (c.prepare remote request net).trace := by
  rw [Client.prepare]
  cases hconfigure : net.configure with
  | error cause => exact .stop (.raises (.configure hconfigure))
  | ok =>
    refine .pass hconfigure ?_
    cases hbind : net.bind with
    | error cause => exact .stop (.raises (.bind hbind))
    | ok =>
      refine .pass hbind ?_
      cases hlocate : net.localAddress with
      | error cause => exact .stop (.raises (.locate hlocate))
      | ok => exact .pass hlocate (associate_proceeds hdata)

/-- A request that has a wire form has only one. -/
theorem exists_wireForm (request : Packet) :
    ∃ data, ∀ w, request.encode = .ok w → w = data := by
  cases h : request.encode with
  | ok w => exact ⟨w, fun _ hw => (Except.ok.inj hw).symm⟩
  | error => exact ⟨[], by simp⟩

/-- Whether an exchange closes its socket : it made one, and it ends. -/
def Closes (net : Network) (outcome : Outcome) : Prop :=
  net.socket = .ok () ∧ outcome ≠ .waiting

theorem closing_outcome (r : Run) : (Client.closing r).outcome = r.outcome := by
  unfold Client.closing
  split <;> rfl

theorem closing_of_waiting {r : Run} (h : r.outcome = .waiting) : Client.closing r = r := by
  rw [Client.closing, h]

theorem closing_trace {r : Run} (h : r.outcome ≠ .waiting) :
    (Client.closing r).trace = r.trace ++ [.close] := by
  unfold Client.closing
  split
  · contradiction
  · rfl

/-- An exchange proceeds through all steps, and closes the socket after the last effect of these. -/
theorem exchange_proceeds (c : Client) (remote : Endpoint) (net : Network)
    (hdata : ∀ w, request.encode = .ok w → w = data) :
    ∃ effects,
      Proceeds c request net remote data Step.all (c.exchange remote request net).outcome effects ∧
        (Closes net (c.exchange remote request net).outcome →
          (c.exchange remote request net).trace = effects ++ [.close]) ∧
        (¬Closes net (c.exchange remote request net).outcome →
          (c.exchange remote request net).trace = effects) := by
  rw [Client.exchange]
  cases hsocket : net.socket with
  | error cause =>
    refine ⟨_, .stop (.raises (.create hsocket)), fun h => ?_, fun _ => rfl⟩
    cases hsocket.symm.trans h.1
  | ok =>
    have htail := prepare_proceeds c remote net hdata
    rw [← closing_outcome] at htail
    refine ⟨_, .pass hsocket htail, fun h => ?_, fun h => ?_⟩
    · exact congrArg _ (closing_trace fun hwaiting => h.2 ((closing_outcome _).trans hwaiting))
    · have hwaiting : (c.prepare remote request net).outcome = .waiting := by
        by_contra hne
        exact h ⟨hsocket, fun hend => hne ((closing_outcome _).symm.trans hend)⟩
      exact congrArg _ (congrArg Run.trace (closing_of_waiting hwaiting))

/-- Either all steps of an exchange succeed and it returns a packet, or it ends as the first step
that does not succeed stops it. -/
theorem exchange_outcome (c : Client) (remote : Endpoint) (request : Packet) (net : Network) :
    (∃ p, (c.exchange remote request net).outcome = .reply p ∧ Delivered c request net p ∧
        ∀ s : Step, s.Succeeds c request net) ∨
      ∃ s : Step, s.FailsFirst c request net ∧
        s.Stops c request net remote (c.exchange remote request net).outcome := by
  obtain ⟨data, hdata⟩ := exists_wireForm request
  obtain ⟨effects, h, -⟩ := exchange_proceeds c remote net hdata
  rcases h.all_cases with ⟨p, hp, hdelivered, hall, -⟩ | ⟨s, hfirst, hs, -⟩
  · exact .inl ⟨p, hp, hdelivered, hall⟩
  · exact .inr ⟨s, hfirst, hs⟩

/-- A step that stops the exchange after the success of all steps before it gives the outcome. -/
theorem outcome_of_stops {s : Step} {outcome : Outcome}
    (hbefore : ∀ d ∈ s.before, d.Succeeds c request net)
    (h : s.Stops c request net remote outcome) :
    (c.exchange remote request net).outcome = outcome := by
  have hs : s.FailsFirst c request net := ⟨hbefore, h.not_succeeds⟩
  rcases exchange_outcome c remote request net with ⟨_, _, _, hall⟩ | ⟨d, hd, hstops⟩
  · exact (hs.fails (hall s)).elim
  · obtain rfl := hs.unique hd
    exact hstops.unique h

/-- What is delivered is returned if all steps succeed. -/
theorem outcome_of_delivered {p : Packet} (h : Delivered c request net p)
    (hall : ∀ s : Step, s.Succeeds c request net) :
    (c.exchange remote request net).outcome = .reply p := by
  rcases exchange_outcome c remote request net with ⟨q, hq, hdelivered, -⟩ | ⟨s, hs, -⟩
  · rw [hq, hdelivered.unique h]
  · exact (hs.fails (hall s)).elim

end Radius.Exchange
