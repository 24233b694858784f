import Radius.Proofs.Exchange.Course

/-!
# What is done to the socket

Every exchange does the same things to its socket in the same order (`script`), up to the step that
stops it, and then closes the socket (`socket_discipline`). Nothing is done twice, the request is
sent at most once and only after all steps before the sending, and the reply is received only after
the request has been sent.
-/

namespace Radius

/-- The place of an effect in the order of effects. -/
def Effect.place : Effect → Nat
  | create _ => 0
  | bind _ _ => 1
  | connect _ _ => 2
  | send _ => 3
  | receive _ => 4
  | close => 5

namespace Exchange

/-- The datagrams that are sent. -/
def datagrams (trace : List Effect) : List Bytes :=
  trace.filterMap fun
    | .send data => some data
    | _ => none

/-- What is done to the socket if all steps succeed, up to the closing. -/
def script (remote : Endpoint) (data : Bytes) : List Effect :=
  [.create remote.family, .bind remote.family.wildcard.1 remote.family.wildcard.2,
    .connect remote.host remote.port, .send data, .receive maxDatagramSize]

variable {c : Client} {remote : Endpoint} {request : Packet} {net : Network} {data : Bytes}
  {effects : List Effect}

theorem flatMap_effects (remote : Endpoint) (data : Bytes) :
    Step.all.flatMap (Step.effects remote data) = script remote data := rfl

theorem script_pairwise (remote : Endpoint) (data : Bytes) :
    (script remote data ++ [Effect.close]).Pairwise fun d e => d.place < e.place := by
  simp [script, Effect.place]

/-! ## Traces that begin as the script -/

theorem close_not_mem (h : effects <+: script remote data) : Effect.close ∉ effects := by
  intro hclose
  have hmem := h.subset hclose
  simp [script] at hmem

section Script

variable {trace : List Effect} (htrace : trace = effects ++ [.close] ∨ trace = effects)
include htrace

theorem mem_effects {e : Effect} (he : e ∈ trace) (hclose : e ≠ .close) : e ∈ effects := by
  rcases htrace with rfl | rfl
  · simpa [hclose] using he
  · exact he

theorem datagrams_eq : datagrams trace = datagrams effects := by
  rcases htrace with rfl | rfl
  · rw [datagrams, List.filterMap_append]
    exact List.append_nil _
  · rfl

variable (h : effects <+: script remote data)
include h

/-- Nothing is done twice, or in another order. -/
theorem trace_pairwise : trace.Pairwise fun d e => d.place < e.place := by
  have hall : (effects ++ [Effect.close]).Sublist (script remote data ++ [Effect.close]) :=
    h.sublist.append (List.Sublist.refl _)
  refine (script_pairwise remote data).sublist ?_
  rcases htrace with rfl | rfl
  · exact hall
  · exact (List.sublist_append_left _ _).trans hall

theorem datagrams_isPrefix : datagrams trace <+: [data] := by
  rw [datagrams_eq htrace]
  exact h.filterMap _

/-- Once receiving has begun, the request has been sent. -/
theorem datagrams_of_receive {size : Nat} (hmem : .receive size ∈ trace) :
    datagrams trace = [data] := by
  have hscript : script remote data =
      [.create remote.family, .bind remote.family.wildcard.1 remote.family.wildcard.2,
        .connect remote.host remote.port, .send data] ++ [.receive maxDatagramSize] := rfl
  have heffects := mem_effects htrace hmem (by simp)
  rw [datagrams_eq htrace]
  -- Receiving is last in the script, so a beginning that has it is the whole.
  rcases List.prefix_concat_iff.1 (hscript ▸ h) with rfl | hfront
  · rfl
  · have hreceive := hfront.subset heffects
    simp at hreceive

end Script

theorem mem_datagrams {trace : List Effect} : data ∈ datagrams trace ↔ .send data ∈ trace := by
  rw [datagrams, List.mem_filterMap]
  constructor
  · rintro ⟨e, he, hdata⟩
    cases e <;> simp at hdata
    rwa [← hdata]
  · intro h
    exact ⟨_, h, rfl⟩

/-! ## How far the script is followed -/

section Course

variable {outcome : Outcome} (h : Proceeds c request net remote data Step.all outcome effects)
include h

theorem Proceeds.effects_of_succeeds (hall : ∀ s : Step, s.Succeeds c request net) :
    effects = script remote data := by
  rcases h.all_cases with ⟨_, _, _, _, heffects⟩ | ⟨s, hs, _, _⟩
  · rw [heffects, flatMap_effects]
  · exact (hs.fails (hall s)).elim

theorem Proceeds.effects_of_failsFirst {s : Step} (hs : s.FailsFirst c request net) :
    effects = (s.before ++ [s]).flatMap (Step.effects remote data) := by
  rcases h.all_cases with ⟨_, _, _, hall, _⟩ | ⟨d, hd, _, heffects⟩
  · exact (hs.fails (hall s)).elim
  · rwa [hs.unique hd]

variable (hdata : ∀ w, request.encode = .ok w → w = data)
include hdata

/-- What is sent is the encoded request, and every step before the sending has succeeded. -/
theorem Proceeds.encode_of_send {w : Bytes} (hmem : .send w ∈ effects) :
    request.encode = .ok w ∧ ∀ d ∈ Step.send.before, d.Succeeds c request net := by
  obtain rfl : w = data := by simpa [Step.all, Step.effects] using h.isPrefix.subset hmem
  have hbefore := h.succeeds_before (s := .send) hmem (List.mem_singleton_self _)
  obtain ⟨v, hv⟩ := hbefore .encode (by decide)
  obtain rfl := hdata v hv
  exact ⟨hv, hbefore⟩

/-- Receiving begins after the request has been sent. -/
theorem Proceeds.sent_of_receive {size : Nat} (hmem : .receive size ∈ effects) :
    ∃ time, Sent c request net data time := by
  obtain rfl : size = maxDatagramSize := by
    simpa [Step.all, Step.effects] using h.isPrefix.subset hmem
  have hbefore := h.succeeds_before (s := .receive) hmem (List.mem_singleton_self _)
  obtain ⟨v, time, hv⟩ := hbefore .send (by decide)
  obtain rfl := hdata v hv.1
  exact ⟨time, hv⟩

end Course

/-- A datagram that is sent is the encoded request, and every step before the sending has
succeeded. -/
theorem encode_of_mem_datagrams {w : Bytes}
    (h : w ∈ datagrams (c.exchange remote request net).trace) :
    request.encode = .ok w ∧ ∀ d ∈ Step.send.before, d.Succeeds c request net := by
  obtain ⟨data, hdata⟩ := exists_wireForm request
  obtain ⟨effects, hproceeds, hcloses, hopen⟩ := exchange_proceeds c remote net hdata
  rw [datagrams_eq ((Classical.em _).imp hcloses hopen), mem_datagrams] at h
  exact hproceeds.encode_of_send hdata h

/-! ## The discipline -/

/-- What an exchange does to its socket is a beginning of the script, as far as the first step that
does not succeed, and then, if the socket could be made and the exchange ends, one closing. Nothing
is done twice. At most one datagram is sent, the encoded request, and none if a step before the
sending does not succeed. Receiving begins only after the datagram has been sent. -/
theorem socket_discipline (c : Client) (remote : Endpoint) (request : Packet) (net : Network) :
    (∃ data effects, effects <+: script remote data ∧ Effect.close ∉ effects ∧
        ((∀ s : Step, s.Succeeds c request net) → effects = script remote data) ∧
        (∀ s : Step, s.FailsFirst c request net →
          effects = (s.before ++ [s]).flatMap (Step.effects remote data)) ∧
        (net.socket = .ok () → (c.exchange remote request net).outcome ≠ .waiting →
          (c.exchange remote request net).trace = effects ++ [.close]) ∧
        (net.socket ≠ .ok () ∨ (c.exchange remote request net).outcome = .waiting →
          (c.exchange remote request net).trace = effects)) ∧
      (c.exchange remote request net).trace.Pairwise (fun d e => d.place < e.place) ∧
      (datagrams (c.exchange remote request net).trace).length ≤ 1 ∧
      (∀ data ∈ datagrams (c.exchange remote request net).trace, request.encode = .ok data) ∧
      ((∃ s ∈ Step.send.before, ¬s.Succeeds c request net) →
        datagrams (c.exchange remote request net).trace = []) ∧
      ∀ size, .receive size ∈ (c.exchange remote request net).trace →
        ∃ data time, Sent c request net data time ∧
          datagrams (c.exchange remote request net).trace = [data] := by
  obtain ⟨data, hdata⟩ := exists_wireForm request
  obtain ⟨effects, h, hcloses, hopen⟩ := exchange_proceeds c remote net hdata
  have hprefix : effects <+: script remote data := h.isPrefix
  generalize (c.exchange remote request net).trace = trace at *
  have htrace : trace = effects ++ [.close] ∨ trace = effects :=
    (Classical.em _).imp hcloses hopen
  have hsent : ∀ w ∈ datagrams trace, request.encode = .ok w ∧
      ∀ d ∈ Step.send.before, d.Succeeds c request net := by
    intro w hw
    rw [datagrams_eq htrace, mem_datagrams] at hw
    exact h.encode_of_send hdata hw
  refine ⟨⟨data, effects, hprefix, close_not_mem hprefix, h.effects_of_succeeds,
    fun s hs => h.effects_of_failsFirst hs, ?_, ?_⟩, trace_pairwise htrace hprefix,
    (datagrams_isPrefix htrace hprefix).length_le, fun w hw => (hsent w hw).1, ?_, ?_⟩
  · exact fun hsocket hend => hcloses ⟨hsocket, hend⟩
  · exact fun hnot => hopen fun hclosed => hnot.elim (· hclosed.1) hclosed.2
  · rintro ⟨s, hs, hfails⟩
    exact List.eq_nil_iff_forall_not_mem.2 fun w hw => hfails ((hsent w hw).2 s hs)
  · intro size hmem
    obtain ⟨time, htime⟩ := h.sent_of_receive hdata (mem_effects htrace hmem (by simp))
    exact ⟨data, time, htime, datagrams_of_receive htrace hprefix hmem⟩

end Exchange

end Radius
