import Radius.Proofs.Packet.Decoding

/-!
# The datagrams that are packets

Six checks decide on a datagram, each stated by the bytes of the datagram alone (`Check.Holds`) :
its size, its length field, the presence of the bytes that the field counts, the code, the
attributes, and the authenticator. A datagram that passes them all is decoded. Otherwise the first
check it fails (`Check.FailsFirst`) is reported, each with errors of its own (`Check.Reports`).

`decode_checks` : decoding accepts what passes all checks, reports the first failure otherwise, and
never looks at the padding.
-/

namespace Radius

namespace Datagram

/-- The digest a datagram carries if it answers the request with the authenticator `previous`. -/
def digest (data previous secret : Bytes) : Bytes :=
  MD5.digest (data.take 4 ++ Bytes.fit authenticatorSize previous ++ body data ++ secret)

/-- The authenticator check of a datagram : its authenticator is the digest over the one that is
given, and if none is given, that over zeros in an accounting request. -/
def Authentic (data secret : Bytes) : Option Bytes → Prop
  | some previous => Packet.sentAuthenticator data = digest data previous secret
  | none => data.head? = some (UInt8.ofNat Code.accountingRequest.number) →
      Packet.sentAuthenticator data = digest data (Bytes.zeros authenticatorSize) secret

end Datagram

/-- The checks of a datagram. -/
inductive Check where
  | size
  | length
  | presence
  | code
  | attributes
  | authenticator

namespace Check

/-- The place of a check in the order in which they are made. -/
def place : Check → Nat
  | size => 0
  | length => 1
  | presence => 2
  | code => 3
  | attributes => 4
  | authenticator => 5

variable (data secret : Bytes) (request : Option Bytes)

/-- What a check asks of a datagram that is read under a secret, and as the answer to a request if
one is given. -/
def Holds : Check → Prop
  | size => Header.size ≤ data.length
  | length => Header.size ≤ Datagram.lengthField data ∧ Datagram.lengthField data ≤ maxPacketSize
  | presence => Datagram.lengthField data ≤ data.length
  | code => ∃ c : Code, data.head? = some (UInt8.ofNat c.number)
  | attributes => ∃ attributes, Attribute.Spells attributes (Datagram.body data)
  | authenticator => Datagram.Authentic data secret request

/-- What is reported when a check fails. -/
inductive Reports : Check → DecodeError → Prop
  | size : Reports size .tooShort
  | length : Reports length (.badLength (Datagram.lengthField data))
  | presence : Reports presence .truncated
  | code {c : UInt8} (h : data.head? = some c) : Reports code (.unknownCode c)
  | attributes {why : Attribute.SequenceError} (h : Attribute.Breaks (Datagram.body data) why) :
      Reports attributes (.attributes why)
  | authenticator : Reports authenticator (Packet.mismatch request)

/-- The checks before a place in the order hold. -/
def HoldBefore (n : Nat) : Prop := ∀ d : Check, d.place < n → d.Holds data secret request

/-- A check fails and all checks before it hold. -/
structure FailsFirst (c : Check) : Prop where
  before : HoldBefore data secret request c.place
  fails : ¬c.Holds data secret request

end Check

namespace Frame

variable {data secret : Bytes} {f : Frame} (h : ofBytes data = .ok f)
include h

theorem digest_of_ofBytes (previous secret : Bytes) :
    f.digest previous secret = Datagram.digest data previous secret := by
  rw [digest, Authenticator.digest, Header.toBytes_of_ofBytes? (header_of_ofBytes h),
    ← body_of_ofBytes h, Datagram.digest]

/-- The authenticator check of a datagram is that of the frame it holds. -/
theorem authentic_iff (request : Option Bytes) :
    f.Authentic secret request ↔ Datagram.Authentic data secret request := by
  have hsent := Header.sentAuthenticator_of_ofBytes? (header_of_ofBytes h)
  have hcode : data.head? = some (UInt8.ofNat Code.accountingRequest.number) ↔
      f.code = .accountingRequest := by
    rw [head?_of_ofBytes h]
    constructor
    · intro hcode
      have := congrArg UInt8.toNat (Option.some.inj hcode)
      rw [Code.toNat_ofNat_number, Code.toNat_ofNat_number] at this
      exact Code.number_injective this
    · intro hcode
      rw [hcode]
  cases request with
  | none => simp only [Authentic, Datagram.Authentic, hcode, hsent, digest_of_ofBytes h, eq_comm]
  | some previous => simp only [Authentic, Datagram.Authentic, hsent, digest_of_ofBytes h, eq_comm]

end Frame

namespace Check

theorem eq_of_place_eq {c d : Check} (h : c.place = d.place) : c = d := by
  cases c <;> cases d <;> first | rfl | cases h

variable (data secret : Bytes) (request : Option Bytes)

theorem holdBefore_zero : HoldBefore data secret request 0 :=
  fun _ hd => (Nat.not_lt_zero _ hd).elim

theorem HoldBefore.succ {data secret : Bytes} {request : Option Bytes} (c : Check)
    (h : HoldBefore data secret request c.place) (hc : c.Holds data secret request) :
    HoldBefore data secret request (c.place + 1) := by
  intro d hd
  rcases Nat.lt_succ_iff_lt_or_eq.1 hd with hlt | heq
  · exact h d hlt
  · rwa [eq_of_place_eq heq]

variable {data secret request}

/-- At most one check is the first that fails. -/
theorem FailsFirst.unique {c d : Check} (hc : c.FailsFirst data secret request)
    (hd : d.FailsFirst data secret request) : c = d := by
  rcases Nat.lt_trichotomy c.place d.place with h | h | h
  · exact (hc.fails (hd.before c h)).elim
  · exact eq_of_place_eq h
  · exact (hd.fails (hc.before d h)).elim

/-- A datagram that holds a frame passes all checks up to that of the authenticator. -/
theorem holds_of_ofBytes {f : Frame} (h : Frame.ofBytes data = .ok f) {c : Check}
    (hc : c ≠ authenticator) : c.Holds data secret request := by
  have hs := Frame.sound_of_ofBytes h
  have hfield := Frame.lengthField_of_ofBytes h
  cases c with
  | size => exact Header.size_le_of_ofBytes? (Frame.header_of_ofBytes h)
  | length =>
    have := hs.length
    exact ⟨by omega, hfield ▸ hs.fits⟩
  | presence =>
    have hlength := congrArg List.length (Frame.take_of_ofBytes h)
    have := hs.length
    simp only [List.length_take, Frame.length_toBytes] at hlength
    show Datagram.lengthField data ≤ data.length
    omega
  | code => exact ⟨f.code, Frame.head?_of_ofBytes h⟩
  | attributes => exact ⟨f.attributes, by rw [Frame.body_of_ofBytes h]; exact hs.body⟩
  | authenticator => exact (hc rfl).elim

/-- A datagram holds a frame, or what is reported of it is the first check it fails. -/
theorem ofBytes_verdict (data secret : Bytes) (request : Option Bytes) :
    (∃ f, Frame.ofBytes data = .ok f) ∨
      ∃ (c : Check) (why : DecodeError), Frame.ofBytes data = .error why ∧
        c.FailsFirst data secret request ∧ c.Reports data request why := by
  -- Every check that passes joins those before it, and the first that fails is the verdict.
  have h0 := holdBefore_zero data secret request
  cases hheader : Header.ofBytes? data with
  | none =>
    have hsize : ¬size.Holds data secret request :=
      Nat.not_le.2 (Header.ofBytes?_eq_none_iff.1 hheader)
    exact .inr ⟨size, _, by rw [Frame.ofBytes, hheader], ⟨h0, hsize⟩, .size⟩
  | some header =>
    have hfield := Header.lengthField_of_ofBytes? hheader
    have hhead := Header.head?_of_ofBytes? hheader
    have h1 := h0.succ size (Header.size_le_of_ofBytes? hheader)
    rw [Frame.ofBytes_eq hheader]
    by_cases hlength : Header.size ≤ Datagram.lengthField data ∧
        Datagram.lengthField data ≤ maxPacketSize
    · have h2 := h1.succ length hlength
      rw [if_pos hlength]
      by_cases hpresence : Datagram.lengthField data ≤ data.length
      · have h3 := h2.succ presence hpresence
        rw [if_pos hpresence]
        cases hcode : Code.ofNumber? header.code.toNat with
        | none =>
          refine .inr ⟨code, _, rfl, ⟨h3, ?_⟩, .code hhead⟩
          rintro ⟨c, hc⟩
          rw [hhead] at hc
          rw [Option.some.inj hc, Code.toNat_ofNat_number, Code.ofNumber?_number] at hcode
          simp at hcode
        | some c =>
          have hnumber : data.head? = some (UInt8.ofNat c.number) := by
            rw [hhead, Code.number_of_ofNumber? hcode, UInt8.ofNat_toNat]
          have h4 := h3.succ code ⟨c, hnumber⟩
          dsimp only
          cases hbody : Attribute.decode (Datagram.body data) with
          | error why =>
            have hbreaks := Attribute.decode_eq_error_iff.1 hbody
            refine .inr ⟨attributes, _, rfl, ⟨h4, ?_⟩, .attributes hbreaks⟩
            rintro ⟨list, hlist⟩
            rw [Attribute.decode_eq_ok_iff.2 hlist] at hbody
            simp at hbody
          | ok list => exact .inl ⟨_, rfl⟩
      · rw [if_neg hpresence]
        exact .inr ⟨presence, _, rfl, ⟨h2, hpresence⟩, .presence⟩
    · rw [if_neg hlength]
      exact .inr ⟨length, _, rfl, ⟨h1, hlength⟩, .length⟩

/-- A datagram passes all checks and is a packet, or what is reported is the first check it
fails. -/
theorem decode_verdict (data secret : Bytes) (request : Option Bytes) :
    ((∀ c : Check, c.Holds data secret request) ∧
        ∃ p, Packet.decode (.bytes data) (.bytes secret) (.ofBytes? request) = .ok p) ∨
      ∃ (c : Check) (why : DecodeError),
        Packet.decode (.bytes data) (.bytes secret) (.ofBytes? request) =
            .error (.decode why) ∧
          c.FailsFirst data secret request ∧ c.Reports data request why := by
  rw [Packet.decode_bytes rfl, Packet.decodeBytes_eq]
  rcases ofBytes_verdict data secret request with ⟨f, hframe⟩ | ⟨c, why, hframe, hc⟩
  · rw [hframe]
    dsimp only
    by_cases hauthentic : f.Authentic secret request
    · rw [if_pos hauthentic]
      refine .inl ⟨fun c => ?_, _, rfl⟩
      cases c with
      | authenticator => exact (Frame.authentic_iff hframe request).1 hauthentic
      | _ => exact holds_of_ofBytes hframe (by simp)
    · rw [if_neg hauthentic]
      refine .inr ⟨authenticator, _, rfl, ⟨fun d hd => holds_of_ofBytes hframe ?_, ?_⟩,
        .authenticator⟩
      · rintro rfl
        exact Nat.lt_irrefl _ hd
      · exact mt (Frame.authentic_iff hframe request).2 hauthentic
  · rw [hframe]
    exact .inr ⟨c, why, rfl, hc⟩

end Check

/-- Decoding accepts exactly the datagrams that pass all checks. For any other datagram there is one
check that is the first to fail, and it is reported as a decoding error. Nothing but the bytes that
a fitting length field counts is looked at. -/
theorem decode_checks (data secret : Bytes) (request : Option Bytes) :
    ((∃ p, Packet.decode (.bytes data) (.bytes secret) (.ofBytes? request) = .ok p) ↔
        ∀ c : Check, c.Holds data secret request) ∧
      ((¬∀ c : Check, c.Holds data secret request) →
        ∃ c : Check, c.FailsFirst data secret request ∧
          (∀ d : Check, d.FailsFirst data secret request → d = c) ∧
          ∃ why, c.Reports data request why ∧
            Packet.decode (.bytes data) (.bytes secret) (.ofBytes? request) =
              .error (.decode why)) ∧
      (Header.size ≤ Datagram.lengthField data → Datagram.lengthField data ≤ data.length →
        ∀ other : Bytes,
          other.take (Datagram.lengthField data) = data.take (Datagram.lengthField data) →
            Packet.decode (.bytes other) (.bytes secret) (.ofBytes? request) =
              Packet.decode (.bytes data) (.bytes secret) (.ofBytes? request)) := by
  refine ⟨⟨?_, ?_⟩, ?_, ?_⟩
  · rintro ⟨p, hp⟩
    rcases Check.decode_verdict data secret request with ⟨hall, -⟩ | ⟨c, why, herror, -⟩
    · exact hall
    · simp [hp] at herror
  · intro hall
    rcases Check.decode_verdict data secret request with ⟨-, hp⟩ | ⟨c, why, -, hfirst, -⟩
    · exact hp
    · exact (hfirst.fails (hall c)).elim
  · intro hsome
    rcases Check.decode_verdict data secret request with ⟨hall, -⟩ | ⟨c, why, herror, hfirst, hwhy⟩
    · exact (hsome hall).elim
    · exact ⟨c, hfirst, fun d hd => hd.unique hfirst, why, hwhy, herror⟩
  · intro hlow hpresent other h
    rw [Packet.decode_bytes rfl, Packet.decode_bytes rfl, Packet.decodeBytes_eq,
      Packet.decodeBytes_eq, Frame.ofBytes_eq_of_take_eq hlow hpresent h]

end Radius
