/-
  Spdm.Transport.Bindings — what the two transport bindings promise, and what they keep.
-/
import Spdm.Transport.Mctp
import Spdm.Transport.PciDoe

namespace Spdm

open Effect Codec

variable {m sender receiver : Bytes}

inductive Binding where
  | pciDoe
  | mctp
  deriving Repr, DecidableEq

namespace Binding

/-! ## §1. The promise. -/

def encap : Binding → Bytes → Bool → Prog Bytes SpdmStatus Nat
  | pciDoe => PciDoe.encap
  | mctp => Mctp.encap

def decap : Binding → Bytes → Prog Bytes SpdmStatus (Nat × Bool)
  | pciDoe => PciDoe.decap
  | mctp => Mctp.decap

def encapApp : Binding → Bytes → Bool → Prog Bytes SpdmStatus Nat
  | pciDoe => PciDoe.encapApp
  | mctp => Mctp.encapApp

def decapApp : Binding → Bytes → Prog Bytes SpdmStatus (Nat × Bool)
  | pciDoe => PciDoe.decapApp
  | mctp => Mctp.decapApp

def payloadSize : Binding → Bytes → Nat
  | pciDoe, m => PciDoe.alignedLen m
  | mctp, m => m.length

def packetSize : Binding → Bytes → Nat
  | pciDoe, m => PciDoe.PciDoeMessageHeader.size + PciDoe.alignedLen m
  | mctp, m => 1 + m.length

def appSize : Binding → Bytes → Nat
  | pciDoe, m => m.length
  | mctp, m => 1 + m.length

def mostPadding : Binding → Nat
  | pciDoe => 3
  | mctp => 0

def Carries (b : Binding) (m : Bytes) (secured : Bool) (sender receiver : Bytes) : Prop :=
  ∃ n sender' k receiver' padding,
    b.encap m secured sender = .ok n sender' ∧
      b.decap (sender'.take n) receiver = .ok (k, secured) receiver' ∧
      receiver'.take k = m ++ padding ∧ padding.length ≤ b.mostPadding

def CarriesApp (b : Binding) (m : Bytes) (isApp : Bool) (sender receiver : Bytes) : Prop :=
  ∃ n sender' receiver',
    b.encapApp m isApp sender = .ok n sender' ∧
      b.decapApp (sender'.take n) receiver = .ok (m.length, isApp) receiver' ∧
      receiver'.take m.length = m

def Returns (b : Binding) (received out : Bytes) : Prop :=
  b.decap received out ≠ .panic ∧ b.decapApp received out ≠ .panic

/-- The buffers of both sides: for packets, and for what travels inside the
secured channel. -/
structure Buffers where
  sender : Bytes
  receiver : Bytes
  appSender : Bytes
  appReceiver : Bytes

/-- A message fits the buffers; a buffer has less than 2^32 bytes. -/
structure Fits (b : Binding) (m : Bytes) (bufs : Buffers) : Prop where
  sender : b.packetSize m ≤ bufs.sender.length
  word : bufs.sender.length < 2 ^ 32
  receiver : b.payloadSize m ≤ bufs.receiver.length
  appSender : b.appSize m ≤ bufs.appSender.length
  appReceiver : m.length ≤ bufs.appReceiver.length

/-- The promise for one message with its flags, and for one byte string
received into one buffer. -/
structure Correct (b : Binding) (m : Bytes) (secured isApp : Bool) (bufs : Buffers)
    (received out : Bytes) : Prop where
  carries : b.Carries m secured bufs.sender bufs.receiver
  carriesApp : b.CarriesApp m isApp bufs.appSender bufs.appReceiver
  returns : b.Returns received out

/-! ## §2. MCTP. -/

theorem carries_mctp (secured : Bool)
    (hsender : mctp.packetSize m ≤ sender.length) (hreceiver : m.length ≤ receiver.length) :
    mctp.Carries m secured sender receiver := by
  refine ⟨_, _, m.length, m ++ receiver.drop m.length, [], Mctp.frame_eq hsender, ?_, ?_,
    le_refl _⟩
  · rw [List.take_append_of_le_length (by simp [Nat.add_comm]),
      List.take_of_length_le (by simp [Nat.add_comm])]
    refine Mctp.unframe_eq ?_ ?_ hreceiver
    · cases secured <;> rfl
    · cases secured <;> rfl
  · rw [List.take_left, List.append_nil]

theorem carriesApp_mctp (isApp : Bool)
    (hsender : mctp.appSize m ≤ sender.length) (hreceiver : m.length ≤ receiver.length) :
    mctp.CarriesApp m isApp sender receiver := by
  refine ⟨_, _, m ++ receiver.drop m.length, Mctp.frame_eq hsender, ?_, List.take_left⟩
  rw [List.take_append_of_le_length (by simp [Nat.add_comm]),
    List.take_of_length_le (by simp [Nat.add_comm])]
  refine Mctp.unframe_eq ?_ ?_ hreceiver
  · cases isApp <;> rfl
  · cases isApp <;> rfl

theorem returns_mctp (received out : Bytes) : mctp.Returns received out :=
  ⟨Mctp.total_unframe _, Mctp.total_unframe _⟩

/-! ## §3. PCI DOE. -/

theorem carries_pciDoe (secured : Bool)
    (hsender : pciDoe.packetSize m ≤ sender.length)
    (hreceiver : pciDoe.payloadSize m ≤ receiver.length)
    (hlargest : pciDoe.packetSize m ≤ 2 ^ 20) : pciDoe.Carries m secured sender receiver := by
  obtain ⟨hle, hlt⟩ := PciDoe.length_le_alignedLen m
  have hroom : PciDoe.PciDoeMessageHeader.size + PciDoe.alignedLen m ≤ sender.length := hsender
  obtain ⟨sender', hencap, hpacket⟩ := PciDoe.encap_eq secured hroom hlargest
  have hpadding : ((sender.drop (PciDoe.PciDoeMessageHeader.size + m.length)).take
      (PciDoe.alignedLen m - m.length)).length = PciDoe.alignedLen m - m.length := by
    rw [List.length_take, List.length_drop]
    omega
  generalize (sender.drop (PciDoe.PciDoeMessageHeader.size + m.length)).take
    (PciDoe.alignedLen m - m.length) = padding at hpacket hpadding
  refine ⟨_, sender', PciDoe.alignedLen m,
    m ++ padding ++ receiver.drop (PciDoe.alignedLen m), padding, hencap, ?_, ?_, ?_⟩
  · rw [hpacket]
    exact PciDoe.decap_packet secured (by omega) hreceiver hlargest
  · rw [List.take_append_of_le_length (by rw [List.length_append]; omega),
      List.take_of_length_le (by rw [List.length_append]; omega)]
  · show _ ≤ 3
    omega

theorem not_carries_pciDoe (secured : Bool)
    (hsender : pciDoe.packetSize m ≤ sender.length) (hword : sender.length < 2 ^ 32)
    (hlarge : 2 ^ 20 < pciDoe.packetSize m) : ¬ pciDoe.Carries m secured sender receiver := by
  rintro ⟨n, sender', k, receiver', padding, hencap, -⟩
  have hpanic : pciDoe.encap m secured sender = .panic :=
    PciDoe.encap_panic secured hsender hlarge hword
  rw [hpanic] at hencap
  cases hencap

theorem carriesApp_pciDoe_iff (isApp : Bool)
    (hsender : m.length ≤ sender.length) (hreceiver : m.length ≤ receiver.length) :
    pciDoe.CarriesApp m isApp sender receiver ↔ isApp = false := by
  have hencap : pciDoe.encapApp m isApp sender = .ok m.length (m ++ sender.drop m.length) :=
    PciDoe.encapApp_eq isApp hsender
  have hdecap : pciDoe.decapApp m receiver =
      .ok (m.length, false) (m ++ receiver.drop m.length) := PciDoe.decapApp_eq hreceiver
  constructor
  · rintro ⟨n, sender', receiver', hsent, hreceived, -⟩
    obtain ⟨rfl, rfl⟩ : m.length = n ∧ m ++ sender.drop m.length = sender' := by
      rw [hencap] at hsent
      exact Outcome.ok.inj hsent
    rw [List.take_left, hdecap] at hreceived
    exact (Prod.mk.inj (Outcome.ok.inj hreceived).1).2.symm
  · rintro rfl
    refine ⟨_, _, m ++ receiver.drop m.length, hencap, ?_, List.take_left⟩
    rw [List.take_left]
    exact hdecap

theorem returns_pciDoe_iff (received out : Bytes) :
    pciDoe.Returns received out ↔ received.length ≤ out.length := by
  have hdecap : pciDoe.decap received out ≠ .panic := PciDoe.total_decap received out
  have happ : pciDoe.decapApp received out = .panic ↔ out.length < received.length :=
    PciDoe.decapApp_panic_iff received out
  unfold Returns
  rw [Ne, Ne, happ]
  constructor
  · omega
  · intro hroom
    exact ⟨hdecap, by omega⟩

/-! ## §4. Both. -/

/-- What PCI DOE needs: a message of at most one data object, no application
flag, and a destination as large as what was received. -/
structure PciDoeServes (m : Bytes) (isApp : Bool) (received out : Bytes) : Prop where
  largest : pciDoe.packetSize m ≤ 2 ^ 20
  noFlag : isApp = false
  room : received.length ≤ out.length

/-- **The promise of the bindings.**  MCTP keeps it; PCI DOE keeps it exactly
when `PciDoeServes` holds. -/
theorem correct_iff (b : Binding) (m : Bytes) (secured isApp : Bool) (bufs : Buffers)
    (received out : Bytes) (hfits : b.Fits m bufs) :
    b.Correct m secured isApp bufs received out ↔
      b = .mctp ∨ PciDoeServes m isApp received out := by
  cases b with
  | mctp =>
    refine ⟨fun _ => .inl rfl, fun _ => ?_⟩
    exact ⟨carries_mctp secured hfits.sender hfits.receiver,
      carriesApp_mctp isApp hfits.appSender hfits.appReceiver, returns_mctp received out⟩
  | pciDoe =>
    have happ := carriesApp_pciDoe_iff isApp hfits.appSender hfits.appReceiver
    have hreturns := returns_pciDoe_iff received out
    constructor
    · rintro ⟨hcarries, hcarriesApp, hret⟩
      refine .inr ⟨?_, happ.1 hcarriesApp, hreturns.1 hret⟩
      by_contra hlarge
      exact not_carries_pciDoe secured hfits.sender hfits.word (by omega) hcarries
    · rintro (hmctp | ⟨hlargest, hflag, hroom⟩)
      · cases hmctp
      · exact ⟨carries_pciDoe secured hfits.sender hfits.receiver hlargest, happ.2 hflag,
          hreturns.2 hroom⟩

def sixteen : Buffers :=
  ⟨List.replicate 16 0, List.replicate 16 0, List.replicate 16 0, List.replicate 16 0⟩

theorem correct_sixteen : pciDoe.Correct [1, 2, 3] true false sixteen [4] [0] :=
  (correct_iff .pciDoe [1, 2, 3] true false sixteen [4] [0] ⟨by decide, by decide, by decide,
    by decide, by decide⟩).2 (.inr ⟨by decide, rfl, by decide⟩)

theorem pciDoe_unsafe :
    pciDoe.decapApp [1, 2] [0] = .panic ∧
      pciDoe.encapApp [1, 2] true [0, 0] = .ok 2 [1, 2] ∧
      pciDoe.decapApp [1, 2] [0, 0] = .ok (2, false) [1, 2] ∧
      ¬ pciDoe.Correct [1, 2] false true sixteen [1, 2] [0] := by
  have hpanic : pciDoe.decapApp [1, 2] [0] = .panic := by decide
  refine ⟨hpanic, by decide, by decide, ?_⟩
  intro hcorrect
  exact hcorrect.returns.2 hpanic

end Binding

end Spdm
