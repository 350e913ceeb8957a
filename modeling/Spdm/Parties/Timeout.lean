/-
  Spdm.Parties.Timeout — how long a party waits for a crypto request (`responder/context.rs`,
  `requester/context.rs`: `receive_message`).
-/
import Spdm.Context.Small
import Spdm.Requester.Negotiation
import Spdm.Requester.Packets
import Spdm.Responder.Order

namespace Spdm

open Effect Codec SpdmContext SpdmRequestResponseCode

/-! ## §1. The timeout. -/

def Responder.ctExponent (c : SpdmContext) : Nat := c.negotiateInfo.reqCtExponentSel

def Responder.receiveTimeout (cryptoRequest : Bool) : Prog SpdmContext Nat Nat :=
  timeoutFor Responder.ctExponent cryptoRequest

def Responder.processMessageFor [Crypto] [Device] (cryptoRequest : Bool) (depth : Nat) :
    Prog SpdmContext Nat Processed := do
  let _ ← receiveTimeout cryptoRequest
  processMessage depth

def Requester.receiveTimeout (cryptoRequest : Bool) : SpdmResult Nat :=
  timeoutFor Requester.ctExponent cryptoRequest

def maxCtExponent : Nat := 62

/-- The timeout of a crypto request does not overflow, and is at least 2. -/
def TimeoutSound {ε : Type} (exponent : SpdmContext → Nat) (timeout : Prog SpdmContext ε Nat)
    (c : SpdmContext) : Prop :=
  exponent c < 64 ∧ ∃ n, timeout c = .ok n c ∧ 2 ≤ n

theorem shifted_iff {e : Nat} : (e < 64 ∧ 2 ≤ (2 <<< (e % 64)) % 2 ^ 64) ↔ e ≤ maxCtExponent := by
  constructor
  · rintro ⟨hlt, htwo⟩
    by_contra hlarge
    obtain rfl : e = 63 := by
      unfold maxCtExponent at hlarge
      omega
    revert htwo
    decide
  · intro hle
    have hlt : e < 64 := by
      unfold maxCtExponent at hle
      omega
    have hpow : 2 ^ e ≤ 2 ^ 62 := Nat.pow_le_pow_right (by decide) hle
    have hone : 1 ≤ 2 ^ e := Nat.one_le_two_pow
    rw [Nat.mod_eq_of_lt hlt]
    omega

theorem timeoutSound_iff {ε : Type} (exponent : SpdmContext → Nat) (c : SpdmContext) :
    TimeoutSound exponent (timeoutFor exponent true : Prog SpdmContext ε Nat) c ↔
      exponent c ≤ maxCtExponent := by
  rw [← shifted_iff]
  have hrun : exponent c < 64 → (timeoutFor exponent true) c =
      .ok ((2 <<< (exponent c % 64)) % 2 ^ 64) c := fun hlt => by
    have hassert : (assert (!c.build.overflowChecks || decide (exponent c < 64)) :
        Prog SpdmContext ε Unit) c = .ok () c := by
      rw [decide_eq_true hlt, Bool.or_true]
      rfl
    rw [timeoutFor, read_bind, if_pos rfl, sizeShl, read_bind, bind_of_ok hassert]
    rfl
  constructor
  · rintro ⟨hlt, n, hn, htwo⟩
    obtain ⟨rfl, -⟩ : _ = n ∧ c = c := by simpa using (hrun hlt).symm.trans hn
    exact ⟨hlt, htwo⟩
  · rintro ⟨hlt, htwo⟩
    exact ⟨hlt, _, hrun hlt, htwo⟩

/-! ## §2. The exponent that was announced. -/

def announcedCapabilities (c : SpdmContext) (bytes : Bytes) : Option CapabilitiesPayload :=
  match parseHeader bytes with
  | .ok header rest => (parseGetCapabilities { c with negotiateInfo :=
      { c.negotiateInfo with spdmVersionSel := header.version } } rest).returned
  | _ => none

def answeredCapabilities (c : SpdmContext) (bytes : Bytes) : Option CapabilitiesPayload :=
  match parseHeader bytes with
  | .ok _ rest => (parseCapabilitiesResponse c rest).returned
  | _ => none

theorem handleSpdmCapability_exponent {bytes m : Bytes} {c c' : SpdmContext}
    (h : Responder.handleSpdmCapability bytes c = .ok m c') :
    ∃ p, announcedCapabilities c bytes = some p ∧ Responder.ctExponent c' = p.ctExponent := by
  unfold Responder.handleSpdmCapability at h
  rw [read_bind] at h
  obtain ⟨_, c₀, hdemand, hheader⟩ := bind_eq_ok.1 h
  obtain ⟨-, hc₀⟩ := Responder.demand_eq_ok hdemand
  subst hc₀
  obtain ⟨o, c₁, hparse, hexpect⟩ := bind_eq_ok.1 hheader
  obtain ⟨hc₁, hread⟩ := parseRest_eq_ok hparse
  subst hc₁
  obtain ⟨⟨header, rest⟩, c₂, hsome, hpayload⟩ := bind_eq_ok.1 hexpect
  obtain ⟨rfl, rfl⟩ := Responder.expect_eq_ok hsome
  dsimp only at hpayload
  rw [update_bind, update_bind, read_bind] at hpayload
  obtain ⟨⟨p, left⟩, c₃, hrest, hselect⟩ := bind_eq_ok.1 hpayload
  obtain ⟨hc₃, hget⟩ := Responder.readPayload_eq_ok hrest
  subst hc₃
  obtain ⟨_, c₄, hmandatory, hselect⟩ := bind_eq_ok.1 hselect
  refine ⟨p, ?_, ?_⟩
  · rw [announcedCapabilities, hread header rest rfl]
    rw [resetBufferViaRequestCode_none] at hget
    exact Outcome.returned_eq_some.2 ⟨left, hget⟩
  · have hA : ∀ m, Within KeepsNegotiated (Responder.appendA m) := fun m =>
      Responder.within_orRefuse (keepsNegotiated_appendMessageA m)
    have hend : Within KeepsNegotiated (Responder.appendA (consumed bytes left) >>= fun _ => do
        let c ← read
        let response ← Responder.respond (encodeCapabilitiesResponse c.negotiateInfo.spdmVersionSel
          (Responder.rspCapabilitiesPayload c))
        Responder.appendA response
        ret response) :=
      .bind (hA _) fun _ => .bind .read fun _ => .bind (Responder.within_respond _) fun _ =>
        .bind (hA _) fun _ => .ret _
    have hkept : KeepsNegotiated _ c' := hend.of_ok hselect
    rw [Responder.ctExponent, hkept, Responder.selectCapabilities]
    split_ifs <;> rfl

theorem handleSpdmCapabilityResponse_exponent {request response : Bytes} {c c' : SpdmContext}
    {u : Unit} (h : Requester.handleSpdmCapabilityResponse request response c = .ok u c') :
    ∃ p, answeredCapabilities c response = some p ∧ Requester.ctExponent c' = p.ctExponent := by
  obtain ⟨rest, p, left, rfl, hget, hnegotiate⟩ := Requester.handleSpdmCapabilityResponse_eq_ok h
  refine ⟨p, ?_, ?_⟩
  · rw [answeredCapabilities, parseHeader_encodeHeader]
    exact Outcome.returned_eq_some.2 ⟨left, hget⟩
  · rw [Requester.ctExponent, hnegotiate, Requester.takeCapabilities]
    split_ifs <;> rfl

/-! ## §3. The exponent stays. -/

namespace Responder
variable [Crypto] [Device] {c c' : SpdmContext}

def KeepsExponent (c c' : SpdmContext) : Prop := ctExponent c' = ctExponent c

instance : StepRel KeepsExponent where
  refl _ := rfl
  trans h h' := Eq.trans h' h

omit [Crypto] [Device] in
theorem KeepsExponent.of_steady (h : Steady c c') : KeepsExponent c c' := by
  rw [KeepsExponent, ctExponent, h.negotiateInfo]
  rfl

def announcing : List UInt8 :=
  [spdmRequestGetVersion, spdmRequestGetCapabilities, spdmRequestChunkSend]

theorem keepsExponent_dispatchSession (depth id : Nat) (bytes : Bytes) :
    Within KeepsExponent (dispatchAt depth (some id) bytes) := by
  induction depth generalizing bytes with
  | zero => exact .abort
  | succ depth ih =>
    refine fun c => wp_dispatchAt_steady (fun _ _ => .of_steady) fun service hservice hmoving => ?_
    have hrouted := routed_of_serviceOf hservice
    cases service with
    | version | capability | algorithm => cases hrouted.1
    | chunkSend =>
      exact within_handleSpdmChunkSend (fun _ _ h => .of_steady (Steady.chunk h)) ih bytes c
    | _ => cases hmoving

theorem keepsExponent_dispatch (depth : Nat) {bytes : Bytes}
    (h : ∀ code ∈ announcing, ¬HasCode bytes code) :
    Within KeepsExponent (dispatchAt depth none bytes) := by
  cases depth with
  | zero => exact .abort
  | succ depth =>
    refine fun c => wp_dispatchAt_steady (fun _ _ => .of_steady) fun service hservice hmoving => ?_
    have hrouted := routed_of_serviceOf hservice
    cases service with
    | version | capability => exact absurd hrouted.2 (h _ (by decide))
    | chunkSend => exact absurd hrouted.1 (h _ (by decide))
    | algorithm =>
      exact within_answer (within_algorithm (R := KeepsExponent)
        (fun _ _ h => .of_steady (Steady.mildAct h.mild)) (fun _ _ h => h.exponent) bytes) c
    | _ => cases hmoving

def AnnouncesExponent (c : SpdmContext) : Prop :=
  ∃ bytes isApp c₁, nextRequest c = .ok (none, bytes, isApp) c₁ ∧
    ∃ code ∈ announcing, HasCode bytes code

theorem keepsExponent_processMessage {depth : Nat} (hc : ¬AnnouncesExponent c)
    (h : Ran (processMessage depth) c c') : KeepsExponent c c' := by
  refine h.of_wp (wp_processMessage_around (R := KeepsExponent) (fun _ _ => .of_steady)
    (fun _ => rfl) (fun _ _ => rfl) (fun _ _ => rfl) (fun _ h => h) (fun _ _ => StepRel.trans)
    fun sessionId bytes isApp c₀ c₁ hnext hc₁ => ?_)
  have hdispatch : Within KeepsExponent (dispatchAt depth sessionId bytes) := by
    cases sessionId with
    | some id => exact keepsExponent_dispatchSession depth id bytes
    | none =>
      exact keepsExponent_dispatch depth fun code hin hcode =>
        hc ⟨bytes, isApp, c₀, hnext, code, hin, hcode⟩
  exact wp_mono (hdispatch c₁) (fun _ _ => StepRel.trans hc₁) fun _ _ => StepRel.trans hc₁

theorem exponent_of_steps (h : Steps (StepIf fun c => ¬AnnouncesExponent c) c c') :
    ctExponent c' = ctExponent c := by
  refine h.lift (R := KeepsExponent) fun c c' hstep => ?_
  obtain ⟨⟨depth, hran⟩, hc⟩ | hmoved := hstep
  · exact keepsExponent_processMessage hc hran
  · rw [KeepsExponent, ctExponent, hmoved]
    rfl

end Responder

namespace Requester
variable [Crypto] {c c' : SpdmContext}

def KeepsExponent (c c' : SpdmContext) : Prop := ctExponent c' = ctExponent c

instance : StepRel KeepsExponent where
  refl _ := rfl
  trans h h' := Eq.trans h' h

omit [Crypto] in
theorem KeepsExponent.of_negotiated (h : c'.negotiateInfo = c.negotiateInfo) :
    KeepsExponent c c' := by
  rw [KeepsExponent, ctExponent, h]
  rfl

theorem keepsExponent_handleSpdmAlgorithmResponse (request response : Bytes) :
    Within KeepsExponent (handleSpdmAlgorithmResponse request response) := by
  have hchannel : ∀ {α : Type} {m : SpdmResult α},
      Within (ChannelStep KeepsCipher) m → Within KeepsExponent m := fun hm =>
    hm.mono fun _ _ h => .of_negotiated h.negotiateInfo
  have happend : ∀ m, Within KeepsExponent (appendMessageA m) := fun m =>
    (keepsNegotiated_appendMessageA m).mono fun _ _ => .of_negotiated
  have hstruct : ∀ a, Within KeepsExponent (takeStruct a) := fun a => by
    refine .bind .read fun _ => ?_
    dsimp only
    split_ifs
    · exact .ret _
    · refine .bind (.guardElse _ _) fun _ => .update fun c => ?_
      cases a.algType <;> rfl
  refine .bind .read fun _ => .bind within_parseRest fun _ => .bind (.orFail _ _) fun _ =>
    .bind (.guardElse _ _) fun _ => ?_
  unfold onResponseCode
  split_ifs
  · refine .bind .read fun c => .bind (.bind within_parseRest fun _ => .orFail _ _) fun _ =>
      .bind (.update fun _ => rfl) fun _ => .bind ?_ fun _ => .bind ?_ fun _ =>
      .bind (.forEach hstruct _) fun _ => .bind ?_ fun _ => .bind (happend _) fun _ => happend _
    · split
      · exact .bind .read fun _ => .bind (.update fun _ => rfl) fun _ =>
          .bind (.guardElse _ _) fun _ => .update fun _ => rfl
      · exact .ret _
    · exact .bind (.update fun _ => rfl) fun _ => .bind (.guardElse _ _) fun _ =>
        .bind (.update fun _ => rfl) fun _ => .guardElse _ _
    · split
      · exact .bind .read fun _ => .bind (.guardElse _ _) fun _ => .update fun _ => rfl
      · exact .ret _
  · exact .bind (hchannel (within_spdmHandleErrorResponseMain _ _)) fun _ => .fail _
  · exact .fail _

/-- What a requester does once capabilities are agreed on: requests and
responses pass, algorithms are taken over, and handlers leave what was
negotiated. -/
inductive Onward (c c' : SpdmContext) : Prop
  | sends (sessionId : Option Nat) (request : Bytes) (h : Ran (sendRequest sessionId request) c c')
  | receives (sessionId : Option Nat) (crypto : Bool)
      (h : Ran (receiveResponse sessionId crypto) c c')
  | negotiates (request response : Bytes)
      (h : Ran (handleSpdmAlgorithmResponse request response) c c')
  | handles (h : KeepsNegotiated c c')

theorem exponent_of_steps (h : Steps Onward c c') : ctExponent c' = ctExponent c := by
  have hchannel : ∀ {c c'}, ChannelStep KeepsCipher c c' → KeepsExponent c c' := fun h =>
    .of_negotiated h.negotiateInfo
  refine h.lift (R := KeepsExponent) fun c c' hstep => ?_
  cases hstep with
  | sends sessionId request h =>
    have hsend : Within (ChannelStep KeepsCipher) (sendRequest sessionId request) :=
      .bind .read fun _ => .bind (within_writeInto _) fun _ =>
        .bind (within_sendMessage _ _ _) fun _ => .ret _
    exact hchannel (hsend.ran h)
  | receives sessionId crypto h =>
    have hreceive : Within (ChannelStep KeepsCipher) (receiveResponse sessionId crypto) :=
      .bind .read fun _ => within_receiveMessage _ _ _
    exact hchannel (hreceive.ran h)
  | negotiates request response h =>
    exact (keepsExponent_handleSpdmAlgorithmResponse request response).ran h
  | handles h => exact .of_negotiated h

end Requester

/-! ## §4. The timeout after the capabilities. -/

section
variable [Crypto] [Device]

theorem Responder.processMessageFor_eq {c : SpdmContext} {cryptoRequest : Bool} {depth : Nat}
    (h : cryptoRequest = true → Responder.ctExponent c < 64) :
    Responder.processMessageFor cryptoRequest depth c = Responder.processMessage depth c := by
  have htimeout := Requester.twp_timeoutFor (ε := Nat) (E := fun _ _ => False) h
  rw [Responder.processMessageFor, Responder.receiveTimeout, bind_apply]
  unfold twp at htimeout
  cases hrun : timeoutFor (ε := Nat) Responder.ctExponent cryptoRequest c with
  | ok n c₁ =>
    rw [hrun] at htimeout
    rw [htimeout]
  | err e c₁ => rw [hrun] at htimeout; exact htimeout.elim
  | panic => rw [hrun] at htimeout; exact htimeout.elim

/-- **Soundness of the timeouts**: on either side, once capabilities were
accepted the timeout of a crypto request is sound in a state with that
exponent, and so in every later state of the connection, exactly when the
announced exponent is at most 62. -/
theorem timeout_sound_iff (c c' : SpdmContext) :
    (∀ bytes m : Bytes, Responder.handleSpdmCapability bytes c = .ok m c' →
      ∃ p, announcedCapabilities c bytes = some p ∧
        (∀ later, Responder.ctExponent later = Responder.ctExponent c' →
          (TimeoutSound Responder.ctExponent (Responder.receiveTimeout true) later ↔
            p.ctExponent ≤ maxCtExponent)) ∧
        ∀ later, Steps (Responder.StepIf fun c => ¬Responder.AnnouncesExponent c) c' later →
          Responder.ctExponent later = Responder.ctExponent c') ∧
    ∀ request response : Bytes,
      Requester.handleSpdmCapabilityResponse request response c = .ok () c' →
      ∃ p, answeredCapabilities c response = some p ∧
        (∀ later, Requester.ctExponent later = Requester.ctExponent c' →
          (TimeoutSound Requester.ctExponent (Requester.receiveTimeout true) later ↔
            p.ctExponent ≤ maxCtExponent)) ∧
        ∀ later, Steps Requester.Onward c' later →
          Requester.ctExponent later = Requester.ctExponent c' := by
  constructor
  · intro bytes m hrun
    obtain ⟨p, hp, hexponent⟩ := handleSpdmCapability_exponent hrun
    refine ⟨p, hp, fun later hlater => ?_, fun _ => Responder.exponent_of_steps⟩
    rw [← hexponent, ← hlater]
    exact timeoutSound_iff _ later
  · intro request response hrun
    obtain ⟨p, hp, hexponent⟩ := handleSpdmCapabilityResponse_exponent hrun
    refine ⟨p, hp, fun later hlater => ?_, fun _ => Requester.exponent_of_steps⟩
    rw [← hexponent, ← hlater]
    exact timeoutSound_iff _ later

end

namespace SmallRun

open SmallBackend

def versioned (overflowChecks : Bool) : SpdmContext :=
  let c := smallResponder false 0
  { c with
    build := { c.build with overflowChecks := overflowChecks }
    negotiateInfo := { c.negotiateInfo with spdmVersionSel := .spdmVersion12 }
    runtimeInfo := { c.runtimeInfo with connectionState := .afterVersion } }

def getCapabilitiesWith (ctExponent : Nat) : Bytes :=
  encodeGetCapabilities .spdmVersion12
    { ctExponent := ctExponent, flags := 0, dataTransferSize := 136, maxSpdmMsgSize := 150 }

def capabilitiesWith (ctExponent : Nat) : Bytes :=
  encodeCapabilitiesResponse .spdmVersion12
    { ctExponent := ctExponent, flags := 0, dataTransferSize := 136, maxSpdmMsgSize := 150 }

theorem timeout_sound_largest :
    (∃ m c', Responder.handleSpdmCapability (getCapabilitiesWith 62) (versioned true) = .ok m c' ∧
      TimeoutSound Responder.ctExponent (Responder.receiveTimeout true) c') ∧
    ∃ c', Requester.handleSpdmCapabilityResponse (getCapabilitiesWith 0) (capabilitiesWith 62)
      (versioned true) = .ok () c' ∧
      TimeoutSound Requester.ctExponent (Requester.receiveTimeout true) c' := by
  constructor
  · have hok : (Responder.handleSpdmCapability (getCapabilitiesWith 62)
        (versioned true)).returned.isSome := by decide +kernel
    obtain ⟨m, hm⟩ := Option.isSome_iff_exists.1 hok
    obtain ⟨c', hrun⟩ := Outcome.returned_eq_some.1 hm
    obtain ⟨p, hp, hiff⟩ := (timeout_sound_iff _ _).1 _ _ hrun
    have h62 : (announcedCapabilities (versioned true) (getCapabilitiesWith 62)).map
        CapabilitiesPayload.ctExponent = some 62 := by decide +kernel
    refine ⟨m, c', hrun, (hiff.1 c' rfl).2 ?_⟩
    rw [hp] at h62
    exact (Option.some.inj h62).le
  · have hok : (Requester.handleSpdmCapabilityResponse (getCapabilitiesWith 0)
        (capabilitiesWith 62) (versioned true)).returned.isSome := by decide +kernel
    obtain ⟨_, hm⟩ := Option.isSome_iff_exists.1 hok
    obtain ⟨c', hrun⟩ := Outcome.returned_eq_some.1 hm
    obtain ⟨p, hp, hiff⟩ := (timeout_sound_iff _ _).2 _ _ hrun
    have h62 : (answeredCapabilities (versioned true) (capabilitiesWith 62)).map
        CapabilitiesPayload.ctExponent = some 62 := by decide +kernel
    refine ⟨c', hrun, (hiff.1 c' rfl).2 ?_⟩
    rw [hp] at h62
    exact (Option.some.inj h62).le

def waitedAfter {ε δ α : Type} (timeout : Prog SpdmContext δ Nat) :
    Outcome SpdmContext ε α → Option (Option Nat)
  | .ok _ c => some (timeout c).returned
  | _ => none

theorem timeout_of_large_exponents :
    (waitedAfter (Responder.receiveTimeout true)
        (Responder.handleSpdmCapability (getCapabilitiesWith 63) (versioned false)) =
      some (some 0) ∧
    waitedAfter (Responder.receiveTimeout true)
        (Responder.handleSpdmCapability (getCapabilitiesWith 64) (versioned true)) =
      some none) ∧
    waitedAfter (Requester.receiveTimeout true)
        (Requester.handleSpdmCapabilityResponse (getCapabilitiesWith 0) (capabilitiesWith 63)
          (versioned false)) = some (some 0) ∧
    waitedAfter (Requester.receiveTimeout true)
        (Requester.handleSpdmCapabilityResponse (getCapabilitiesWith 0) (capabilitiesWith 64)
          (versioned true)) = some none := by
  decide +kernel

end SmallRun

end Spdm
