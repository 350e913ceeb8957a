/-
  Spdm.Requester.Packets — one packet out, one packet in (`send_single_message`,
  `receive_single_message`).
-/
import Spdm.Requester.Steps
import Spdm.Session.Total

namespace Spdm

open Effect Codec SpdmContext

variable {ε : Type} {c c' : SpdmContext} {id : Nat}

/-! ## §1. Surroundings. -/

structure SizedTransport (t : Transport) : Prop where
  decap_le : ∀ {packet message : Bytes} {room : Nat} {secured : Bool},
    t.decap packet room = .ok (message, secured) → message.length ≤ packet.length
  encapApp_le : ∀ {message app : Bytes} {room : Nat} {isApp : Bool},
    t.encapApp message room isApp = some (.ok app) →
      app.length + SpdmSession.sealOverhead ≤ message.length + transportOverhead
  encapApp_ne : ∀ {message : Bytes} {room : Nat} {isApp : Bool},
    message.length + transportOverhead ≤ room → t.encapApp message room isApp ≠ none

def RefusesLong (t : Transport) : Prop := ∀ {app : Bytes} {room : Nat}, t.decapApp app room ≠ none

/-- Backend and transport keep their sizes, and every started session has a
known cipher. -/
structure Sized [Crypto] (c : SpdmContext) : Prop where
  aead : SizedAead
  transport : SizedTransport c.transportEncap
  keyed : ∀ s ∈ c.session, s.Keyed

def KeepsCipher (s t : SpdmSession) : Prop :=
  t.sessionState = .notStarted ∨
    (t.sessionState = s.sessionState ∧ t.cryptoParam = s.cryptoParam)

theorem KeepsCipher.keyed {s t : SpdmSession} (h : KeepsCipher s t) (hs : s.Keyed) : t.Keyed := by
  intro hstarted
  obtain hstopped | ⟨hstate, hcipher⟩ := h
  · exact absurd hstopped hstarted
  · rw [hcipher]
    exact hs (hstate ▸ hstarted)

instance : StepRel KeepsCipher where
  refl s := .inr ⟨rfl, rfl⟩
  trans := by
    rintro s t u (h | ⟨h₁, h₂⟩) (h' | ⟨h₁', h₂'⟩)
    · exact .inl h'
    · exact .inl (h₁'.trans h)
    · exact .inl h'
    · exact .inr ⟨h₁'.trans h₁, h₂'.trans h₂⟩

theorem keepsCipher_advanceDirection (requester : Bool) (s : SpdmSession) :
    KeepsCipher s (s.advanceDirection requester) := by
  refine .inr ⟨SpdmSession.advanceDirection_sessionState requester s, ?_⟩
  unfold SpdmSession.advanceDirection
  split <;> rfl

variable [Crypto]

instance : RequesterSlotRel KeepsCipher where
  sealing config app room s := by
    refine wp_mono (SpdmSession.encodeSpdmSecuredMessage_spec config app room true s) ?_ ?_
    · rintro out t ⟨-, -, rfl⟩
      exact keepsCipher_advanceDirection true s
    · rintro e t (rfl | rfl)
      · exact StepRel.refl (R := KeepsCipher) _
      · exact .inl rfl
  opening config secured room s := by
    refine wp_mono (SpdmSession.decodeSpdmSecuredMessage_spec config secured room false s) ?_ ?_
    · rintro app t (_ | _)
      · exact keepsCipher_advanceDirection false s
      · exact .inr ⟨rfl, rfl⟩
    · rintro e t (_ | _ | _ | _)
      · exact StepRel.refl (R := KeepsCipher) _
      · exact keepsCipher_advanceDirection false s
      · exact .inr ⟨rfl, rfl⟩
      · exact .inl rfl
  stop _ := .inl rfl
  teardown _ := .inl rfl

theorem Sized.channel (h : Sized c) (hstep : ChannelStep KeepsCipher c c') :
    Sized c' := by
  refine ⟨h.aead, hstep.transportEncap ▸ h.transport, fun t ht => ?_⟩
  obtain ⟨i, hi⟩ := List.getElem?_of_mem ht
  obtain ⟨s, hs, hst⟩ := forall₂_getElem?_inv hstep.slots hi
  exact hst.keyed (h.keyed s (List.mem_of_getElem? hs))

/-! ## §2. Securing a packet. -/

def SameWire (c c' : SpdmContext) : Prop :=
  c'.world = c.world ∧ c'.chunkContext = c.chunkContext ∧ c'.chunkReqHandle = c.chunkReqHandle ∧
    c'.chunkRspHandle = c.chunkRspHandle

instance : StepRel SameWire where
  refl _ := ⟨rfl, rfl, rfl, rfl⟩
  trans h h' := ⟨h'.1.trans h.1, h'.2.1.trans h.2.1, h'.2.2.1.trans h.2.2.1,
    h'.2.2.2.trans h.2.2.2⟩

omit [Crypto] in
theorem sameWire_withSession {α : Type} {e : ε} {m : Prog SpdmSession ε α} :
    Within SameWire (withSession id e m) :=
  within_withSession_of fun _ _ _ _ _ _ => ⟨rfl, rfl, rfl, rfl⟩

theorem sameWire_encodeSecuredMessage {m : Bytes} {room : Nat}
    {isRequester isApp : Bool} : Within SameWire
    (encodeSecuredMessage id m room isRequester isApp) :=
  .bind .read fun _ => .bind within_liftCall fun _ =>
    .bind sameWire_withSession fun _ => within_liftResult

theorem sameWire_decodeSecuredMessage {packet : Bytes} {room : Nat} :
    Within SameWire (decodeSecuredMessage id packet room) :=
  .bind .read fun _ => .bind within_liftResult fun _ => .bind (.guardElse _ _) fun _ =>
    .bind sameWire_withSession fun _ => .bind within_liftCall fun _ => .ret _

omit [Crypto] in
theorem twp_withSession {α : Type} {e : ε}
    {m : Prog SpdmSession ε α} {Q : α → SpdmContext → Prop} {E : ε → SpdmContext → Prop}
    (h : ∀ i s, SlotAt c id i s →
      twp m (fun a t => Q a (c.setSlot i t)) (fun e t => E e (c.setSlot i t)) s) (hnone : E e c) :
    twp (withSession id e m) Q E c := by
  cases hfirst : c.session.findIdx? fun s => s.sessionId == id with
  | none =>
    unfold twp withSession
    simpa only [hfirst] using hnone
  | some i =>
    obtain ⟨hlt, -⟩ := List.findIdx?_eq_some_iff_getElem.1 hfirst
    have hat : SlotAt c id i c.session[i] := ⟨hfirst, List.getElem?_eq_getElem hlt⟩
    have hm := h i _ hat
    unfold twp withSession at *
    simp only [hat.first, hat.slot]
    revert hm
    cases m c.session[i] <;> exact fun hm => hm

omit [Crypto] in
theorem SlotAt.mem {i : Nat} {s : SpdmSession} (h : SlotAt c id i s) :
    s ∈ c.session := List.mem_of_getElem? h.slot

theorem twp_encodeSecuredMessage (hc : Sized c) {m : Bytes}
    (hm : m.length + transportOverhead ≤ c.build.config.senderBufferSize) (id room : Nat)
    (isRequester isApp : Bool) :
    twp (encodeSecuredMessage id m room isRequester isApp) (fun _ _ => True) (fun _ _ => True)
      c := by
  refine twp_seq (twp_seq (twp_liftCall (hc.transport.encapApp_ne hm) (fun app happ => ?_)
    fun _ _ => trivial))
  have hsize := hc.transport.encapApp_le happ
  refine twp_seq (twp_withSession (fun i s hat => ?_) trivial)
  refine twp_mono (SpdmSession.twp_encodeSpdmSecuredMessage hc.aead (hc.keyed s hat.mem)
    (hsize.trans hm) (hsize.trans hm) isRequester) (fun _ _ _ => ?_) fun _ _ _ => trivial
  exact twp_liftResult (fun _ _ => trivial) fun _ _ => trivial

def overruns (id : Nat) (packet : Bytes) (room : Nat) (c : SpdmContext) : Bool :=
  let config := c.build.config
  match c.transportEncap.decap packet config.receiverBufferSize with
  | .ok (encoded, true) =>
    match withSession id SpdmStatus.invalidParameter
        (SpdmSession.decodeSpdmSecuredMessage config encoded config.receiverBufferSize false) c with
    | .ok app _ => (c.transportEncap.decapApp app room).isNone
    | _ => false
  | _ => false

theorem twp_decodeSecuredMessage (hc : Sized c) {packet : Bytes}
    (hpacket : packet.length ≤ c.build.config.receiverBufferSize) {room : Nat}
    (hroom : overruns id packet room c = false) :
    twp (decodeSecuredMessage id packet room) (fun _ _ => True) (fun _ _ => True) c := by
  refine twp_seq (twp_seq (twp_liftResult (fun ⟨encoded, secured⟩ hdecap => ?_) fun _ _ => trivial))
  have hsize := (hc.transport.decap_le hdecap).trans hpacket
  refine twp_seq (twp_guardElse (fun hsecured => ?_) trivial)
  obtain rfl : secured = true := hsecured
  have hopen : twp (withSession id SpdmStatus.invalidParameter
      (SpdmSession.decodeSpdmSecuredMessage c.build.config encoded
        c.build.config.receiverBufferSize false)) (fun _ _ => True) (fun _ _ => True) c :=
    twp_withSession (fun i s hat => twp_mono (SpdmSession.twp_decodeSpdmSecuredMessage hc.aead
      (hc.keyed s hat.mem) hsize hsize false) (fun _ _ _ => trivial) fun _ _ _ => trivial) trivial
  refine twp_seq (twp_mono hopen.with_run (fun app c₁ hrun => ?_) fun _ _ _ => trivial)
  refine twp_seq (twp_liftCall (fun hnone => ?_) (fun _ _ => trivial) fun _ _ => trivial)
  simp [overruns, hdecap, hrun.1, hnone] at hroom

theorem decodeSecuredMessage_of_overruns {packet : Bytes} {room : Nat}
    (h : overruns id packet room c = true) : decodeSecuredMessage id packet room c = .panic := by
  unfold overruns at h
  dsimp only at h
  split at h
  · rename_i encoded hdecap
    split at h
    · rename_i app c₁ hopen
      rw [Option.isNone_iff_eq_none] at h
      rw [decodeSecuredMessage, read_bind, hdecap]
      simp only [liftResult, ret_bind]
      rw [bind_of_ok (guardElse_of rfl), bind_of_ok hopen, h]
      rfl
    · cases h
  · cases h

/-! ## §3. One packet. -/

namespace Requester

structure Packet (c c' : SpdmContext) : Prop where
  channel : ChannelStep KeepsCipher c c'
  chunkContext : c'.chunkContext = c.chunkContext
  chunkReqHandle : c'.chunkReqHandle = c.chunkReqHandle
  chunkRspHandle : c'.chunkRspHandle = c.chunkRspHandle

omit [Crypto] in
instance : StepRel Packet where
  refl c := ⟨StepRel.refl c, rfl, rfl, rfl⟩
  trans h h' := ⟨StepRel.trans h.channel h'.channel, h'.chunkContext.trans h.chunkContext,
    h'.chunkReqHandle.trans h.chunkReqHandle, h'.chunkRspHandle.trans h.chunkRspHandle⟩

structure PacketOut (c c' : SpdmContext) : Prop extends Packet c c' where
  inbox : c'.world.inbox = c.world.inbox
  outbox : c'.world.outbox.length ≤ c.world.outbox.length + 1

structure PacketIn (c c' : SpdmContext) : Prop extends Packet c c' where
  inbox : c'.world.inbox = c.world.inbox.tail
  outbox : c'.world.outbox = c.world.outbox

structure RoundTrip (c c' : SpdmContext) : Prop extends Packet c c' where
  outbox : c'.world.outbox.length ≤ c.world.outbox.length + 1

omit [Crypto] in
theorem PacketOut.roundTrip (h : PacketOut c c') : RoundTrip c c' :=
  ⟨h.toPacket, h.outbox⟩

omit [Crypto] in
theorem PacketOut.then_in {c₁ : SpdmContext} (h : PacketOut c c₁) (h' : PacketIn c₁ c') :
    RoundTrip c c' :=
  ⟨StepRel.trans h.toPacket h'.toPacket, by rw [h'.outbox]; exact h.outbox⟩

theorem wp_sendSingleMessage (id : Option Nat) (m : Bytes) (isApp : Bool) (c : SpdmContext) :
    wp (sendSingleMessage id m isApp) (fun _ c' => PacketOut c c') (fun _ c' => PacketOut c c')
      c := by
  let Out (c' : SpdmContext) : Prop := c'.chunkContext = c.chunkContext ∧
    c'.chunkReqHandle = c.chunkReqHandle ∧ c'.chunkRspHandle = c.chunkRspHandle ∧
    c'.world.inbox = c.world.inbox ∧ c'.world.outbox.length ≤ c.world.outbox.length + 1
  have hsame : ∀ {c'}, SameWire c c' → Out c' := by
    intro c' hstep
    obtain ⟨hworld, h₁, h₂, h₃⟩ := hstep
    exact ⟨h₁, h₂, h₃, by rw [hworld], by rw [hworld]; omega⟩
  have hencoded : ∀ encode : SpdmResult Bytes, Within SameWire encode →
      wp encode (fun packet c₁ => wp (deviceSend packet) (fun _ => Out) (fun _ => Out) c₁)
        (fun _ => Out) c := by
    intro encode hencode
    refine wp_mono (hencode c) (fun packet c₁ hstep => ?_) fun _ _ hstep => hsame hstep
    -- the device takes the packet whether or not it says so
    have hsent : Out { c₁ with world := { c₁.world with
        outbox := c₁.world.outbox ++ [packet], sendResults := c₁.world.sendResults.tail } } := by
      obtain ⟨hworld, h₁, h₂, h₃⟩ := hstep
      exact ⟨h₁, h₂, h₃, by rw [hworld], by simp [hworld]⟩
    unfold deviceSend
    simp only [wp_bind, wp_read, wp_update, wp_guardElse]
    exact ⟨fun _ => hsent, fun _ => hsent⟩
  have hwire : wp (sendSingleMessage id m isApp) (fun _ => Out) (fun _ => Out) c := by
    have hself := hsame (StepRel.refl c)
    unfold sendSingleMessage
    simp only [wp_bind, wp_read, wp_guardElse]
    refine ⟨fun _ => ⟨fun _ => ?_, fun _ => hself⟩, fun _ => hself⟩
    cases id with
    | some id => exact hencoded _ sameWire_encodeSecuredMessage
    | none => exact hencoded _ (.bind .read fun _ => within_liftResult)
  have hout : ∀ c', ChannelStep KeepsCipher c c' ∧ Out c' → PacketOut c c' := by
    intro c' h
    obtain ⟨hcipher, h₁, h₂, h₃, h₄, h₅⟩ := h
    exact ⟨⟨hcipher, h₁, h₂, h₃⟩, h₄, h₅⟩
  exact wp_mono (wp_and (within_sendSingleMessage id m isApp c) hwire)
    (fun _ c' => hout c') fun _ c' => hout c'

omit [Crypto] in
theorem twp_timeoutFor {E : ε → SpdmContext → Prop} {exponent : SpdmContext → Nat}
    {crypto : Bool} (h : crypto = true → exponent c < 64) :
    twp (timeoutFor exponent crypto) (fun _ c' => c' = c) E c := by
  refine twp_seq (twp_ite (fun hcrypto => ?_) fun _ => rfl)
  exact twp_seq (twp_seq (twp_assert.2 ⟨by simp [h hcrypto], rfl⟩))

omit [Crypto] in
theorem wp_timeoutFor {E : ε → SpdmContext → Prop} (exponent : SpdmContext → Nat)
    (crypto : Bool) (c : SpdmContext) :
    wp (timeoutFor exponent crypto) (fun _ c' => c' = c) E c := by
  unfold timeoutFor sizeShl
  cases crypto <;> simp

def popped (c : SpdmContext) : SpdmContext :=
  { c with world := { c.world with inbox := c.world.inbox.tail } }

omit [Crypto] in
theorem twp_deviceReceive (c : SpdmContext) :
    twp deviceReceive (fun packet c' => c' = popped c ∧ ∃ full,
      c.world.inbox.headD none = some full ∧
      packet = full.take c.build.config.receiverBufferSize) (fun _ c' => c' = popped c) c :=
  twp_seq (twp_seq (twp_seq (twp_orFail (fun full hhead => ⟨rfl, full, hhead, rfl⟩) rfl)))

theorem sameWire_open (id : Option Nat) (packet : Bytes) {size : Nat} :
    Within SameWire (match id with
      | some id => mapErr (fun e => (e, [])) (decodeSecuredMessage id packet size)
      | none => decap packet size) := by
  cases id with
  | some id => exact .mapErr sameWire_decodeSecuredMessage
  | none =>
    refine .bind .read fun c => ?_
    split
    · exact .fail _
    · split
      · exact .fail _
      · exact .ret _

theorem wp_receiveSingleMessage (id : Option Nat) (room : Nat) (crypto : Bool) (c : SpdmContext) :
    wp (receiveSingleMessage id room crypto)
      (fun _ c' => PacketIn c c' ∧ c'.world.inbox.length < c.world.inbox.length)
      (fun _ c' => PacketIn c c') c := by
  have hwire : wp (receiveSingleMessage id room crypto)
      (fun _ c' => SameWire (popped c) c' ∧ c.world.inbox ≠ [])
      (fun _ c' => SameWire (popped c) c') c := by
    unfold receiveSingleMessage
    rw [wp_bind, wp_read, wp_bind]
    refine wp_mono (wp_timeoutFor ctExponent crypto c) (fun _ c₁ h₁ => ?_) fun _ _ h => h
    subst h₁
    rw [wp_bind, wp_mapErr]
    refine wp_mono (twp_deviceReceive c₁).wp (fun packet c₂ h₂ => ?_) fun _ _ h => ?_
    · obtain ⟨rfl, full, hhead, -⟩ := h₂
      have hinbox : c₁.world.inbox ≠ [] := fun hnil => by
        rw [hnil] at hhead
        cases hhead
      refine (wp_bind _ _).2 (wp_assert.2 fun _ => ?_)
      exact wp_mono (sameWire_open id packet _) (fun _ _ hstep => ⟨hstep, hinbox⟩)
        fun _ _ hstep => hstep
    · subst h
      exact StepRel.refl _
  have hin : ∀ {c'}, ChannelStep KeepsCipher c c' → SameWire (popped c) c' → PacketIn c c' :=
    fun hchannel ⟨hworld, h₁, h₂, h₃⟩ => ⟨⟨hchannel, h₁, h₂, h₃⟩, by rw [hworld]; rfl,
      by rw [hworld]; rfl⟩
  refine wp_mono (wp_and (within_receiveSingleMessage id room crypto c) hwire)
    (fun _ _ ⟨hchannel, hsame, hinbox⟩ => ?_) fun _ _ ⟨hchannel, hsame⟩ => hin hchannel hsame
  have hpacket := hin hchannel hsame
  refine ⟨hpacket, ?_⟩
  rw [hpacket.inbox, List.length_tail]
  have hpos := List.length_pos_of_ne_nil hinbox
  omega

/-! ## §4. No abort. -/

omit [Crypto] in
theorem transportOverhead_le (b : Build) : transportOverhead ≤ b.config.senderBufferSize := by
  have hmsg := b.msgSize_ge
  unfold minDataTransferSize at hmsg
  unfold transportOverhead
  cases hchunk : b.chunkCap with
  | true =>
    have := (b.chunk_fits hchunk).1
    unfold minDataTransferSize transportOverhead at this
    omega
  | false =>
    have := (b.whole_fits hchunk).1
    omega

theorem twp_sendSingleMessage {id : Option Nat} {c : SpdmContext} (hc : id.isSome = true → Sized c)
    (m : Bytes) (isApp : Bool) :
    twp (sendSingleMessage id m isApp) (fun _ c' => PacketOut c c') (fun _ c' => PacketOut c c')
      c := by
  refine twp_of_wp (wp_sendSingleMessage id m isApp c) (twp.ne_panic (Q := fun _ _ => True)
    (E := fun _ _ => True) ?_)
  refine twp_seq (twp_seq (twp_guardElse (fun hroom => twp_seq (twp_guardElse (fun _ => ?_)
    trivial)) trivial))
  have hsend : ∀ (packet : Bytes) (c₁ : SpdmContext),
      twp (deviceSend packet) (fun _ _ => True) (fun _ _ => True) c₁ := fun _ _ =>
    twp_seq (twp_seq (twp_guardElse (fun _ => trivial) trivial))
  cases id with
  | none =>
    exact twp_seq (twp_seq (twp_liftResult (fun _ _ => hsend _ _) fun _ _ => trivial))
  | some id =>
    have hm : m.length + transportOverhead ≤ c.build.config.senderBufferSize := by
      have hover := transportOverhead_le c.build
      simp only [tooLargeForOnePacket, spdmSenderDataTransferSize, Bool.not_eq_true',
        Bool.or_eq_false_iff] at hroom
      have hfits := of_decide_eq_false hroom.2
      omega
    exact twp_seq (twp_mono (twp_encodeSecuredMessage (hc rfl) hm id _ true isApp)
      (fun _ _ _ => hsend _ _) fun _ _ _ => trivial)

def overrunsNext (id : Option Nat) (c : SpdmContext) : Bool :=
  match id, c.world.inbox.headD none with
  | some id, some packet => overruns id (packet.take c.build.config.receiverBufferSize)
      (spdmDataTransferSize c.build.config) (popped c)
  | _, _ => false

theorem twp_receiveSingleMessage {id : Option Nat} {c : SpdmContext}
    (hc : id.isSome = true → Sized c) {room : Nat}
    (hroom : spdmDataTransferSize c.build.config ≤ room) {crypto : Bool}
    (hcrypto : crypto = true → ctExponent c < 64) (hnext : overrunsNext id c = false) :
    twp (receiveSingleMessage id room crypto)
      (fun _ c' => PacketIn c c' ∧ c'.world.inbox.length < c.world.inbox.length)
      (fun _ c' => PacketIn c c') c := by
  refine twp_of_wp (wp_receiveSingleMessage id room crypto c) (twp.ne_panic (Q := fun _ _ => True)
    (E := fun _ _ => True) ?_)
  refine twp_seq (twp_seq (twp_mono (twp_timeoutFor hcrypto) (fun _ c₁ h₁ => ?_) fun _ _ h => h))
  subst h₁
  refine twp_seq (twp_mapErr.2 (twp_mono (twp_deviceReceive c₁) (fun packet c₂ h₂ => ?_)
    fun _ _ _ => trivial))
  obtain ⟨rfl, full, hhead, rfl⟩ := h₂
  refine twp_seq (twp_assert.2 ⟨decide_eq_true hroom, ?_⟩)
  cases id with
  | none =>
    refine twp_seq ((twp_read).2 ?_)
    split
    · exact trivial
    · exact twp_ite (fun _ => trivial) fun _ => trivial
  | some id =>
    have hsized : Sized (popped c₁) := ⟨(hc rfl).aead, (hc rfl).transport, (hc rfl).keyed⟩
    simp only [overrunsNext, hhead] at hnext
    exact twp_mapErr.2 (twp_decodeSecuredMessage hsized (List.length_take_le _ _) hnext)

theorem overrunsNext_of_refuses {id : Option Nat}
    (h : id.isSome = true → RefusesLong c.transportEncap) :
    overrunsNext id c = false := by
  unfold overrunsNext overruns
  cases id with
  | none => rfl
  | some id =>
    have hne : ∀ {app room}, (c.transportEncap.decapApp app room).isNone = false :=
      fun {app room} => by
      rw [Option.isNone_eq_false_iff]
      exact Option.isSome_iff_ne_none.2 (h rfl)
    split
    · dsimp only
      split
      · split
        · exact hne
        · rfl
      · rfl
    · rfl

theorem receiveSingleMessage_of_overruns {id : Option Nat} (h : overrunsNext id c = true)
    {room : Nat}
    (hroom : spdmDataTransferSize c.build.config ≤ room) :
    receiveSingleMessage id room false c = .panic := by
  unfold overrunsNext at h
  split at h
  · rename_i id packet hhead
    have hreceive : deviceReceive c = .ok (packet.take c.build.config.receiverBufferSize)
      (popped c) := by
      rw [deviceReceive, read_bind, hhead]
      rfl
    have hmapped : mapErr (fun e => (e, ([] : Bytes))) deviceReceive c =
        .ok (packet.take c.build.config.receiverBufferSize) (popped c) := by
      rw [mapErr, hreceive]
    rw [receiveSingleMessage, read_bind, timeoutFor, bind_assoc, read_bind, if_neg (by decide),
      ret_bind,
      bind_of_ok hmapped, decide_eq_true hroom]
    show mapErr _ (decodeSecuredMessage id _ _) (popped c) = _
    rw [mapErr, decodeSecuredMessage_of_overruns h]
  · cases h

end Requester

end Spdm
