/-
  Spdm.Requester.LargeRequest — a large request, against any responder (`send_large_request`,
  `handle_spdm_chunk_send_ack_response`).
-/
import Spdm.Context.Small
import Spdm.Requester.LargeResponse
import Spdm.Requester.Negotiation

namespace Spdm

open Effect Codec

variable {response : Bytes} {c : SpdmContext} {id : Option Nat} {size : Nat}

namespace Requester

open SpdmContext SpdmRequestResponseCode

/-! ## §1. Acknowledgements. -/

def shortError (v : SpdmVersion) (message : Bytes) : Bool :=
  match parseHeader message with
  | .ok header rest => header.requestResponseCode == spdmResponseError && header.version == v &&
      decide (rest.length < 2)
  | _ => false

def breaksAck (c : SpdmContext) (response : Bytes) : Bool :=
  let max := c.build.config.maxSpdmMsgSize
  match parseHeader response with
  | .ok header rest => header.version == c.negotiateInfo.spdmVersionSel &&
    if header.requestResponseCode = spdmResponseChunkSendAck then
      match parseAckHead c.largeChunk rest with
      | .ok (attributes, _, _) early => contains attributes earlyErrorDetected &&
          decide (early.length ≤ max) && shortError c.negotiateInfo.spdmVersionSel early
      | _ => false
    else header.requestResponseCode == spdmResponseError &&
      match parseGeneralPayload rest with
      | .ok (param1, _) _ => param1 == SpdmErrorCode.spdmErrorLargeResponse &&
          decide (response.length ≤ c.build.config.receiverBufferSize) &&
          decide (max < response.length)
      | _ => false
  | _ => false

structure Acked (c : SpdmContext) (early : Bool) (c' : SpdmContext) : Prop where
  world : c'.world = c.world
  channel : ChannelStep KeepsCipher c c'
  chunk : c'.chunkContext.chunkMessageSize ≤ c'.chunkContext.transferredSize ∨
    (c'.chunkContext = { c.chunkContext with chunkSeqNum := c.chunkContext.chunkSeqNum + 1 } ∧
      c.chunkContext.transferredSize < c.chunkContext.chunkMessageSize)

def takeAckResponse (response : Bytes) (c : SpdmContext) : SpdmContext :=
  { c with chunkContext := { c.chunkContext with
    chunkMessageSize := response.length
    chunkMessageData := bufWrite 0 response c.chunkContext.chunkMessageData
    transferredSize := response.length } }

theorem bufTake_takeAckResponse :
    bufTake response.length (takeAckResponse response c).chunkContext.chunkMessageData =
      response := by
  have h := bufTake_bufWrite 0 response c.chunkContext.chunkMessageData
  rw [Nat.zero_add] at h
  exact h

inductive AckRead (c : SpdmContext) (rest : Bytes) :
    Option ChunkSendAckPayload → SpdmContext → Prop
  | rejected : AckRead c rest none c
  | counted (attributes : Flags) (handle seq : Nat) (left : Bytes)
      (hparse : parseAckHead c.largeChunk rest = .ok (attributes, handle, seq) left)
      (hearly : contains attributes earlyErrorDetected = false)
      (hpending : c.chunkContext.transferredSize < c.chunkContext.chunkMessageSize) :
      AckRead c rest (some ⟨attributes, handle, seq, 0⟩) c
  | answered (attributes : Flags) (handle seq : Nat) (response : Bytes)
      (hparse : parseAckHead c.largeChunk rest = .ok (attributes, handle, seq) response)
      (hmax : response.length ≤ c.build.config.maxSpdmMsgSize) :
      AckRead c rest (some ⟨attributes, handle, seq, response.length⟩) (takeAckResponse response c)

theorem twp_readChunkSendAck (rest : Bytes) (c : SpdmContext) :
    twp (readChunkSendAck rest) (AckRead c rest) (fun _ _ => False) c := by
  refine twp_seq (twp_seq (twp_parseRest total_parseAckHead
    (fun ⟨attributes, handle, seq⟩ left hparse => ?_) .rejected))
  refine twp_ite (fun _ => twp_ite (fun hlen => twp_seq ?_) fun _ => .rejected) fun hpending => ?_
  · exact .answered attributes handle seq left hparse hlen.2
  · simp only [Bool.or_eq_true, decide_eq_true_eq, not_or, Nat.not_le, Bool.not_eq_true] at hpending
    exact .counted attributes handle seq left hparse hpending.2 hpending.1

theorem parseGeneralPayload_eq_err {bs left : Bytes} {e : Unit}
    (h : parseGeneralPayload bs = .err e left) : bs.length < 2 := by
  cases bs with
  | nil => decide
  | cons a bs =>
    cases bs with
    | nil => exact Nat.lt_succ_self 1
    | cons b bs => cases h

theorem parseGeneralPayload_of_lt {bs : Bytes} (h : bs.length < 2) :
    ∃ e left, parseGeneralPayload bs = .err e left := by
  cases bs with
  | nil => exact ⟨(), [], rfl⟩
  | cons a bs =>
    cases bs with
    | nil => exact ⟨(), [], rfl⟩
    | cons b bs =>
      simp only [List.length_cons] at h
      omega

theorem acked_answered {c' : SpdmContext} {early : Bool} (hworld : c'.world = c.world)
    (hchannel : ChannelStep KeepsCipher c c')
    (hend : c'.chunkContext.chunkMessageSize = c'.chunkContext.transferredSize) :
    Acked c early c' :=
  ⟨hworld, hchannel, .inl hend.le⟩

theorem twp_handleSpdmChunkSendAckResponse
    (hok : breaksAck c response = false) (hseq : c.chunkContext.chunkSeqNum < maxChunkSeqNum c) :
    twp (handleSpdmChunkSendAckResponse response) (Acked c) (fun _ c' => c'.world = c.world) c := by
  refine twp_seq (twp_seq (twp_parseRest total_parseHeader (fun header rest hheader => ?_)
    (twp_seq rfl)))
  refine twp_seq (twp_seq (twp_guardElse (fun hversion => ?_) rfl))
  unfold breaksAck at hok
  simp only [hheader, hversion, Bool.true_and] at hok
  refine twp_ite (fun hack => twp_seq ?_) fun hack => twp_ite (fun herror => twp_seq ?_)
    fun _ => rfl
  · rw [if_pos hack] at hok
    refine twp_mono (twp_readChunkSendAck rest c) (fun r c₁ hread => ?_) fun _ _ h => h.elim
    cases hread with
    | rejected => exact twp_seq rfl
    | counted attributes handle seq left hparse hearly hpending =>
      refine twp_seq (twp_ite (fun h => absurd h (by simp [hearly])) fun _ => ?_)
      refine twp_seq (twp_guardElse (fun _ => twp_seq (twp_guardElse (fun _ => ?_) rfl)) rfl)
      refine twp_seq (twp_assert.2 ⟨decide_eq_true hseq, twp_seq ?_⟩)
      exact ⟨rfl, .of_session_eq rfl, .inr ⟨rfl, hpending⟩⟩
    | answered attributes handle seq early hparse hmax =>
      refine twp_seq (twp_ite (fun hearly => ?_) fun _ => ?_)
      · -- the embedded message is looked at in the buffer it was just written to
        simp only [hparse, hearly, decide_eq_true hmax, Bool.true_and] at hok
        refine twp_seq (twp_seq ?_)
        dsimp only
        rw [bufTake_takeAckResponse]
        refine twp_parseRest total_parseHeader (fun inner rest' hinner => ?_) (twp_seq rfl)
        refine twp_seq (twp_seq (twp_guardElse (fun hcode => twp_seq ?_) rfl))
        refine twp_parse total_parseGeneralPayload (fun ⟨param1, param2⟩ _ _ => ?_)
          fun _ _ hshort => ?_
        · refine twp_seq (twp_orAbort.2 ⟨_, rfl, twp_seq (twp_guardElse (fun _ => ?_) rfl)⟩)
          exact acked_answered rfl (.of_session_eq rfl) rfl
        · have hlen := parseGeneralPayload_eq_err hshort
          simp [shortError, hinner, hcode, hlen] at hok
      · refine twp_seq (twp_guardElse (fun _ => twp_seq (twp_guardElse (fun _ => ?_) rfl)) rfl)
        refine twp_seq (twp_assert.2 ⟨decide_eq_true hseq, twp_seq ?_⟩)
        exact acked_answered rfl (.of_session_eq rfl) rfl
  · rw [if_neg hack] at hok
    simp only [herror, beq_self_eq_true, Bool.true_and] at hok
    refine twp_parse total_parseGeneralPayload (fun ⟨param1, param2⟩ left hgeneral => ?_)
      fun _ _ _ => twp_seq rfl
    refine twp_seq (twp_seq (twp_guardElse (fun hlarge => twp_seq (twp_guardElse (fun hroom => ?_)
      rfl)) rfl))
    simp only [hgeneral, hlarge, hroom, Bool.true_and, decide_eq_false_iff_not, Nat.not_lt] at hok
    refine twp_seq (twp_assert.2 ⟨decide_eq_true hok, twp_seq ?_⟩)
    exact acked_answered rfl (.of_session_eq rfl) rfl

theorem readChunkSendAck_of_early {rest early : Bytes} {attributes : Flags}
    {handle seq : Nat}
    (hparse : parseAckHead c.largeChunk rest = .ok (attributes, handle, seq) early)
    (hearly : contains attributes earlyErrorDetected = true) (hpos : 0 < early.length)
    (hmax : early.length ≤ c.build.config.maxSpdmMsgSize) :
    readChunkSendAck rest c =
      .ok (some ⟨attributes, handle, seq, early.length⟩) (takeAckResponse early c) := by
  rw [readChunkSendAck, read_bind, bind_of_ok (parseRest_of_ok hparse)]
  dsimp only
  rw [hearly, Bool.or_true, if_pos rfl, if_pos ⟨hpos, hmax⟩]
  rfl

theorem handleSpdmChunkSendAckResponse_of_breaks
    (h : breaksAck c response = true) : handleSpdmChunkSendAckResponse response c = .panic := by
  unfold breaksAck at h
  cases hheader : parseHeader response with
  | err e left => simp [hheader] at h
  | panic => simp [hheader] at h
  | ok header rest =>
    simp only [hheader, Bool.and_eq_true] at h
    obtain ⟨hversion, hkind⟩ := h
    rw [handleSpdmChunkSendAckResponse, read_bind]
    dsimp only
    rw [bind_of_ok (parseRest_of_ok hheader), bind_of_ok (orFail_eq_ok.2 ⟨rfl, rfl⟩),
      bind_of_ok (guardElse_of hversion)]
    by_cases hack : header.requestResponseCode = spdmResponseChunkSendAck
    · rw [if_pos hack] at hkind ⊢
      cases hparse : parseAckHead c.largeChunk rest with
      | err e left => simp [hparse] at hkind
      | panic => simp [hparse] at hkind
      | ok a early =>
        obtain ⟨attributes, handle, seq⟩ := a
        simp only [hparse, Bool.and_eq_true, decide_eq_true_eq] at hkind
        obtain ⟨⟨hearly, hmax⟩, hshort⟩ := hkind
        unfold shortError at hshort
        cases hinner : parseHeader early with
        | err e left => simp [hinner] at hshort
        | panic => simp [hinner] at hshort
        | ok inner rest' =>
          simp only [hinner, Bool.and_eq_true, decide_eq_true_eq] at hshort
          obtain ⟨hcode, hlen⟩ := hshort
          have hpos : 0 < early.length := by
            rw [parseHeader_eq_ok hinner]
            simp [encodeHeader]
          obtain ⟨e, left, hgeneral⟩ := parseGeneralPayload_of_lt hlen
          have hguard : (inner.requestResponseCode == spdmResponseError &&
              inner.version == c.negotiateInfo.spdmVersionSel) = true := by
            simpa [Bool.and_eq_true] using hcode
          rw [bind_of_ok (readChunkSendAck_of_early hparse hearly hpos hmax),
            bind_of_ok (orFail_eq_ok.2 ⟨rfl, rfl⟩)]
          dsimp only
          rw [if_pos hearly, read_bind, bufTake_takeAckResponse,
            bind_of_ok (parseRest_of_ok hinner), bind_of_ok (orFail_eq_ok.2 ⟨rfl, rfl⟩),
            bind_of_ok (guardElse_of hguard), bind_of_ok (parse_of_err hgeneral)]
          rfl
    · rw [if_neg hack] at hkind ⊢
      simp only [Bool.and_eq_true, beq_iff_eq] at hkind
      obtain ⟨herror, hlarge⟩ := hkind
      rw [if_pos herror]
      cases hgeneral : parseGeneralPayload rest with
      | err e left => simp [hgeneral] at hlarge
      | panic => simp [hgeneral] at hlarge
      | ok params left =>
        obtain ⟨param1, param2⟩ := params
        simp only [hgeneral, Bool.and_eq_true] at hlarge
        obtain ⟨⟨hparam, hroom⟩, hmax⟩ := hlarge
        have hover : decide (response.length ≤ c.build.config.maxSpdmMsgSize) = false := by
          simpa using hmax
        rw [bind_of_ok (parse_of_ok hgeneral), bind_of_ok (orFail_eq_ok.2 ⟨rfl, rfl⟩)]
        dsimp only
        rw [bind_of_ok (guardElse_of hparam),
          bind_of_ok (guardElse_of hroom), hover]
        rfl

/-! ## §2. One chunk of a large request. -/

section Backend
variable [Crypto]

structure Sending (id : Option Nat) (size : Nat) (c : SpdmContext) : Prop where
  sized : id.isSome = true → Sized c
  size_ge : minDataTransferSize ≤ size
  size_le : size ≤ spdmSenderDataTransferSize c.build.config
  message_le : c.chunkContext.chunkMessageSize ≤ c.build.config.maxSpdmMsgSize
  chunks_le : c.chunkContext.chunkMessageSize ≤
    (size - offsetOfSpdmChunkInChunkSend) * (2 ^ 16 - 2) + size - offsetOfSpdmChunkInFirstChunkSend
  numbers_le : c.chunkContext.chunkSeqNum * (size - offsetOfSpdmChunkInChunkSend) ≤
    c.chunkContext.transferredSize + 4

def pending (c : SpdmContext) : Bool :=
  decide (c.chunkContext.transferredSize < c.chunkContext.chunkMessageSize)

structure SentChunk (size : Nat) (c c' : SpdmContext) : Prop where
  channel : ChannelStep KeepsCipher c c'
  outbox : c'.world.outbox.length ≤ c.world.outbox.length + 1
  chunk : ∃ sent, 0 < sent ∧
    c'.chunkContext = { c.chunkContext with transferredSize := c.chunkContext.transferredSize
      + sent } ∧
    c.chunkContext.transferredSize + sent ≤ c.chunkContext.chunkMessageSize ∧
    (c.chunkContext.transferredSize + sent < c.chunkContext.chunkMessageSize →
      sent = size - if c.chunkContext.chunkSeqNum = 0 then offsetOfSpdmChunkInFirstChunkSend
        else offsetOfSpdmChunkInChunkSend)

theorem twp_sendChunk (hc : Sending id size c)
    (hpending : pending c = true) :
    twp (sendChunk id size) (fun _ c' => SentChunk size c c' ∧ c'.world.inbox = c.world.inbox)
      (fun _ c' => c'.world.outbox.length ≤ c.world.outbox.length + 1) c := by
  have hleft := of_decide_eq_true hpending
  have hwords := c.build.sizes_lt
  have hge := hc.size_ge
  have hle := hc.size_le
  have hmsg := hc.message_le
  unfold minDataTransferSize at hge
  unfold spdmSenderDataTransferSize transportOverhead at hle
  let offset := if c.chunkContext.chunkSeqNum == 0 then offsetOfSpdmChunkInFirstChunkSend
    else offsetOfSpdmChunkInChunkSend
  have hoffset : offset = 16 ∨ offset = 12 := by
    show (if _ then _ else _) = 16 ∨ (if _ then _ else _) = 12
    split
    · exact .inl rfl
    · exact .inr rfl
  refine twp_seq (twp_seq (twp_sizeSub (b := offset) (by omega)
    (twp_seq (twp_sizeSub hleft.le ?_))))
  rw [wordSub_eq (a := size) (b := offset) (by omega) (by omega), wordSub_eq hleft.le (by omega)]
  dsimp only
  -- from here on only the size of the chunk matters
  obtain ⟨sent, hsent⟩ : ∃ sent, sent = if decide (c.chunkContext.chunkMessageSize -
      c.chunkContext.transferredSize ≤ size - offset) = true then c.chunkContext.chunkMessageSize -
      c.chunkContext.transferredSize else size - offset := ⟨_, rfl⟩
  rw [← hsent]
  have hpos : 0 < sent := by
    rw [hsent]
    split <;> omega
  have hfits : c.chunkContext.transferredSize + sent ≤ c.chunkContext.chunkMessageSize := by
    rw [hsent]
    split
    · omega
    · rename_i h
      rw [decide_eq_true_eq] at h
      omega
  have hmost : sent ≤ size - offset := by
    rw [hsent]
    split
    · rename_i h
      exact of_decide_eq_true h
    · exact le_rfl
  have hwhole : c.chunkContext.transferredSize + sent < c.chunkContext.chunkMessageSize →
      sent = size - offset := by
    rw [hsent]
    split
    · omega
    · exact fun _ => rfl
  have hhead : 12 + (if (if (c.chunkContext.chunkSeqNum == 0) = true
      then some c.chunkContext.chunkMessageSize else none).isSome then 4 else 0) = offset := by
    show _ = if _ then _ else _
    split <;> rfl
  refine twp_seq (twp_encodeChunk ?_ ?_ (fun request _ => ?_) (Nat.le_succ _))
  · dsimp only
    omega
  · rw [hhead]
    dsimp only
    omega
  generalize hnext : ({ c with chunkContext := { c.chunkContext with
    transferredSize := c.chunkContext.transferredSize + sent } } : SpdmContext) = c₁
  have hstep : ChannelStep KeepsCipher c c₁ := by
    rw [← hnext]
    exact .of_session_eq rfl
  have hworld : c₁.world = c.world := by rw [← hnext]
  have hsized : id.isSome = true → Sized c₁ := fun h => (hc.sized h).channel hstep
  refine twp_mono (twp_sendSingleMessage hsized request false) (fun _ c₂ hout => ?_)
    fun _ c₂ hout => by rw [← hworld]; exact hout.outbox
  refine ⟨⟨StepRel.trans hstep hout.channel, ?_, sent, hpos, ?_, hfits, fun hmore => ?_⟩, ?_⟩
  · rw [← hworld]
    exact hout.outbox
  · rw [hout.chunkContext, ← hnext]
  · rw [hwhole hmore]
    show size - (if _ then _ else _) = _
    simp only [beq_iff_eq]
  · rw [hout.inbox, hworld]

omit [Crypto] in
theorem SentChunk.packet_in {c₁ : SpdmContext} (h : SentChunk size c c₁) (hin : PacketIn c₁ c') :
    SentChunk size c c' := by
  obtain ⟨sent, hsent⟩ := h.chunk
  refine ⟨StepRel.trans h.channel hin.channel, ?_, sent, ?_⟩
  · rw [hin.outbox]
    exact h.outbox
  · rw [hin.chunkContext]
    exact hsent

def breakingPacket (id : Option Nat) (c : SpdmContext) : Bool :=
  overrunsNext id c ||
    match receiveSingleMessage id (spdmDataTransferSize c.build.config) false c with
    | .ok response c' => breaksAck c' response
    | _ => false

structure ChunkExchanged (size : Nat) (c : SpdmContext) (response : Bytes) (c' : SpdmContext) :
    Prop where
  sent : SentChunk size c c'
  inbox : c'.world.inbox.length < c.world.inbox.length
  ack : breaksAck c' response = false

theorem twp_exchangeChunk (hc : Sending id size c) (hpending : pending c = true)
    (hgood : ∀ u c₁, sendChunk id size c = .ok u c₁ → breakingPacket id c₁ = false) :
    twp (exchangeChunk id size) (ChunkExchanged size c)
      (fun _ c' => c'.world.outbox.length ≤ c.world.outbox.length + 1) c := by
  refine twp_seq (twp_seq (twp_mono (twp_sendChunk hc hpending).with_run (fun u c₁ hsent => ?_)
    fun _ _ h => h.2))
  obtain ⟨hrun, hsent, hinbox⟩ := hsent
  obtain ⟨hnext, hack⟩ := Bool.or_eq_false_iff.1 (hgood u c₁ hrun)
  have hsized : id.isSome = true → Sized c₁ := fun h => (hc.sized h).channel hsent.channel
  rw [twp_mapErr, ← hsent.channel.build]
  have hreceive : twp (receiveSingleMessage id (spdmDataTransferSize c₁.build.config) false)
    _ _ c₁ :=
    twp_receiveSingleMessage hsized le_rfl nofun hnext
  refine twp_mono hreceive.with_run
    (fun response c₂ hin => ⟨hsent.packet_in hin.2.1, hinbox ▸ hin.2.2, ?_⟩) fun _ c₂ hin => ?_
  · rw [hin.1] at hack
    exact hack
  · rw [hin.2.outbox]
    exact hsent.outbox

/-! ## §3. A large request. -/

def sendTurn (id : Option Nat) (size : Nat) (_ : Unit) :
    SpdmResult (Turn Unit Unit) := do
  let c ← read
  if c.chunkContext.chunkMessageSize ≤ c.chunkContext.transferredSize then ret (.done ())
  else do
    let response ← exchangeChunk id size
    let early ← mapErr (fun _ => .sendFail) (handleSpdmChunkSendAckResponse response)
    if early then ret (.done ()) else ret (.again ())

theorem sendChunks_eq_loop {n : Nat} :
    sendChunks id size n = loop (sendTurn id size) .receiveFail n () := by
  induction n with
  | zero => rfl
  | succ n ih =>
    rw [loop, sendChunks, ih]
    generalize loop (sendTurn id size) SpdmStatus.receiveFail n = k
    unfold sendTurn
    funext c
    rw [bind_assoc, read_bind, read_bind]
    split
    · rfl
    · simp only [bind_assoc, ite_turn]

def breakingTurn (id : Option Nat) (size : Nat) (c : SpdmContext) : Bool :=
  pending c && match sendChunk id size c with
    | .ok _ c₁ => breakingPacket id c₁
    | _ => false

theorem sendTurn_of_breaking
    (h : breakingTurn id size c = true) : sendTurn id size () c = .panic := by
  unfold breakingTurn pending at h
  rw [Bool.and_eq_true, decide_eq_true_eq] at h
  obtain ⟨hpending, hbreaks⟩ := h
  rw [sendTurn, read_bind, if_neg (by omega)]
  cases hrun : sendChunk id size c with
  | panic => simp [hrun] at hbreaks
  | err e c₁ => simp [hrun] at hbreaks
  | ok u c₁ =>
    rw [hrun] at hbreaks
    have hbuild : c₁.build = c.build :=
      ((within_sendChunk (R := KeepsCipher)).of_ok hrun).build
    rw [exchangeChunk, bind_assoc, read_bind, bind_assoc, bind_of_ok hrun, ← hbuild]
    obtain hover | hack := Bool.or_eq_true_iff.1 hbreaks
    · rw [bind_apply, mapErr, receiveSingleMessage_of_overruns hover le_rfl]
    · cases hreceive : receiveSingleMessage id (spdmDataTransferSize c₁.build.config) false c₁ with
      | panic => simp [hreceive] at hack
      | err e c₂ => simp [hreceive] at hack
      | ok response c₂ =>
        rw [hreceive] at hack
        rw [bind_apply, mapErr, hreceive]
        dsimp only
        rw [bind_apply, mapErr, handleSpdmChunkSendAckResponse_of_breaks hack]

structure SendingWithin (id : Option Nat) (size sent : Nat) (c : SpdmContext) : Prop where
  sending : pending c = true → Sending id size c
  rounds : c.world.outbox.length + (c.chunkContext.chunkMessageSize -
    c.chunkContext.transferredSize) ≤ sent

def roundsLeft (c : SpdmContext) : Nat := if pending c then c.world.inbox.length + 1 else 0

theorem seqNum_lt_of_sending
    (hc : Sending id size c) (hpending : pending c = true) :
    c.chunkContext.chunkSeqNum < maxChunkSeqNum c := by
  have hleft := of_decide_eq_true hpending
  have hge := hc.size_ge
  have hchunks := hc.chunks_le
  have hnumbers := hc.numbers_le
  unfold minDataTransferSize at hge
  unfold offsetOfSpdmChunkInChunkSend at hchunks hnumbers
  unfold offsetOfSpdmChunkInFirstChunkSend at hchunks
  have hlt : c.chunkContext.chunkSeqNum * (size - 12) < (2 ^ 16 - 1) * (size - 12) := by omega
  have hseq : c.chunkContext.chunkSeqNum < 2 ^ 16 - 1 := Nat.lt_of_mul_lt_mul_right hlt
  unfold maxChunkSeqNum
  split <;> omega

theorem Sending.next {c₁ c₂ : SpdmContext}
    (hc : Sending id size c) (hsent : SentChunk size c c₁) (hstep : ChannelStep KeepsCipher c₁ c₂)
    (hnext : c₂.chunkContext =
      { c₁.chunkContext with chunkSeqNum := c₁.chunkContext.chunkSeqNum + 1 })
    (hmore : c₁.chunkContext.transferredSize < c₁.chunkContext.chunkMessageSize) :
    Sending id size c₂ := by
  obtain ⟨n, hpos, hchunk, hfits, hwhole⟩ := hsent.chunk
  have hall := StepRel.trans hsent.channel hstep
  have hbuild := hall.build
  rw [hchunk] at hmore
  have hn := hwhole hmore
  have hge := hc.size_ge
  have hnumbers := hc.numbers_le
  refine ⟨fun h => (hc.sized h).channel hall, hge, by rw [hbuild]; exact hc.size_le, ?_, ?_, ?_⟩
  · rw [hnext, hchunk, hbuild]
    exact hc.message_le
  · rw [hnext, hchunk]
    exact hc.chunks_le
  · rw [hnext, hchunk]
    dsimp only
    unfold minDataTransferSize at hge
    unfold offsetOfSpdmChunkInFirstChunkSend at hn
    unfold offsetOfSpdmChunkInChunkSend at hn hnumbers ⊢
    rw [Nat.add_mul, Nat.one_mul]
    split at hn
    · rename_i hzero
      rw [hzero] at hnumbers ⊢
      omega
    · omega

theorem twp_sendTurn {sent : Nat} (a : Unit) (c : SpdmContext)
    (hc : SendingWithin id size sent c) (hgood : breakingTurn id size c = false) :
    twp (sendTurn id size a) (TurnPost (fun _ => SendingWithin id size sent)
        (fun _ => roundsLeft) (fun _ c' => c'.world.outbox.length ≤ sent) (roundsLeft c))
      (fun _ c' => c'.world.outbox.length ≤ sent) c := by
  have hrounds := hc.rounds
  refine twp_seq (twp_ite (fun _ => ?_) fun hleft => ?_)
  · show c.world.outbox.length ≤ sent
    omega
  have hpending : pending c = true := decide_eq_true (Nat.lt_of_not_le hleft)
  have hsending := hc.sending hpending
  have hpackets : ∀ u c₁, sendChunk id size c = .ok u c₁ → breakingPacket id c₁ = false := by
    intro u c₁ hrun
    simpa [breakingTurn, hpending, hrun] using hgood
  refine twp_seq (twp_mono (twp_exchangeChunk hsending hpending hpackets)
    (fun response c₁ hexchange => ?_) fun _ _ h => by omega)
  obtain ⟨hsent, hinbox, hok⟩ := hexchange
  obtain ⟨n, hpos, hchunk, hfits, hwhole⟩ := hsent.chunk
  have hseq : c₁.chunkContext.chunkSeqNum < maxChunkSeqNum c₁ := by
    have hlarge : maxChunkSeqNum c₁ = maxChunkSeqNum c := by
      rw [maxChunkSeqNum, largeChunk, hsent.channel.negotiateInfo]
      rfl
    rw [hchunk, hlarge]
    exact seqNum_lt_of_sending hsending hpending
  have hout := hsent.outbox
  refine twp_seq (twp_mapErr.2 (twp_mono (twp_handleSpdmChunkSendAckResponse hok hseq)
    (fun early c₂ hacked => ?_) fun _ c₂ hworld => ?_))
  · have hworld := hacked.world
    refine twp_ite (fun _ => ?_) fun _ => ⟨⟨fun hpending₂ => ?_, ?_⟩, ?_⟩
    · show c₂.world.outbox.length ≤ sent
      rw [hworld]
      omega
    · obtain hend | ⟨hnext, hmore⟩ := hacked.chunk
      · exact absurd (of_decide_eq_true hpending₂) (by omega)
      · exact hsending.next hsent hacked.channel hnext hmore
    · obtain hend | ⟨hnext, hmore⟩ := hacked.chunk
      · rw [hworld]
        omega
      · rw [hworld, hnext, hchunk]
        dsimp only
        omega
    · show roundsLeft c₂ < roundsLeft c
      unfold roundsLeft
      rw [if_pos hpending, hworld]
      split <;> omega
  · rw [hworld]
    omega

theorem wp_sendTurn {sent : Nat} (a : Unit) (c : SpdmContext)
    (hc : SendingWithin id size sent c) :
    wp (sendTurn id size a) (TurnPost (fun _ => SendingWithin id size sent)
        (fun _ => roundsLeft) (fun _ c' => c'.world.outbox.length ≤ sent) (roundsLeft c))
      (fun _ c' => c'.world.outbox.length ≤ sent) c := by
  cases hbad : breakingTurn id size c with
  | true => exact wp_of_panic (sendTurn_of_breaking hbad)
  | false => exact (twp_sendTurn a c hc hbad).wp

def transferSize (c : SpdmContext) : Nat :=
  min (spdmSenderDataTransferSize c.build.config) c.negotiateInfo.rspDataTransferSizeSel

def mostSent (c : SpdmContext) : Nat :=
  (transferSize c - offsetOfSpdmChunkInChunkSend) * (2 ^ 16 - 2) + transferSize c -
    offsetOfSpdmChunkInFirstChunkSend

/-- The context with which `send_message` starts to send `message` in chunks. -/
structure StartedSend (message : Bytes) (c : SpdmContext) : Prop where
  version : c.negotiateInfo.spdmVersionSel.atLeast .spdmVersion12 = true
  seqNum : c.chunkContext.chunkSeqNum = 0
  size : c.chunkContext.chunkMessageSize = message.length
  transferred : c.chunkContext.transferredSize = 0
  message_le : message.length ≤ c.build.config.maxSpdmMsgSize

/-- The capabilities of the responder were accepted, with the version in use. -/
def CapabilitiesTaken (c : SpdmContext) : Prop :=
  ∃ request response c₀ c₁, handleSpdmCapabilityResponse request response c₀ = .ok () c₁ ∧
    c.negotiateInfo.spdmVersionSel = c₁.negotiateInfo.spdmVersionSel ∧
    c.negotiateInfo.rspDataTransferSizeSel = c₁.negotiateInfo.rspDataTransferSizeSel

omit [Crypto] in
theorem parseCapabilitiesResponse_transferSize {rest left : Bytes}
    {p : CapabilitiesPayload} (hv : c.negotiateInfo.spdmVersionSel.atLeast .spdmVersion12 = true)
    (h : parseCapabilitiesResponse c rest = .ok p left) :
    minDataTransferSize ≤ p.dataTransferSize := by
  unfold parseCapabilitiesResponse at h
  obtain ⟨_, _, -, h₁⟩ := bind_eq_ok.1 h
  obtain ⟨_, _, -, h₂⟩ := bind_eq_ok.1 h₁
  obtain ⟨_, _, -, h₃⟩ := bind_eq_ok.1 h₂
  obtain ⟨_, _, -, h₄⟩ := bind_eq_ok.1 h₃
  obtain ⟨_, _, -, h₅⟩ := bind_eq_ok.1 h₄
  obtain ⟨⟨transfer, max⟩, _, hsizes, hret⟩ := bind_eq_ok.1 h₅
  obtain ⟨rfl, -⟩ := ret_eq_ok.1 hret
  rw [parseTransferSizes, if_pos hv] at hsizes
  obtain ⟨_, _, -, h₆⟩ := bind_eq_ok.1 hsizes
  obtain ⟨_, _, -, h₇⟩ := bind_eq_ok.1 h₆
  obtain ⟨_, _, hrequire, h₈⟩ := bind_eq_ok.1 h₇
  obtain ⟨hpair, -⟩ := ret_eq_ok.1 h₈
  obtain ⟨rfl, rfl⟩ := Prod.mk.inj hpair
  have hge := (guardElse_eq_ok.1 hrequire).1
  simp only [Bool.not_or, Bool.and_eq_true, Bool.not_eq_true', decide_eq_false_iff_not,
    Nat.not_lt] at hge
  exact hge.1

omit [Crypto] in
theorem CapabilitiesTaken.transferSize_ge (h : CapabilitiesTaken c)
    (hversion : c.negotiateInfo.spdmVersionSel.atLeast .spdmVersion12 = true) :
    minDataTransferSize ≤ c.negotiateInfo.rspDataTransferSizeSel := by
  obtain ⟨request, response, c₀, c₁, hrun, hv, hsize⟩ := h
  obtain ⟨rest, p, left, -, hparse, hnegotiate⟩ := handleSpdmCapabilityResponse_eq_ok hrun
  have hv₀ : c₀.negotiateInfo.spdmVersionSel.atLeast .spdmVersion12 = true := by
    rw [hv, hnegotiate, takeCapabilities] at hversion
    dsimp only at hversion
    split_ifs at hversion <;> exact hversion
  rw [hsize, hnegotiate, takeCapabilities]
  dsimp only
  rw [if_pos hv₀]
  exact parseCapabilitiesResponse_transferSize hv₀ hparse

/-- The transfer of the message meets a packet that aborts it. -/
def MeetsBreakingPacket (id : Option Nat) (message : Bytes) (c : SpdmContext) : Prop :=
  message.length ≤ mostSent c ∧ true ∈ trace (sendTurn id (transferSize c))
    (fun _ => breakingTurn id (transferSize c)) (c.world.inbox.length + 2) () c

/-- What sending in chunks should do, whatever is received: it ends by itself
after at most as many rounds as a message may have bytes, and no build aborts
or sees an overflow. -/
structure SendSafe (id : Option Nat) (message : Bytes) (c : SpdmContext) : Prop where
  ends : message.length ≤ mostSent c → ∀ n, c.world.inbox.length + 1 < n →
    sendChunks id (transferSize c) n c = sendChunks id (transferSize c) (c.world.inbox.length + 2) c
  noPanic : ∀ checks, sendLargeRequest id message (withChecks checks c) ≠ .panic
  rounds : ∀ c', Ran (sendLargeRequest id message) c c' →
    c'.world.outbox.length ≤ c.world.outbox.length + c.build.config.maxSpdmMsgSize

theorem sendLargeRequest_eq {message : Bytes}
    (hsize : minDataTransferSize ≤ transferSize c) :
    sendLargeRequest id message c = if message.length ≤ mostSent c
      then sendChunks id (transferSize c) (c.world.inbox.length + 2) c else .err .sendFail c := by
  have hwords := c.build.sizes_lt
  have hge := hsize
  have hle : transferSize c ≤ c.build.config.senderBufferSize :=
    (Nat.min_le_left _ _).trans (Nat.sub_le _ _)
  unfold minDataTransferSize at hge
  have hsub : ∀ a b : Nat, b ≤ a → a < 2 ^ 64 →
      (sizeSub a b : SpdmResult Nat) c = .ok (a - b) c := fun a b hab ha => by
    have hassert : (assert (!c.build.overflowChecks || decide (b ≤ a)) :
        SpdmResult Unit) c = .ok () c := by
      rw [decide_eq_true hab, Bool.or_true]
      rfl
    rw [sizeSub, read_bind, bind_of_ok hassert, wordSub_eq hab ha]
    rfl
  rw [sendLargeRequest, read_bind, ← transferSize,
    bind_of_ok (hsub _ _ (by unfold offsetOfSpdmChunkInChunkSend; omega) (by omega)),
    Nat.mod_eq_of_lt (by unfold offsetOfSpdmChunkInChunkSend; omega),
    bind_of_ok (hsub _ _ (by unfold offsetOfSpdmChunkInFirstChunkSend; omega)
      (by unfold offsetOfSpdmChunkInChunkSend; omega)), ← mostSent]
  by_cases hmost : message.length ≤ mostSent c
  · rw [if_pos hmost, bind_of_ok (guardElse_of (decide_eq_true hmost))]
  · rw [if_neg hmost, decide_eq_false hmost]
    rfl

omit [Crypto] in
theorem roundsLeft_le : roundsLeft c ≤ c.world.inbox.length + 1 := by
  unfold roundsLeft
  split <;> omega

theorem sendingWithin_start {message : Bytes} (hsized : id.isSome = true → Sized c)
    (hc : StartedSend message c) (hsize : minDataTransferSize ≤ transferSize c)
    (hmost : message.length ≤ mostSent c) :
    SendingWithin id (transferSize c)
      (c.world.outbox.length + c.build.config.maxSpdmMsgSize) c := by
  refine ⟨fun _ => ⟨hsized, hsize, Nat.min_le_left _ _, ?_, ?_, ?_⟩, ?_⟩
  · rw [hc.size]
    exact hc.message_le
  · rw [hc.size]
    exact hmost
  · rw [hc.seqNum]
    omega
  · have := hc.message_le
    rw [hc.size, hc.transferred]
    omega

theorem twp_sendLargeRequest {message : Bytes} (hsized : id.isSome = true → Sized c)
    (hc : StartedSend message c) (hsize : minDataTransferSize ≤ transferSize c)
    (hgood : ¬MeetsBreakingPacket id message c) :
    twp (sendLargeRequest id message)
      (fun _ c' => c'.world.outbox.length ≤ c.world.outbox.length + c.build.config.maxSpdmMsgSize)
      (fun _ c' => c'.world.outbox.length ≤ c.world.outbox.length + c.build.config.maxSpdmMsgSize)
      c := by
  have heq : sendLargeRequest id message c = _ := sendLargeRequest_eq hsize
  by_cases hmost : message.length ≤ mostSent c
  · rw [if_pos hmost, sendChunks_eq_loop] at heq
    refine twp_congr ?_ heq
    exact twp_loop_unless (fun a s => twp_sendTurn a s) (a := ())
      (sendingWithin_start hsized hc hsize hmost)
      (Nat.lt_of_le_of_lt roundsLeft_le (Nat.lt_succ_self _)) fun hmem => hgood ⟨hmost, hmem⟩
  · rw [if_neg hmost] at heq
    unfold twp
    rw [heq]
    exact Nat.le_add_right _ _

theorem sendSafe_iff {message : Bytes}
    (hsized : id.isSome = true → Sized c) (hc : StartedSend message c)
    (hsize : minDataTransferSize ≤ transferSize c) :
    SendSafe id message c ↔ ∀ checks, ¬MeetsBreakingPacket id message (withChecks checks c) := by
  constructor
  · rintro hsafe checks ⟨hmost, hmem⟩
    have heq : sendLargeRequest id message (withChecks checks c) = _ := sendLargeRequest_eq hsize
    refine hsafe.noPanic checks ?_
    rw [heq, if_pos hmost, sendChunks_eq_loop]
    exact loop_of_bad (fun _ _ => sendTurn_of_breaking) hmem
  · intro hgood
    refine ⟨fun hmost n hn => ?_, fun checks => ?_, fun c' hran => ?_⟩
    · rw [sendChunks_eq_loop, sendChunks_eq_loop]
      exact loop_eq_of_lt wp_sendTurn (a := ()) (sendingWithin_start hsized hc hsize hmost)
        (roundsLeft_le.trans_lt hn) (roundsLeft_le.trans_lt (Nat.lt_succ_self _))
    · have hsized' : id.isSome = true → Sized (withChecks checks c) := fun h =>
        ⟨(hsized h).aead, (hsized h).transport, (hsized h).keyed⟩
      have hc' : StartedSend message (withChecks checks c) :=
        ⟨hc.version, hc.seqNum, hc.size, hc.transferred, hc.message_le⟩
      exact (twp_sendLargeRequest hsized' hc' hsize (hgood checks)).ne_panic
    · exact hran.of_wp (twp_sendLargeRequest hsized hc hsize (hgood c.build.overflowChecks)).wp

/-- **Large transfers against any responder.**  Fetching a large response is
safe exactly when no timeout overflows; sending a large request exactly when
no packet that aborts the transfer is met. -/
theorem largeTransfer_safe_iff {id : Option Nat} {c : SpdmContext}
    (hchunk : c.build.chunkCap = true) (hsized : id.isSome = true → Sized c)
    (hpeer : CapabilitiesTaken c) :
    (∀ crypto, c.chunkContext = startedFetch → (FetchSafe id crypto c ↔ Timely crypto c)) ∧
    ∀ message, StartedSend message c → (SendSafe id message c ↔
      ∀ checks, ¬MeetsBreakingPacket id message (withChecks checks c)) := by
  refine ⟨fun crypto hc => fetchSafe_iff hc, fun message hc => sendSafe_iff hsized hc ?_⟩
  have hsender := (c.build.chunk_fits hchunk).1
  refine le_min ?_ (hpeer.transferSize_ge hc.version)
  unfold spdmSenderDataTransferSize
  omega

end Backend

namespace SmallRun

open SmallBackend

def chunkingRequester (inbox : List (Option Bytes)) : SpdmContext :=
  let c := smallResponder true 0
  { c with
    negotiateInfo := { c.negotiateInfo with
      spdmVersionSel := .spdmVersion12
      reqCapabilitiesSel := SpdmRequestCapabilityFlags.chunkCap
      rspCapabilitiesSel := SpdmResponseCapabilityFlags.chunkCap
      rspDataTransferSizeSel := 42
      rspMaxSpdmMsgSizeSel := 150 }
    world := { inbox := inbox } }

def chunkingCapabilities : Bytes :=
  encodeCapabilitiesResponse .spdmVersion12
    { flags := SpdmResponseCapabilityFlags.chunkCap, dataTransferSize := 42, maxSpdmMsgSize := 150 }

def longMessage : Bytes := List.replicate 80 5

def fetching (inbox : List (Option Bytes)) : SpdmContext :=
  { chunkingRequester inbox with chunkContext := startedFetch }

def sending (inbox : List (Option Bytes)) : SpdmContext :=
  { chunkingRequester inbox with chunkContext := { idleChunk with
    chunkMessageSize := 80
    chunkMessageData := longMessage
    chunkStatus := .chunkSendAndAck } }

def shortEarlyError : Bytes :=
  encodeHeader .spdmVersion12 spdmResponseChunkSendAck ++ [1, 1, 0, 0] ++
    encodeHeader .spdmVersion12 spdmResponseError

theorem capabilitiesTaken_chunkingRequester (inbox : List (Option Bytes)) :
    CapabilitiesTaken (chunkingRequester inbox) := by
  have hfacts : (handleSpdmCapabilityResponse [] chunkingCapabilities (chunkingRequester [])).okWith
      (fun _ c => c.negotiateInfo.spdmVersionSel == .spdmVersion12 &&
        c.negotiateInfo.rspDataTransferSizeSel == 42) = true := by decide +kernel
  obtain ⟨u, c, hrun, hfacts⟩ := Outcome.exists_of_okWith hfacts
  simp only [Bool.and_eq_true, beq_iff_eq] at hfacts
  exact ⟨_, _, _, c, hrun, hfacts.1.symm, hfacts.2.symm⟩

def smallChunk (p : ChunkPayload) (data : Bytes) : Option Bytes :=
  some (marked false (encodeHeader .spdmVersion12 spdmResponseChunkResponse ++
    encodeChunkHead false p ++ data))

def twoChunks : List (Option Bytes) :=
  [smallChunk ⟨0, 0, 0, 26, some 36⟩ (List.replicate 26 1),
    smallChunk ⟨lastChunk, 0, 1, 10, none⟩ (List.replicate 10 2)]

def smallAck (seq : UInt8) (response : Bytes) : Option Bytes :=
  some (marked false (encodeHeader .spdmVersion12 spdmResponseChunkSendAck ++ [0, 0, seq, 0] ++
    response))

def threeAcks : List (Option Bytes) := [smallAck 0 [], smallAck 1 [], smallAck 2 [9, 9]]

theorem largeTransfer_safe_honest :
    FetchSafe none true (fetching twoChunks) ∧ SendSafe none longMessage (sending threeAcks) :=
  ⟨((@largeTransfer_safe_iff _ none (fetching twoChunks) rfl nofun
      (capabilitiesTaken_chunkingRequester twoChunks)).1 true rfl).2 fun _ _ => by decide,
    ((@largeTransfer_safe_iff _ none (sending threeAcks) rfl nofun
      (capabilitiesTaken_chunkingRequester threeAcks)).2 longMessage
        ⟨by decide, rfl, rfl, rfl, by decide⟩).2 fun checks h =>
          absurd h.2 (by cases checks <;> decide +kernel)⟩

theorem sendMessage_aborts_on_short_error :
    (sendMessage none longMessage false
      (chunkingRequester [some (marked false shortEarlyError)])).isPanic = true := by
  decide +kernel

end SmallRun

end Requester

end Spdm
