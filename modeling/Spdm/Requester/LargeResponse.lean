/-
  Spdm.Requester.LargeResponse — a large response, against any responder
  (`receive_large_response`, `handle_spdm_chunk_response`).
-/
import Spdm.Lib.Loop
import Spdm.Requester.Packets

namespace Spdm

open Effect Codec

variable {c c' : SpdmContext} {crypto : Bool} {p : ChunkPayload} {data : Bytes}

namespace Requester

open SpdmContext SpdmRequestResponseCode

variable [Crypto]

/-! ## §1. One chunk of a large response. -/

def largeMessage (c : SpdmContext) : Bytes :=
  bufTake c.chunkContext.transferredSize c.chunkContext.chunkMessageData

def chunkIn (large : Bool) (response : Bytes) : Option (ChunkPayload × Bytes) :=
  match parseHeader response with
  | .ok _ rest => (parseChunkResponse large rest).returned
  | _ => none

structure Fetching (c : SpdmContext) : Prop where
  fresh : c.chunkContext.chunkSeqNum = 0 → c.chunkContext.transferredSize = 0
  more : c.chunkContext.chunkSeqNum ≠ 0 →
    c.chunkContext.transferredSize < c.chunkContext.chunkMessageSize ∧
      c.chunkContext.chunkMessageSize ≤ c.build.config.maxSpdmMsgSize

omit [Crypto] in
theorem Fetching.lt (h : Fetching c) :
    c.chunkContext.transferredSize < c.build.config.maxSpdmMsgSize := by
  by_cases hseq : c.chunkContext.chunkSeqNum = 0
  · have hmsg := c.build.msgSize_ge
    unfold minDataTransferSize at hmsg
    rw [h.fresh hseq]
    omega
  · have := h.more hseq
    omega

structure StoredChunk (c : SpdmContext) (p : ChunkPayload) (data : Bytes) (c' : SpdmContext) :
    Prop where
  build : c'.build = c.build
  seqNum : p.chunkSeqNum = c.chunkContext.chunkSeqNum
  next : c'.chunkContext.chunkSeqNum = c.chunkContext.chunkSeqNum + 1
  message : largeMessage c' = largeMessage c ++ data
  transferred : c'.chunkContext.transferredSize = c.chunkContext.transferredSize + data.length
  announced : if c.chunkContext.chunkSeqNum = 0
    then p.largeMessageSize = some c'.chunkContext.chunkMessageSize
    else c'.chunkContext.chunkMessageSize = c.chunkContext.chunkMessageSize
  size_le : c'.chunkContext.chunkMessageSize ≤ c.build.config.maxSpdmMsgSize
  progress : c'.chunkContext.transferredSize = c'.chunkContext.chunkMessageSize ∨
    (c'.chunkContext.transferredSize < c'.chunkContext.chunkMessageSize ∧ 0 < data.length)

section
omit [Crypto]

theorem twp_spdmHandleErrorResponseMain (id : Option Nat) (response : Bytes) (c : SpdmContext) :
    twp (spdmHandleErrorResponseMain id response) (fun _ _ => False)
      (fun _ c' => c'.world = c.world) c := by
  have hslot : ∀ (i : Nat) (f : SpdmSession → SpdmSession),
      twp (withSession i SpdmStatus.invalidParameter (update f)) (fun _ c' => c'.world = c.world)
        (fun _ c' => c'.world = c.world) c := fun i f =>
    twp_withSession (fun _ _ _ => rfl) rfl
  have hsimple : ∀ code, twp (spdmHandleSimpleErrorResponse id code)
      (fun _ c' => c'.world = c.world) (fun _ c' => c'.world = c.world) c := fun code => by
    refine twp_ite (fun _ => rfl) fun _ => twp_ite (fun _ => rfl) fun _ =>
      twp_ite (fun _ => ?_) fun _ => rfl
    refine twp_seq (twp_attempt.2 ?_)
    cases id with
    | none => exact rfl
    | some i => exact hslot i _
  refine twp_seq (twp_seq (twp_parseRest total_parseHeader (fun header rest _ => ?_)
    (twp_seq rfl)))
  refine twp_seq (twp_seq (twp_guardElse (fun _ => twp_seq (twp_guardElse (fun _ => ?_) rfl)) rfl))
  refine twp_seq (twp_parse total_parseGeneralPayload (fun ⟨param1, _⟩ _ _ => ?_)
    fun _ _ _ => twp_seq rfl)
  refine twp_seq (twp_ite (fun _ => twp_seq ?_) fun _ => twp_seq (hsimple param1))
  cases id with
  | none => exact rfl
  | some i => exact hslot i _

theorem twp_readChunkResponse (rest : Bytes) (c : SpdmContext) :
    twp (readChunkResponse rest)
      (fun r c' => (r = none ∧ c' = c) ∨ ∃ p data left,
        parseChunkResponse c.largeChunk rest = .ok (p, data) left ∧ r = some p ∧
          c' = storeChunk data c)
      (fun _ _ => False) c := by
  refine twp_seq (twp_seq (twp_parseRest total_parseChunkResponse (fun ⟨p, data⟩ left h => ?_)
    (.inl ⟨rfl, rfl⟩)))
  exact twp_ite (fun _ => .inl ⟨rfl, rfl⟩) fun _ => twp_seq (.inr ⟨p, data, left, h, rfl, rfl⟩)

theorem twp_acceptFirstChunk (p : ChunkPayload) (c : SpdmContext) :
    twp (acceptFirstChunk p)
      (fun _ c' => ∃ size, p.largeMessageSize = some size ∧
        size ≤ c.build.config.maxSpdmMsgSize ∧ 0 < p.chunkSize ∧
        c' = { c with chunkContext := { c.chunkContext with
          chunkMessageSize := size, chunkSeqNum := c.chunkContext.chunkSeqNum + 1 } })
      (fun _ c' => c' = c) c := by
  refine twp_seq (twp_seq (twp_guardElse (fun hchunk => twp_seq (twp_orFail (fun size hsize => ?_)
    rfl)) rfl))
  refine twp_seq (twp_guardElse (fun hmax => twp_seq (twp_guardElse (fun _ =>
    twp_seq (twp_guardElse (fun _ => ?_) rfl)) rfl)) rfl)
  refine ⟨size, hsize, of_decide_eq_true hmax, ?_, rfl⟩
  have := of_decide_eq_true hchunk
  unfold minDataTransferSize offsetOfSpdmChunkInFirstChunkResponse at this
  omega

theorem twp_acceptNextChunk (p : ChunkPayload) (c : SpdmContext) :
    twp (acceptNextChunk p)
      (fun _ c' => p.chunkSeqNum = c.chunkContext.chunkSeqNum ∧
        (contains p.attributes lastChunk = false → 0 < p.chunkSize) ∧
        c' = { c with chunkContext := { c.chunkContext with
          chunkSeqNum := c.chunkContext.chunkSeqNum + 1 } })
      (fun _ c' => c' = c) c := by
  refine twp_seq (twp_seq (twp_guardElse (fun hseq => twp_seq (twp_guardElse (fun hsize =>
    twp_seq (twp_guardElse (fun _ => ?_) rfl)) rfl)) rfl))
  refine ⟨by simpa using hseq, fun hmore => ?_, rfl⟩
  rw [hmore, Bool.or_false] at hsize
  have := of_decide_eq_true hsize
  unfold minDataTransferSize offsetOfSpdmChunkInChunkResponse at this
  omega

theorem twp_handleSpdmChunkResponse (hc : Fetching c) (response : Bytes)
    (id : Option Nat) :
    twp (handleSpdmChunkResponse response id)
      (fun _ c' => c'.world = c.world ∧ c'.negotiateInfo = c.negotiateInfo ∧
        ∃ p data, chunkIn c.largeChunk response = some (p, data) ∧ StoredChunk c p data c')
      (fun _ c' => c'.world = c.world) c := by
  refine twp_seq (twp_seq (twp_parseRest total_parseHeader (fun header rest hheader => ?_)
    (twp_seq rfl)))
  refine twp_seq (twp_seq (twp_guardElse (fun _ => ?_) rfl))
  refine twp_ite (fun _ => twp_seq ?_) fun _ => twp_ite (fun _ => ?_) fun _ => rfl
  · refine twp_mono (twp_readChunkResponse rest c) (fun r c₁ hread => ?_) fun _ _ h => h.elim
    obtain ⟨rfl, rfl⟩ | ⟨p, data, left, hparse, rfl, rfl⟩ := hread
    · exact twp_seq rfl
    have hlen := parseChunkResponse_length hparse
    have hin : chunkIn c.largeChunk response = some (p, data) := by
      rw [chunkIn, hheader]
      exact Outcome.returned_eq_some.2 ⟨left, hparse⟩
    have hmessage : ∀ c' : SpdmContext,
        c'.chunkContext.transferredSize = c.chunkContext.transferredSize + data.length →
        c'.chunkContext.chunkMessageData = (storeChunk data c).chunkContext.chunkMessageData →
        largeMessage c' = largeMessage c ++ data := fun c' htransferred hdata => by
      rw [largeMessage, htransferred, hdata]
      exact bufTake_bufWrite _ _ _
    refine twp_seq (twp_seq (twp_guardElse (fun _ => twp_seq ?_) rfl))
    refine twp_ite (fun hfirst => ?_) fun hnext => ?_
    · -- the size is announced here, and checked against what was stored already
      refine twp_mono (twp_acceptFirstChunk p _) (fun _ c₂ hsize => ?_) fun _ _ h => by rw [h]; rfl
      obtain ⟨size, hsome, hmax, hpos, rfl⟩ := hsize
      refine twp_seq (twp_ite (fun _ => ?_) fun _ => ?_)
      · refine twp_guardElse (fun hend => ?_) rfl
        exact ⟨rfl, rfl, p, data, hin, rfl, hfirst.1.trans hfirst.2.symm, rfl, hmessage _ rfl rfl,
          rfl, by rw [if_pos hfirst.2]; exact hsome, hmax, .inl (by simpa using hend)⟩
      · refine twp_guardElse (fun hmore => ?_) rfl
        exact ⟨rfl, rfl, p, data, hin, rfl, hfirst.1.trans hfirst.2.symm, rfl, hmessage _ rfl rfl,
          rfl, by rw [if_pos hfirst.2]; exact hsome, hmax,
          .inr ⟨by simpa using hmore, by omega⟩⟩
    · refine twp_mono (twp_acceptNextChunk p _) (fun _ c₂ haccept => ?_)
        fun _ _ h => by rw [h]; rfl
      obtain ⟨hseq, hpos, rfl⟩ := haccept
      have hzero : c.chunkContext.chunkSeqNum ≠ 0 := fun h => hnext ⟨hseq.trans h, h⟩
      refine twp_seq (twp_ite (fun _ => ?_) fun hlast => ?_)
      · refine twp_guardElse (fun hend => ?_) rfl
        exact ⟨rfl, rfl, p, data, hin, rfl, hseq, rfl, hmessage _ rfl rfl, rfl,
          by rw [if_neg hzero]; rfl, (hc.more hzero).2, .inl (by simpa using hend)⟩
      · refine twp_guardElse (fun hmore => ?_) rfl
        have hdata := hpos (by simpa using hlast)
        exact ⟨rfl, rfl, p, data, hin, rfl, hseq, rfl, hmessage _ rfl rfl, rfl,
          by rw [if_neg hzero]; rfl, (hc.more hzero).2, .inr ⟨by simpa using hmore, by omega⟩⟩
  · exact twp_mono (twp_spdmHandleErrorResponseMain id response c) (fun _ _ h => h.elim)
      fun _ _ h => h

end

/-! ## §2. A large response. -/

def askChunk (crypto : Bool) : SpdmResult Bytes := do
  let c ← read
  let request ← writeInto c.build.config.senderBufferSize
    (encodeChunkGet c.negotiateInfo.spdmVersionSel c.largeChunk
      ⟨c.chunkRspHandle, c.chunkContext.chunkSeqNum⟩)
  sendSingleMessage none request false
  mapErr Prod.fst (receiveSingleMessage none (spdmDataTransferSize c.build.config) crypto)

def fetchTurn (sessionId : Option Nat) (crypto : Bool) (_ : Unit) :
    SpdmResult (Turn Unit Unit) := do
  let response ← askChunk crypto
  mapErr (fun _ => .receiveFail) (handleSpdmChunkResponse response sessionId)
  let c ← read
  if c.chunkContext.chunkMessageSize ≤ c.chunkContext.transferredSize then ret (.done ())
  else ret (.again ())

theorem receiveLargeResponse_eq_loop {sessionId : Option Nat} {n : Nat} :
    receiveLargeResponse sessionId crypto n = loop (fetchTurn sessionId crypto) .receiveFail
      n () := by
  induction n with
  | zero => rfl
  | succ n ih =>
    rw [loop, receiveLargeResponse, ih]
    unfold fetchTurn askChunk
    simp only [bind_assoc, ite_turn]

def receivedChunk (crypto : Bool) (c : SpdmContext) : Option (ChunkPayload × Bytes) :=
  match askChunk crypto c with
  | .ok response _ => chunkIn c.largeChunk response
  | _ => none

def nextChunkGet (c : SpdmContext) : Bytes :=
  encodeChunkGet c.negotiateInfo.spdmVersionSel c.largeChunk
    ⟨c.chunkRspHandle, c.chunkContext.chunkSeqNum⟩

structure Asks (c : SpdmContext) : Prop where
  fits : (nextChunkGet c).length ≤ c.build.config.senderBufferSize
  single : tooLargeForOnePacket c (nextChunkGet c) = false
  packet : ∃ packet, c.transportEncap.encap (nextChunkGet c) c.build.config.senderBufferSize false =
    .ok packet
  sent : c.world.sendResults.headD true = true

def InTime (crypto : Bool) (c : SpdmContext) : Prop := crypto = true → ctExponent c < 64

def Timely (crypto : Bool) (c : SpdmContext) : Prop := Asks c → InTime crypto c

theorem sendChunkGet_of_asks (h : Asks c) :
    ∃ c₁, sendSingleMessage none (nextChunkGet c) false c = .ok () c₁ ∧ c₁.build = c.build ∧
      c₁.negotiateInfo = c.negotiateInfo := by
  obtain ⟨packet, hpacket⟩ := h.packet
  have hencap : encap (nextChunkGet c) c.build.config.senderBufferSize c = .ok packet c := by
    rw [encap, read_bind, hpacket]
    rfl
  have hsend : ∃ c₁, deviceSend packet c = .ok () c₁ ∧ c₁.build = c.build ∧
      c₁.negotiateInfo = c.negotiateInfo := by
    rw [deviceSend, read_bind, h.sent]
    exact ⟨_, rfl, rfl, rfl⟩
  obtain ⟨c₁, hsend, hkept⟩ := hsend
  have hsingle : (!tooLargeForOnePacket c (nextChunkGet c)) = true := by rw [h.single]; rfl
  exact ⟨c₁, bind_eq_ok.2 ⟨c, c, rfl, bind_eq_ok.2 ⟨(), c, guardElse_of hsingle,
    bind_eq_ok.2 ⟨(), c, guardElse_of rfl, bind_eq_ok.2 ⟨packet, c, hencap, hsend⟩⟩⟩⟩, hkept⟩

theorem asks_of_sendChunkGet (hfits : (nextChunkGet c).length ≤ c.build.config.senderBufferSize)
    {u : Unit} (h : sendSingleMessage none (nextChunkGet c) false c = .ok u c') : Asks c := by
  rw [sendSingleMessage, read_bind] at h
  obtain ⟨_, c₁, hguard, h⟩ := bind_eq_ok.1 h
  obtain ⟨hsingle, rfl⟩ := guardElse_eq_ok.1 hguard
  obtain ⟨_, c₂, happ, h⟩ := bind_eq_ok.1 h
  obtain ⟨-, rfl⟩ := guardElse_eq_ok.1 happ
  obtain ⟨packet, c₃, hencap, hsend⟩ := bind_eq_ok.1 h
  obtain ⟨hpacket, rfl⟩ := liftResult_eq_ok.1 hencap
  rw [deviceSend, read_bind] at hsend
  obtain ⟨_, c₄, -, hsend⟩ := bind_eq_ok.1 hsend
  exact ⟨hfits, by simpa using hsingle, ⟨packet, hpacket⟩, (guardElse_eq_ok.1 hsend).1⟩

theorem twp_askChunk (hcrypto : Timely crypto c) :
    twp (askChunk crypto) (fun _ c' => Asks c ∧ RoundTrip c c' ∧
        c'.world.inbox.length < c.world.inbox.length)
      (fun _ c' => RoundTrip c c') c := by
  refine twp_seq (twp_seq (twp_writeInto (fun hfits => twp_seq ?_) ⟨StepRel.refl _, by omega⟩))
  refine twp_mono (@twp_sendSingleMessage _ none _ nofun _ false).with_run
    (fun _ c₁ hout => ?_) fun _ _ hout => hout.2.roundTrip
  obtain ⟨hrun, hout⟩ := hout
  have hasks := asks_of_sendChunkGet hfits hrun
  have hcrypto₁ : InTime crypto c₁ := fun h => by
    rw [ctExponent, hout.channel.negotiateInfo]
    exact hcrypto hasks h
  rw [twp_mapErr, ← hout.channel.build]
  refine twp_mono (@twp_receiveSingleMessage _ none _ nofun _ le_rfl _ hcrypto₁ rfl)
    (fun _ _ hin => ⟨hasks, hout.then_in hin.1, ?_⟩) fun _ _ hin => hout.then_in hin
  rw [← hout.inbox]
  exact hin.2

theorem askChunk_of_late (hasks : Asks c) (hcrypto : ¬InTime crypto c)
    (hchecks : c.build.overflowChecks = true) : askChunk crypto c = .panic := by
  obtain ⟨c₁, hsend, hbuild, hnegotiate⟩ := sendChunkGet_of_asks hasks
  obtain ⟨rfl, hlarge⟩ := not_forall.1 hcrypto
  rw [askChunk, read_bind, writeInto, bind_assoc, ← nextChunkGet,
    bind_of_ok (guardElse_of (decide_eq_true hasks.fits)), ret_bind, bind_of_ok hsend, mapErr,
    receiveSingleMessage, read_bind, timeoutFor, bind_assoc, read_bind, if_pos rfl, sizeShl,
    bind_assoc, read_bind, hbuild, hchecks, ctExponent, hnegotiate, ← ctExponent,
    decide_eq_false hlarge]
  rfl

omit [Crypto] in
theorem Fetching.packet (h : Fetching c) (hpacket : Packet c c') :
    Fetching c' := by
  constructor
  · rw [hpacket.chunkContext]
    exact h.fresh
  · rw [hpacket.chunkContext, hpacket.channel.build]
    exact h.more

omit [Crypto] in
theorem StoredChunk.packet {c₁ : SpdmContext}
    (h : StoredChunk c₁ p data c') (hpacket : Packet c c₁) : StoredChunk c p data c' := by
  have hchunk := hpacket.chunkContext
  have hbuild := hpacket.channel.build
  have hmessage : largeMessage c₁ = largeMessage c := by rw [largeMessage, hchunk, largeMessage]
  exact ⟨h.build.trans hbuild, hchunk ▸ h.seqNum, hchunk ▸ h.next, hmessage ▸ h.message,
    hchunk ▸ h.transferred, hchunk ▸ h.announced, hbuild ▸ h.size_le, h.progress⟩

structure Fetched (crypto : Bool) (c : SpdmContext) (t : Turn Unit Unit) (c' : SpdmContext) :
    Prop where
  asked : Asks c
  outbox : c'.world.outbox.length ≤ c.world.outbox.length + 1
  inbox : c'.world.inbox.length < c.world.inbox.length
  negotiateInfo : c'.negotiateInfo = c.negotiateInfo
  stored : ∃ p data, receivedChunk crypto c = some (p, data) ∧ StoredChunk c p data c'
  verdict : t = if c'.chunkContext.chunkMessageSize ≤ c'.chunkContext.transferredSize
    then .done () else .again ()

theorem twp_fetchTurn (hc : Fetching c)
    (hcrypto : Timely crypto c) (id : Option Nat) :
    twp (fetchTurn id crypto ()) (Fetched crypto c)
      (fun _ c' => c'.world.outbox.length ≤ c.world.outbox.length + 1) c := by
  refine twp_seq (twp_mono (twp_askChunk hcrypto).with_run (fun response c₁ hask => ?_)
    fun _ _ h => h.2.outbox)
  obtain ⟨hrun, hasks, htrip, hinbox⟩ := hask
  have hlarge : c₁.largeChunk = c.largeChunk := by
    rw [largeChunk, htrip.channel.negotiateInfo, largeChunk]
  refine twp_seq (twp_mapErr.2 (twp_mono (twp_handleSpdmChunkResponse
    (hc.packet htrip.toPacket) response id) (fun _ c₂ hstore => ?_) fun _ c₂ hworld => ?_))
  · obtain ⟨hworld, hnegotiate, p, data, hchunk, hstored⟩ := hstore
    have hreceived : receivedChunk crypto c = some (p, data) := by
      rw [receivedChunk, hrun]
      exact hlarge ▸ hchunk
    have hstep : ∀ t, t = (if c₂.chunkContext.chunkMessageSize ≤ c₂.chunkContext.transferredSize
        then .done () else .again ()) → Fetched crypto c t c₂ := fun t ht =>
      ⟨hasks, by rw [hworld]; exact htrip.outbox, by rw [hworld]; exact hinbox,
        hnegotiate.trans htrip.channel.negotiateInfo, ⟨p, data, hreceived,
        hstored.packet htrip.toPacket⟩, ht⟩
    refine twp_seq (twp_ite (fun h => hstep _ ?_) fun h => hstep _ ?_)
    · rw [if_pos h]
    · rw [if_neg h]
  · rw [hworld]
    exact htrip.outbox

/-! ## §3. The fetch as a whole. -/

omit [Crypto] in
theorem StoredChunk.fetching
    (h : StoredChunk c p data c')
    (hmore : c'.chunkContext.transferredSize < c'.chunkContext.chunkMessageSize) :
    Fetching c' := by
  constructor
  · intro hzero
    rw [h.next] at hzero
    omega
  · intro _
    rw [h.build]
    exact ⟨hmore, h.size_le⟩

structure Assembled (chunks : List (ChunkPayload × Bytes)) (c : SpdmContext) : Prop where
  numbered : chunks.map (·.1.chunkSeqNum) = List.range chunks.length
  content : largeMessage c = chunks.flatMap (·.2)
  announced : ∃ first, chunks.head? = some first ∧
    first.1.largeMessageSize = some (largeMessage c).length
  bounded : (largeMessage c).length ≤ c.build.config.maxSpdmMsgSize

structure Assembling (chunks : List (ChunkPayload × Bytes)) (c : SpdmContext) : Prop where
  fetching : Fetching c
  count : c.chunkContext.chunkSeqNum = chunks.length
  numbered : chunks.map (·.1.chunkSeqNum) = List.range chunks.length
  content : largeMessage c = chunks.flatMap (·.2)
  announced : ∀ first, chunks.head? = some first →
    first.1.largeMessageSize = some c.chunkContext.chunkMessageSize

omit [Crypto] in
theorem Assembling.stored {chunks : List (ChunkPayload × Bytes)} (h : Assembling chunks c)
    (hstored : StoredChunk c p data c') :
    (chunks ++ [(p, data)]).map (·.1.chunkSeqNum) = List.range (chunks ++ [(p, data)]).length ∧
      largeMessage c' = (chunks ++ [(p, data)]).flatMap (·.2) ∧
      ∃ first, (chunks ++ [(p, data)]).head? = some first ∧
        first.1.largeMessageSize = some c'.chunkContext.chunkMessageSize := by
  refine ⟨?_, ?_, ?_⟩
  · simp [h.numbered, List.range_succ, hstored.seqNum, h.count]
  · simp [hstored.message, h.content]
  · have hann := hstored.announced
    cases chunks with
    | nil =>
      rw [if_pos (by simpa using h.count)] at hann
      exact ⟨(p, data), rfl, hann⟩
    | cons first rest =>
      have hcount : c.chunkContext.chunkSeqNum ≠ 0 := by simp [h.count]
      rw [if_neg hcount] at hann
      exact ⟨first, rfl, by rw [hann]; exact h.announced first rfl⟩

def receivedChunks (sessionId : Option Nat) (crypto : Bool) (n : Nat) (c : SpdmContext) :
    List (Option (ChunkPayload × Bytes)) :=
  trace (fetchTurn sessionId crypto) (fun _ => receivedChunk crypto) n () c

def startedFetch : SpdmChunkContext := { idleChunk with chunkStatus := .chunkGetAndResponse }

omit [Crypto] in
theorem assembling_start (h : c.chunkContext = startedFetch) :
    Assembling [] c := by
  refine ⟨⟨fun _ => by rw [h]; rfl, fun hseq => absurd ?_ hseq⟩, by rw [h]; rfl, rfl, ?_, nofun⟩
  · rw [h]
    rfl
  · rw [largeMessage, h]
    rfl

theorem Fetched.timely {t : Turn Unit Unit}
    (h : Fetched crypto c t c') (htime : Timely crypto c) : Timely crypto c' := fun _ hcrypto => by
  rw [ctExponent, h.negotiateInfo]
  exact htime h.asked hcrypto

theorem Fetched.again {a : Unit}
    (h : Fetched crypto c (.again a) c') :
    c'.chunkContext.transferredSize < c'.chunkContext.chunkMessageSize := by
  by_contra hle
  have hverdict := h.verdict
  rw [if_pos (by omega)] at hverdict
  cases hverdict

theorem Fetched.done {b : Unit}
    (h : Fetched crypto c (.done b) c') :
    c'.chunkContext.transferredSize = c'.chunkContext.chunkMessageSize := by
  obtain ⟨p, data, -, hstored⟩ := h.stored
  obtain hend | ⟨hmore, -⟩ := hstored.progress
  · exact hend
  · have hverdict := h.verdict
    rw [if_neg (by omega)] at hverdict
    cases hverdict

theorem receiveLargeResponse_assembled {id : Option Nat} {n : Nat} {u : Unit}
    (hc : c.chunkContext = startedFetch) (hcrypto : Timely crypto c)
    (hrun : receiveLargeResponse id crypto n c = .ok u c') :
    ∃ chunks, receivedChunks id crypto n c = chunks.map some ∧ Assembled chunks c' := by
  rw [receiveLargeResponse_eq_loop] at hrun
  let J (h : List (Option (ChunkPayload × Bytes))) (_ : Unit) (c : SpdmContext) : Prop :=
    Timely crypto c ∧ ∃ chunks, h = chunks.map some ∧ Assembling chunks c
  let K (h : List (Option (ChunkPayload × Bytes))) (_ : Unit) (c : SpdmContext) : Prop :=
    ∃ chunks, h = chunks.map some ∧ Assembled chunks c
  refine loop_trace (J := J) (K := K) ?_ ?_
    ⟨hcrypto, [], rfl, assembling_start hc⟩ hrun
  · rintro _ _ c _ c' ⟨htime, chunks, rfl, hasm⟩ hturn
    have hstep := (twp_fetchTurn hasm.fetching htime id).of_ok hturn
    obtain ⟨p, data, hreceived, hstored⟩ := hstep.stored
    obtain ⟨hnumbered, hcontent, first, hfirst, hsize⟩ := hasm.stored hstored
    refine ⟨hstep.timely htime, chunks ++ [(p, data)], by simp [hreceived],
      hstored.fetching hstep.again, by simp [hstored.next, hasm.count], hnumbered, hcontent,
      fun first' hfirst' => ?_⟩
    obtain rfl : first = first' := Option.some.inj (hfirst.symm.trans hfirst')
    exact hsize
  · rintro _ _ c _ c' ⟨htime, chunks, rfl, hasm⟩ hturn
    have hstep := (twp_fetchTurn hasm.fetching htime id).of_ok hturn
    obtain ⟨p, data, hreceived, hstored⟩ := hstep.stored
    obtain ⟨hnumbered, hcontent, first, hfirst, hsize⟩ := hasm.stored hstored
    have hlen : (largeMessage c').length = c'.chunkContext.chunkMessageSize := by
      rw [← hstep.done]
      exact bufTake_length
    refine ⟨chunks ++ [(p, data)], by simp [hreceived], hnumbered, hcontent,
      ⟨first, hfirst, by rw [hlen]; exact hsize⟩, ?_⟩
    rw [hlen, hstored.build]
    exact hstored.size_le

structure WithinRounds (crypto : Bool) (sent : Nat) (c : SpdmContext) : Prop where
  fetching : Fetching c
  timely : Timely crypto c
  rounds : c.world.outbox.length + c.build.config.maxSpdmMsgSize ≤
    sent + c.chunkContext.transferredSize

theorem fetchTurn_rounds {crypto : Bool} {sent : Nat} (id : Option Nat) (a : Unit)
    (c : SpdmContext) (hc : WithinRounds crypto sent c) :
    twp (fetchTurn id crypto a) (TurnPost (fun _ => WithinRounds crypto sent)
        (fun _ c => c.world.inbox.length) (fun _ c' => c'.world.outbox.length ≤ sent)
        c.world.inbox.length)
      (fun _ c' => c'.world.outbox.length ≤ sent) c := by
  have hlt := hc.fetching.lt
  have hrounds := hc.rounds
  refine twp_mono (twp_fetchTurn hc.fetching hc.timely id) (fun t c' hstep => ?_)
    fun _ _ hout => by omega
  have hout := hstep.outbox
  cases t with
  | done b =>
    show c'.world.outbox.length ≤ sent
    omega
  | again b =>
    obtain ⟨p, data, -, hstored⟩ := hstep.stored
    have hmore := hstep.again
    refine ⟨⟨hstored.fetching hmore, hstep.timely hc.timely, ?_⟩, hstep.inbox⟩
    have hgrown := hstored.transferred
    rw [hstored.build]
    obtain hend | ⟨-, hpos⟩ := hstored.progress
    · omega
    · omega

def withChecks (checks : Bool) (c : SpdmContext) : SpdmContext :=
  { c with build := { c.build with overflowChecks := checks } }

/-- What a fetch should do, whatever is received: it ends by itself after at
most as many rounds as a message may have bytes, no build aborts or sees an
overflow, and what it gives is what the chunks carry. -/
structure FetchSafe (id : Option Nat) (crypto : Bool) (c : SpdmContext) : Prop where
  ends : ∀ n, c.world.inbox.length < n → receiveLargeResponse id crypto n c =
    receiveLargeResponse id crypto (c.world.inbox.length + 1) c
  noPanic : ∀ checks, receiveLargeResponse id crypto (c.world.inbox.length + 1)
    (withChecks checks c) ≠ .panic
  rounds : ∀ c', Ran (receiveLargeResponse id crypto (c.world.inbox.length + 1)) c c' →
    c'.world.outbox.length ≤ c.world.outbox.length + c.build.config.maxSpdmMsgSize
  content : ∀ u c', receiveLargeResponse id crypto (c.world.inbox.length + 1) c = .ok u c' →
    ∃ chunks, receivedChunks id crypto (c.world.inbox.length + 1) c = chunks.map some ∧
      Assembled chunks c'

omit [Crypto] in
theorem withinRounds_start (hc : c.chunkContext = startedFetch) (hcrypto : Timely crypto c) :
    WithinRounds crypto (c.world.outbox.length + c.build.config.maxSpdmMsgSize) c := by
  refine ⟨(assembling_start hc).fetching, hcrypto, ?_⟩
  rw [hc]
  exact le_rfl

theorem twp_receiveLargeResponse {id : Option Nat} (hc : c.chunkContext = startedFetch)
    (hcrypto : Timely crypto c) :
    twp (receiveLargeResponse id crypto (c.world.inbox.length + 1))
      (fun _ c' => c'.world.outbox.length ≤ c.world.outbox.length + c.build.config.maxSpdmMsgSize)
      (fun _ c' => c'.world.outbox.length ≤ c.world.outbox.length + c.build.config.maxSpdmMsgSize)
      c := by
  rw [receiveLargeResponse_eq_loop]
  exact twp_loop (fetchTurn_rounds id) (withinRounds_start hc hcrypto)
    (Nat.lt_succ_self c.world.inbox.length)

theorem fetchSafe_iff {id : Option Nat}
    (hc : c.chunkContext = startedFetch) : FetchSafe id crypto c ↔ Timely crypto c := by
  constructor
  · intro hsafe hasks
    by_contra hcrypto
    have hpanic : askChunk crypto (withChecks true c) = .panic :=
      askChunk_of_late ⟨hasks.fits, hasks.single, hasks.packet, hasks.sent⟩ hcrypto rfl
    refine hsafe.noPanic true ?_
    rw [receiveLargeResponse_eq_loop, loop, fetchTurn, bind_assoc, bind_apply, hpanic]
  · intro hcrypto
    refine ⟨fun n hn => ?_, fun checks => ?_, fun c' hran => ?_, fun u c' hok =>
      receiveLargeResponse_assembled hc hcrypto hok⟩
    · rw [receiveLargeResponse_eq_loop, receiveLargeResponse_eq_loop]
      exact loop_eq_of_lt (fun a s h => (fetchTurn_rounds id a s h).wp)
        (withinRounds_start hc hcrypto) hn (Nat.lt_succ_self _)
    · have hchecked : Timely crypto (withChecks checks c) := fun h =>
        hcrypto ⟨h.fits, h.single, h.packet, h.sent⟩
      exact (@twp_receiveLargeResponse (withChecks checks c) crypto _ id hc hchecked).ne_panic
    · exact hran.of_wp (twp_receiveLargeResponse hc hcrypto).wp

end Requester

end Spdm
