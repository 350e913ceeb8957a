/-
  Spdm.Responder.Chunks — what a chunk request may do (`handle_spdm_chunk_get`,
  `handle_spdm_chunk_send`).
-/
import Spdm.Responder.ChunkBuffer
import Spdm.Responder.Service

namespace Spdm

open Effect Codec

variable {α : Type} {e : SpdmStatus} {code : UInt8} {c c' : SpdmContext} {rest bytes : Bytes}
    {p : ChunkPayload}

namespace Responder

open SpdmContext SpdmRequestResponseCode SpdmErrorCode

/-! ## §1. CHUNK_GET. -/

def ExpectedChunk (c : SpdmContext) (bytes : Bytes) : Prop :=
  c.chunkContext.chunkStatus = .chunkGetAndResponse ∧
    ∃ p, payloadOf (parseChunkGet c.largeChunk) c.negotiateInfo.spdmVersionSel bytes = some p ∧
      p.chunkSeqNum = c.chunkContext.chunkSeqNum ∧ p.handle = c.chunkRspHandle

def chunkGetUnread (c : SpdmContext) (bytes : Bytes) : Bool :=
  match parseHeader bytes with
  | .ok header rest =>
    header.version == c.negotiateInfo.spdmVersionSel && header.version.atLeast .spdmVersion12 &&
      (parseChunkGet c.largeChunk rest).returned.isNone
  | _ => true

def RefusedAt {α : Type} (c : SpdmContext) (o : Outcome SpdmContext Refusal α) : Prop :=
  ∃ e m, o = .err (e, some m) c ∧ codeOf m = some spdmResponseError ∧ m.length = 4

theorem demand_of_true (c : SpdmContext) :
    demand true e code c = .ok () c := rfl

theorem refusedAt_demand (c : SpdmContext) :
    RefusedAt c (demand false e code c) := ⟨e, _, rfl, rfl, rfl⟩

theorem RefusedAt.bind {β : Type} {m : Handler α} (h : RefusedAt c (m c))
    (k : α → Handler β) : RefusedAt c ((m >>= k) c) := by
  obtain ⟨e, msg, hm, hmsg⟩ := h
  exact ⟨e, msg, bind_of_err hm, hmsg⟩

theorem RefusedAt.twp {m : Handler α} {Q : α → SpdmContext → Prop}
    {E : Refusal → SpdmContext → Prop} (h : RefusedAt c (m c)) (hE : ∀ r, Brief 4 r → E r c) :
    twp m Q E c := by
  obtain ⟨e, msg, hm, -, hlength⟩ := h
  unfold Effect.twp
  rw [hm]
  refine hE _ fun b hb => ?_
  cases hb
  exact hlength.le

theorem demandChunks_eq (c : SpdmContext) :
    (servesChunks c = true ∧ demandChunks c = .ok () c) ∨
      (servesChunks c = false ∧ RefusedAt c (demandChunks c)) := by
  unfold servesChunks demandChunks
  rw [read_bind]
  cases chunkNegotiated c with
  | false => exact .inr ⟨rfl, (refusedAt_demand c).bind _⟩
  | true =>
    cases (c.runtimeInfo.connectionState != .notStarted &&
        c.runtimeInfo.connectionState != .afterVersion) with
    | false => exact .inr ⟨rfl, refusedAt_demand c⟩
    | true => exact .inl ⟨rfl, rfl⟩

theorem demandExpectedChunk_of_some {left : Bytes} {p : ChunkGetPayload}
    (h : parseChunkGet c.largeChunk rest = .ok p left) :
    ((c.chunkContext.chunkStatus = .chunkGetAndResponse ∧
        p.chunkSeqNum = c.chunkContext.chunkSeqNum ∧ p.handle = c.chunkRspHandle) ∧
        demandExpectedChunk rest c = .ok () c) ∨ RefusedAt c (demandExpectedChunk rest c) := by
  have hparse : (parse (parseChunkGet c.largeChunk) rest : Handler _) c = .ok (some p) c := by
    rw [parse, h]
    rfl
  unfold demandExpectedChunk
  rw [read_bind, bind_of_ok hparse]
  dsimp only
  by_cases hstatus : c.chunkContext.chunkStatus = .chunkGetAndResponse
  · rw [hstatus, beq_self_eq_true]
    cases hnext : (p.chunkSeqNum == c.chunkContext.chunkSeqNum && p.handle == c.chunkRspHandle) with
    | false => exact .inr (refusedAt_demand c)
    | true =>
      simp only [Bool.and_eq_true, beq_iff_eq] at hnext
      exact .inl ⟨⟨rfl, hnext⟩, rfl⟩
  · rw [beq_eq_false_iff_ne.2 hstatus]
    exact .inr ((refusedAt_demand c).bind _)

theorem demandChunkGet_of_ok {header : SpdmMessageHeader}
    (h : parseHeader bytes = .ok header rest) :
    demandChunkGet bytes c = (demand (header.version == c.negotiateInfo.spdmVersionSel)
        .invalidMsgField spdmErrorVersionMismatch >>= fun _ =>
      demand (header.version.atLeast .spdmVersion12) .invalidMsgField spdmErrorUnsupportedRequest
        >>= fun _ => demandExpectedChunk rest) c := by
  have hparse : (parseRest parseHeader bytes : Handler _) c = .ok (some (header, rest)) c := by
    rw [parseRest, h]
    rfl
  unfold demandChunkGet
  rw [read_bind, bind_of_ok hparse]

theorem payloadOf_of_ok {p : Parser α} {v : SpdmVersion}
    {header : SpdmMessageHeader} (h : parseHeader bytes = .ok header rest)
    (hversion : (header.version == v) = true) : payloadOf p v bytes = (p rest).returned := by
  rw [payloadOf, headerRest, h]
  dsimp only
  rw [if_pos hversion, Option.bind_some]

theorem demandChunkGet_of_unread
    (h : chunkGetUnread c bytes = true) :
    demandChunkGet bytes c = .ok () c ∧ ¬ ExpectedChunk c bytes := by
  unfold chunkGetUnread at h
  cases hparse : parseHeader bytes with
  | panic => exact absurd hparse (total_parseHeader bytes)
  | err e left =>
    have hnone : (parseRest parseHeader bytes : Handler _) c = .ok none c := by
      rw [parseRest, hparse]
      rfl
    constructor
    · rw [demandChunkGet, read_bind, bind_of_ok hnone]
      rfl
    · rintro ⟨_, p, hp, _⟩
      simp [payloadOf, headerRest, hparse] at hp
  | ok header rest =>
    rw [hparse] at h
    simp only [Bool.and_eq_true, Option.isNone_iff_eq_none] at h
    obtain ⟨⟨hversion, hatLeast⟩, hnone⟩ := h
    constructor
    · rw [demandChunkGet_of_ok hparse, hversion, bind_of_ok (demand_of_true c), hatLeast,
        bind_of_ok (demand_of_true c), demandExpectedChunk, read_bind, parse]
      cases hget : parseChunkGet c.largeChunk rest with
      | ok p left => simp [hget, Outcome.returned] at hnone
      | err e left => rfl
      | panic => exact absurd hget (total_parseChunkGet _)
    · rintro ⟨_, p, hp, _⟩
      rw [payloadOf_of_ok hparse hversion, hnone] at hp
      cases hp

theorem demandChunkGet_of_read
    (h : chunkGetUnread c bytes = false) :
    (ExpectedChunk c bytes ∧ demandChunkGet bytes c = .ok () c) ∨
      RefusedAt c (demandChunkGet bytes c) := by
  unfold chunkGetUnread at h
  cases hparse : parseHeader bytes with
  | panic => rw [hparse] at h; cases h
  | err e left => rw [hparse] at h; cases h
  | ok header rest =>
    rw [hparse] at h
    dsimp only at h
    rw [demandChunkGet_of_ok hparse]
    cases hversion : (header.version == c.negotiateInfo.spdmVersionSel) with
    | false => exact .inr ((refusedAt_demand c).bind _)
    | true =>
      rw [bind_of_ok (demand_of_true c)]
      cases hatLeast : header.version.atLeast .spdmVersion12 with
      | false => exact .inr ((refusedAt_demand c).bind _)
      | true =>
        rw [hversion, hatLeast] at h
        obtain ⟨p, hp⟩ := Option.isSome_iff_exists.1 (Option.isNone_eq_false_iff.1 h)
        obtain ⟨left, hget⟩ := Outcome.returned_eq_some.1 hp
        rw [bind_of_ok (demand_of_true c)]
        refine (demandExpectedChunk_of_some hget).imp_left fun ⟨⟨hstatus, hnext⟩, hpass⟩ => ?_
        exact ⟨⟨hstatus, p, (payloadOf_of_ok hparse hversion).trans hp, hnext⟩, hpass⟩

/-- **A chunk goes out, and the transfer moves, only where it was asked
for**; everything else is answered with an ERROR and ends the transfer. -/
def ChunkGetSound (c : SpdmContext) (bytes : Bytes) : Prop :=
  ExpectedChunk c bytes ∨ ∃ e m c', handleSpdmChunkGet bytes c = .err (e, some m) c' ∧
    codeOf m = some spdmResponseError ∧ c'.chunkContext = idleChunk

abbrev Speaks {α : Type} (m : Handler α) : Prop :=
  Ends (fun _ => True) (fun r => ∃ m, r.2 = some m ∧ codeOf m = some spdmResponseError) m

theorem speaks_refuse (e : SpdmStatus) (code : UInt8) :
    Speaks (refuse e code : Handler α) := fun _ => ⟨_, rfl, rfl⟩

theorem speaks_demand {b : Bool} : Speaks (demand b e code) := by
  cases b with
  | false => exact speaks_refuse e code
  | true => exact .ret trivial

theorem speaks_orRefuse {m : SpdmResult α} : Speaks (orRefuse m e code) := by
  refine .seq (EndsIn.attempt_any m) fun r => ?_
  cases r with
  | ok a => exact .ret trivial
  | error _ => exact speaks_refuse e code

theorem speaks_sizeSub {a b : Nat} : Speaks (sizeSub a b) :=
  .seq .read fun _ => .seq (.assert _) fun _ => .ret trivial

theorem speaks_emitChunk : Speaks emitChunk := by
  have hfits : ∀ room, Speaks (demandLargeResponseFits room) := fun room =>
    .seq .read fun _ => .seq speaks_sizeSub fun _ => .seq speaks_sizeSub fun _ =>
      speaks_demand
  refine .seq .read fun c => .seq ?_ fun _ => ?_
  · split_ifs
    · exact hfits _
    · exact .ret trivial
  · exact .seq .read fun _ => .seq speaks_sizeSub fun _ => .seq speaks_sizeSub fun _ =>
      .seq speaks_orRefuse fun _ => .seq (.assert _) fun _ => .seq (.update _) fun _ =>
      .ret trivial

theorem handleSpdmChunkGet_eq (bytes : Bytes) (c : SpdmContext) :
    handleSpdmChunkGet bytes c = match writeSpdmChunkGetResponse bytes c with
      | .ok response c' => .ok response c'
      | .err r c' => .err r (dropChunk c')
      | .panic => .panic := by
  unfold handleSpdmChunkGet
  rw [bind_apply, attempt]
  cases writeSpdmChunkGetResponse bytes c <;> rfl

theorem RefusedAt.chunkGetSound
    (h : RefusedAt c (writeSpdmChunkGetResponse bytes c)) : ChunkGetSound c bytes := by
  obtain ⟨e, m, herr, hcode, -⟩ := h
  refine .inr ⟨e, m, dropChunk c, ?_, hcode, rfl⟩
  rw [handleSpdmChunkGet_eq, herr]

def subtracts (c : SpdmContext) (a b : Nat) : Bool := !c.build.overflowChecks || decide (b ≤ a)

def maxLargeResponseSize (c : SpdmContext) : Nat :=
  wordSub (wordSub (responseRoom c) offsetOfSpdmChunkInChunkResponse * (2 ^ 16 - 2) +
    responseRoom c)
    offsetOfSpdmChunkInFirstChunkResponse

def tooManyChunks (c : SpdmContext) : Bool :=
  c.chunkContext.chunkSeqNum == 0 &&
    decide (maxLargeResponseSize c < c.chunkContext.chunkMessageSize)

def measuresChunks (c : SpdmContext) : Bool :=
  c.chunkContext.chunkSeqNum != 0 ||
    subtracts c (responseRoom c) offsetOfSpdmChunkInChunkResponse &&
      subtracts c (wordSub (responseRoom c) offsetOfSpdmChunkInChunkResponse * (2 ^ 16 - 2) +
        responseRoom c) offsetOfSpdmChunkInFirstChunkResponse

def headTooLong (c : SpdmContext) : Bool :=
  subtracts c c.chunkContext.chunkMessageSize c.chunkContext.transferredSize &&
    subtracts c (responseRoom c) (chunkOffset c) &&
    decide (c.build.config.maxSpdmMsgSize < chunkOffset c)

def refusesChunk (c : SpdmContext) : Bool :=
  measuresChunks c && (tooManyChunks c || headTooLong c)

abbrev Fails {ε α : Type} (m : Prog SpdmContext ε α) (c : SpdmContext) : Prop :=
  twp m (fun _ _ => False) (fun _ _ => True) c

theorem fails_iff {m : Handler α} : Fails m c ↔ ∃ r c', m c = .err r c' := by
  unfold Fails twp
  cases m c <;> simp

theorem fails_bind {ε β : Type} {m : Prog SpdmContext ε β} {f : β → Prog SpdmContext ε α}
    (hf : ∀ b c, ¬ Fails (f b) c) : Fails (m >>= f) c ↔ Fails m c := by
  unfold Fails
  rw [twp_bind]
  exact ⟨fun h => twp_mono h (fun b c hb => hf b c hb) fun _ _ h => h,
    fun h => twp_mono h (fun _ _ h => h.elim) fun _ _ h => h⟩

theorem fails_orRefuse {m : SpdmResult α} : Fails (orRefuse m e code) c ↔ Fails m c := by
  unfold Fails orRefuse
  rw [twp_bind, twp_attempt]
  rfl

theorem twp_sizeSub_iff {ε : Type} {Q : Nat → SpdmContext → Prop} {E : ε → SpdmContext → Prop}
    {a b : Nat} :
    twp (sizeSub a b) Q E c ↔ subtracts c a b = true ∧ Q (wordSub a b) c := by
  unfold sizeSub
  rw [twp_bind, twp_read, twp_bind, twp_assert]
  rfl

theorem fails_encodeChunk {room : Nat} : Fails (encodeChunk code p room) c ↔
    room < 12 + if p.largeMessageSize.isSome then 4 else 0 := by
  have hlength : (encodeHeader c.negotiateInfo.spdmVersionSel code ++
      encodeChunkHead c.largeChunk p).length = 12 + if p.largeMessageSize.isSome then 4 else 0 := by
    rw [List.length_append, encodeChunkHead_length]
    show 2 + (10 + _) = _
    omega
  unfold encodeChunk
  rw [Fails, twp_bind, twp_read]
  refine (fails_bind fun head c' => ?_).trans ?_
  · unfold Fails loadChunk
    simp
  · rw [writeInto, ← hlength]
    refine (fails_bind fun _ _ => ?_).trans ?_
    · simp [Fails]
    · unfold Fails guardElse
      split <;> simp_all

theorem fails_writeChunk : Fails writeChunk c ↔ headTooLong c = true := by
  have hhead : chunkOffset c = 12 + if (if c.chunkContext.chunkSeqNum == 0 then
      some c.chunkContext.chunkMessageSize else none).isSome then 4 else 0 := by
    unfold chunkOffset
    split <;> rfl
  unfold Fails writeChunk headTooLong
  simp only [twp_bind, twp_read, twp_sizeSub_iff, Bool.and_eq_true, and_assoc, decide_eq_true_eq]
  refine and_congr_right fun _ => and_congr_right fun _ => ?_
  rw [hhead]
  exact (twp_bind _ _).symm.trans ((fails_bind fun _ _ => by simp [Fails]).trans
    (fails_orRefuse.trans fails_encodeChunk))

theorem fails_emitChunk : Fails emitChunk c ↔ refusesChunk c = true := by
  unfold Fails emitChunk
  rw [twp_bind, twp_read, twp_bind]
  unfold refusesChunk measuresChunks tooManyChunks
  by_cases hseq : c.chunkContext.chunkSeqNum = 0
  · rw [if_pos hseq, demandLargeResponseFits]
    simp only [twp_bind, twp_read, twp_sizeSub_iff, hseq]
    by_cases hlarge : c.chunkContext.chunkMessageSize ≤ maxLargeResponseSize c
    · have h : ¬ maxLargeResponseSize c < c.chunkContext.chunkMessageSize := by omega
      unfold maxLargeResponseSize at hlarge
      rw [decide_eq_true hlarge]
      simpa [demand, h, and_assoc] using fun _ _ => fails_writeChunk
    · have h : maxLargeResponseSize c < c.chunkContext.chunkMessageSize := by omega
      unfold maxLargeResponseSize at hlarge
      rw [decide_eq_false hlarge]
      simp [demand, refuse, h]
  · rw [if_neg hseq, twp_ret]
    simpa [hseq] using fails_writeChunk
/-- **A chunk goes out only where it was asked for exactly when the request
can be read**, or the connection takes no chunk requests, or there is no
chunk to send. -/
theorem chunkGet_sound_iff (c : SpdmContext) (bytes : Bytes) :
    ChunkGetSound c bytes ↔
      servesChunks c = false ∨ chunkGetUnread c bytes = false ∨ refusesChunk c = true := by
  have hwrite : writeSpdmChunkGetResponse bytes =
    demandChunks >>= fun _ => demandChunkGet bytes >>= fun _ => emitChunk := rfl
  obtain ⟨hserves, hdemand⟩ | ⟨hserves, hrefused⟩ := demandChunks_eq c
  · cases hunread : chunkGetUnread c bytes with
    | false =>
      refine iff_of_true ?_ (.inr (.inl rfl))
      obtain ⟨hexpected, -⟩ | hrefused := demandChunkGet_of_read hunread
      · exact .inl hexpected
      · refine RefusedAt.chunkGetSound ?_
        rw [hwrite, bind_of_ok hdemand]
        exact hrefused.bind _
    | true =>
      obtain ⟨hpass, hnot⟩ := demandChunkGet_of_unread hunread
      have hrun : writeSpdmChunkGetResponse bytes c = emitChunk c := by
        rw [hwrite, bind_of_ok hdemand, bind_of_ok hpass]
      unfold ChunkGetSound
      rw [handleSpdmChunkGet_eq, hrun, ← fails_emitChunk, fails_iff]
      simp only [hserves, hnot, false_or, Bool.true_eq_false]
      have hspeaks : wp emitChunk _ _ c := speaks_emitChunk c
      cases hemit : emitChunk c with
      | ok response c' => simp
      | panic => simp
      | err r c' =>
        rw [wp_of_err hemit] at hspeaks
        obtain ⟨m, hm, hcode⟩ := hspeaks
        refine iff_of_true ⟨r.1, m, dropChunk c', ?_, hcode, rfl⟩ ⟨r, c', rfl⟩
        rw [← hm]
  · refine iff_of_true (RefusedAt.chunkGetSound ?_) (.inl hserves)
    rw [hwrite]
    exact hrefused.bind _

namespace SmallRun

open SmallBackend

def shortChunkGet : Bytes := encodeHeader .spdmVersion12 spdmRequestChunkGet

theorem chunkGet_answers_unread : ∃ c, Reachable c ∧ ¬ ChunkGetSound c shortChunkGet ∧
    ∃ m c', handleSpdmChunkGet shortChunkGet c = .ok m c' ∧
      codeOf m = some spdmResponseChunkResponse ∧
      c'.chunkContext.chunkSeqNum = c.chunkContext.chunkSeqNum + 1 := by
  have hreach : Reachable chunkResponder := ⟨_, started_smallResponder _ _, .refl⟩
  have hrun : ((serveAll (fun _ => true) [] (smallNegotiation
      SpdmRequestCapabilityFlags.chunkCap 136) chunkResponder).map fun c =>
        (handleSpdmChunkGet shortChunkGet c).okWith fun m c' =>
          codeOf m == some spdmResponseChunkResponse &&
            c'.chunkContext.chunkSeqNum == c.chunkContext.chunkSeqNum + 1 &&
            c.chunkContext.chunkStatus != .chunkGetAndResponse) = some true := by
    decide +kernel
  obtain ⟨c, hc, hemits⟩ := Option.map_eq_some_iff.1 hrun
  obtain ⟨m, c', hget, hfacts⟩ := Outcome.exists_of_okWith hemits
  simp only [Bool.and_eq_true, beq_iff_eq, bne_iff_ne] at hfacts
  obtain ⟨⟨hcode, hseq⟩, hidle⟩ := hfacts
  refine ⟨c, reachable_serveAll hreach hc, ?_, m, c', hget, hcode, hseq⟩
  rintro (⟨hstatus, -⟩ | ⟨e, m, c', herr, -⟩)
  · exact hidle hstatus
  · rw [hget] at herr
    cases herr

end SmallRun

/-! ## §2. Requests carried by requests. -/

structure Completed (request : Bytes) (c : SpdmContext) : Prop where
  sending : c.chunkContext.chunkStatus = .chunkSendAndAck
  whole : c.chunkContext.transferredSize = c.chunkContext.chunkMessageSize
  buffered : bufTake c.chunkContext.transferredSize c.chunkContext.chunkMessageData = request

def sentSeqNum (large : Bool) (bytes : Bytes) : Option Nat :=
  match parseHeader bytes with
  | .ok _ rest => (parseChunkHead large rest).returned.map fun p => p.2.2.1
  | _ => none

structure Completes (bytes request : Bytes) (c c' : SpdmContext) : Prop where
  completed : Completed request c'
  large : c'.largeChunk = c.largeChunk
  sent : sentSeqNum c.largeChunk bytes = some c'.chunkContext.chunkSeqNum
  next : c'.chunkContext.chunkSeqNum = c.chunkContext.chunkSeqNum + 1
  same : ∀ {m : Bytes}, Completed m c → request = m

theorem bufTake_bufWrite_nil {n : Nat} {buf : Bytes} :
    bufTake n (bufWrite n [] buf) = bufTake n buf := by
  unfold bufWrite
  rw [bufTake_of_le (by simp)]
  simp

theorem sizeSub_eq_ok {ε : Type} {a b n : Nat}
    (h : (sizeSub a b : Prog SpdmContext ε Nat) c = .ok n c') : n = wordSub a b ∧ c' = c := by
  have hsub : wp (sizeSub a b : Prog SpdmContext ε Nat)
      (fun n c' => n = wordSub a b ∧ c' = c) (fun _ _ => True) c := wp_sizeSub ⟨rfl, rfl⟩
  have hn := wp_ok hsub h
  exact hn

theorem storeSent_eq_ok {q : ChunkPayload}
    (h : readChunkSend.storeSent p rest c = .ok (some q) c') :
    q = p ∧ c' = storeChunk (rest.take p.chunkSize) c := by
  unfold readChunkSend.storeSent at h
  rw [read_bind] at h
  split_ifs at h
  · cases h
  · obtain ⟨_, _, hassert, h⟩ := bind_eq_ok.1 h
    obtain ⟨-, rfl⟩ := assert_eq_ok.1 hassert
    cases h
    exact ⟨rfl, rfl⟩

theorem readChunkSend_eq_ok
    (h : readChunkSend rest c = .ok (some p) c') :
    (∃ attributes left, parseChunkHead c.largeChunk rest =
        .ok (attributes, p.handle, p.chunkSeqNum, p.chunkSize) left) ∧
      ∃ data : Bytes, (c.chunkContext.chunkStatus ≠ .idle → data.length ≤ wordSub
          c.chunkContext.chunkMessageSize c.chunkContext.transferredSize ∧ c' = storeChunk data c) ∧
        c'.chunkContext.chunkStatus = c.chunkContext.chunkStatus := by
  unfold readChunkSend at h
  rw [read_bind] at h
  obtain ⟨r, c₀, hparse, h⟩ := bind_eq_ok.1 h
  obtain ⟨rfl, hread⟩ := parseRest_eq_ok hparse
  cases r with
  | none => cases h
  | some r =>
    obtain ⟨q, left⟩ := r
    obtain ⟨⟨attributes, handle, seqNum, size⟩, l₁, hhead, hq⟩ := bind_eq_ok.1 (hread q left rfl)
    obtain ⟨largeSize, l₂, -, hq⟩ := bind_eq_ok.1 hq
    obtain ⟨rfl, rfl⟩ := ret_eq_ok.1 hq
    dsimp only at h
    split_ifs at h with hfirst hidle
    · obtain ⟨_, c₁, hupdate, h⟩ := bind_eq_ok.1 h
      obtain ⟨rfl, rfl⟩ := storeSent_eq_ok h
      cases hupdate
      exact ⟨⟨attributes, l₁, hhead⟩, [], fun hbusy => absurd hidle.1 hbusy, rfl⟩
    · cases h
    · obtain ⟨missing, c₁, hsub, h⟩ := bind_eq_ok.1 h
      obtain ⟨rfl, rfl⟩ := sizeSub_eq_ok hsub
      split_ifs at h with hmissing
      · cases h
      · obtain ⟨rfl, rfl⟩ := storeSent_eq_ok h
        refine ⟨⟨attributes, l₁, hhead⟩, _, fun _ => ⟨?_, rfl⟩, rfl⟩
        exact (List.length_take_le _ _).trans (Nat.not_lt.1 hmissing)

theorem acceptChunk_eq_ok_of_last {u : Unit}
    (hlast : contains p.attributes lastChunk = true) (h : acceptChunk p c = .ok u c') :
    c.chunkContext.chunkStatus = .chunkSendAndAck ∧
      p.chunkSeqNum = c.chunkContext.chunkSeqNum + 1 ∧
      c' = c.setChunk { c.chunkContext with chunkSeqNum := c.chunkContext.chunkSeqNum + 1 } := by
  unfold acceptChunk at h
  rw [read_bind] at h
  cases hstatus : c.chunkContext.chunkStatus with
  | idle =>
    rw [hstatus] at h
    dsimp only at h
    rw [startChunkSend, read_bind] at h
    obtain ⟨size, _, hsize, hstart⟩ := bind_eq_ok.1 h
    obtain ⟨_, _, hdemand, -⟩ := bind_eq_ok.1 hstart
    have hnot := (demand_eq_ok hdemand).1
    simp [startsTransfer, hlast] at hnot
  | chunkGetAndResponse =>
    rw [hstatus] at h
    cases h
  | chunkSendAndAck =>
    rw [hstatus] at h
    dsimp only at h
    rw [continueChunkSend, read_bind] at h
    obtain ⟨_, _, hroom, hcontinue⟩ := bind_eq_ok.1 h
    obtain ⟨-, rfl⟩ := demand_eq_ok hroom
    obtain ⟨hdemand, rfl⟩ := demand_eq_ok hcontinue
    simp only [Bool.and_eq_true, beq_iff_eq] at hdemand
    exact ⟨rfl, hdemand.1.1.1, rfl⟩

theorem takeRequest_completes {request : Bytes}
    (h : takeRequest bytes c = .ok (some request) c') : Completes bytes request c c' := by
  obtain ⟨rest, c₀, hheader, hrest⟩ := bind_eq_ok.1 h
  obtain ⟨⟨header, hparse⟩, hc₀⟩ : (∃ header, parseHeader bytes = .ok header rest) ∧ c₀ = c :=
    wp_ok (Q := fun rest c₀ => (∃ header, parseHeader bytes = .ok header rest) ∧ c₀ = c)
      (E := fun _ _ => True)
      (twp_readChunkHeader (fun header rest hparse _ => ⟨⟨header, hparse⟩, rfl⟩)
        fun _ _ => trivial).wp hheader
  subst hc₀
  obtain ⟨o, c₁, hread, hpayload⟩ := bind_eq_ok.1 hrest
  obtain ⟨p, c₂, hexpect, hchunk⟩ := bind_eq_ok.1 hpayload
  obtain ⟨rfl, rfl⟩ := expect_eq_ok hexpect
  obtain ⟨⟨attributes, left, hhead⟩, data, hstored, hstatus⟩ :=
    readChunkSend_eq_ok (orRefuse_eq_ok hread)
  obtain ⟨_, c₃, haccept, hend⟩ := bind_eq_ok.1 hchunk
  by_cases hlast : contains p.attributes lastChunk = true
  · rw [if_pos hlast, read_bind] at hend
    obtain ⟨_, c₄, hdemand, hret⟩ := bind_eq_ok.1 hend
    obtain ⟨hwhole, rfl⟩ := demand_eq_ok hdemand
    cases hret
    obtain ⟨hsending, hseq, rfl⟩ := acceptChunk_eq_ok_of_last hlast haccept
    obtain ⟨hdata, rfl⟩ := hstored (by rw [← hstatus, hsending]; decide)
    refine ⟨⟨hsending, by simpa using hwhole, rfl⟩, rfl, ?_, rfl, fun {m} hm => ?_⟩
    · rw [sentSeqNum, hparse]
      dsimp only
      rw [hhead]
      exact congrArg some hseq
    · -- nothing is missing from a complete transfer, so the chunk is empty
      have hnothing : data = [] := by
        rw [hm.whole] at hdata
        have hzero := hdata.trans (wordSub_le (Nat.le_refl _))
        rw [Nat.sub_self] at hzero
        exact List.length_eq_zero_iff.1 (Nat.le_zero.1 hzero)
      subst hnothing
      rw [← hm.buffered]
      exact bufTake_bufWrite_nil
  · rw [if_neg hlast] at hend
    cases hend

section
variable [Crypto] [Device]

theorem dispatchOnce_congr {f g : Dispatch}
    {sessionId : Option Nat}
    (h : ∀ request c', takeRequest bytes c = .ok (some request) c' →
      f sessionId request c' = g sessionId request c') :
    dispatchOnce f sessionId bytes c = dispatchOnce g sessionId bytes c := by
  have hwrite : writeSpdmChunkSendResponse f sessionId bytes c =
      writeSpdmChunkSendResponse g sessionId bytes c := by
    rw [writeSpdmChunkSendResponse, writeSpdmChunkSendResponse, bind_apply, bind_apply]
    cases htake : takeRequest bytes c with
    | ok request c' =>
      cases request with
      | none => rfl
      | some request =>
        have hattempt : (attempt (f sessionId request) : Handler _) c' =
            attempt (g sessionId request) c' := by
          unfold attempt
          rw [h request c' htake]
        exact (bind_apply _ _ _).trans (hattempt ▸ (bind_apply _ _ _).symm)
    | err r c' => rfl
    | panic => rfl
  rw [dispatchOnce_eq, dispatchOnce_eq]
  cases serviceOf c sessionId bytes with
  | none => rfl
  | some service =>
    cases service <;> try rfl
    -- CHUNK_SEND is the one handler that dispatches
    show handleSpdmChunkSend f sessionId bytes c = handleSpdmChunkSend g sessionId bytes c
    unfold handleSpdmChunkSend
    rw [bind_apply, bind_apply, attempt, attempt, hwrite]

/-- **No request is nested more than three deep**: what would serve a fourth
level is never asked, so any depth of dispatch is dispatch at depth three. -/
theorem dispatch_depth (below : Dispatch)
    (sessionId : Option Nat) (bytes : Bytes) (c : SpdmContext) :
    dispatchOnce (dispatchOnce (dispatchOnce below)) sessionId bytes c =
      dispatchAt 3 sessionId bytes c := by
  rw [dispatchAt_eq_dispatchOnce, dispatchAt_eq_dispatchOnce, dispatchAt_eq_dispatchOnce]
  refine dispatchOnce_congr fun request c₁ h₁ => dispatchOnce_congr fun request' c₂ h₂ =>
    dispatchOnce_congr fun request'' c₃ h₃ => ?_
  have hfirst := takeRequest_completes h₁
  have hsecond := takeRequest_completes h₂
  have hthird := takeRequest_completes h₃
  -- the second level leaves the request in the buffer, under its own number
  obtain rfl := hsecond.same hfirst.completed
  have hsent := hsecond.sent.symm.trans (hsecond.large ▸ hthird.sent)
  rw [Option.some.injEq, hthird.next] at hsent
  omega

/-! ## §3. Requests that do not abort. -/

omit [Crypto] [Device] in
theorem twp_demandChunkGet {Q : Unit → SpdmContext → Prop} {E : Refusal → SpdmContext → Prop}
    (h : ExpectedChunk c bytes ∨ chunkGetUnread c bytes = true → Q () c)
    (hE : ∀ r, Brief 4 r → E r c) : twp (demandChunkGet bytes) Q E c := by
  have hok : demandChunkGet bytes c = .ok () c → Q () c → twp (demandChunkGet bytes) Q E c :=
    fun hrun hQ => by
      unfold twp
      rwa [hrun]
  cases hunread : chunkGetUnread c bytes with
  | true => exact hok (demandChunkGet_of_unread hunread).1 (h (.inr hunread))
  | false =>
    obtain ⟨hexpected, hpass⟩ | hrefused := demandChunkGet_of_read hunread
    · exact hok hpass (h (.inl hexpected))
    · exact hrefused.twp hE

/-- **A CHUNK_GET that is not refused finds room for a chunk**, and a sequence
number left. -/
def GetFits (c : SpdmContext) (bytes : Bytes) : Prop :=
  servesChunks c = true → ExpectedChunk c bytes ∨ chunkGetUnread c bytes = true →
    chunkFits c = true

omit [Crypto] [Device] in
theorem twp_handleSpdmChunkGet (hc : ChunkBounded c)
    (hsize : spdmSenderDataTransferSize c.build.config ≤ c.build.config.maxSpdmMsgSize)
    (hsender : offsetOfSpdmChunkInFirstChunkResponse ≤ spdmSenderDataTransferSize c.build.config)
    (hfits : GetFits c bytes) :
    twp (handleSpdmChunkGet bytes)
      (fun response _ => response.length ≤ c.build.config.maxSpdmMsgSize)
      (fun r _ => Brief 4 r) c := by
  have hwrite : twp (writeSpdmChunkGetResponse bytes)
      (fun response _ => response.length ≤ c.build.config.maxSpdmMsgSize)
      (fun r _ => Brief 4 r) c :=
    twp_seq (twp_demandChunks (fun hserves => twp_seq (twp_demandChunkGet
      (fun hasked => twp_emitChunk hc hsize hsender (hfits hserves hasked))
      fun _ hbrief => hbrief)) fun _ hbrief => hbrief)
  refine twp_seq (twp_attempt.2 ?_)
  exact twp_mono hwrite (fun _ _ h => h) fun _ _ h => h

theorem twp_dispatchOnce {dispatch : Dispatch}
    {sessionId : Option Nat} {Q : Option Bytes → SpdmContext → Prop}
    {E : Refusal → SpdmContext → Prop}
    (h : ∀ service, serviceOf c sessionId bytes = some service →
      twp (service.handle dispatch sessionId bytes) Q E c) (hE : E (.unsupportedCap, none) c) :
    twp (dispatchOnce dispatch sessionId bytes) Q E c := by
  unfold twp at h ⊢
  rw [dispatchOnce_eq]
  cases hservice : serviceOf c sessionId bytes with
  | none => exact hE
  | some service => exact h service hservice

/-- The handlers of requests other than the chunk requests answer this one,
if it is theirs. -/
def OthersAnswer (max : Nat) (sessionId : Option Nat) (request : Bytes) (c : SpdmContext) : Prop :=
  ∀ service, serviceOf c sessionId request = some service → service ≠ .chunkSend →
    service ≠ .chunkGet → ∀ dispatch,
      AnswersWithin max (service.handle dispatch sessionId request) c

variable {b : Build} {sessionId : Option Nat} {request : Bytes}

theorem build_of_accepted {c₁ c₂ : SpdmContext} (hc : Orderly b c) (hacc : Accepted c c₁)
    (depth : Nat) (hran : Ran (dispatchAt depth sessionId request) c₁ c₂) :
    c₂.build = c₁.build := by
  have horder : Orderly b c₁ := hc.wire hacc.wire hacc.bounded
  refine (hran.of_wp (wp_dispatchAt_orderly depth horder fun _ =>
    sendFits_of_busy (by rw [hacc.sending]; simp) _)).build.trans horder.build.symm

theorem answersWithin_dispatchAt (depth : Nat) (hc : Orderly b c) (hdone : Completed request c)
    (hsize : spdmSenderDataTransferSize b.config ≤ b.config.maxSpdmMsgSize)
    (hsender : offsetOfSpdmChunkInFirstChunkResponse ≤ spdmSenderDataTransferSize b.config)
    (hget : GetFits c request) (hothers : OthersAnswer b.config.maxSpdmMsgSize sessionId
      request c) :
    AnswersWithin b.config.maxSpdmMsgSize (dispatchAt (depth + 2) sessionId request) c := by
  have hmax : 5 ≤ b.config.maxSpdmMsgSize := le_trans (by decide) (hsender.trans hsize)
  have hsend : ∀ {c₁ : SpdmContext} (depth : Nat), Orderly b c₁ →
      c₁.chunkContext.chunkStatus = .chunkSendAndAck →
      (∀ request' c₂, takeRequest request c₁ = .ok (some request') c₂ → Accepted c₁ c₂ →
        AnswersWithin b.config.maxSpdmMsgSize (dispatchAt depth sessionId request') c₂) →
      AnswersWithin b.config.maxSpdmMsgSize
        (handleSpdmChunkSend (dispatchAt depth) sessionId request) c₁ := by
    rintro c₁ depth hc₁ hsending hdispatch
    obtain rfl := hc₁.build
    exact answersWithin_handleSpdmChunkSend hc₁.bounded hsize hmax
      (sendFits_of_busy (by rw [hsending]; simp) _)
      (fun request c₂ c₃ hacc hran => build_of_accepted hc₁ hacc depth hran) hdispatch
  rw [dispatchAt_eq_dispatchOnce]
  refine twp_dispatchOnce (fun service hservice => ?_) fun b hb => by cases hb
  by_cases hchunk : service = .chunkSend
  · subst hchunk
    refine hsend _ hc hdone.sending fun request' c₂ htake hacc => ?_
    have hfirst := takeRequest_completes htake
    obtain rfl := hfirst.same hdone
    rw [dispatchAt_eq_dispatchOnce]
    refine twp_dispatchOnce (fun service' hservice' => ?_) fun b hb => by cases hb
    have hsame : serviceOf c₂ sessionId request' = serviceOf c sessionId request' := by
      have hwire := hacc.wire
      unfold WireStep at hwire
      rw [hwire]
      rfl
    obtain rfl : Service.chunkSend = service' :=
      Option.some.inj (hservice.symm.trans (hsame.symm.trans hservice'))
    refine hsend _ (hc.wire hacc.wire hacc.bounded) hacc.sending fun request'' c₃ htake' _ => ?_
    -- the sequence number of the request is used up
    have hsecond := takeRequest_completes htake'
    have hsent := hfirst.sent.symm.trans (hfirst.large ▸ hsecond.sent)
    rw [Option.some.injEq, hsecond.next] at hsent
    omega
  · by_cases hchunkGet : service = .chunkGet
    · subst hchunkGet
      obtain rfl := hc.build
      refine twp_seq (twp_mono (twp_handleSpdmChunkGet hc.bounded hsize hsender hget)
        (fun response _ hresponse => ?_) fun r _ hbrief => hbrief.mono (Nat.le_of_succ_le hmax))
      rw [twp_ret]
      intro b hb
      cases hb
      exact hresponse
    · exact hothers service hservice hchunk hchunkGet _

/-- **The chunk buffer.**  Along every run in which each CHUNK_SEND fits, the
buffer is in order after every packet; and from a buffer in order neither
chunk handler aborts: CHUNK_GET when it is refused or there is room for a
chunk, CHUNK_SEND when it fits and the other handlers answer the request it
completes. -/
theorem chunkBuffer_safe {c₀ c : SpdmContext} (hstart : Started c₀)
    (hchunk : c₀.build.chunkCap = true)
    (hsize : spdmSenderDataTransferSize c₀.build.config ≤ c₀.build.config.maxSpdmMsgSize)
    (hsender : offsetOfSpdmChunkInFirstChunkResponse ≤
      spdmSenderDataTransferSize c₀.build.config)
    (hrun : Steps (StepIf fun c => nextFits c = true) c₀ c) :
    Orderly c₀.build c ∧ ∀ c₁, Orderly c₀.build c₁ →
      (∀ bytes, GetFits c₁ bytes → handleSpdmChunkGet bytes c₁ ≠ .panic) ∧
      ∀ depth sessionId bytes, sendFits c₁ bytes = true →
        (∀ request c₂, takeRequest bytes c₁ = .ok (some request) c₂ → GetFits c₂ request ∧
          OthersAnswer c₁.build.config.maxSpdmMsgSize sessionId request c₂) →
        handleSpdmChunkSend (dispatchAt (depth + 2)) sessionId bytes c₁ ≠ .panic := by
  refine ⟨orderly_of_steps hstart hchunk hrun, fun c₁ hc₁ => ?_⟩
  obtain ⟨-, hbuild, hbounded⟩ := id hc₁
  rw [← hbuild] at hsize hsender hc₁
  refine ⟨fun bytes hfits => ?_, fun depth sessionId bytes hfits hrequest => ?_⟩
  · exact (twp_handleSpdmChunkGet hbounded hsize hsender hfits).ne_panic
  · refine (answersWithin_handleSpdmChunkSend hbounded hsize (le_trans (by decide)
      (hsender.trans hsize)) hfits (fun request c₂ c₃ hacc hran =>
      build_of_accepted hc₁ hacc (depth + 2) hran) fun request c₂ htake hacc => ?_).ne_panic
    obtain ⟨hget, hothers⟩ := hrequest request c₂ htake
    exact answersWithin_dispatchAt depth (hc₁.wire hacc.wire hacc.bounded)
      (takeRequest_completes htake).completed hsize hsender hget hothers

end

namespace SmallRun

open SmallBackend

def secondChunk : Bytes :=
  encodeHeader .spdmVersion12 spdmRequestChunkSend ++ encodeChunkHead false ⟨0, 0, 1, 2, none⟩ ++
    [5, 5]

theorem chunkBuffer_safe_first : ∃ c,
    Steps (StepIf fun c => nextFits c = true) chunkResponder c ∧
      c.chunkContext.transferredSize = 30 ∧ ChunkBounded c ∧
      handleSpdmChunkGet [] c ≠ .panic ∧
      handleSpdmChunkSend (dispatchAt 3) none secondChunk c ≠ .panic := by
  have hrun : ((serveAll nextFits [] (chunkPackets 30 (some 42)) chunkResponder).map fun c =>
      c.chunkContext.transferredSize == 30 && chunkFits c && sendFits c secondChunk &&
        (takeRequest secondChunk c).returned == some none) = some true := by
    decide +kernel
  obtain ⟨c, hc, hfacts⟩ := Option.map_eq_some_iff.1 hrun
  obtain ⟨⟨⟨htransferred, hget⟩, hsend⟩, htake⟩ :
      ((c.chunkContext.transferredSize = 30 ∧ chunkFits c = true) ∧
        sendFits c secondChunk = true) ∧ (takeRequest secondChunk c).returned = some none := by
    simpa using hfacts
  have hsteps := steps_serveAll hc
  obtain ⟨horder, hnext⟩ :=
    chunkBuffer_safe (started_smallResponder _ _) rfl (by decide) (by decide) hsteps
  obtain ⟨hget', hsend'⟩ := hnext c horder
  refine ⟨c, hsteps, htransferred, horder.bounded, hget' [] fun _ _ => hget,
    hsend' 1 none secondChunk hsend fun request c₂ hrequest => ?_⟩
  rw [hrequest] at htake
  cases htake

end SmallRun

end Responder

end Spdm
