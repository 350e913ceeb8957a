/-
  Spdm.Responder.ChunkBuffer — the buffer of a chunk transfer (`write_spdm_chunk_send_response`,
  `write_spdm_chunk_get_response`).
-/
import Spdm.Context.Small
import Spdm.Message.Total
import Spdm.Responder.Run

namespace Spdm

open Effect Codec

variable {c c' : SpdmContext} {e : SpdmStatus} {code : UInt8} {bytes : Bytes}
    {sessionId : Option Nat} {b : Build}

namespace Responder

open SpdmContext SpdmRequestResponseCode SpdmErrorCode

/-! ## §1. A buffer in order. -/

structure ChunkBounded (c : SpdmContext) : Prop where
  transferred_le : c.chunkContext.transferredSize ≤ c.chunkContext.chunkMessageSize
  size_le : c.chunkContext.chunkMessageSize ≤ c.build.config.maxSpdmMsgSize

theorem chunkBounded_dropChunk (c : SpdmContext) : ChunkBounded (dropChunk c) :=
  ⟨Nat.le_refl _, Nat.zero_le _⟩

theorem ChunkBounded.of_eq (h : ChunkBounded c)
    (hchunk : c'.chunkContext = c.chunkContext) (hbuild : c'.build = c.build) :
    ChunkBounded c' := by
  constructor
  · rw [hchunk]
    exact h.transferred_le
  · rw [hchunk, hbuild]
    exact h.size_le

def servesChunks (c : SpdmContext) : Bool :=
  chunkNegotiated c && (c.runtimeInfo.connectionState != .notStarted &&
    c.runtimeInfo.connectionState != .afterVersion)

def servesVersion (c : SpdmContext) (v : SpdmVersion) : Bool :=
  servesChunks c && v == c.negotiateInfo.spdmVersionSel &&
    c.negotiateInfo.spdmVersionSel.atLeast .spdmVersion12

def sendFits (c : SpdmContext) (bytes : Bytes) : Bool :=
  match parseHeader bytes with
  | .ok header rest =>
    match readChunkSend rest c with
    | .ok (some p) _ =>
      !servesVersion c header.version || c.chunkContext.chunkStatus != .idle ||
        p.largeMessageSize.any fun size => !startsTransfer c p size || decide (p.chunkSize ≤ size)
    | _ => true
  | _ => true

theorem sendFits_of_busy (h : c.chunkContext.chunkStatus ≠ .idle)
    (bytes : Bytes) : sendFits c bytes = true := by
  unfold sendFits
  split
  · split
    · simp [h]
    · rfl
  · rfl

def chunkOffset (c : SpdmContext) : Nat :=
  if c.chunkContext.chunkSeqNum == 0 then offsetOfSpdmChunkInFirstChunkResponse
  else offsetOfSpdmChunkInChunkResponse

def chunkFits (c : SpdmContext) : Bool :=
  decide (chunkOffset c ≤ c.negotiateInfo.reqDataTransferSizeSel) &&
    decide (c.chunkContext.chunkSeqNum < maxChunkSeqNum c)

def Brief (max : Nat) (r : Refusal) : Prop := ∀ m ∈ r.2, m.length ≤ max

theorem Brief.mono {max max' : Nat} {r : Refusal} (h : Brief max r) (hle : max ≤ max') :
    Brief max' r := fun m hm => (h m hm).trans hle

/-! ## §2. Steps that do not abort. -/

section Steps
variable {α : Type} {c : SpdmContext} {E : Refusal → SpdmContext → Prop}

theorem brief_refuse (c : SpdmContext) (e : SpdmStatus) (code : UInt8) :
    Brief 4 (e, some (errorMessage c code 0)) := fun m hm => by
  cases hm
  exact Nat.le_refl 4

theorem twp_refuse {Q : α → SpdmContext → Prop} (hE : ∀ r, Brief 4 r → E r c) :
    twp (refuse e code : Handler α) Q E c := hE _ (brief_refuse c e code)

theorem twp_demand {Q : Unit → SpdmContext → Prop} {b : Bool}
    (h : b = true → Q () c) (hE : ∀ r, Brief 4 r → E r c) : twp (demand b e code) Q E c := by
  cases b with
  | true => exact h rfl
  | false => exact twp_refuse hE

theorem twp_expect {Q : α → SpdmContext → Prop} {o : Option α}
    (h : ∀ a, o = some a → Q a c) (hE : ∀ r, Brief 4 r → E r c) : twp (expect o e code) Q E c := by
  cases o with
  | some a => exact h a rfl
  | none => exact twp_refuse hE

theorem twp_orRefuse {m : SpdmResult α} {Q : α → SpdmContext → Prop}
    (h : twp m Q (fun _ c' => ∀ r, Brief 4 r → E r c') c) : twp (orRefuse m e code) Q E c := by
  unfold orRefuse
  rw [twp_bind, twp_attempt]
  exact twp_mono h (fun _ _ h => h) fun _ _ hE => twp_refuse hE

theorem twp_demandChunks {Q : Unit → SpdmContext → Prop} (h : servesChunks c = true → Q () c)
    (hE : ∀ r, Brief 4 r → E r c) : twp demandChunks Q E c :=
  twp_seq (twp_seq (twp_demand (fun hneg => twp_demand
    (fun hstate => h (Bool.and_eq_true_iff.2 ⟨hneg, hstate⟩)) hE) hE))

theorem twp_readChunkHeader {Q : Bytes → SpdmContext → Prop}
    (h : ∀ header rest, parseHeader bytes = .ok header rest →
      servesVersion c header.version = true → Q rest c) (hE : ∀ r, Brief 4 r → E r c) :
    twp (readChunkHeader bytes) Q E c := by
  refine twp_seq (twp_demandChunks (fun hserves => twp_seq ?_) hE)
  refine twp_seq (twp_seq (twp_seq (twp_parseRest total_parseHeader
    (fun header rest hparse => ?_) (twp_seq (twp_refuse hE)))))
  refine twp_seq (twp_seq (twp_demand (fun hversion => twp_seq (twp_demand (fun hatLeast => ?_) hE))
    hE))
  exact h header rest hparse (by simp only [servesVersion, hserves, hversion, hatLeast,
    Bool.and_self])

def StoreStep (c c' : SpdmContext) : Prop :=
  c' = { c with chunkContext := { c.chunkContext with
    chunkMessageData := c'.chunkContext.chunkMessageData
    transferredSize := c'.chunkContext.transferredSize } }

theorem twp_readChunkSend (hc : ChunkBounded c) (rest : Bytes) :
    twp (readChunkSend rest)
      (fun p c' => StoreStep c c' ∧ ∀ q, p = some q → q.chunkSeqNum = 0 →
        c'.chunkContext.transferredSize = q.chunkSize)
      (fun _ _ => False) c := by
  have hstore : ∀ (p : ChunkPayload) (data : Bytes) (c₁ : SpdmContext), StoreStep c c₁ →
      c₁.chunkContext.transferredSize + p.chunkSize ≤ c.build.config.maxSpdmMsgSize →
      (p.chunkSeqNum = 0 → c₁.chunkContext.transferredSize = 0) →
      twp (readChunkSend.storeSent p data)
        (fun p c' => StoreStep c c' ∧ ∀ q, p = some q → q.chunkSeqNum = 0 →
          c'.chunkContext.transferredSize = q.chunkSize)
        (fun _ _ => False) c₁ := by
    intro p data c₁ hstep hroom hfirst
    have hbuild : c₁.build = c.build := by
      unfold StoreStep at hstep
      rw [hstep]
    refine twp_seq (twp_ite (fun _ => ⟨hstep, fun q h => by cases h⟩) fun hlen => ?_)
    refine twp_seq (twp_assert.2 ⟨by simpa [hbuild] using hroom, ?_⟩)
    refine twp_seq ⟨?_, fun q hq hzero => ?_⟩
    · unfold StoreStep at *
      rw [hstep]
      rfl
    · cases hq
      show c₁.chunkContext.transferredSize + (data.take p.chunkSize).length = p.chunkSize
      rw [hfirst hzero, List.length_take]
      omega
  refine twp_seq (twp_seq (twp_parseRest ?_ (fun p rest _ => ?_) ⟨rfl, fun q h => by cases h⟩))
  · refine .bind (total_parseChunkHead _) fun head => ?_
    refine .bind ?_ fun _ => .ret _
    by_cases hfirst : head.2.2.1 = 0
    · rw [if_pos hfirst]
      exact total_optionalUintLe 4
    · rw [if_neg hfirst]
      exact .ret _
  refine twp_ite (fun hzero => twp_ite (fun hidle => ?_) fun _ => ⟨rfl, fun q h => by cases h⟩)
    fun hnext => ?_
  · exact twp_seq (hstore p rest _ rfl (by simpa using hidle.2) fun _ => rfl)
  · refine twp_seq (twp_sizeSub hc.transferred_le ?_)
    refine twp_ite (fun _ => ⟨rfl, fun q h => by cases h⟩) fun hsize => ?_
    have hle := wordSub_le hc.transferred_le
    have hmax := hc.size_le
    have htr := hc.transferred_le
    exact hstore p rest c rfl (by omega) fun h => absurd h hnext

structure Accepted (c c' : SpdmContext) : Prop where
  wire : WireStep c c'
  bounded : ChunkBounded c'
  sending : c'.chunkContext.chunkStatus = .chunkSendAndAck

theorem StoreStep.wire (h : StoreStep c c') : WireStep c c' := by
  unfold StoreStep at h
  unfold WireStep
  rw [h]

theorem twp_acceptChunk {c₁ : SpdmContext} {p : ChunkPayload} (hc : ChunkBounded c)
    (hstore : StoreStep c c₁)
    (hfirst : p.chunkSeqNum = 0 → c₁.chunkContext.transferredSize = p.chunkSize)
    (hfits : c.chunkContext.chunkStatus = .idle → ∃ size, p.largeMessageSize = some size ∧
      (startsTransfer c p size = true → p.chunkSize ≤ size)) :
    twp (acceptChunk p) (fun _ c' => Accepted c c') (fun r c' => WireStep c c' ∧ Brief 4 r) c₁ := by
  have hwire : WireStep c c₁ := hstore.wire
  have hbuild := hwire.build_eq
  have hstatus : c₁.chunkContext.chunkStatus = c.chunkContext.chunkStatus := by
    unfold StoreStep at hstore
    rw [hstore]
  have hsize : c₁.chunkContext.chunkMessageSize = c.chunkContext.chunkMessageSize := by
    unfold StoreStep at hstore
    rw [hstore]
  unfold acceptChunk
  rw [twp_bind, twp_read]
  cases hst : c₁.chunkContext.chunkStatus with
  | idle =>
    obtain ⟨size, hlarge, hle⟩ := hfits (hstatus.symm.trans hst)
    refine twp_seq (twp_seq (twp_orAbort.2 ⟨size, hlarge, ?_⟩))
    refine twp_seq (twp_demand (fun hok => ?_) fun _ hbrief => ⟨hwire, hbrief⟩)
    have hstarts : startsTransfer c p size = true := by
      unfold startsTransfer at hok ⊢
      rwa [hbuild] at hok
    simp only [startsTransfer, Bool.and_eq_true, beq_iff_eq, decide_eq_true_eq] at hok
    refine ⟨StepRel.trans hwire rfl, ⟨?_, ?_⟩, rfl⟩
    · show c₁.chunkContext.transferredSize ≤ size
      rw [hfirst hok.1.1.1.1]
      exact hle hstarts
    · exact hok.1.1.1.2.2
  | chunkSendAndAck =>
    refine twp_seq (twp_seq (twp_demand (fun _ => ?_) fun _ hbrief => ⟨hwire, hbrief⟩))
    refine twp_seq (twp_seq (twp_demand (fun hok => ?_)
      fun _ hbrief => ⟨StepRel.trans hwire rfl, hbrief⟩))
    simp only [Bool.and_eq_true, decide_eq_true_eq] at hok
    refine ⟨StepRel.trans hwire rfl, ⟨hok.2, ?_⟩, hst⟩
    show c₁.chunkContext.chunkMessageSize ≤ c₁.build.config.maxSpdmMsgSize
    rw [hsize, hbuild]
    exact hc.size_le
  | chunkGetAndResponse => exact twp_refuse fun _ hbrief => ⟨hwire, hbrief⟩

end Steps

/-! ## §3. CHUNK_SEND. -/

theorem twp_takeRequest (hc : ChunkBounded c)
    (hfits : sendFits c bytes = true) :
    twp (takeRequest bytes) (fun _ c' => Accepted c c') (fun r c' => WireStep c c' ∧ Brief 4 r)
      c := by
  refine twp_seq (twp_readChunkHeader (fun header rest hparse hserves => ?_)
    fun _ hbrief => ⟨rfl, hbrief⟩)
  have hread := twp_readChunkSend hc rest
  unfold twp at hread
  unfold sendFits at hfits
  rw [hparse] at hfits
  dsimp only at hfits
  cases hrun : readChunkSend rest c with
  | panic => rw [hrun] at hread; exact hread.elim
  | err e c₁ => rw [hrun] at hread; exact hread.elim
  | ok p c₁ =>
    rw [hrun] at hread hfits
    obtain ⟨hstore, hfirst⟩ := hread
    refine twp_seq (twp_orRefuse ?_)
    unfold twp
    rw [hrun]
    refine twp_seq (twp_expect (fun q hq => ?_) fun _ hbrief => ⟨hstore.wire, hbrief⟩)
    subst hq
    have hidle : c.chunkContext.chunkStatus = .idle → ∃ size, q.largeMessageSize = some size ∧
        (startsTransfer c q size = true → q.chunkSize ≤ size) := by
      intro h
      simpa [h, hserves, Option.any_eq_true, Bool.or_eq_true, imp_iff_not_or] using hfits
    refine twp_seq (twp_mono (twp_acceptChunk hc hstore (hfirst q rfl) hidle)
      (fun _ c' hacc => ?_) fun _ _ h => h)
    exact twp_ite (fun _ => twp_seq (twp_seq (twp_demand (fun _ => hacc)
      fun _ hbrief => ⟨hacc.wire, hbrief⟩))) fun _ => hacc

def AnswersWithin (max : Nat) (m : Handler (Option Bytes)) (c : SpdmContext) : Prop :=
  twp m (fun response _ => ∀ b ∈ response, b.length ≤ max) (fun r _ => Brief max r) c

theorem twp_writeChunkSendAck {size : Nat} (hmax : 4 ≤ c.build.config.maxSpdmMsgSize)
    (h : size = 0 ∨ size + offsetOfResponseInChunkSendAck c ≤ c.build.config.maxSpdmMsgSize) :
    twp (writeChunkSendAck size) (fun ack _ => ack.length ≤ c.build.config.maxSpdmMsgSize)
      (fun r _ => Brief c.build.config.maxSpdmMsgSize r) c := by
  unfold writeChunkSendAck
  rw [twp_bind, twp_read]
  refine twp_orRefuse (twp_seq (twp_seq (twp_writeInto (fun hroom => ?_)
    fun _ hbrief => hbrief.mono hmax)))
  have hhead : (encodeHeader c.negotiateInfo.spdmVersionSel spdmResponseChunkSendAck ++
      [UInt8.ofNat 0, UInt8.ofNat c.chunkReqHandle] ++
      encodeChunkSeqNum c.largeChunk c.chunkContext.chunkSeqNum).length =
        offsetOfResponseInChunkSendAck c := by
    unfold offsetOfResponseInChunkSendAck encodeChunkSeqNum encodeHeader
    cases c.largeChunk <;> rfl
  rw [hhead] at hroom
  have hfits : offsetOfResponseInChunkSendAck c + size ≤ c.build.config.maxSpdmMsgSize := by omega
  refine twp_seq (twp_assert.2 ⟨?_, twp_seq (twp_assert.2 ⟨?_, ?_⟩)⟩)
  · exact decide_eq_true (Nat.le_of_add_left_le hfits)
  · rw [decide_eq_true_eq, hhead]
    exact hfits
  · rw [twp_ret, List.length_append, hhead, bufTake_length]
    exact hfits

theorem answersWithin_answerLargeRequest (status : Except SpdmStatus Unit) {response : Option Bytes}
    (hsize : spdmSenderDataTransferSize c.build.config ≤ c.build.config.maxSpdmMsgSize)
    (hmax : 5 ≤ c.build.config.maxSpdmMsgSize)
    (hfits : ∀ m ∈ response, m.length ≤ c.build.config.maxSpdmMsgSize) :
    AnswersWithin c.build.config.maxSpdmMsgSize (answerLargeRequest status response) c := by
  have hresult : ∀ (m : Option Bytes) c', (∀ b ∈ m, b.length ≤ c.build.config.maxSpdmMsgSize) →
      AnswersWithin c.build.config.maxSpdmMsgSize (handlerResult (status, m)) c' := by
    intro m c' hm
    cases status <;> exact hm
  cases response with
  | none => exact hresult none _ hfits
  | some m =>
    have hm := hfits m rfl
    refine twp_seq (twp_ite (fun _ => ?_) fun hsmall => ?_)
    · refine twp_seq (twp_seq (twp_seq (twp_assert.2 ⟨by simpa using hm, ?_⟩)))
      rw [twp_update, twp_bind, twp_read, twp_ret]
      intro b hb
      cases hb
      -- the ERROR that announces the response has five bytes
      exact hmax
    · refine twp_seq (twp_seq (twp_seq (twp_assert.2 ⟨by simpa using hm, ?_⟩)))
      refine twp_seq (twp_mono (twp_writeChunkSendAck (by exact Nat.le_of_succ_le hmax) (.inr ?_))
        (fun ack _ hack => hresult (some ack) _ fun b hb => by cases hb; exact hack)
        fun _ _ h => h)
      have hroom : ¬ spdmSenderDataTransferSize c.build.config <
          m.length + offsetOfResponseInChunkSendAck c := by
        intro h
        exact hsmall (by simp [exceedsTransfer, h])
      show m.length + offsetOfResponseInChunkSendAck c ≤ c.build.config.maxSpdmMsgSize
      omega

theorem wp_answerLargeRequest (hc : ChunkBounded c)
    (status : Except SpdmStatus Unit) (response : Option Bytes) :
    wp (answerLargeRequest status response) (fun _ c' => WireStep c c' ∧ ChunkBounded c')
      (fun _ c' => WireStep c c') c := by
  have hrefl : WireStep c c := rfl
  have hresult : ∀ r c', WireStep c c' → ChunkBounded c' →
      wp (handlerResult r) (fun _ c' => WireStep c c' ∧ ChunkBounded c')
        (fun _ c' => WireStep c c') c' := by
    rintro ⟨_ | _, _⟩ c' hw hb
    · exact hw
    · exact ⟨hw, hb⟩
  cases response with
  | none => exact hresult _ _ hrefl hc
  | some m =>
    unfold answerLargeRequest
    rw [wp_bind, wp_read]
    refine wp_ite (fun _ => ?_) fun _ => ?_
    · unfold keepLargeResponse
      simp only [wp_bind, wp_read, wp_assert, wp_update, wp_ret, decide_eq_true_eq]
      exact fun hm => ⟨rfl, Nat.zero_le _, hm⟩
    · unfold embedResponse
      simp only [wp_bind, wp_read, wp_assert, wp_update, decide_eq_true_eq]
      intro hm
      refine wp_mono (within_writeChunkSendAck (R := fun c c' => c' = c) m.length _)
        (fun _ c' h => ?_) fun _ c' h => ?_
      · subst h
        exact hresult _ _ rfl ⟨Nat.le_refl _, hm⟩
      · subst h
        rfl

theorem answersWithin_handleSpdmChunkSend (hc : ChunkBounded c)
    (hsize : spdmSenderDataTransferSize c.build.config ≤ c.build.config.maxSpdmMsgSize)
    (hmax : 5 ≤ c.build.config.maxSpdmMsgSize)
    {dispatch : Dispatch} (hfits : sendFits c bytes = true)
    (hbuild : ∀ request c₁ c₂, Accepted c c₁ → Ran (dispatch sessionId request) c₁ c₂ →
      c₂.build = c₁.build)
    (hdispatch : ∀ request c₁, takeRequest bytes c = .ok (some request) c₁ → Accepted c c₁ →
      AnswersWithin c.build.config.maxSpdmMsgSize (dispatch sessionId request) c₁) :
    AnswersWithin c.build.config.maxSpdmMsgSize (handleSpdmChunkSend dispatch sessionId bytes)
      c := by
  have htake := twp_takeRequest hc hfits
  have hwrite : AnswersWithin c.build.config.maxSpdmMsgSize
      (writeSpdmChunkSendResponse dispatch sessionId bytes) c := by
    refine twp_seq ?_
    unfold twp at htake ⊢
    cases hrun : takeRequest bytes c with
    | panic => rw [hrun] at htake; exact htake
    | err r c₁ =>
      rw [hrun] at htake
      exact htake.2.mono (Nat.le_of_succ_le hmax)
    | ok request c₁ =>
      rw [hrun] at htake
      have hb := htake.wire.build_eq
      cases request with
      | none =>
        refine twp_seq (twp_mono (twp_writeChunkSendAck (hb ▸ Nat.le_of_succ_le hmax) (.inl rfl))
          (fun ack _ hack => ?_) fun r _ h => hb ▸ h)
        intro b hb'
        cases hb'
        exact hb ▸ hack
      | some request =>
        have hanswer := hdispatch request c₁ hrun htake
        have hsame : ∀ c₂, Ran (dispatch sessionId request) c₁ c₂ → c₂.build = c.build :=
          fun c₂ hran => (hbuild request c₁ c₂ htake hran).trans hb
        refine twp_seq (twp_attempt.2 ?_)
        unfold AnswersWithin at hanswer
        unfold twp at hanswer ⊢
        cases hans : dispatch sessionId request c₁ with
        | panic => rw [hans] at hanswer; exact hanswer
        | ok r c₂ =>
          rw [hans] at hanswer
          have hb := hsame c₂ (.inl ⟨r, hans⟩)
          have h := answersWithin_answerLargeRequest (.ok ()) (hb ▸ hsize) (hb ▸ hmax)
            (hb ▸ hanswer)
          exact hb ▸ h
        | err e c₂ =>
          rw [hans] at hanswer
          have hb := hsame c₂ (.inr ⟨e, hans⟩)
          have h := answersWithin_answerLargeRequest (.error e.1) (hb ▸ hsize) (hb ▸ hmax)
            (hb ▸ hanswer)
          exact hb ▸ h
  refine twp_seq (twp_attempt.2 ?_)
  exact twp_mono hwrite (fun _ _ h => h) fun _ _ h => h

/-! ## §4. CHUNK_GET. -/

theorem twp_writeChunk (hc : ChunkBounded c)
    (hroom : chunkOffset c ≤ responseRoom c)
    (hmax : responseRoom c ≤ c.build.config.maxSpdmMsgSize)
    (hseq : c.chunkContext.chunkSeqNum < maxChunkSeqNum c) :
    twp writeChunk (fun response _ => response.length ≤ c.build.config.maxSpdmMsgSize)
      (fun r _ => Brief 4 r) c := by
  have htr := hc.transferred_le
  have hsize := hc.size_le
  have hhead : (12 + if (if c.chunkContext.chunkSeqNum == 0
      then some c.chunkContext.chunkMessageSize else none).isSome then 4 else 0) =
        chunkOffset c := by
    unfold chunkOffset
    split <;> rfl
  refine twp_seq (twp_seq (twp_sizeSub htr (twp_seq (twp_sizeSub hroom ?_))))
  have hremaining := wordSub_le htr
  have hchunk := wordSub_le hroom
  unfold chunkOffset at hchunk
  generalize wordSub c.chunkContext.chunkMessageSize c.chunkContext.transferredSize = remaining
    at hremaining ⊢
  generalize wordSub (responseRoom c) _ = maxChunkSize at hchunk ⊢
  have hmod := Nat.mod_le (min maxChunkSize remaining) (2 ^ 32)
  refine twp_seq (twp_orRefuse (twp_encodeChunk ?_ ?_ (fun response hresponse => ?_)
    fun _ hbrief => hbrief))
  · dsimp only
    omega
  · rw [hhead]
    unfold chunkOffset at hroom ⊢
    dsimp only
    omega
  · exact twp_seq (twp_assert.2 ⟨by simpa using hseq, hresponse⟩)

theorem twp_emitChunk (hc : ChunkBounded c)
    (hsize : spdmSenderDataTransferSize c.build.config ≤ c.build.config.maxSpdmMsgSize)
    (hsender : offsetOfSpdmChunkInFirstChunkResponse ≤ spdmSenderDataTransferSize c.build.config)
    (hfits : chunkFits c = true) :
    twp emitChunk (fun response _ => response.length ≤ c.build.config.maxSpdmMsgSize)
      (fun r _ => Brief 4 r) c := by
  obtain ⟨hreq, hseq⟩ : chunkOffset c ≤ c.negotiateInfo.reqDataTransferSizeSel ∧
      c.chunkContext.chunkSeqNum < maxChunkSeqNum c := by simpa [chunkFits] using hfits
  have hoffset : chunkOffset c ≤ offsetOfSpdmChunkInFirstChunkResponse := by
    unfold chunkOffset
    split <;> decide
  have hroom : chunkOffset c ≤ responseRoom c := le_min (hoffset.trans hsender) hreq
  have hchunk := twp_writeChunk hc hroom ((min_le_left _ _).trans hsize) hseq
  refine twp_seq (twp_seq (twp_ite (fun hzero => ?_) fun _ => hchunk))
  have hfirst : offsetOfSpdmChunkInFirstChunkResponse ≤ responseRoom c := by
    simpa [chunkOffset, hzero] using hroom
  exact twp_seq (twp_seq (twp_sizeSub (le_trans (by decide) hfirst) (twp_seq (twp_sizeSub
    (hfirst.trans (Nat.le_add_left _ _)) (twp_demand (fun _ => hchunk) fun _ hbrief => hbrief)))))

theorem chunkBounded_leaveChunkMode (h : ChunkBounded c) (code : UInt8) :
    ChunkBounded (leaveChunkMode code c) := by
  unfold leaveChunkMode
  cases c.chunkContext.chunkStatus with
  | idle => exact h
  | chunkSendAndAck =>
    dsimp only
    split
    · exact ⟨Nat.le_refl _, Nat.zero_le _⟩
    · exact h
  | chunkGetAndResponse =>
    dsimp only
    split
    · exact ⟨Nat.le_refl _, Nat.zero_le _⟩
    · exact h

theorem wp_encodeChunk (hc : ChunkBounded c) {p : ChunkPayload}
    {room : Nat} (hp : p.chunkSize ≤ c.chunkContext.chunkMessageSize -
      c.chunkContext.transferredSize) :
    wp (encodeChunk code p room) (fun _ => ChunkBounded) (fun _ _ => True) c := by
  have htr := hc.transferred_le
  unfold encodeChunk writeInto loadChunk
  simp only [wp_bind, wp_read, wp_guardElse, wp_ret, wp_assert, wp_update]
  refine ⟨fun _ _ _ => ⟨?_, hc.size_le⟩, fun _ => trivial⟩
  dsimp only
  omega

theorem wp_writeChunk (hc : ChunkBounded c) :
    wp writeChunk (fun _ => ChunkBounded) (fun _ _ => True) c := by
  have hremaining := wordSub_le hc.transferred_le
  unfold writeChunk
  rw [wp_bind, wp_read, wp_bind]
  refine wp_sizeSub ((wp_bind _ _).2 (wp_sizeSub ((wp_bind _ _).2 ((wp_bind _ _).2 ?_))))
  rw [wp_attempt]
  refine wp_mono (wp_encodeChunk hc ?_) (fun _ c' hc' => ?_) fun _ _ _ => trivial
  · exact ((Nat.mod_le _ _).trans (min_le_right _ _)).trans hremaining
  · rw [wp_ret, wp_bind, wp_assert]
    intro _
    exact ⟨hc'.transferred_le, hc'.size_le⟩

theorem wp_handleSpdmChunkGet (hc : ChunkBounded c) (bytes : Bytes) :
    wp (handleSpdmChunkGet bytes) (fun _ => ChunkBounded) (fun _ => ChunkBounded) c := by
  have hstill : ∀ {α β : Type} {m : Handler α} {k : α → Handler β},
      Within (fun c c' => c' = c) m → (∀ a, wp (k a) (fun _ => ChunkBounded) (fun _ _ => True) c) →
      wp (m >>= k) (fun _ => ChunkBounded) (fun _ _ => True) c := fun hm hk => by
    rw [wp_bind]
    exact wp_mono (hm c) (fun a _ h => h ▸ hk a) fun _ _ _ => trivial
  have hwrite : wp (writeSpdmChunkGetResponse bytes) (fun _ => ChunkBounded) (fun _ _ => True)
      c := by
    refine hstill within_demandChunks fun _ => hstill within_demandChunkGet fun _ =>
      hstill .read fun c₁ => hstill ?_ fun _ => wp_writeChunk hc
    split
    · exact .bind .read fun _ => .bind within_sizeSub fun _ =>
        .bind within_sizeSub fun _ => within_demand _ _ _
    · exact .ret _
  unfold handleSpdmChunkGet
  rw [wp_bind, wp_attempt]
  exact wp_mono hwrite (fun _ _ h => h) fun _ c' _ => chunkBounded_dropChunk c'

/-! ## §5. Runs. -/

section Run
variable [Crypto] [Device]

structure Orderly (b : Build) (c : SpdmContext) : Prop where
  table : Table false c
  build : c.build = b
  bounded : ChunkBounded c

omit [Crypto] [Device] in
theorem Orderly.wire (h : Orderly b c) (hw : WireStep c c')
    (hb : ChunkBounded c') : Orderly b c' :=
  ⟨(guarded_of_wire (R := fun _ _ => True) trivial hw h.table).2, hw.build_eq.trans h.build, hb⟩

omit [Device] in
theorem Act.chunk_eq {touch : Nat → Prop} (h : Act false touch c c') :
    c'.chunkContext = c.chunkContext ∧ c'.build = c.build := by
  cases h with
  | table h =>
    cases h with
    | quiet h => exact ⟨h.chunkContext, h.build⟩
    | slot => exact ⟨rfl, rfl⟩
  | negotiates h => exact ⟨h.chunkContext, h.build⟩
  | opens => exact ⟨rfl, rfl⟩
  | last => exact ⟨rfl, rfl⟩
  | reset => exact ⟨rfl, rfl⟩

omit [Device] in
theorem Orderly.acts {touch : Nat → Prop} (h : Orderly b c)
    (hact : Steps (Act false touch) c c') : Orderly b c' := by
  refine hact.keep (fun c c' hact h => ?_) h
  obtain ⟨hchunk, hbuild⟩ := Act.chunk_eq hact
  exact ⟨h.table.act hact, hbuild.trans h.build, h.bounded.of_eq hchunk hbuild⟩

omit [Crypto] [Device] in
theorem wp_handleSpdmChunkSend (hc : Orderly b c)
    {dispatch : Dispatch} (hfits : sendFits c bytes = true)
    (hdispatch : ∀ request c₁, Orderly b c₁ → c₁.chunkContext.chunkStatus ≠ .idle →
      wp (dispatch sessionId request) (fun _ => Orderly b) (fun _ => Orderly b) c₁) :
    wp (handleSpdmChunkSend dispatch sessionId bytes) (fun _ => Orderly b) (fun _ => Orderly b)
      c := by
  -- on an error only the table and the build count: the transfer is dropped
  have hwrite : wp (writeSpdmChunkSendResponse dispatch sessionId bytes) (fun _ => Orderly b)
      (fun _ c' => Table false c' ∧ c'.build = b) c := by
    rw [writeSpdmChunkSendResponse, wp_bind]
    have hkeep : ∀ {c₁ c₂}, Orderly b c₁ → WireStep c₁ c₂ → Table false c₂ ∧ c₂.build = b :=
      fun h hw => ⟨(guarded_of_wire (R := fun _ _ => True) trivial hw h.table).2,
        hw.build_eq.trans h.build⟩
    refine wp_mono (twp_takeRequest hc.bounded hfits).wp (fun request c₁ hacc => ?_)
      fun _ c₁ hw => hkeep hc hw.1
    have hc₁ : Orderly b c₁ := hc.wire hacc.wire hacc.bounded
    cases request with
    | none =>
      unfold answerChunk
      rw [wp_bind]
      refine wp_mono (within_writeChunkSendAck (R := fun c c' => c' = c) 0 c₁) (fun _ _ h => ?_)
        fun _ _ h => ?_
      · exact h ▸ hc₁
      · exact h ▸ hkeep hc₁ rfl
    | some request =>
      unfold answerChunk
      rw [wp_bind, wp_attempt]
      have hanswer : ∀ status response c₂, Orderly b c₂ →
          wp (answerLargeRequest status response) (fun _ => Orderly b)
            (fun _ c' => Table false c' ∧ c'.build = b) c₂ := fun status response c₂ hc₂ =>
        wp_mono (wp_answerLargeRequest hc₂.bounded status response)
          (fun _ _ h => hc₂.wire h.1 h.2) fun _ _ h => hkeep hc₂ h
      exact wp_mono (hdispatch request c₁ hc₁ (by rw [hacc.sending]; simp))
        (fun _ c₂ => hanswer _ _ c₂) fun _ c₂ => hanswer _ _ c₂
  unfold handleSpdmChunkSend
  rw [wp_bind, wp_attempt]
  refine wp_mono hwrite (fun _ _ h => h) fun _ c' h => ?_
  exact ⟨h.1.of_session_eq rfl h.1.last, h.2, Nat.le_refl _, Nat.zero_le _⟩

theorem wp_dispatchAt_orderly (depth : Nat) (hc : Orderly b c)
    (hfits : HasCode bytes spdmRequestChunkSend → sendFits c bytes = true) :
    wp (dispatchAt depth sessionId bytes) (fun _ => Orderly b) (fun _ => Orderly b) c := by
  induction depth generalizing sessionId bytes c with
  | zero => exact trivial
  | succ depth ih =>
    have hget : wp (handleSpdmChunkGet bytes) (fun _ => Orderly b) (fun _ => Orderly b) c :=
      wp_of_ran fun c' hran => hc.wire
        ((within_handleSpdmChunkGet (fun _ _ h => h.wire) bytes).ran hran)
        (hran.of_wp (wp_handleSpdmChunkGet hc.bounded bytes))
    refine wp_dispatchAt (fun _ => hc) fun service hservice =>
      wp_handle_acts hservice hc.table (fun _ => hc.acts) (fun hcode => ?_) hget
    -- a nested request meets a transfer in progress, where every chunk fits
    exact wp_handleSpdmChunkSend hc (hfits hcode) fun _ _ hc₁ hbusy =>
      ih hc₁ fun _ => sendFits_of_busy hbusy _

def BoundStep (c c' : SpdmContext) : Prop :=
  c'.build = c.build ∧ (ChunkBounded c → ChunkBounded c')

instance : StepRel BoundStep where
  refl _ := ⟨rfl, id⟩
  trans h h' := ⟨h'.1.trans h.1, h'.2 ∘ h.2⟩

omit [Device] in
theorem takes_boundStep : Takes BoundStep where
  act h := ⟨(Act.chunk_eq h).2, fun hc => hc.of_eq (Act.chunk_eq h).1 (Act.chunk_eq h).2⟩
  device {c c'} h := by
    unfold DeviceStep at h
    rw [h]
    exact ⟨rfl, fun hc => hc.of_eq rfl rfl⟩
  keep message c := by
    unfold keepLargeResponse
    simp only [wp_bind, wp_read, wp_assert, wp_update, decide_eq_true_eq]
    exact fun hfits => ⟨rfl, fun _ => ⟨Nat.zero_le _, hfits⟩⟩
  drop c := ⟨rfl, fun _ => chunkBounded_dropChunk c⟩
  leave code c := ⟨(chunkStep_leaveChunkMode code c).wire.build_eq,
    fun hc => chunkBounded_leaveChunkMode hc code⟩

def nextFits (c : SpdmContext) : Bool :=
  match nextRequest c with
  | .ok (sessionId, bytes, isApp) c₁ =>
    match parseHeader bytes with
    | .ok header _ =>
      (sessionId.isSome && isApp) || header.requestResponseCode != spdmRequestChunkSend ||
        sendFits (leaveChunkMode header.requestResponseCode c₁) bytes
    | _ => true
  | _ => true

theorem boundStep_processMessage {depth : Nat} (hc : Table false c)
    (hchunk : c.build.chunkCap = true) (hbounded : ChunkBounded c) (hfits : nextFits c = true)
    (h : Ran (processMessage depth) c c') : BoundStep c c' := by
  rw [processMessage_eq] at h
  have hlead := leads_nextRequest takes_boundStep c hc
  obtain ⟨e, herr⟩ | ⟨⟨sessionId, bytes, isApp⟩, c₁, hnext, hserve⟩ := Ran.of_bind h
  · exact ((leads_nextRequest takes_boundStep).within.ran (.inr ⟨e, herr⟩) hc hc).1
  unfold wp at hlead
  rw [hnext] at hlead
  obtain ⟨hguard, hid, hc₁⟩ := hlead
  have hstep : BoundStep c c₁ := (hguard hc).1
  refine StepRel.trans hstep ?_
  have hrequest : ((sessionId.isSome && isApp) = false) →
      Ran (serveRequest depth sessionId bytes) c₁ c' → BoundStep c₁ c' := fun happ hran => by
    refine (hran.of_wp (wp_serveRequest takes_boundStep hid hc₁
      fun hR hc₂ => ?_)).1
    have hsend : HasCode bytes spdmRequestChunkSend →
        sendFits (requestState bytes c₁) bytes = true := by
      rintro ⟨header, rest, hparse, hcode⟩
      have hstate : requestState bytes c₁ = leaveChunkMode header.requestResponseCode c₁ := by
        simp [requestState, headerOf, hparse, hstep.1, hchunk]
      simpa [nextFits, hnext, hparse, happ, hcode, hstate] using hfits
    have horder : Orderly c.build (requestState bytes c₁) :=
      ⟨hc₂, hR.1.trans hstep.1, hR.2 (hstep.2 hbounded)⟩
    refine wp_mono (wp_dispatchAt_orderly depth horder hsend) (fun _ c₃ h₃ => ?_)
      fun _ c₃ h₃ => ?_
    · exact ⟨⟨h₃.build.trans hstep.1.symm, fun _ => h₃.bounded⟩, h₃.table⟩
    · exact ⟨⟨h₃.build.trans hstep.1.symm, fun _ => h₃.bounded⟩, h₃.table⟩
  cases sessionId with
  | none => exact hrequest rfl (by cases isApp <;> exact hserve)
  | some id =>
    cases isApp with
    | false => exact hrequest rfl hserve
    | true =>
      exact ((within_serveAppMessage takes_boundStep (fun _ _ _ =>
        ⟨rfl, fun hb => hb.of_eq rfl rfl⟩)
        (hid id rfl) bytes).ran hserve hc₁).1

theorem orderly_of_steps {c₀ c : SpdmContext} (hstart : Started c₀)
    (hchunk : c₀.build.chunkCap = true)
    (hrun : Steps (StepIf fun c => nextFits c = true) c₀ c) : Orderly c₀.build c := by
  refine hrun.keep (fun c c' hstep hc => ?_) ?_
  · have hbound : BoundStep c c' := by
      obtain ⟨⟨depth, hran⟩, hok⟩ | hsur := hstep
      · exact boundStep_processMessage hc.table (hc.build ▸ hchunk) hc.bounded hok hran
      · unfold Surroundings at hsur
        rw [hsur]
        exact ⟨rfl, fun hb => hb.of_eq rfl rfl⟩
    exact ⟨hstep.table hc.table, hbound.1.trans hc.build, hbound.2 hc.bounded⟩
  · obtain ⟨_, _, _, _, -, rfl⟩ := id hstart
    exact ⟨.of_started hstart, rfl, Nat.le_refl _, Nat.zero_le _⟩

end Run

/-! ## §6. Runs that break. -/

namespace SmallRun

open SmallBackend

def chunkResponder : SpdmContext := smallResponder true SpdmResponseCapabilityFlags.chunkCap

def firstChunk (chunkSize : Nat) (largeMessageSize : Option Nat) : SpdmContext → Bytes :=
  inClear (encodeHeader .spdmVersion12 spdmRequestChunkSend ++
    encodeChunkHead false ⟨0, 0, 0, chunkSize, largeMessageSize⟩ ++ List.replicate chunkSize 5)

def chunkPackets (chunkSize : Nat) (largeMessageSize : Option Nat) :
    List (SpdmContext → Bytes) :=
  smallNegotiation SpdmRequestCapabilityFlags.chunkCap 136 ++
    [firstChunk chunkSize largeMessageSize]

theorem chunkBuffer_breaks :
    (∃ c, Reachable c ∧ c.chunkContext.chunkMessageSize < c.chunkContext.transferredSize) ∧
      ∃ c, Reachable c ∧ handleSpdmChunkSend (dispatchAt 3) none ((firstChunk 0 none c).drop 1) c =
        .panic := by
  have hreach : Reachable chunkResponder := ⟨_, started_smallResponder _ _, .refl⟩
  constructor
  · have hrun : ((serveAll (fun _ => true) [] (chunkPackets 50 (some 42)) chunkResponder).map
        fun c => (c.chunkContext.chunkMessageSize, c.chunkContext.transferredSize)) =
          some (42, 50) := by
      decide +kernel
    obtain ⟨c, hc, hsizes⟩ := Option.map_eq_some_iff.1 hrun
    obtain ⟨hsize, htransferred⟩ := Prod.mk.inj hsizes
    exact ⟨c, reachable_serveAll hreach hc, by rw [hsize, htransferred]; decide⟩
  · have hrun : ((serveAll (fun _ => true) [] (smallNegotiation
        SpdmRequestCapabilityFlags.chunkCap 136) chunkResponder).map fun c =>
          (handleSpdmChunkSend (dispatchAt 3) none ((firstChunk 0 none c).drop 1) c).isPanic) =
          some true := by
      decide +kernel
    obtain ⟨c, hc, hpanic⟩ := Option.map_eq_some_iff.1 hrun
    exact ⟨c, reachable_serveAll hreach hc, Outcome.isPanic_iff.1 hpanic⟩

end SmallRun

end Responder

end Spdm
