/-
  Spdm.Responder.PskFresh — the random source in PSK_EXCHANGE (`responder/psk_exchange_rsp.rs`).
-/
import Spdm.Responder.Session
import Spdm.Context.Small

namespace Spdm

open Effect Codec

variable {ε : Type} {e : SpdmStatus} {id : Nat}

namespace Responder

open SpdmContext SpdmRequestResponseCode SpdmErrorCode

/-! ## §1. Contexts that differ in the random source. -/

def withRandom (r : List Bytes) (c : SpdmContext) : SpdmContext :=
  { c with world := { c.world with random := r } }

def SameButRandom (b : Bool) (c c' : SpdmContext) : Prop :=
  c.pskWithoutContext = b ∧ ∃ r, r.length = c.world.random.length ∧ c' = withRandom r c

section
variable {b : Bool} {α : Type}

abbrev RandomBlind {ε : Type} (b : Bool) (m : Prog SpdmContext ε α) : Prop :=
  Paired (SameButRandom b) (· = ·) m m

theorem blind_update {g : SpdmContext → SpdmContext}
    (h : ∀ r c, g (withRandom r c) = withRandom r (g c))
    (hrandom : ∀ c, (g c).world.random = c.world.random)
    (hcaps : ∀ c, (g c).negotiateInfo.rspCapabilitiesSel = c.negotiateInfo.rspCapabilitiesSel) :
    RandomBlind b (update g : Prog SpdmContext ε Unit) := by
  refine .update ?_
  rintro c _ ⟨hb, r, hlen, rfl⟩
  refine ⟨?_, r, ?_, h r c⟩
  · rw [← hb, pskWithoutContext, pskWithoutContext, hcaps]
  · rw [hrandom, hlen]

theorem blind_read {k : SpdmContext → Prog SpdmContext ε α} {V : α → α → Prop}
    (h : ∀ r c, k (withRandom r c) = k c)
    (hk : ∀ c, c.pskWithoutContext = b → Paired (SameButRandom b) V (k c) (k c)) :
    Paired (SameButRandom b) V (read >>= k) (read >>= k) := by
  refine .read_seq ?_ fun c _ hc => hk c hc.1
  rintro c _ ⟨-, r, -, rfl⟩
  exact h r c

theorem blind_refuse {V : α → α → Prop} (e : SpdmStatus) (code : UInt8) :
    Paired (SameButRandom b) V (refuse e code) (refuse e code) :=
  blind_read (fun _ _ => rfl) fun _ _ => .fail _

theorem blind_demand {ok : Bool} {code : UInt8} :
    RandomBlind b (demand ok e code) := by
  cases ok with
  | false => exact blind_refuse e code
  | true => exact .ret rfl

theorem blind_expect {o : Option α} {code : UInt8} :
    RandomBlind b (expect o e code) := by
  cases o with
  | none => exact blind_refuse e code
  | some a => exact .ret rfl

theorem paired_orRefuse {V : α → α → Prop} {m m' : SpdmResult α}
    (hm : Paired (SameButRandom b) V m m') (e : SpdmStatus) (code : UInt8) :
    Paired (SameButRandom b) V (orRefuse m e code) (orRefuse m' e code) := by
  refine .bind (.attempt hm) fun x y h => ?_
  cases x <;> cases y <;> try exact h.elim
  · exact blind_refuse e code
  · exact .ret h

theorem blind_parseRest {p : Parser α} {bs : Bytes} :
    RandomBlind b (parseRest p bs : Prog SpdmContext ε _) := by
  unfold parseRest
  cases p bs with
  | ok a _ => exact .ret rfl
  | err _ _ => exact .ret rfl
  | panic => exact .abort

theorem blind_parse {p : Parser α} {bs : Bytes} :
    RandomBlind b (parse p bs : Prog SpdmContext ε _) := by
  unfold parse
  cases p bs with
  | ok a _ => exact .ret rfl
  | err _ _ => exact .ret rfl
  | panic => exact .abort

theorem blind_withSession (id : Nat) {e : ε} (m : Prog SpdmSession ε α) :
    RandomBlind b (withSession id e m) := by
  rintro c _ ⟨hb, r, hlen, rfl⟩
  have hsession : (withRandom r c).session = c.session := rfl
  unfold withSession
  rw [hsession]
  cases c.session.findIdx? fun s => s.sessionId == id with
  | none => exact ⟨rfl, hb, r, hlen, rfl⟩
  | some i =>
    dsimp only
    cases c.session[i]? with
    | none => exact ⟨rfl, hb, r, hlen, rfl⟩
    | some s =>
      dsimp only
      cases m s with
      | ok a t => exact ⟨rfl, hb, r, hlen, rfl⟩
      | err e' t => exact ⟨rfl, hb, r, hlen, rfl⟩
      | panic => trivial

theorem mapSession_withRandom (id : Nat) {f : SpdmSession → SpdmSession} (r : List Bytes)
    (c : SpdmContext) :
    (withRandom r c).mapSession id f = withRandom r (c.mapSession id f) := by
  unfold mapSession
  have hsession : (withRandom r c).session = c.session := rfl
  rw [hsession]
  cases c.session.findIdx? fun s => s.sessionId == id <;> rfl

theorem blind_teardownSession (id : Nat) :
    RandomBlind b (update (teardownSession id) : Prog SpdmContext ε Unit) := by
  refine blind_update (fun r c => mapSession_withRandom id r c) (fun c => ?_) (fun c => ?_)
  all_goals
    unfold teardownSession mapSession
    cases c.session.findIdx? fun s => s.sessionId == id <;> rfl

/-! ## §2. The steps of the handler. -/

theorem blind_resetBuffer :
    RandomBlind b (update (resetBufferViaRequestCode spdmRequestPskExchange none) :
      Prog SpdmContext ε Unit) := by
  refine blind_update (fun r c => ?_) (fun c => ?_) (fun c => ?_)
  · rw [resetBufferViaRequestCode_none, resetBufferViaRequestCode_none]
    rfl
  · rw [resetBufferViaRequestCode_none]
  · rw [resetBufferViaRequestCode_none]

theorem blind_readExchangeHeader (bytes : Bytes) : RandomBlind b (readExchangeHeader bytes) :=
  .seq (blind_read (fun _ _ => rfl) fun _ _ => .seq blind_parseRest fun _ =>
    .seq blind_expect fun _ => .seq blind_demand fun _ => .ret rfl) fun _ =>
    blind_read (fun _ _ => rfl) fun _ _ => .seq blind_demand fun _ => .ret rfl

theorem blind_summaryHash [Device] {t : UInt8} :
    RandomBlind b (summaryHash t e) := by
  refine blind_read (fun _ _ => rfl) fun c _ => ?_
  split_ifs
  · exact .seq (blind_update (fun _ _ => rfl) (fun _ => rfl) fun _ => rfl) fun _ =>
      .seq blind_expect fun _ => .seq blind_demand fun _ => .ret rfl
  · exact .seq (blind_update (fun _ _ => rfl) (fun _ => rfl) fun _ => rfl) fun _ => .ret rfl

theorem blind_versionSelOpaque {offer : Bytes} : RandomBlind b (versionSelOpaque offer) := by
  refine blind_read (fun _ _ => rfl) fun c _ => .seq blind_parse fun offered => ?_
  cases offered with
  | none => exact .ret rfl
  | some offered => exact .seq blind_expect fun _ => blind_expect

theorem blind_nextHalfSessionId : RandomBlind b nextHalfSessionId := by
  refine blind_read (fun _ _ => rfl) fun c _ => ?_
  cases c.getNextHalfSessionId false with
  | ok id => exact .ret rfl
  | error _ => exact blind_refuse _ _

theorem paired_getRandom {n : Nat} :
    Paired (SameButRandom b) (fun _ _ => True) (getRandom n) (getRandom n) := by
  rintro c _ ⟨hb, r, hlen, rfl⟩
  unfold getRandom
  rw [Effect.read_bind, Effect.read_bind, update_bind]
  cases hc : c.world.random with
  | nil =>
    obtain rfl : r = [] := by simpa [hc] using hlen
    exact ⟨rfl, hb, [], by simp, rfl⟩
  | cons x xs =>
    cases r with
    | nil => simp [hc] at hlen
    | cons y ys => exact ⟨trivial, hb, ys, by simpa [hc] using hlen, rfl⟩

variable [Crypto]

def SameButUnsent (b : Bool) (p p' : PreparedPskExchange) : Prop :=
  ∃ x, p' = { p with pskContext := x } ∧ (b = false → p' = p)

section
omit [Crypto]

theorem paired_preparePskExchange [Device] (bytes : Bytes) :
    Paired (SameButRandom b) (SameButUnsent b) (preparePskExchange bytes)
      (preparePskExchange bytes) := by
  refine .seq (blind_read (fun _ _ => rfl) fun _ _ => blind_demand) fun _ => ?_
  refine .seq (blind_readExchangeHeader bytes) fun rest => .seq blind_resetBuffer fun _ => ?_
  refine blind_read (fun _ _ => rfl) fun c hc => ?_
  refine .seq (.seq blind_parseRest fun _ => blind_expect) fun (p, rest) => ?_
  refine .seq blind_summaryHash fun summary => .seq blind_versionSelOpaque fun _ => ?_
  -- the only draw: its result is kept apart until the response is written
  refine .bind (V := fun x y => b = false → y = x) ?_ fun x y hxy => ?_
  · rw [hc]
    cases b with
    | false => exact .ret fun _ => rfl
    | true =>
      exact paired_orRefuse (.mono paired_getRandom fun _ _ _ h => by cases h) _ _
  · refine .bind blind_nextHalfSessionId fun id _ hid => hid ▸ ?_
    refine .bind (blind_read (fun _ _ => rfl) fun _ _ => blind_demand) fun _ _ _ => ?_
    exact .ret ⟨y, rfl, fun hb => by rw [hxy hb]⟩

theorem blind_sessionOf (id : Nat) : RandomBlind b (sessionOf id) :=
  blind_read (fun _ _ => rfl) fun _ _ => blind_expect

theorem blind_changeSession {f : SpdmSession → SpdmSession} :
    RandomBlind b (changeSession id f) :=
  paired_orRefuse (blind_withSession id _) _ _

theorem blind_sessionStep {m : Prog SpdmSession SpdmStatus Unit} :
    RandomBlind b (sessionStep id m) := by
  refine .seq (.tried (blind_withSession id m)) fun r => ?_
  cases r with
  | ok _ => exact .ret rfl
  | error e => exact blind_refuse _ _

end

theorem blind_appendK {m : Bytes} : RandomBlind b (appendK id m e) :=
  paired_orRefuse (blind_read (fun _ _ => rfl) fun _ _ => blind_withSession id _) _ _

omit [Crypto] in
theorem blind_appendTh {buffer m : Bytes} : RandomBlind b (appendTh buffer m) := .orFail _ _

theorem blind_calcTranscriptData {side : TranscriptSide} {isMutAuth : Bool} {messageK : Bytes}
    {messageF vdm : Option Bytes} :
    RandomBlind b (calcTranscriptData side true isMutAuth messageK messageF vdm) := by
  refine blind_read (fun _ _ => rfl) fun c _ => .seq blind_appendTh fun _ => ?_
  refine .seq (.ret rfl) fun _ => .seq blind_appendTh fun _ => .seq (.ret rfl) fun _ => ?_
  cases messageF with
  | none => exact .ret rfl
  | some f => exact blind_appendTh

theorem blind_transcriptHash {isMutAuth : Bool} :
    RandomBlind b (transcriptHash true isMutAuth id) := by
  refine .seq (blind_sessionOf id) fun s => paired_orRefuse ?_ _ _
  refine blind_read (fun _ _ => rfl) fun c _ => blind_read (fun _ _ => rfl) fun c' _ => ?_
  split_ifs
  · exact .seq (.orFail _ _) fun _ => .orFail _ _
  · exact .seq blind_calcTranscriptData fun _ => .orFail _ _

theorem blind_responseMac {hash : Bytes} : RandomBlind b (responseMac id hash) := by
  refine .seq (blind_sessionOf id) fun s => ?_
  cases s.generateHmacWithResponseFinishedKey hash with
  | some mac => exact .ret rfl
  | none => exact .seq (blind_teardownSession id) fun _ => blind_refuse _ _

omit [Crypto] in
theorem blind_startWatchdog (id : Nat) :
    RandomBlind b (startWatchdog id : Prog SpdmContext ε Unit) := by
  refine blind_update (fun r c => ?_) (fun c => ?_) (fun c => ?_)
  · have hflag : heartbeatNegotiated (withRandom r c) = heartbeatNegotiated c := rfl
    rw [hflag]
    cases heartbeatNegotiated c <;> rfl
  · split_ifs <;> rfl
  · split_ifs <;> rfl

theorem blind_establishPsk : RandomBlind b (establishPsk id) :=
  .seq blind_transcriptHash fun _ => blind_read (fun _ _ => rfl) fun _ _ =>
    .seq (paired_orRefuse (blind_withSession id _) _ _) fun _ =>
    .seq blind_changeSession fun _ => blind_startWatchdog id

omit [Crypto] in
theorem blind_assertField {before : Nat} {ok : Bool} : RandomBlind b (assertField before ok) := by
  refine blind_read (fun _ _ => rfl) fun c _ => ?_
  split_ifs
  · exact .assert _
  · exact .ret rfl

/-! ## §3. The handler. -/

omit [Crypto] in
theorem encodePskExchangeRsp_withRandom {r : List Bytes} {c : SpdmContext}
    {p : PskExchangeRspPayload} :
    encodePskExchangeRsp (withRandom r c) p = encodePskExchangeRsp c p := rfl

omit [Crypto] in
theorem encodePskExchangeRsp_without {c : SpdmContext} (h : c.pskWithoutContext = true)
    (p : PskExchangeRspPayload) (x : Bytes) :
    encodePskExchangeRsp c { p with pskContext := x } = encodePskExchangeRsp c p := by
  simp [encodePskExchangeRsp, h]

theorem paired_runPskExchange [Device] {p p' : PreparedPskExchange} (h : SameButUnsent b p p') :
    Paired (SameButRandom b) (· = ·) (runPskExchange p) (runPskExchange p') := by
  obtain ⟨x, rfl, hb⟩ := h
  have hopen : RandomBlind b (openPskSession p) := blind_read (fun _ _ => rfl) fun _ _ =>
    paired_orRefuse (blind_withSession _ _) _ _
  refine .bind hopen fun _ _ _ => .read_seq ?_ fun c _ hc => ?_
  · -- both runs write the same response
    rintro c _ ⟨hflag, r, -, rfl⟩
    have hbody (q : PskExchangeRspPayload) (hq : q.pskContext = p.pskContext) :
        encodePskExchangeRsp (withRandom r c) { q with pskContext := x } =
          encodePskExchangeRsp c q := by
      rw [encodePskExchangeRsp_withRandom]
      cases b with
      | true => exact encodePskExchangeRsp_without hflag q x
      | false =>
        have hx : x = p.pskContext := congrArg PreparedPskExchange.pskContext (hb rfl)
        rw [hx, ← hq]
    have hsent := hbody
      { heartbeatPeriod := c.configInfo.heartbeatPeriod
        rspSessionId := p.rspSessionId
        measurementSummaryHash := p.summary
        pskContext := p.pskContext
        opaqueData := p.returnOpaque } rfl
    simp only [show (withRandom r c).configInfo = c.configInfo from rfl, hsent]
    rfl
  · refine .seq (.orAbort _) fun _ => .seq blind_assertField fun _ => ?_
    refine .seq blind_demand fun _ => .seq blind_appendK fun _ => ?_
    refine .seq blind_appendK fun _ => .seq blind_transcriptHash fun th1 => ?_
    refine .seq (blind_read (fun _ _ => rfl) fun _ _ => blind_sessionStep) fun _ => ?_
    refine .seq blind_transcriptHash fun _ => .seq blind_responseMac fun _ => ?_
    refine .seq blind_appendK fun _ => .seq (.seq (.assert _) fun _ => .ret rfl) fun _ => ?_
    refine .seq blind_changeSession fun _ => .seq ?_ fun _ => ?_
    · split_ifs
      · exact blind_establishPsk
      · exact .ret rfl
    · exact .seq blind_changeSession fun _ => .ret rfl

theorem blind_handleSpdmPskExchange [Device] (bytes : Bytes) :
    RandomBlind b (handleSpdmPskExchange bytes) := by
  refine .bind (paired_preparePskExchange bytes) fun p p' h => ?_
  have hid : p'.sessionId = p.sessionId := by
    obtain ⟨x, rfl, -⟩ := h
    rfl
  rw [hid]
  refine .bind (.attempt (paired_runPskExchange h)) fun x y hxy => ?_
  cases x <;> cases y <;> try exact hxy.elim
  · cases hxy
    exact .seq (blind_teardownSession _) fun _ => .fail _
  · exact .ret hxy

def apartFromRandom {ε : Type} : Outcome SpdmContext ε α → Outcome SpdmContext ε α
  | .ok a c => .ok a (withRandom [] c)
  | .err e c => .err e (withRandom [] c)
  | .panic => .panic

/-- **No freshness.**  Two runs of PSK_EXCHANGE, from any state, on any
request, that draw the bytes of `draws` one by one end alike: same response,
so same context, same transcript and same secrets of the new session.  In
particular when the responder is to send a context. -/
theorem pskExchange_ignores_random [Device] (c : SpdmContext) (bytes : Bytes)
    (draws : List (Bytes × Bytes)) :
    apartFromRandom (handleSpdmPskExchange bytes (withRandom (draws.map (·.1)) c)) =
      apartFromRandom (handleSpdmPskExchange bytes (withRandom (draws.map (·.2)) c)) := by
  have hstart : SameButRandom c.pskWithoutContext (withRandom (draws.map (·.1)) c)
      (withRandom (draws.map (·.2)) c) := ⟨rfl, draws.map (·.2), by simp [withRandom], rfl⟩
  have hend := blind_handleSpdmPskExchange bytes _ _ hstart
  cases hs : handleSpdmPskExchange bytes (withRandom (draws.map (·.1)) c) <;>
    cases ht : handleSpdmPskExchange bytes (withRandom (draws.map (·.2)) c) <;>
    rw [hs, ht] at hend <;> try exact hend.elim
  · obtain ⟨rfl, -, r, -, rfl⟩ := hend
    rfl
  · obtain ⟨rfl, -, r, -, rfl⟩ := hend
    rfl

end

/-! ## §4. One replay. -/

namespace SmallRun

open SmallBackend

def pskResponder : SpdmContext :=
  { smallContext (smallSession 0 0 0) [] with
    negotiateInfo := { (smallContext (smallSession 0 0 0) []).negotiateInfo with
      rspCapabilitiesSel := SpdmResponseCapabilityFlags.pskCapWithContext
      reqCapabilitiesSel := SpdmRequestCapabilityFlags.pskCap }
    runtimeInfo := { connectionState := .negotiated }
    session := [{}, {}] }

def pskRequest : Bytes :=
  encodePskExchange .spdmVersion12
    { measurementSummaryHashType := 0, reqSessionId := 0xFFFD, pskHint := []
      pskContextSize := 4, pskContext := [1, 2, 3, 4], opaqueData := [] }

def responseAndSecrets :
    Outcome SpdmContext Refusal Bytes → Option (Bytes × List SpdmSessionHandshakeSecret)
  | .ok response c => some (response, c.session.map (·.handshakeSecret))
  | _ => none

theorem pskExchange_replay_reproduces_keys :
    responseAndSecrets (handleSpdmPskExchange pskRequest (withRandom [[1]] pskResponder)) =
        responseAndSecrets (handleSpdmPskExchange pskRequest (withRandom [[2]] pskResponder)) ∧
      (responseAndSecrets (handleSpdmPskExchange pskRequest (withRandom [[1]] pskResponder))).map
        (fun r => r.2.map fun secret => secret.requestHandshakeSecret.length) = some [32, 0] := by
  decide +kernel

end SmallRun

end Responder

end Spdm
