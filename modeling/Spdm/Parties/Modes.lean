/-
  Spdm.Parties.Modes — the two ways to keep a transcript.
-/
import Mathlib.Data.List.Forall2
import Spdm.Context.Append
import Spdm.Context.Mild
import Spdm.Responder.Delivered

namespace Spdm

open Effect Codec

variable {s t : SpdmSession} {R : SpdmSession → SpdmSession → Prop} {l l' : List SpdmSession}
    {f : SpdmSession → SpdmSession} {id i : Nat} {c : SpdmContext} {m mid : Bytes} {ctx : HashCtx}

namespace Modes

open SpdmContext

/-! ## §1. A running hash and the message it follows. -/

def Follows (opening message : Bytes) : Option HashCtx → Prop
  | none => message = []
  | some ctx => message ≠ [] ∧ ctx.fed = opening ++ message

namespace Follows
variable {opening message more : Bytes} {running : Option HashCtx} {ctx : HashCtx}

theorem feed (h : Follows opening message (some ctx)) :
    Follows opening (message ++ more) (some (ctx.feed more)) := by
  obtain ⟨hne, hfed⟩ := h
  refine ⟨by simp [hne], ?_⟩
  simp only [HashCtx.feed, hfed, List.append_assoc]

theorem start (algo : Flags) (hmore : more ≠ []) :
    Follows opening more (some ((HashCtx.feed ⟨algo, []⟩ opening).feed more)) :=
  ⟨hmore, by simp [HashCtx.feed]⟩

theorem running_of_ne (h : Follows opening message running) (hne : message ≠ []) :
    ∃ ctx, running = some ctx ∧ ctx.fed = opening ++ message := by
  cases running with
  | none => exact absurd h hne
  | some ctx => exact ⟨ctx, rfl, h.2⟩

theorem reopen {opening' : Bytes} (h : Follows opening message running)
    (hopening : opening' = opening ∨ message = []) : Follows opening' message running := by
  obtain rfl | rfl := hopening
  · exact h
  · cases running with
    | none => exact h
    | some ctx => exact absurd rfl h.1

end Follows

/-! ## §2. Operations and points. -/

structure Settings where
  negotiateInfo : SpdmNegotiateInfo
  provisionInfo : SpdmProvisionInfo
  peerInfo : SpdmPeerInfo
  connectionState : SpdmConnectionState
  localUsedCertChainSlotId : Nat
  peerUsedCertChainSlotId : Nat
  vdmMessageTranscriptBeforeKeyExchange : Option Bytes

def settingsOf (c : SpdmContext) : Settings where
  negotiateInfo := c.negotiateInfo
  provisionInfo := c.provisionInfo
  peerInfo := c.peerInfo
  connectionState := c.runtimeInfo.connectionState
  localUsedCertChainSlotId := c.runtimeInfo.localUsedCertChainSlotId
  peerUsedCertChainSlotId := c.runtimeInfo.peerUsedCertChainSlotId
  vdmMessageTranscriptBeforeKeyExchange := c.runtimeInfo.vdmMessageTranscriptBeforeKeyExchange

def settle (s : Settings) (c : SpdmContext) : SpdmContext :=
  { c with
    negotiateInfo := s.negotiateInfo
    provisionInfo := s.provisionInfo
    peerInfo := s.peerInfo
    runtimeInfo := { c.runtimeInfo with
      connectionState := s.connectionState
      localUsedCertChainSlotId := s.localUsedCertChainSlotId
      peerUsedCertChainSlotId := s.peerUsedCertChainSlotId
      vdmMessageTranscriptBeforeKeyExchange := s.vdmMessageTranscriptBeforeKeyExchange } }

inductive Op where
  /-- GET_VERSION -/
  | startOver
  | appendA (message : Bytes)
  | appendB (message : Bytes)
  | appendC (message : Bytes)
  | appendM (sessionId : Option Nat) (message : Bytes)
  /-- `reset_buffer_via_request_code` -/
  | resetVia (opcode : UInt8) (sessionId : Option Nat)
  /-- the two resets at the end of CHALLENGE -/
  | resetBC
  | resetM (sessionId : Option Nat)
  | settle (s : Settings)
  | openKeyExchange (id : Nat) (mutAuthRequested : Flags)
  | openPsk (id : Nat)
  | appendK (id : Nat) (message : Bytes)
  | installBeforeFinish (id : Nat) (transcript : Option Bytes)
  | appendF (id : Nat) (message : Bytes)
  | setState (id : Nat) (state : SpdmSessionState)
  | teardown (id : Nat)

inductive Point where
  | m1m2
  | l1l2 (sessionId : Option Nat)
  | th (id : Nat) (finishing : Bool)

section
variable [Crypto] (isRequester : Bool)

def sideOf (c : SpdmContext) : TranscriptSide := if isRequester then c.reqSide else c.rspSide

def identityHash (hashSel : Flags) (slotId pubKeySlotId : Nat) (pubKey : Option Bytes)
    (chains : Slots Bytes) : Option Bytes :=
  (if slotId = pubKeySlotId then pubKey else chains[slotId]?.join).bind (hashAll hashSel)

def rspIdentity (c : SpdmContext) : Option Bytes :=
  let side := sideOf isRequester c
  identityHash c.negotiateInfo.baseHashSel side.rspSlotId pubKeySlotIdKeyExchange side.rspPubKey
    side.rspChains

def reqIdentity (c : SpdmContext) : Option Bytes :=
  let side := sideOf isRequester c
  identityHash c.negotiateInfo.baseHashSel side.reqSlotId pubKeySlotIdKeyExchangeRsp side.reqPubKey
    side.reqChains

def openSession (id : Nat) (rspCertHash : Option Bytes) (f : SpdmSession → SpdmSession) :
    SpdmResult Unit := do
  let c ← read
  withSession invalidSessionId .invalidStateLocal do
    SpdmSession.setup id
    update fun s => f (startTranscript c.runtimeInfo.messageA rspCertHash (sessionParams c s))

def perform : Op → SpdmResult Unit
  | .startOver => update resetContext
  | .appendA m => appendMessageA m
  | .appendB m => appendMessageB m
  | .appendC m => appendMessageC m
  | .appendM sessionId m => appendMessageM sessionId m
  | .resetVia opcode sessionId => update (resetBufferViaRequestCode opcode sessionId)
  | .resetBC => update fun c => c.resetMessageB.resetMessageC
  | .resetM sessionId => update (resetMessageM sessionId)
  | .settle s => update (settle s)
  | .openKeyExchange id mutAuthRequested => do
    let c ← read
    let hash ← orFail .invalidMsgField (rspIdentity isRequester c)
    openSession id (some hash) fun s => { s with mutAuthRequested := mutAuthRequested }
  | .openPsk id => openSession id none fun s => { s with usePsk := true }
  | .appendK id m => appendMessageK id m
  | .installBeforeFinish id transcript => withSession id .invalidStateLocal (update fun s =>
      { s with runtimeInfo := { s.runtimeInfo with vdmMessageTranscriptBeforeFinish :=
        transcript } })
  | .appendF id m => appendMessageF isRequester id m
  | .setState id state => withSession id .invalidStateLocal
      (update (SpdmSession.setSessionState state))
  | .teardown id => update (teardownSession id)

def l1l2 (c : SpdmContext) (sessionId : Option Nat) : Option Transcript := do
  let (m, ctx) ← c.messageM sessionId
  if c.build.hashedTranscriptData then ctx.map .hashed else c.l1l2Raw m

def thTranscript (side : TranscriptSide) (usePsk isMutAuth : Bool) (s : SpdmSession) :
    SpdmResult Transcript := do
  let c ← read
  if c.build.hashedTranscriptData then do
    let ctx ← orFail .invalidStateLocal s.runtimeInfo.digestContextTh
    ret (.hashed ctx)
  else do
    let message ← calcTranscriptData side usePsk isMutAuth s.runtimeInfo.messageK
      (some s.runtimeInfo.messageF) s.runtimeInfo.vdmMessageTranscriptBeforeFinish
    ret (.raw message)

def th (id : Nat) (finishing : Bool) : SpdmResult Transcript := do
  let c ← read
  let s ← orFail .invalidStateLocal (c.sessionViaId id)
  thTranscript (sideOf isRequester c) s.usePsk (finishing && s.mutAuthRequested != 0) s

def bytesAt (c : SpdmContext) : Point → Option Bytes
  | .m1m2 => c.m1m2.map Transcript.bytes
  | .l1l2 sessionId => (l1l2 c sessionId).map Transcript.bytes
  | .th id finishing => (th isRequester id finishing c).returned.map Transcript.bytes

/-! ## §3. What the builds are assumed and required to meet. -/

structure Parts where
  messageA : Bytes
  /-- what L1/L2 opens with -/
  opening : Bytes
  vendor : Option Bytes
  rspIdentity : Option Bytes
  reqIdentity : Option Bytes

def partsOf (c : SpdmContext) : Parts where
  messageA := c.runtimeInfo.messageA
  opening := if c.negotiateInfo.spdmVersionSel.atLeast .spdmVersion12 then c.runtimeInfo.messageA
    else []
  vendor := c.runtimeInfo.vdmMessageTranscriptBeforeKeyExchange
  rspIdentity := rspIdentity isRequester c
  reqIdentity := reqIdentity isRequester c

def InHandshake (s : SpdmSession) : Prop :=
  s.sessionId ≠ invalidSessionId ∧ s.sessionState ≠ .established

def before (p : Parts) (s : SpdmSession) : Option Bytes :=
  if s.usePsk then some [] else p.vendor.or p.rspIdentity

def between (p : Parts) (s : SpdmSession) : Option Bytes :=
  if s.usePsk || s.mutAuthRequested == 0 then some []
  else s.runtimeInfo.vdmMessageTranscriptBeforeFinish.or p.reqIdentity

def NoMeasurements (c : SpdmContext) : Prop :=
  c.runtimeInfo.messageM = [] ∧ ∀ s ∈ c.session, s.runtimeInfo.messageM = []

def NoHandshake (c : SpdmContext) : Prop := ∀ s ∈ c.session, ¬ InHandshake s

def Session (c : SpdmContext) (id : Nat) (P : SpdmSession → Prop) : Prop :=
  ∀ s, c.sessionViaId id = some s → P s

def Keeps (c : SpdmContext) : Op → Prop
  | .startOver | .resetBC | .resetM _ | .teardown _ => True
  -- message A is complete before anything is built on it
  | .appendA _ => c.runtimeInfo.messageB = [] ∧ c.runtimeInfo.messageC = [] ∧ NoMeasurements c ∧
      NoHandshake c
  -- message C comes last
  | .appendB m => m ≠ [] ∧ c.runtimeInfo.messageC = []
  | .appendC m => m ≠ []
  | .appendM _ m => m ≠ []
  | .resetVia opcode _ => opcode = SpdmRequestResponseCode.spdmRequestGetDigests →
      c.runtimeInfo.messageC = []
  | .settle s =>
      let p := partsOf isRequester c
      let p' := partsOf isRequester (settle s c)
      (p'.opening = p.opening ∨ NoMeasurements c) ∧
        ((p'.vendor = p.vendor ∧ p'.rspIdentity = p.rspIdentity ∧ p'.reqIdentity = p.reqIdentity) ∨
          NoHandshake c)
  | .openKeyExchange id _ | .openPsk id => id ≠ invalidSessionId
  -- no vendor transcript stands before a pre-shared key session
  | .appendK id m => Session c id fun s => InHandshake s ∧ m ≠ [] ∧ s.runtimeInfo.messageF = [] ∧
      (s.usePsk = true → s.runtimeInfo.messageK = [] →
        c.runtimeInfo.vdmMessageTranscriptBeforeKeyExchange = none)
  | .installBeforeFinish id _ => Session c id fun s => s.runtimeInfo.messageF = []
  | .appendF id m => Session c id fun s => InHandshake s ∧ m ≠ [] ∧ s.runtimeInfo.messageK ≠ [] ∧
      (s.runtimeInfo.messageF = [] → (between (partsOf isRequester c) s).isSome)
  | .setState id st => Session c id fun s => s.sessionState = .established → st = .established

def HashSupported (c : SpdmContext) : Op → Prop
  | .appendB _ | .appendC _ | .appendM _ _ => hashCtxSupported c.negotiateInfo.baseHashSel = true
  | .appendK id _ => Session c id fun s => hashCtxSupported s.cryptoParam.baseHashAlgo = true
  | _ => True

def Ready (c : SpdmContext) : Point → Prop
  | .m1m2 => c.runtimeInfo.messageB ++ c.runtimeInfo.messageC ≠ []
  | .l1l2 sessionId => ∃ m ctx, c.messageM sessionId = some (m, ctx) ∧ m ≠ []
  | .th id finishing => ∃ s, c.sessionViaId id = some s ∧ InHandshake s ∧
      s.runtimeInfo.messageK ≠ [] ∧ (finishing = true ↔ s.runtimeInfo.messageF ≠ [])

def Fits (c : SpdmContext) : Point → Prop
  | .m1m2 => c.m1m2.isSome = true
  | .l1l2 sessionId => (l1l2 c sessionId).isSome = true
  | .th id finishing => ∀ c', th isRequester id finishing c ≠ .err .bufferFull c'

inductive Event where
  | perform (op : Op)
  | observe (p : Point)

def observed : List Event → SpdmContext → List (Option Bytes)
  | [], _ => []
  | .observe p :: events, c => bytesAt isRequester c p :: observed events c
  | .perform op :: events, c =>
    match perform isRequester op c with
    | .ok _ c' => observed events c'
    | .err _ c' => observed events c'
    | .panic => []

/-- A run of the raw build whose every step meets the conditions, and whose
buffers do not overflow. -/
def Orderly : List Event → SpdmContext → Prop
  | [], _ => True
  | .observe p :: events, c => Ready c p ∧ Fits isRequester c p ∧ Orderly events c
  | .perform op :: events, c => Keeps isRequester c op ∧ HashSupported c op ∧
    (∀ c', perform isRequester op c ≠ .err .bufferFull c') ∧
    match perform isRequester op c with
    | .ok _ c' => Orderly events c'
    | .err _ c' => Orderly events c'
    | .panic => True

/-! ## §4. The two builds in step. -/

def core (s : SpdmSession) : SpdmSession :=
  { s with runtimeInfo := { s.runtimeInfo with
    messageK := [], messageF := [], messageM := [], messageFInitialized := false
    digestContextTh := none, digestContextL1L2 := none } }

structure Opened (p : Parts) (s : SpdmSession) : Prop where
  messageA : s.runtimeInfo.messageA = p.messageA
  psk : s.usePsk = true → s.runtimeInfo.rspCertHash = none
  keyExchange : s.usePsk = false → s.runtimeInfo.rspCertHash = p.rspIdentity ∧
    p.rspIdentity.isSome = true

omit [Crypto] in
theorem Opened.of_core {p : Parts} {s' : SpdmSession} (h : Opened p s) (hcore : core s' = core s) :
    Opened p s' := by
  have hA : s'.runtimeInfo.messageA = s.runtimeInfo.messageA :=
    congrArg (·.runtimeInfo.messageA) hcore
  have hpsk : s'.usePsk = s.usePsk := congrArg (·.usePsk) hcore
  have hcert : s'.runtimeInfo.rspCertHash = s.runtimeInfo.rspCertHash :=
    congrArg (·.runtimeInfo.rspCertHash) hcore
  exact ⟨hA.trans h.messageA, by rw [hpsk, hcert]; exact h.psk,
    by rw [hpsk, hcert]; exact h.keyExchange⟩

def ThTwin (p : Parts) (s t : SpdmSession) : Prop :=
  t.runtimeInfo.messageFInitialized = !s.runtimeInfo.messageF.isEmpty ∧
    match t.runtimeInfo.digestContextTh with
    | none => s.runtimeInfo.messageK = [] ∧ s.runtimeInfo.messageF = []
    | some ctx => s.runtimeInfo.messageK ≠ [] ∧ ∃ pre, before p s = some pre ∧
        if s.runtimeInfo.messageF = [] then ctx.fed = p.messageA ++ pre ++ s.runtimeInfo.messageK
        else ∃ mid, between p s = some mid ∧
          ctx.fed = p.messageA ++ pre ++ s.runtimeInfo.messageK ++ mid ++ s.runtimeInfo.messageF

structure SessionTwin (p : Parts) (s t : SpdmSession) : Prop where
  same : core t = core s
  l1l2 : Follows p.opening s.runtimeInfo.messageM t.runtimeInfo.digestContextL1L2
  opened : InHandshake s → Opened p s
  th : InHandshake s → ThTwin p s t

structure Twin (r h : SpdmContext) : Prop where
  raw : r.build.hashedTranscriptData = false
  hashed : h.build.hashedTranscriptData = true
  settings : settingsOf h = settingsOf r
  messageA : h.runtimeInfo.messageA = r.runtimeInfo.messageA
  transportEncap : h.transportEncap = r.transportEncap
  m1m2 : Follows r.runtimeInfo.messageA (r.runtimeInfo.messageB ++ r.runtimeInfo.messageC)
    h.runtimeInfo.digestContextM1M2
  l1l2 : Follows (partsOf isRequester r).opening r.runtimeInfo.messageM
    h.runtimeInfo.digestContextL1L2
  session : List.Forall₂ (SessionTwin (partsOf isRequester r)) r.session h.session

variable {isRequester : Bool} {r h : SpdmContext}

namespace SessionTwin
variable {p : Parts} {s t : SpdmSession}

section
omit [Crypto]

theorem sessionId (hst : SessionTwin p s t) : t.sessionId = s.sessionId :=
  congrArg (·.sessionId) hst.same

theorem usePsk (hst : SessionTwin p s t) : t.usePsk = s.usePsk := congrArg (·.usePsk) hst.same

theorem reopen {p' : Parts} (hst : SessionTwin p s t)
    (hopening : p'.opening = p.opening ∨ s.runtimeInfo.messageM = [])
    (hparts : (p'.messageA = p.messageA ∧ p'.vendor = p.vendor ∧ p'.rspIdentity = p.rspIdentity ∧
      p'.reqIdentity = p.reqIdentity) ∨ ¬ InHandshake s) : SessionTwin p' s t := by
  refine ⟨hst.same, hst.l1l2.reopen hopening, fun hs => ?_, fun hs => ?_⟩ <;>
    obtain ⟨hA, hvendor, hrsp, hreq⟩ | hno := hparts
  · obtain ⟨h₁, h₂, h₃⟩ := hst.opened hs
    exact ⟨h₁.trans hA.symm, h₂, hrsp ▸ h₃⟩
  · exact absurd hs hno
  · have hth := hst.th hs
    unfold ThTwin before between at hth ⊢
    rwa [hA, hvendor, hrsp, hreq]
  · exact absurd hs hno

theorem setDefault (hst : SessionTwin p s t) (p' : Parts) :
    SessionTwin p' s.setDefault t.setDefault := by
  have hsame := congrArg SpdmSession.setDefault hst.same
  rw [show t.setDefault = s.setDefault from hsame]
  exact ⟨rfl, rfl, fun hs => absurd rfl hs.1, fun hs => absurd rfl hs.1⟩

end

end SessionTwin

section
omit [Crypto]

theorem forall₂_imp_mem {S : SpdmSession → SpdmSession → Prop}
    (hl : List.Forall₂ R l l') (himp : ∀ s ∈ l, ∀ t, R s t → S s t) : List.Forall₂ S l l' := by
  induction hl with
  | nil => exact .nil
  | cons hab _ ih =>
    exact .cons (himp _ (.head _) _ hab) (ih fun s hs => himp s (.tail _ hs))

theorem forall₂_set_set (hl : List.Forall₂ R l l') (hst : R s t) (i : Nat) :
    List.Forall₂ R (l.set i s) (l'.set i t) := by
  induction hl generalizing i with
  | nil => exact .nil
  | cons hab hl ih =>
    cases i with
    | zero => exact .cons hst hl
    | succ i => exact .cons hab (ih i)

theorem forall₂_modify_modify
    {g : SpdmSession → SpdmSession} (hl : List.Forall₂ R l l') (hfg : ∀ s t, R s t → R (f s) (g t))
    (i : Nat) : List.Forall₂ R (l.modify i f) (l'.modify i g) := by
  induction hl generalizing i with
  | nil => simp
  | cons hab hl ih =>
    cases i with
    | zero => exact .cons (hfg _ _ hab) hl
    | succ i => exact .cons hab (ih i)

end

def Agree {α : Type} (P : σ → σ → Prop) : Outcome σ SpdmStatus α → Outcome σ SpdmStatus α → Prop
  | .ok _ s, .ok _ t => P s t
  | .err _ s, .err _ t => P s t
  | .panic, .panic => True
  | _, _ => False

namespace Twin

theorem negotiateInfo (htwin : Twin isRequester r h) : h.negotiateInfo = r.negotiateInfo :=
  congrArg (·.negotiateInfo) htwin.settings

theorem side (htwin : Twin isRequester r h) : sideOf isRequester h = sideOf isRequester r := by
  have hsettings := htwin.settings
  simp only [settingsOf, Settings.mk.injEq] at hsettings
  obtain ⟨-, hprovision, hpeer, -, hlocal, hpeerSlot, -⟩ := hsettings
  cases isRequester <;> simp only [sideOf, reqSide, rspSide, hprovision, hpeer, hlocal, hpeerSlot]

theorem rspIdentity (htwin : Twin isRequester r h) :
    rspIdentity isRequester h = Modes.rspIdentity isRequester r := by
  rw [Modes.rspIdentity, Modes.rspIdentity, htwin.side, htwin.negotiateInfo]

theorem opening (htwin : Twin isRequester r h) :
    (partsOf isRequester h).opening = (partsOf isRequester r).opening := by
  simp only [partsOf, htwin.messageA, htwin.negotiateInfo]

theorem reqIdentity (htwin : Twin isRequester r h) :
    reqIdentity isRequester h = Modes.reqIdentity isRequester r := by
  rw [Modes.reqIdentity, Modes.reqIdentity, htwin.side, htwin.negotiateInfo]

theorem slotAt (htwin : Twin isRequester r h) (hat : SlotAt r id i s) :
    ∃ t, SlotAt h id i t ∧ SessionTwin (partsOf isRequester r) s t := by
  obtain ⟨t, ht, hst⟩ := forall₂_getElem? htwin.session hat.slot
  refine ⟨t, ⟨?_, ht⟩, hst⟩
  refine findIdx?_of_getElem? hat.first ht (hst.sessionId.trans hat.sessionId)
    fun j u' hj hu _ => ?_
  obtain ⟨u, hget, huu'⟩ := forall₂_getElem?_inv htwin.session hj
  exact ⟨u, hget, huu'.sessionId.symm.trans hu⟩

theorem findIdx_none (htwin : Twin isRequester r h)
    (hnone : (r.session.findIdx? fun s => s.sessionId == id) = none) :
    (h.session.findIdx? fun s => s.sessionId == id) = none := by
  rw [List.findIdx?_eq_none_iff] at hnone ⊢
  intro t ht
  obtain ⟨i, hi⟩ := List.getElem?_of_mem ht
  obtain ⟨s, hs, hst⟩ := forall₂_getElem?_inv htwin.session hi
  rw [hst.sessionId]
  exact hnone s (List.mem_of_getElem? hs)

theorem sessions (htwin : Twin isRequester r h)
    (hl : List.Forall₂ (SessionTwin (partsOf isRequester r)) l l') :
    Twin isRequester { r with session := l } { h with session := l' } :=
  ⟨htwin.raw, htwin.hashed, htwin.settings, htwin.messageA, htwin.transportEncap, htwin.m1m2,
    htwin.l1l2, hl⟩

theorem withSession (htwin : Twin isRequester r h) {e : SpdmStatus}
    {m m' : Prog SpdmSession SpdmStatus Unit}
    (hm : ∀ i s t, SlotAt r id i s → SlotAt h id i t → SessionTwin (partsOf isRequester r) s t →
      Agree (SessionTwin (partsOf isRequester r)) (m s) (m' t)) :
    Agree (Twin isRequester) (withSession id e m r) (SpdmContext.withSession id e m' h) := by
  cases hfirst : r.session.findIdx? fun s => s.sessionId == id with
  | none =>
    unfold SpdmContext.withSession
    rw [hfirst, htwin.findIdx_none hfirst]
    exact htwin
  | some i =>
    obtain ⟨hlt, -⟩ := List.findIdx?_eq_some_iff_getElem.1 hfirst
    have hat : SlotAt r id i r.session[i] := ⟨hfirst, List.getElem?_eq_getElem hlt⟩
    obtain ⟨t, hat', hst⟩ := htwin.slotAt hat
    have hagree := hm i _ t hat hat' hst
    unfold SpdmContext.withSession
    simp only [hat.first, hat.slot, hat'.first, hat'.slot]
    cases hs : m r.session[i] <;> cases ht : m' t <;> rw [hs, ht] at hagree <;>
      first
      | exact hagree.elim
      | exact htwin.sessions (forall₂_set_set htwin.session hagree i)
      | trivial

theorem mapSession (htwin : Twin isRequester r h) (id : Nat) {g : SpdmSession → SpdmSession}
    (hfg : ∀ s t, SessionTwin (partsOf isRequester r) s t →
      SessionTwin (partsOf isRequester r) (f s) (g t)) :
    Twin isRequester (r.mapSession id f) (h.mapSession id g) := by
  unfold SpdmContext.mapSession
  cases hfirst : r.session.findIdx? fun s => s.sessionId == id with
  | none =>
    rw [htwin.findIdx_none hfirst]
    exact htwin
  | some i =>
    obtain ⟨hlt, -⟩ := List.findIdx?_eq_some_iff_getElem.1 hfirst
    have hat : SlotAt r id i r.session[i] := ⟨hfirst, List.getElem?_eq_getElem hlt⟩
    obtain ⟨t, hat', -⟩ := htwin.slotAt hat
    rw [hat'.first]
    exact htwin.sessions (forall₂_modify_modify htwin.session hfg i)

end Twin

/-! ## §5. One operation. -/

theorem feedM1M2_follows {message more : Bytes} (e : SpdmStatus)
    (hfollows : Follows c.runtimeInfo.messageA message c.runtimeInfo.digestContextM1M2)
    (hhash : hashCtxSupported c.negotiateInfo.baseHashSel = true) (hmore : more ≠ []) :
    ∃ ctx, feedM1M2 e more c = .ok () { c with runtimeInfo :=
        { c.runtimeInfo with digestContextM1M2 := some ctx } } ∧
      Follows c.runtimeInfo.messageA (message ++ more) (some ctx) := by
  unfold feedM1M2
  cases hrunning : c.runtimeInfo.digestContextM1M2 with
  | some ctx =>
    rw [hrunning] at hfollows
    refine ⟨ctx.feed more, ?_, hfollows.feed⟩
    rw [Effect.read_bind, hrunning]
    rfl
  | none =>
    rw [hrunning] at hfollows
    obtain rfl : message = [] := hfollows
    refine ⟨_, ?_, .start c.negotiateInfo.baseHashSel hmore⟩
    rw [Effect.read_bind, hrunning]
    simp only [hashCtxInit, hhash, if_true]
    rfl

theorem feedL1L2_follows {running : Option HashCtx} {message more : Bytes}
    (hfollows : Follows (partsOf isRequester c).opening message running)
    (hhash : hashCtxSupported c.negotiateInfo.baseHashSel = true) (hmore : more ≠ []) :
    ∃ ctx, feedL1L2 c running more = some ctx ∧
      Follows (partsOf isRequester c).opening (message ++ more) (some ctx) := by
  unfold feedL1L2
  cases running with
  | some ctx => exact ⟨_, rfl, hfollows.feed⟩
  | none =>
    obtain rfl : message = [] := hfollows
    refine ⟨_, by simp only [hashCtxInit, hhash, if_true]; rfl, ?_⟩
    unfold partsOf
    split
    · exact .start _ hmore
    · exact ⟨hmore, rfl⟩

section Ops
variable (htwin : Twin isRequester r h)
include htwin

theorem startOver_twin : Twin isRequester r.resetContext h.resetContext where
  raw := htwin.raw
  hashed := htwin.hashed
  settings := by
    have hprovision : h.provisionInfo = r.provisionInfo := congrArg (·.provisionInfo) htwin.settings
    simp only [settingsOf, resetContext, hprovision]
  messageA := rfl
  transportEncap := htwin.transportEncap
  m1m2 := rfl
  l1l2 := rfl
  session := List.forall₂_map_left_iff.2 (List.forall₂_map_right_iff.2
    (htwin.session.imp fun _ _ hst => hst.setDefault _))

theorem appendA_twin (hkeeps : Keeps isRequester r (.appendA m)) :
    Agree (Twin isRequester) (appendMessageA m r) (appendMessageA m h) := by
  obtain ⟨hB, hC, hM, hno⟩ := hkeeps
  unfold appendMessageA
  rw [Effect.read_bind, Effect.read_bind, htwin.messageA]
  cases appendMessage maxManagedBufferASize r.runtimeInfo.messageA m with
  | none => exact htwin
  | some a =>
    refine ⟨htwin.raw, htwin.hashed, htwin.settings, rfl, htwin.transportEncap,
      htwin.m1m2.reopen (.inr ?_), htwin.l1l2.reopen (.inr hM.1), ?_⟩
    · exact List.append_eq_nil_iff.2 ⟨hB, hC⟩
    · exact forall₂_imp_mem htwin.session fun s hs t hst =>
        hst.reopen (.inr (hM.2 s hs)) (.inr (hno s hs))

theorem resetBC_twin :
    Twin isRequester r.resetMessageB.resetMessageC h.resetMessageB.resetMessageC := by
  simp only [resetMessageB, resetMessageC, htwin.raw, htwin.hashed, if_true, Bool.false_eq_true,
    if_false]
  exact ⟨htwin.raw, htwin.hashed, htwin.settings, htwin.messageA, htwin.transportEncap, rfl,
    htwin.l1l2, htwin.session⟩

theorem resetB_twin (hC : r.runtimeInfo.messageC = []) :
    Twin isRequester r.resetMessageB h.resetMessageB := by
  simp only [resetMessageB, htwin.raw, htwin.hashed, if_true, Bool.false_eq_true, if_false]
  exact ⟨htwin.raw, htwin.hashed, htwin.settings, htwin.messageA, htwin.transportEncap, hC,
    htwin.l1l2, htwin.session⟩

theorem resetM_twin (sessionId : Option Nat) :
    Twin isRequester (r.resetMessageM sessionId) (h.resetMessageM sessionId) := by
  unfold resetMessageM
  rw [htwin.raw, htwin.hashed]
  cases sessionId with
  | none =>
    exact ⟨htwin.raw, htwin.hashed, htwin.settings, htwin.messageA, htwin.transportEncap,
      htwin.m1m2, rfl, htwin.session⟩
  | some id =>
    exact htwin.mapSession id fun s t hst =>
      ⟨hst.same, rfl, fun hs => (hst.opened hs).of_core rfl, hst.th⟩

omit [Crypto] htwin in
theorem resetMessageM_messageC (sessionId : Option Nat) (c : SpdmContext) :
    (c.resetMessageM sessionId).runtimeInfo.messageC = c.runtimeInfo.messageC := by
  unfold resetMessageM
  cases sessionId <;> cases c.build.hashedTranscriptData <;> try rfl
  all_goals
    unfold mapSession
    dsimp only
    split <;> rfl

theorem resetVia_twin {opcode : UInt8} {sessionId : Option Nat}
    (hC : opcode = SpdmRequestResponseCode.spdmRequestGetDigests → r.runtimeInfo.messageC = []) :
    Twin isRequester (r.resetBufferViaRequestCode opcode sessionId)
      (h.resetBufferViaRequestCode opcode sessionId) := by
  unfold resetBufferViaRequestCode
  -- message M first
  obtain ⟨r₁, h₁, hr₁, hh₁, hM, hC₁⟩ : ∃ r₁ h₁,
      (if opcode ≠ SpdmRequestResponseCode.spdmRequestGetMeasurements then
        r.resetMessageM sessionId else r) = r₁ ∧
      (if opcode ≠ SpdmRequestResponseCode.spdmRequestGetMeasurements then
        h.resetMessageM sessionId else h) = h₁ ∧
      Twin isRequester r₁ h₁ ∧ r₁.runtimeInfo.messageC = r.runtimeInfo.messageC := by
    refine ⟨_, _, rfl, rfl, ?_⟩
    split
    · exact ⟨resetM_twin htwin sessionId, resetMessageM_messageC sessionId r⟩
    · exact ⟨htwin, rfl⟩
  have hstate : h₁.runtimeInfo.connectionState = r₁.runtimeInfo.connectionState :=
    congrArg (·.connectionState) hM.settings
  dsimp only
  rw [hr₁, hh₁, hstate]
  split_ifs with _ _ hdigests
  · exact resetBC_twin hM
  · exact hM
  · exact resetB_twin hM (hC₁.trans (hC hdigests))
  · exact hM

theorem settle_twin {st : Settings} (hkeeps : Keeps isRequester r (.settle st)) :
    Twin isRequester (settle st r) (settle st h) := by
  obtain ⟨hopening, hparts⟩ := hkeeps
  refine ⟨htwin.raw, htwin.hashed, rfl, htwin.messageA, htwin.transportEncap, htwin.m1m2,
    htwin.l1l2.reopen (hopening.imp_right (·.1)),
      forall₂_imp_mem htwin.session fun s hs t hst => ?_⟩
  exact hst.reopen (hopening.imp_right fun hM => hM.2 s hs)
    (hparts.imp (fun hparts => ⟨rfl, hparts⟩) fun hno => hno s hs)

theorem teardown_twin (id : Nat) :
    Twin isRequester (r.teardownSession id) (h.teardownSession id) :=
  htwin.mapSession id fun _ _ hst => hst.setDefault _

theorem setState_twin {st : SpdmSessionState}
    (hkeeps : Keeps isRequester r (.setState id st)) :
    Agree (Twin isRequester) (perform isRequester (.setState id st) r)
      (perform isRequester (.setState id st) h) := by
  rw [perform]
  refine htwin.withSession fun i s t hat _ hst => ?_
  have hbefore : InHandshake (s.setSessionState st) → InHandshake s := fun hs =>
    ⟨hs.1, fun hestablished => hs.2 (hkeeps s hat.sessionViaId hestablished)⟩
  exact ⟨congrArg (SpdmSession.setSessionState st) hst.same, hst.l1l2,
    fun hs => ⟨(hst.opened (hbefore hs)).1, (hst.opened (hbefore hs)).2,
      (hst.opened (hbefore hs)).3⟩, fun hs => hst.th (hbefore hs)⟩

theorem installBeforeFinish_twin {transcript : Option Bytes}
    (hkeeps : Keeps isRequester r (.installBeforeFinish id transcript)) :
    Agree (Twin isRequester) (perform isRequester (.installBeforeFinish id transcript) r)
      (perform isRequester (.installBeforeFinish id transcript) h) := by
  rw [perform]
  refine htwin.withSession fun i s t hat _ hst => ?_
  have hF := hkeeps s hat.sessionViaId
  refine ⟨congrArg (fun s => { s with runtimeInfo := { s.runtimeInfo with
    vdmMessageTranscriptBeforeFinish := transcript } }) hst.same, hst.l1l2,
    fun hs => ⟨(hst.opened hs).1, (hst.opened hs).2, (hst.opened hs).3⟩, fun hs => ?_⟩
  have hth := hst.th hs
  unfold ThTwin at hth ⊢
  simp only [hF, if_true] at hth ⊢
  exact hth

section
variable (hhash : hashCtxSupported r.negotiateInfo.baseHashSel = true)
include hhash

theorem appendB_twin (hkeeps : Keeps isRequester r (.appendB m))
    (hroom : ∀ c', appendMessageB m r ≠ .err .bufferFull c') :
    Agree (Twin isRequester) (appendMessageB m r) (appendMessageB m h) := by
  obtain ⟨hm, hC⟩ := hkeeps
  unfold appendMessageB at hroom ⊢
  rw [Effect.read_bind, htwin.raw] at hroom
  rw [Effect.read_bind, Effect.read_bind, htwin.raw, htwin.hashed]
  obtain ⟨ctx, hfeed, hfollows⟩ := feedM1M2_follows .invalidStateLocal (htwin.messageA ▸ htwin.m1m2)
    (htwin.negotiateInfo ▸ hhash) hm
  rw [if_pos rfl, hfeed]
  cases hb : appendMessage (maxManagedBufferBSize r.build.config) r.runtimeInfo.messageB m with
  | none =>
    rw [hb] at hroom
    exact absurd rfl (hroom r)
  | some b =>
    refine ⟨htwin.raw, htwin.hashed, htwin.settings, htwin.messageA, htwin.transportEncap, ?_,
      htwin.l1l2, htwin.session⟩
    rw [htwin.messageA, hC, List.append_nil] at hfollows
    rwa [hC, List.append_nil, appendMessage_eq_some hb]

theorem appendC_twin (hm : m ≠ [])
    (hroom : ∀ c', appendMessageC m r ≠ .err .bufferFull c') :
    Agree (Twin isRequester) (appendMessageC m r) (appendMessageC m h) := by
  unfold appendMessageC at hroom ⊢
  rw [Effect.read_bind, htwin.raw] at hroom
  rw [Effect.read_bind, Effect.read_bind, htwin.raw, htwin.hashed]
  obtain ⟨ctx, hfeed, hfollows⟩ := feedM1M2_follows .cryptoError (htwin.messageA ▸ htwin.m1m2)
    (htwin.negotiateInfo ▸ hhash) hm
  rw [if_pos rfl, hfeed]
  cases hb : appendMessage maxManagedBufferCSize r.runtimeInfo.messageC m with
  | none =>
    rw [hb] at hroom
    exact absurd rfl (hroom r)
  | some b =>
    refine ⟨htwin.raw, htwin.hashed, htwin.settings, htwin.messageA, htwin.transportEncap, ?_,
      htwin.l1l2, htwin.session⟩
    rw [htwin.messageA, List.append_assoc] at hfollows
    rwa [appendMessage_eq_some hb]

theorem appendM_twin {sessionId : Option Nat} (hm : m ≠ [])
    (hroom : ∀ c', appendMessageM sessionId m r ≠ .err .bufferFull c') :
    Agree (Twin isRequester) (appendMessageM sessionId m r) (appendMessageM sessionId m h) := by
  unfold appendMessageM at hroom ⊢
  rw [Effect.read_bind, htwin.raw] at hroom
  rw [Effect.read_bind, Effect.read_bind, htwin.raw, htwin.hashed]
  have hhash' : hashCtxSupported h.negotiateInfo.baseHashSel = true := htwin.negotiateInfo ▸ hhash
  cases sessionId with
  | none =>
    obtain ⟨ctx, hfeed, hfollows⟩ := feedL1L2_follows (htwin.opening ▸ htwin.l1l2) hhash' hm
    rw [hfeed]
    cases hb : appendMessage (maxManagedBufferMSize r.build.config) r.runtimeInfo.messageM m with
    | none =>
      rw [hb] at hroom
      exact absurd rfl (hroom r)
    | some b =>
      refine ⟨htwin.raw, htwin.hashed, htwin.settings, htwin.messageA, htwin.transportEncap,
        htwin.m1m2, ?_, htwin.session⟩
      rw [htwin.opening, ← appendMessage_eq_some hb] at hfollows
      exact hfollows
  | some id =>
    refine htwin.withSession fun i s t hat _ hst => ?_
    obtain ⟨ctx, hfeed, hfollows⟩ := feedL1L2_follows (htwin.opening ▸ hst.l1l2) hhash' hm
    rw [Effect.read_bind, Effect.read_bind, hfeed]
    cases hb : appendMessage (maxManagedBufferMSize r.build.config) s.runtimeInfo.messageM m with
    | none =>
      refine absurd (withSession_of_err hat (t := s) ?_) (hroom _)
      rw [Effect.read_bind, hb]
      rfl
    | some b =>
      rw [htwin.opening, ← appendMessage_eq_some hb] at hfollows
      exact ⟨hst.same, hfollows, fun hs => (hst.opened hs).of_core rfl, hst.th⟩

end

theorem openSession_twin {rspCertHash : Option Bytes}
    (hf : ∀ s, (f s).runtimeInfo = s.runtimeInfo)
    (hopened : ∀ s, s.runtimeInfo.messageA = r.runtimeInfo.messageA →
      s.runtimeInfo.rspCertHash = rspCertHash → s.usePsk = false →
      Opened (partsOf isRequester r) (f s)) :
    Agree (Twin isRequester) (openSession id rspCertHash f r) (openSession id rspCertHash f h) := by
  unfold openSession
  refine htwin.withSession fun i s t hat hat' hst => ?_
  let fresh : SpdmSession := f (startTranscript r.runtimeInfo.messageA rspCertHash
    (sessionParams r { s.setDefault with sessionId := id }))
  have hs : (do SpdmSession.setup id; update fun s => f (startTranscript r.runtimeInfo.messageA
      rspCertHash (sessionParams r s))) s = .ok () fresh := by
    simp only [SpdmSession.setup, bind_assoc, Effect.read_bind, hat.sessionId]
    rfl
  have ht : (do SpdmSession.setup id; update fun s => f (startTranscript h.runtimeInfo.messageA
      rspCertHash (sessionParams h s))) t = .ok () fresh := by
    have hsame : t.setDefault = s.setDefault := by
      have hdefault := congrArg SpdmSession.setDefault hst.same
      exact hdefault
    simp only [SpdmSession.setup, bind_assoc, Effect.read_bind, hat'.sessionId, htwin.messageA,
      sessionParams, htwin.negotiateInfo, htwin.transportEncap]
    change Outcome.ok () (f (startTranscript _ _ (sessionParams r
      { t.setDefault with sessionId := id }))) = .ok () fresh
    rw [hsame]
  rw [hs, ht]
  have hruntime := hf (startTranscript r.runtimeInfo.messageA rspCertHash
    (sessionParams r { s.setDefault with sessionId := id }))
  refine ⟨rfl, ?_, fun _ => hopened _ rfl rfl rfl, fun _ => ?_⟩
  · rw [hruntime]
    rfl
  · unfold ThTwin
    rw [hruntime]
    exact ⟨rfl, rfl, rfl⟩

theorem openKeyExchange_twin {mutAuthRequested : Flags} :
    Agree (Twin isRequester) (perform isRequester (.openKeyExchange id mutAuthRequested) r)
      (perform isRequester (.openKeyExchange id mutAuthRequested) h) := by
  rw [perform, Effect.read_bind, Effect.read_bind, htwin.rspIdentity]
  cases hidentity : rspIdentity isRequester r with
  | none => exact htwin
  | some hash =>
    change Agree _ (openSession id (some hash) (fun s => { s with mutAuthRequested }) r)
      (openSession id (some hash) (fun s => { s with mutAuthRequested }) h)
    refine openSession_twin htwin (fun _ => rfl) fun s hA hhash hpsk =>
      ⟨hA, fun h => ?_, fun _ => ?_⟩
    · exact absurd (hpsk.symm.trans h) Bool.false_ne_true
    · have hpart : (partsOf isRequester r).rspIdentity = some hash := hidentity
      rw [hpart]
      exact ⟨hhash, rfl⟩

theorem openPsk_twin :
    Agree (Twin isRequester) (perform isRequester (.openPsk id) r)
      (perform isRequester (.openPsk id) h) := by
  rw [perform]
  exact openSession_twin htwin (fun _ => rfl) fun s hA hhash _ =>
    ⟨hA, fun _ => hhash, fun h => absurd h.symm Bool.false_ne_true⟩

theorem thPreamble_eq (hs : InHandshake s)
    (hst : SessionTwin (partsOf isRequester r) s t)
    (hpsk : s.usePsk = true → r.runtimeInfo.vdmMessageTranscriptBeforeKeyExchange = none) :
    before (partsOf isRequester r) s =
      some (thPreamble h.runtimeInfo.vdmMessageTranscriptBeforeKeyExchange t) := by
  have hvdm : h.runtimeInfo.vdmMessageTranscriptBeforeKeyExchange =
      (partsOf isRequester r).vendor :=
    congrArg (·.vdmMessageTranscriptBeforeKeyExchange) htwin.settings
  have hcert : t.runtimeInfo.rspCertHash = s.runtimeInfo.rspCertHash :=
    congrArg (·.runtimeInfo.rspCertHash) hst.same
  unfold before thPreamble
  rw [hvdm, hcert]
  cases hp : s.usePsk with
  | true =>
    have hnone : (partsOf isRequester r).vendor = none := hpsk hp
    rw [hnone, (hst.opened hs).psk hp]
    rfl
  | false =>
    obtain ⟨hhash, hsome⟩ := (hst.opened hs).keyExchange hp
    cases (partsOf isRequester r).vendor with
    | some vendor => rfl
    | none =>
      obtain ⟨hash, hidentity⟩ := Option.isSome_iff_exists.1 hsome
      rw [hhash, hidentity]
      rfl

theorem appendK_twin (hkeeps : Keeps isRequester r (.appendK id m))
    (hhash : HashSupported r (.appendK id m))
    (hroom : ∀ c', appendMessageK id m r ≠ .err .bufferFull c') :
    Agree (Twin isRequester) (appendMessageK id m r) (appendMessageK id m h) := by
  unfold appendMessageK at hroom ⊢
  refine htwin.withSession fun i s t hat hat' hst => ?_
  obtain ⟨hs, hm, hF, hpsk⟩ := hkeeps s hat.sessionViaId
  rw [Effect.read_bind, Effect.read_bind, htwin.raw, htwin.hashed]
  cases hb : appendMessage maxManagedBufferKSize s.runtimeInfo.messageK m with
  | none =>
    refine absurd (withSession_of_err hat (t := s) ?_) (hroom _)
    rw [Effect.read_bind, htwin.raw, hb]
    rfl
  | some k =>
    obtain rfl := appendMessage_eq_some hb
    obtain ⟨hinit, hth⟩ := hst.th hs
    cases hrunning : t.runtimeInfo.digestContextTh with
    | some ctx =>
      rw [hrunning] at hth
      obtain ⟨hK, pre, hpre, hfed⟩ := hth
      rw [if_pos hF] at hfed
      refine ⟨hst.same, hst.l1l2, fun hs => (hst.opened hs).of_core rfl, fun _ => ⟨hinit, ?_⟩⟩
      refine ⟨by simp [hK], pre, hpre, ?_⟩
      rw [if_pos hF]
      simp only [HashCtx.feed, hfed, List.append_assoc]
    | none =>
      rw [hrunning] at hth
      obtain ⟨hK, -⟩ := hth
      -- the hash is started: message A, the preamble and the first part
      have halgo : t.cryptoParam = s.cryptoParam := congrArg (·.cryptoParam) hst.same
      have hA : t.runtimeInfo.messageA = (partsOf isRequester r).messageA :=
        (congrArg (·.runtimeInfo.messageA) hst.same).trans (hst.opened hs).messageA
      simp only [hashCtxInit, halgo, hhash s hat.sessionViaId, if_true]
      refine ⟨hst.same, hst.l1l2, fun hs => (hst.opened hs).of_core rfl, fun _ => ⟨hinit, ?_⟩⟩
      have hpre := thPreamble_eq htwin hs hst fun h => hpsk h hK
      refine ⟨by simp [hm], _, hpre, ?_⟩
      rw [if_pos hF]
      simp only [HashCtx.feed, hA, hK, List.nil_append, List.append_assoc]

end Ops

theorem certChainHash_eq {chains : Slots Bytes} {slotId : Nat} {e : SpdmStatus}
    {chain hash : Bytes} (hchain : chains[slotId]? = some (some chain))
    (hhash : hashAll c.negotiateInfo.baseHashSel chain = some hash) :
    certChainHash chains slotId e c = .ok hash c := by
  unfold certChainHash
  rw [Effect.read_bind, hchain, orAbort, Effect.ret_bind, orFail, Effect.ret_bind, hhash]
  rfl

theorem mutCertDigest_eq {digest : Bytes}
    (hidentity : reqIdentity isRequester c = some digest) :
    mutCertDigest isRequester c = .ok digest c := by
  obtain ⟨data, hdata, hhash⟩ := Option.bind_eq_some_iff.1 hidentity
  unfold mutCertDigest
  rw [Effect.read_bind]
  have hslot : (sideOf isRequester c).reqSlotId = if isRequester then
      c.runtimeInfo.localUsedCertChainSlotId else c.runtimeInfo.peerUsedCertChainSlotId := by
    cases isRequester <;> rfl
  have hkey : (sideOf isRequester c).reqPubKey = if isRequester then c.provisionInfo.myPubKey
      else c.provisionInfo.peerPubKey := by
    cases isRequester <;> rfl
  have hchains : (sideOf isRequester c).reqChains = if isRequester then
      c.provisionInfo.myCertChain else c.peerInfo.peerCertChain := by
    cases isRequester <;> rfl
  rw [← hslot, ← hkey, ← hchains]
  by_cases hpub : (sideOf isRequester c).reqSlotId = pubKeySlotIdKeyExchangeRsp
  · rw [if_pos hpub] at hdata ⊢
    rw [hdata, orFail, Effect.ret_bind, hhash]
    rfl
  · rw [if_neg hpub] at hdata ⊢
    exact certChainHash_eq (Option.join_eq_some_iff.1 hdata) hhash

omit [Crypto] in
theorem feedTh_eq {data : Bytes}
    (hat : SlotAt c id i t) (hctx : t.runtimeInfo.digestContextTh = some ctx) :
    feedTh id data c = .ok () (c.setSlot i { t with runtimeInfo :=
      { t.runtimeInfo with digestContextTh := some (ctx.feed data) } }) := by
  refine withSession_of_ok hat ?_
  rw [Effect.read_bind, hctx]
  rfl

theorem startMessageF_eq (hat : SlotAt c id i t) (hctx : t.runtimeInfo.digestContextTh = some ctx)
    (hmid : between (partsOf isRequester c) t = some mid) :
    startMessageF isRequester id t c = .ok () (c.setSlot i { t with runtimeInfo :=
      { t.runtimeInfo with
        digestContextTh := some (ctx.feed mid), messageFInitialized := true } }) := by
  have hmark : ∀ c', c' = c.setSlot i { t with runtimeInfo :=
        { t.runtimeInfo with digestContextTh := some (ctx.feed mid) } } →
      withSession id SpdmStatus.invalidStateLocal (update fun s => { s with runtimeInfo :=
        { s.runtimeInfo with messageFInitialized := true } }) c' =
      .ok () (c.setSlot i { t with runtimeInfo := { t.runtimeInfo with
        digestContextTh := some (ctx.feed mid), messageFInitialized := true } }) := by
    rintro _ rfl
    have hat' := hat.set (t := { t with runtimeInfo :=
      { t.runtimeInfo with digestContextTh := some (ctx.feed mid) } }) hat.sessionId
    rw [withSession_update hat', setSlot_setSlot]
  unfold startMessageF between at *
  rw [bind_apply]
  cases hpsk : t.usePsk || t.mutAuthRequested == 0 with
  | true =>
    -- nothing stands between messages K and F
    rw [hpsk, if_pos rfl, Option.some.injEq] at hmid
    have hno : (!t.usePsk && t.mutAuthRequested != 0) = false := by
      cases hp : t.usePsk <;> simp_all
    rw [hno]
    refine hmark c ?_
    have hsame : ctx.feed mid = ctx := by simp [HashCtx.feed, ← hmid]
    rw [hsame, ← hctx]
    exact (setSlot_self hat.slot).symm
  | false =>
    rw [hpsk] at hmid
    have hyes : (!t.usePsk && t.mutAuthRequested != 0) = true := by
      cases hp : t.usePsk <;> simp_all
    rw [hyes, if_pos rfl]
    cases hvdm : t.runtimeInfo.vdmMessageTranscriptBeforeFinish with
    | some vdm =>
      rw [hvdm] at hmid
      cases hmid
      dsimp only
      rw [feedTh_eq hat hctx]
      exact hmark _ rfl
    | none =>
      rw [hvdm] at hmid
      dsimp only
      rw [bind_apply, mutCertDigest_eq hmid]
      dsimp only
      rw [feedTh_eq hat hctx]
      exact hmark _ rfl

theorem appendMessageF_hashed (hmode : c.build.hashedTranscriptData = true) (hat : SlotAt c id i t)
    (hctx : t.runtimeInfo.digestContextTh = some ctx)
    (hmid : t.runtimeInfo.messageFInitialized = false →
      between (partsOf isRequester c) t = some mid) :
    appendMessageF isRequester id m c = .ok () (c.setSlot i { t with runtimeInfo :=
      { t.runtimeInfo with
        digestContextTh := some ((if t.runtimeInfo.messageFInitialized then ctx
          else ctx.feed mid).feed m)
        messageFInitialized := true } }) := by
  unfold appendMessageF
  rw [Effect.read_bind, hmode, if_pos rfl, hat.sessionViaId, orFail, Effect.ret_bind, hctx,
    Option.isSome_some, guardElse, if_pos rfl, Effect.ret_bind]
  cases hinit : t.runtimeInfo.messageFInitialized with
  | true =>
    rw [if_pos rfl, if_pos rfl, Effect.ret_bind, feedTh_eq hat hctx, ← hinit]
  | false =>
    rw [if_neg Bool.false_ne_true, if_neg Bool.false_ne_true, bind_apply,
      startMessageF_eq hat hctx (hmid hinit)]
    have hat' := hat.set (t := { t with runtimeInfo := { t.runtimeInfo with
      digestContextTh := some (ctx.feed mid), messageFInitialized := true } }) hat.sessionId
    dsimp only
    rw [feedTh_eq hat' rfl, setSlot_setSlot]

theorem between_twin (htwin : Twin isRequester r h)
    (hst : SessionTwin (partsOf isRequester r) s t) :
    between (partsOf isRequester h) t = between (partsOf isRequester r) s := by
  have hmutAuth : t.mutAuthRequested = s.mutAuthRequested := congrArg (·.mutAuthRequested) hst.same
  have hvdm : t.runtimeInfo.vdmMessageTranscriptBeforeFinish =
      s.runtimeInfo.vdmMessageTranscriptBeforeFinish :=
    congrArg (·.runtimeInfo.vdmMessageTranscriptBeforeFinish) hst.same
  have hidentity : (partsOf isRequester h).reqIdentity = (partsOf isRequester r).reqIdentity :=
    htwin.reqIdentity
  unfold between
  rw [hst.usePsk, hmutAuth, hvdm, hidentity]

omit [Crypto] in
theorem SessionTwin.appendF {p : Parts} (hst : SessionTwin p s t)
    (hs : InHandshake s)
    (hrunning : t.runtimeInfo.digestContextTh = some ctx) (hm : m ≠ [])
    (hmid : s.runtimeInfo.messageF = [] → between p s = some mid) :
    SessionTwin p
      { s with runtimeInfo := { s.runtimeInfo with messageF := s.runtimeInfo.messageF ++ m } }
      { t with runtimeInfo := { t.runtimeInfo with
        digestContextTh := some ((if t.runtimeInfo.messageFInitialized then ctx
          else ctx.feed mid).feed m)
        messageFInitialized := true } } := by
  obtain ⟨hinit, hth⟩ := hst.th hs
  rw [hrunning] at hth
  obtain ⟨hK, pre, hpre, hfed⟩ := hth
  refine ⟨hst.same, hst.l1l2, fun hs => (hst.opened hs).of_core rfl, fun _ =>
    ⟨?_, hK, pre, hpre, ?_⟩⟩
  · simp [hm]
  rw [if_neg (by simp [hm])]
  by_cases hF : s.runtimeInfo.messageF = []
  · rw [if_pos hF] at hfed
    refine ⟨mid, hmid hF, ?_⟩
    rw [hinit, hF]
    simp [HashCtx.feed, hfed]
  · rw [if_neg hF] at hfed
    obtain ⟨mid', hmid', hfed⟩ := hfed
    refine ⟨mid', hmid', ?_⟩
    have hbegun : t.runtimeInfo.messageFInitialized = true := by simp [hinit, hF]
    rw [hbegun, if_pos rfl]
    simp only [HashCtx.feed, hfed, List.append_assoc]

theorem appendF_twin (htwin : Twin isRequester r h)
    (hkeeps : Keeps isRequester r (.appendF id m))
    (hroom : ∀ c', appendMessageF isRequester id m r ≠ .err .bufferFull c') :
    Agree (Twin isRequester) (appendMessageF isRequester id m r)
      (appendMessageF isRequester id m h) := by
  have hraw : appendMessageF isRequester id m r = withSession id .invalidStateLocal (do
      let s ← read
      let f ← orFail .bufferFull (appendMessage maxManagedBufferFSize s.runtimeInfo.messageF m)
      update fun s => { s with runtimeInfo := { s.runtimeInfo with messageF := f } }) r := by
    unfold appendMessageF
    rw [Effect.read_bind, htwin.raw, if_neg Bool.false_ne_true]
  rw [hraw] at hroom ⊢
  cases hsession : r.sessionViaId id with
  | none =>
    -- neither build has the session
    have hnone : (r.session.findIdx? fun s => s.sessionId == id) = none :=
      List.findIdx?_eq_none_iff.2 fun s hs => by simpa using List.find?_eq_none.1 hsession s hs
    have hnone' : h.sessionViaId id = none :=
      List.find?_eq_none.2 fun s hs => by
        simpa using List.findIdx?_eq_none_iff.1 (htwin.findIdx_none hnone) s hs
    have hleft : ∀ m', withSession id SpdmStatus.invalidStateLocal m' r =
        (.err .invalidStateLocal r : Outcome SpdmContext SpdmStatus Unit) := fun m' => by
      unfold withSession
      rw [hnone]
    rw [hleft]
    unfold appendMessageF
    rw [Effect.read_bind, htwin.hashed, hnone']
    exact htwin
  | some s =>
    obtain ⟨i, hat⟩ := slotAt_of_sessionViaId hsession
    obtain ⟨t, hat', hst⟩ := htwin.slotAt hat
    obtain ⟨hs, hm, hK, hidentity⟩ := hkeeps s hsession
    obtain ⟨hinit, hth⟩ := hst.th hs
    cases hrunning : t.runtimeInfo.digestContextTh with
    | none =>
      rw [hrunning] at hth
      exact absurd hth.1 hK
    | some ctx =>
      cases hb : appendMessage maxManagedBufferFSize s.runtimeInfo.messageF m with
      | none =>
        refine absurd (withSession_of_err hat (t := s) ?_) (hroom _)
        rw [Effect.read_bind, hb]
        rfl
      | some f =>
        obtain rfl := appendMessage_eq_some hb
        have hmid : s.runtimeInfo.messageF = [] → between (partsOf isRequester r) s =
            some ((between (partsOf isRequester r) s).getD []) := fun hF => by
          obtain ⟨mid, hmid⟩ := Option.isSome_iff_exists.1 (hidentity hF)
          rw [hmid]
          rfl
        rw [withSession_of_ok hat
            (by rw [Effect.read_bind, hb]; rfl),
          appendMessageF_hashed htwin.hashed hat' hrunning fun hno => by
            rw [between_twin htwin hst]
            exact hmid (by simpa [hinit] using hno)]
        exact htwin.sessions (forall₂_set_set htwin.session
          (hst.appendF hs hrunning hm hmid) i)

theorem perform_twin (htwin : Twin isRequester r h) {op : Op} (hkeeps : Keeps isRequester r op)
    (hhash : HashSupported r op) (hroom : ∀ c', perform isRequester op r ≠ .err .bufferFull c') :
    Agree (Twin isRequester) (perform isRequester op r) (perform isRequester op h) := by
  cases op with
  | startOver => exact startOver_twin htwin
  | appendA m => exact appendA_twin htwin hkeeps
  | appendB m => exact appendB_twin htwin hhash hkeeps hroom
  | appendC m => exact appendC_twin htwin hhash hkeeps hroom
  | appendM sessionId m => exact appendM_twin htwin hhash hkeeps hroom
  | resetVia opcode sessionId => exact resetVia_twin htwin hkeeps
  | resetBC => exact resetBC_twin htwin
  | resetM sessionId => exact resetM_twin htwin sessionId
  | settle s => exact settle_twin htwin hkeeps
  | openKeyExchange id mutAuthRequested => exact openKeyExchange_twin htwin
  | openPsk id => exact openPsk_twin htwin
  | appendK id m => exact appendK_twin htwin hkeeps hhash hroom
  | installBeforeFinish id transcript => exact installBeforeFinish_twin htwin hkeeps
  | appendF id m => exact appendF_twin htwin hkeeps hroom
  | setState id state => exact setState_twin htwin hkeeps
  | teardown id => exact teardown_twin htwin id

/-! ## §6. One point. -/

theorem m1m2_twin (htwin : Twin isRequester r h) (hready : Ready r .m1m2)
    (hfits : r.m1m2.isSome = true) : bytesAt isRequester h .m1m2 = bytesAt isRequester r .m1m2 ∧
      (bytesAt isRequester r .m1m2).isSome = true := by
  obtain ⟨ctx, hctx, hfed⟩ := htwin.m1m2.running_of_ne hready
  obtain ⟨t, ht⟩ := Option.isSome_iff_exists.1 hfits
  unfold bytesAt m1m2 at *
  rw [htwin.raw] at ht ⊢
  rw [ht, htwin.hashed, if_pos rfl, hctx]
  obtain ⟨message, hjoin, rfl⟩ := Option.map_eq_some_iff.1 ht
  refine ⟨?_, rfl⟩
  simp only [Option.map_some, Transcript.bytes, hfed, joinMessages_append hjoin, List.flatten_cons,
    List.flatten_nil, List.append_nil, List.nil_append]

theorem messageM_twin (htwin : Twin isRequester r h) {sessionId : Option Nat}
    {ctx : Option HashCtx} (hm : r.messageM sessionId = some (m, ctx)) :
    ∃ m' ctx', h.messageM sessionId = some (m', ctx') ∧
      Follows (partsOf isRequester r).opening m ctx' := by
  cases sessionId with
  | none =>
    cases hm
    exact ⟨_, _, rfl, htwin.l1l2⟩
  | some id =>
    obtain ⟨s, hs, heq⟩ := Option.map_eq_some_iff.1 hm
    cases heq
    obtain ⟨i, hat⟩ := slotAt_of_sessionViaId hs
    obtain ⟨t, hat', hst⟩ := htwin.slotAt hat
    refine ⟨t.runtimeInfo.messageM, _, ?_, hst.l1l2⟩
    simp only [messageM, hat'.sessionViaId, Option.map_some]

theorem l1l2_twin (htwin : Twin isRequester r h) {sessionId : Option Nat}
    (hready : Ready r (.l1l2 sessionId)) (hfits : (l1l2 r sessionId).isSome = true) :
    bytesAt isRequester h (.l1l2 sessionId) = bytesAt isRequester r (.l1l2 sessionId) ∧
      (bytesAt isRequester r (.l1l2 sessionId)).isSome = true := by
  obtain ⟨m, ctx, hm, hne⟩ := hready
  obtain ⟨m', ctx', hm', hfollows⟩ := messageM_twin htwin hm
  obtain ⟨running, rfl, hfed⟩ := hfollows.running_of_ne hne
  obtain ⟨t, ht⟩ := Option.isSome_iff_exists.1 hfits
  have hhashed : l1l2 h sessionId = some (.hashed running) := by
    unfold l1l2
    rw [hm']
    simp [htwin.hashed]
  simp only [bytesAt, ht, hhashed, Option.map_some, Transcript.bytes, hfed]
  unfold l1l2 at ht
  rw [hm] at ht
  simp only [htwin.raw, Option.bind_eq_bind, Option.bind_some, Bool.false_eq_true, if_false] at ht
  obtain ⟨message, hjoin, rfl⟩ := Option.map_eq_some_iff.1 ht
  rw [joinMessages_append hjoin]
  simp only [partsOf]
  split <;> simp

def Assembles (bytes : Bytes) (m : SpdmResult Bytes) (c : SpdmContext) : Prop :=
  m c = .ok bytes c ∨ m c = .err .bufferFull c

namespace Assembles
variable {bytes more : Bytes} {m : SpdmResult Bytes}
  {k : Bytes → SpdmResult Bytes} {c : SpdmContext}

section
omit [Crypto]

theorem read {f : SpdmContext → SpdmResult Bytes} (h : Assembles bytes (f c) c) :
    Assembles bytes (Effect.read >>= f) c := h

theorem bind (bytes : Bytes) (hm : Assembles bytes m c) (hk : Assembles more (k bytes) c) :
    Assembles more (m >>= k) c := by
  unfold Assembles at *
  rw [bind_apply]
  obtain hm | hm := hm <;> rw [hm]
  · exact hk
  · exact .inr rfl

theorem appendTh (buffer message : Bytes) :
    Assembles (buffer ++ message) (appendTh buffer message) c := by
  unfold SpdmContext.appendTh
  cases h : appendMessage maxManagedBufferThSize buffer message with
  | none => exact .inr rfl
  | some out =>
    obtain rfl := appendMessage_eq_some h
    exact .inl rfl

end

theorem identity {slotId pubKeySlotId : Nat} {pubKey : Option Bytes} {chains : Slots Bytes}
    {missing : SpdmStatus} {hash : Bytes}
    (h : identityHash c.negotiateInfo.baseHashSel slotId pubKeySlotId pubKey chains = some hash)
    (buffer : Bytes) :
    Assembles (buffer ++ hash) (do
      let digest ← (if slotId = pubKeySlotId then pubKeyHash pubKey
        else certChainHash chains slotId missing)
      SpdmContext.appendTh buffer digest) c := by
  obtain ⟨data, hdata, hhash⟩ := Option.bind_eq_some_iff.1 h
  refine bind hash (.inl ?_) (appendTh buffer hash)
  by_cases hpub : slotId = pubKeySlotId
  · rw [if_pos hpub] at hdata ⊢
    unfold pubKeyHash
    rw [Effect.read_bind, hdata, orFail, Effect.ret_bind, hhash]
    rfl
  · rw [if_neg hpub] at hdata ⊢
    exact certChainHash_eq (Option.join_eq_some_iff.1 hdata) hhash

end Assembles

theorem calcTranscriptData_assembles {isMutAuth : Bool} {pre : Bytes}
    (hpre : before (partsOf isRequester r) s = some pre)
    (hmid : (if isMutAuth then between (partsOf isRequester r) s else some []) = some mid)
    (hmutAuth : isMutAuth = true → s.mutAuthRequested ≠ 0) :
    Assembles (r.runtimeInfo.messageA ++ pre ++ s.runtimeInfo.messageK ++ mid ++
        s.runtimeInfo.messageF)
      (calcTranscriptData (sideOf isRequester r) s.usePsk isMutAuth s.runtimeInfo.messageK
        (some s.runtimeInfo.messageF) s.runtimeInfo.vdmMessageTranscriptBeforeFinish) r := by
  let a := r.runtimeInfo.messageA
  refine .read (.bind a (.appendTh [] a) (.bind (a ++ pre) ?_
    (.bind (a ++ pre ++ s.runtimeInfo.messageK) (.appendTh _ _)
      (.bind (a ++ pre ++ s.runtimeInfo.messageK ++ mid) ?_ (.appendTh _ _)))))
  · unfold before at hpre
    cases hpsk : s.usePsk with
    | true =>
      rw [hpsk] at hpre
      cases hpre
      rw [List.append_nil]
      exact .inl rfl
    | false =>
      rw [hpsk] at hpre
      rw [if_neg Bool.false_ne_true]
      have hvendor : (partsOf isRequester r).vendor =
        r.runtimeInfo.vdmMessageTranscriptBeforeKeyExchange := rfl
      cases hvdm : r.runtimeInfo.vdmMessageTranscriptBeforeKeyExchange with
      | some vdm =>
        rw [hvendor, hvdm] at hpre
        cases hpre
        exact .appendTh _ _
      | none =>
        rw [hvendor, hvdm] at hpre
        exact .identity hpre _
  · cases hmut : isMutAuth with
    | false =>
      rw [hmut, if_neg Bool.false_ne_true, Option.some.injEq] at hmid
      rw [Bool.not_false, Bool.or_true, ← hmid, List.append_nil]
      exact .inl rfl
    | true =>
      rw [hmut, if_pos rfl] at hmid
      rw [Bool.not_true, Bool.or_false]
      unfold between at hmid
      cases hpsk : s.usePsk with
      | true =>
        rw [hpsk, Bool.true_or, if_pos rfl, Option.some.injEq] at hmid
        rw [← hmid, List.append_nil]
        exact .inl rfl
      | false =>
        rw [hpsk, Bool.false_or, beq_eq_false_iff_ne.2 (hmutAuth hmut),
          if_neg Bool.false_ne_true] at hmid
        rw [if_neg Bool.false_ne_true]
        cases hvdm : s.runtimeInfo.vdmMessageTranscriptBeforeFinish with
        | some vdm =>
          rw [hvdm] at hmid
          cases hmid
          exact .appendTh _ _
        | none =>
          rw [hvdm] at hmid
          exact .identity hmid _

theorem th_twin (htwin : Twin isRequester r h) {finishing : Bool}
    (hready : Ready r (.th id finishing))
    (hfits : ∀ c', th isRequester id finishing r ≠ .err .bufferFull c') :
    bytesAt isRequester h (.th id finishing) = bytesAt isRequester r (.th id finishing) ∧
      (bytesAt isRequester r (.th id finishing)).isSome = true := by
  obtain ⟨s, hsession, hs, hK, hfinishing⟩ := hready
  obtain ⟨i, hat⟩ := slotAt_of_sessionViaId hsession
  obtain ⟨t, hat', hst⟩ := htwin.slotAt hat
  obtain ⟨-, hth⟩ := hst.th hs
  cases hrunning : t.runtimeInfo.digestContextTh with
  | none =>
    rw [hrunning] at hth
    exact absurd hth.1 hK
  | some ctx =>
    rw [hrunning] at hth
    obtain ⟨-, pre, hpre, hfed⟩ := hth
    have hhashed : th isRequester id finishing h = .ok (.hashed ctx) h := by
      unfold th thTranscript
      rw [Effect.read_bind, hat'.sessionViaId, orFail, Effect.ret_bind, Effect.read_bind,
        htwin.hashed, hrunning]
      rfl
    -- the raw build assembles what was fed
    let isMutAuth := finishing && s.mutAuthRequested != 0
    have hassembles : Assembles ctx.fed
      (calcTranscriptData (sideOf isRequester r) s.usePsk isMutAuth
        s.runtimeInfo.messageK (some s.runtimeInfo.messageF)
        s.runtimeInfo.vdmMessageTranscriptBeforeFinish) r := by
      have hmutAuth : isMutAuth = true → s.mutAuthRequested ≠ 0 := fun h => by
        simpa using (Bool.and_eq_true_iff.1 h).2
      by_cases hF : s.runtimeInfo.messageF = []
      · rw [if_pos hF] at hfed
        have hno : isMutAuth = false := by
          have hfalse : finishing = false := by simpa [hF] using hfinishing
          simp [isMutAuth, hfalse]
        have hmid : (if isMutAuth then between (partsOf isRequester r) s else some []) =
          some [] := by
          rw [hno]; rfl
        have hdata := calcTranscriptData_assembles hpre hmid hmutAuth
        rwa [List.append_nil, hF, List.append_nil, ← hF,
          show r.runtimeInfo.messageA ++ pre ++ s.runtimeInfo.messageK =
            ctx.fed from hfed.symm] at hdata
      · rw [if_neg hF] at hfed
        obtain ⟨mid, hmid, hfed⟩ := hfed
        rw [hfed]
        refine calcTranscriptData_assembles hpre ?_ hmutAuth
        cases hm : isMutAuth with
        | true => exact hmid
        | false =>
          have hzero : s.mutAuthRequested = 0 := by
            simpa [isMutAuth, hfinishing.2 hF] using hm
          rw [between, hzero] at hmid
          simpa using hmid
    have hraw : th isRequester id finishing r = .ok (.raw ctx.fed) r := by
      have hrun : th isRequester id finishing r = (do
          let message ← calcTranscriptData (sideOf isRequester r) s.usePsk isMutAuth
            s.runtimeInfo.messageK (some s.runtimeInfo.messageF)
            s.runtimeInfo.vdmMessageTranscriptBeforeFinish
          ret (Transcript.raw message)) r := by
        unfold th thTranscript
        rw [Effect.read_bind, hsession, orFail, Effect.ret_bind, Effect.read_bind, htwin.raw,
          if_neg Bool.false_ne_true]
      rw [hrun] at hfits ⊢
      rw [bind_apply] at hfits ⊢
      obtain hok | herr := hassembles
      · rw [hok]
        rfl
      · rw [herr] at hfits
        exact absurd rfl (hfits r)
    simp [bytesAt, hhashed, hraw, Outcome.returned, Transcript.bytes]

theorem bytesAt_twin (htwin : Twin isRequester r h) {p : Point} (hready : Ready r p)
    (hfits : Fits isRequester r p) : bytesAt isRequester h p = bytesAt isRequester r p ∧
      (bytesAt isRequester r p).isSome = true := by
  cases p with
  | m1m2 => exact m1m2_twin htwin hready hfits
  | l1l2 sessionId => exact l1l2_twin htwin hready hfits
  | th id finishing => exact th_twin htwin hready hfits

/-! ## §7. Whole runs. -/

theorem observed_twin {events : List Event} (htwin : Twin isRequester r h)
    (horderly : Orderly isRequester events r) :
    observed isRequester events h = observed isRequester events r ∧
      ∀ bytes ∈ observed isRequester events r, bytes.isSome = true := by
  induction events generalizing r h with
  | nil => exact ⟨rfl, fun _ h => by cases h⟩
  | cons event events ih =>
    cases event with
    | observe p =>
      obtain ⟨hready, hfits, hrest⟩ := horderly
      obtain ⟨hsame, hsome⟩ := bytesAt_twin htwin hready hfits
      obtain ⟨hsames, hsomes⟩ := ih htwin hrest
      refine ⟨congrArg₂ List.cons hsame hsames, fun bytes hbytes => ?_⟩
      obtain rfl | hbytes := List.mem_cons.1 hbytes
      · exact hsome
      · exact hsomes bytes hbytes
    | perform op =>
      obtain ⟨hkeeps, hhash, hroom, hrest⟩ := horderly
      have hagree := perform_twin htwin hkeeps hhash hroom
      unfold observed
      cases hr : perform isRequester op r <;> cases hh : perform isRequester op h <;>
        rw [hr, hh] at hagree <;> rw [hr] at hrest <;>
        first | exact hagree.elim | exact ih hagree hrest | exact ⟨rfl, fun _ h => by cases h⟩

def inMode (hashed : Bool) (build : Build) : Build := { build with hashedTranscriptData := hashed }

theorem twin_new (build : Build) (transportEncap : Transport) (configInfo : SpdmConfigInfo)
    (provisionInfo : SpdmProvisionInfo) :
    Twin isRequester (.new (inMode false build) transportEncap configInfo provisionInfo)
      (.new (inMode true build) transportEncap configInfo provisionInfo) := by
  refine ⟨rfl, rfl, rfl, rfl, rfl, rfl, rfl, ?_⟩
  refine List.forall₂_same.2 fun s hs => ?_
  rw [(List.mem_replicate.1 hs).2]
  exact ⟨rfl, rfl, fun hs => absurd rfl hs.1, fun hs => absurd rfl hs.1⟩

/-- **The two builds hash and sign the same bytes**, in every run from a new
context whose steps all meet the conditions. -/
theorem modes_agree (isRequester : Bool) (build : Build) (transportEncap : Transport)
    (configInfo : SpdmConfigInfo) (provisionInfo : SpdmProvisionInfo) {events : List Event}
    (horderly : Orderly isRequester events
      (.new (inMode false build) transportEncap configInfo provisionInfo)) :
    observed isRequester events (.new (inMode true build) transportEncap configInfo provisionInfo) =
      observed isRequester events
        (.new (inMode false build) transportEncap configInfo provisionInfo) ∧
    ∀ bytes ∈ observed isRequester events
      (.new (inMode false build) transportEncap configInfo provisionInfo), bytes.isSome = true :=
  observed_twin (twin_new build transportEncap configInfo provisionInfo) horderly

/-! ## §8. The conditions are decidable. -/

section
omit [Crypto]

instance {c : SpdmContext} {id : Nat} {P : SpdmSession → Prop} [DecidablePred P] :
    Decidable (Session c id P) :=
  match h : c.sessionViaId id with
  | none => .isTrue fun s hs => by rw [h] at hs; cases hs
  | some s => decidable_of_iff (P s)
      ⟨fun hp t ht => by rw [h] at ht; cases ht; exact hp, fun hall => hall s h⟩

instance (s : SpdmSession) : Decidable (InHandshake s) :=
  inferInstanceAs (Decidable (_ ∧ _))

instance (c : SpdmContext) : Decidable (NoMeasurements c) :=
  inferInstanceAs (Decidable (_ ∧ _))

instance (c : SpdmContext) : Decidable (NoHandshake c) :=
  inferInstanceAs (Decidable (∀ s ∈ c.session, ¬ InHandshake s))

end

instance (c : SpdmContext) (op : Op) : Decidable (HashSupported c op) := by
  unfold HashSupported
  split <;> infer_instance

instance (c : SpdmContext) : (op : Op) → Decidable (Keeps isRequester c op)
  | .startOver | .resetBC | .resetM _ | .teardown _ => inferInstanceAs (Decidable True)
  | .appendA _ => inferInstanceAs (Decidable (_ ∧ _ ∧ NoMeasurements c ∧ NoHandshake c))
  | .appendB _ => inferInstanceAs (Decidable (_ ∧ _))
  | .appendC _ | .appendM _ _ => inferInstanceAs (Decidable (_ ≠ _))
  | .resetVia _ _ => inferInstanceAs (Decidable (_ → _))
  | .settle _ => inferInstanceAs (Decidable ((_ ∨ NoMeasurements c) ∧ (_ ∨ NoHandshake c)))
  | .openKeyExchange _ _ | .openPsk _ => inferInstanceAs (Decidable (_ ≠ _))
  | .appendK id m => inferInstanceAs (Decidable (Session c id fun s => InHandshake s ∧ m ≠ [] ∧
      s.runtimeInfo.messageF = [] ∧ (s.usePsk = true → s.runtimeInfo.messageK = [] →
        c.runtimeInfo.vdmMessageTranscriptBeforeKeyExchange = none)))
  | .installBeforeFinish id _ =>
    inferInstanceAs (Decidable (Session c id fun s => s.runtimeInfo.messageF = []))
  | .appendF id m => inferInstanceAs (Decidable (Session c id fun s => InHandshake s ∧ m ≠ [] ∧
      s.runtimeInfo.messageK ≠ [] ∧ (s.runtimeInfo.messageF = [] →
        (between (partsOf isRequester c) s).isSome = true)))
  | .setState id st => inferInstanceAs (Decidable (Session c id fun s =>
      s.sessionState = .established → st = .established))

omit [Crypto] in
instance {α : Type} (o : Outcome SpdmContext SpdmStatus α) :
    Decidable (∀ c', o ≠ .err .bufferFull c') :=
  match o with
  | .ok _ _ => .isTrue fun _ h => by cases h
  | .panic => .isTrue fun _ h => by cases h
  | .err e c => if h : e = .bufferFull then .isFalse fun hno => hno c (by rw [h])
    else .isTrue fun _ herr => by cases herr; exact h rfl

omit [Crypto] in
instance (c : SpdmContext) : (p : Point) → Decidable (Ready c p)
  | .m1m2 => inferInstanceAs (Decidable (_ ≠ _))
  | .l1l2 sessionId =>
    match h : c.messageM sessionId with
    | none => .isFalse fun ⟨_, _, hm, _⟩ => by rw [h] at hm; cases hm
    | some (m, ctx) => decidable_of_iff (m ≠ []) ⟨fun hm => ⟨m, ctx, h, hm⟩,
        fun ⟨_, _, hm, hne⟩ => by rw [h] at hm; cases hm; exact hne⟩
  | .th id finishing =>
    match h : c.sessionViaId id with
    | none => .isFalse fun ⟨_, hs, _⟩ => by rw [h] at hs; cases hs
    | some s => decidable_of_iff (InHandshake s ∧ s.runtimeInfo.messageK ≠ [] ∧
        (finishing = true ↔ s.runtimeInfo.messageF ≠ [])) ⟨fun hs => ⟨s, h, hs⟩,
        fun ⟨_, hs, hrest⟩ => by rw [h] at hs; cases hs; exact hrest⟩

instance (c : SpdmContext) : (p : Point) → Decidable (Fits isRequester c p)
  | .m1m2 | .l1l2 _ => inferInstanceAs (Decidable (_ = true))
  | .th id finishing =>
    inferInstanceAs (Decidable (∀ c', th isRequester id finishing c ≠ .err .bufferFull c'))

instance decidableOrderly : (events : List Event) → (c : SpdmContext) →
    Decidable (Orderly isRequester events c)
  | [], _ => .isTrue trivial
  | .observe p :: events, c =>
    have := decidableOrderly events c
    inferInstanceAs (Decidable (Ready c p ∧ Fits isRequester c p ∧ Orderly isRequester events c))
  | .perform op :: events, c =>
    have _ : Decidable (match perform isRequester op c with
        | .ok _ c' => Orderly isRequester events c'
        | .err _ c' => Orderly isRequester events c'
        | .panic => True) :=
      match perform isRequester op c with
      | .ok _ c' => decidableOrderly events c'
      | .err _ c' => decidableOrderly events c'
      | .panic => .isTrue trivial
    inferInstanceAs (Decidable (Keeps isRequester c op ∧ HashSupported c op ∧
      (∀ c', perform isRequester op c ≠ .err .bufferFull c') ∧ _))

end

namespace SmallRun

open SmallBackend Responder Responder.SmallRun SpdmRequestResponseCode

def smallSettings (vendor : Option Bytes) : Settings where
  negotiateInfo :=
    { spdmVersionSel := .spdmVersion12, baseHashSel := SpdmBaseHashAlgo.tpmAlgSha256 }
  provisionInfo := { myCertChain := firstSlotOnly [1, 2, 3] }
  peerInfo := {}
  connectionState := .negotiated
  localUsedCertChainSlotId := 0
  peerUsedCertChainSlotId := 0
  vdmMessageTranscriptBeforeKeyExchange := vendor

def wholeConnection : List Event :=
  [.perform .startOver, .perform (.appendA [1]), .perform (.appendA [2]),
    .perform (.settle (smallSettings none)),
    .perform (.resetVia spdmRequestGetDigests none), .perform (.appendB [3]),
    .perform (.appendB [4]),
    .perform (.resetVia spdmRequestChallenge none), .perform (.appendC [5]),
    .perform (.appendC [6]),
    .observe .m1m2, .perform .resetBC,
    .perform (.resetVia spdmRequestGetMeasurements none), .perform (.appendM none [7]),
    .perform (.appendM none [8]), .observe (.l1l2 none), .perform (.resetM none),
    .perform (.resetVia spdmRequestKeyExchange none), .perform (.openKeyExchange 1 0),
    .perform (.appendK 1 [9]), .observe (.th 1 false), .perform (.appendK 1 [10]),
    .perform (.resetVia spdmRequestPskExchange none), .perform (.openPsk 2),
    .perform (.appendK 2 [11]), .observe (.th 2 false), .perform (.setState 2 .established),
    .perform (.appendF 1 [12]), .observe (.th 1 true), .perform (.setState 1 .established)]

def newResponder (hashed : Bool) : SpdmContext :=
  .new (inMode hashed (smallBuild false false)) (smallTransport 0) {} {}

theorem wholeConnection_agrees :
    observed false wholeConnection (newResponder true) =
      observed false wholeConnection (newResponder false) ∧
    (observed false wholeConnection (newResponder false)).length = 5 ∧
    ∀ bytes ∈ observed false wholeConnection (newResponder false), bytes.isSome = true := by
  have horderly : Orderly false wholeConnection (newResponder false) := by decide +kernel
  obtain ⟨hsame, hsome⟩ := modes_agree false (smallBuild false false) (smallTransport 0) {} {}
    horderly
  exact ⟨hsame, by decide +kernel, hsome⟩

def pskUnderVendor (hashed : Bool) : Option SpdmContext :=
  let started := { pskWithContextResponder with
    build := inMode hashed pskWithContextResponder.build }
  ((serveAll (fun _ => true) [[1]] (smallNegotiation pskPeerCapabilities 136) started).map
    fun c => { c with runtimeInfo := { c.runtimeInfo with
      vdmMessageTranscriptBeforeKeyExchange := some [0xAA] } }).bind
    (serveAll (fun _ => true) [[1]] [smallPskExchange])

theorem psk_modes_differ : ∃ r h x y, pskUnderVendor false = some r ∧
    pskUnderVendor true = some h ∧ bytesAt false r (.th 0xFFFDFFFD false) = some x ∧
    bytesAt false h (.th 0xFFFDFFFD false) = some y ∧ x ≠ y := by
  have hraw : ((pskUnderVendor false).bind fun r => bytesAt false r (.th 0xFFFDFFFD false)).isSome =
      true := by
    decide +kernel
  have hhashed : ((pskUnderVendor true).bind fun h =>
    bytesAt false h (.th 0xFFFDFFFD false)).isSome =
      true := by
    decide +kernel
  have hdiffer : ((pskUnderVendor false).bind fun r => bytesAt false r (.th 0xFFFDFFFD false)) ≠
      ((pskUnderVendor true).bind fun h => bytesAt false h (.th 0xFFFDFFFD false)) := by
    decide +kernel
  obtain ⟨x, hx⟩ := Option.isSome_iff_exists.1 hraw
  obtain ⟨y, hy⟩ := Option.isSome_iff_exists.1 hhashed
  rw [hx, hy] at hdiffer
  obtain ⟨r, hr, hx⟩ := Option.bind_eq_some_iff.1 hx
  obtain ⟨h, hh, hy⟩ := Option.bind_eq_some_iff.1 hy
  exact ⟨r, h, x, y, hr, hh, hx, hy, fun heq => hdiffer (congrArg some heq)⟩

end SmallRun

end Modes

end Spdm
