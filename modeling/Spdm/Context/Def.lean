/-
  Spdm.Context.Def — the context both parties share (`common/mod.rs`).
-/
import Spdm.Session.Secured

namespace Spdm

open Effect Codec

/-! ## §1. Data. -/

abbrev Slots (α : Type) := Vector (Option α) 8

structure SpdmConfigInfo where
  spdmVersion : List SpdmVersion := []
  reqCapabilities : Flags := 0
  rspCapabilities : Flags := 0
  reqCtExponent : Nat := 0
  rspCtExponent : Nat := 0
  measurementSpecification : Flags := 0
  measurementHashAlgo : Flags := 0
  baseHashAlgo : Flags := 0
  baseAsymAlgo : Flags := 0
  dheAlgo : Flags := 0
  aeadAlgo : Flags := 0
  reqAsymAlgo : Flags := 0
  keyScheduleAlgo : Flags := 0
  otherParamsSupport : Flags := 0
  sessionPolicy : UInt8 := 0
  runtimeContentChangeSupport : Bool := false
  dataTransferSize : Nat := 0
  maxSpdmMsgSize : Nat := 0
  heartbeatPeriod : Nat := 0
  secureSpdmVersion : List SecuredMessageVersion := []
  melSpecification : Flags := 0
  pqcAsymAlgo : Flags := 0
  pqcReqAsymAlgo : Flags := 0
  kemAlgo : Flags := 0
  deriving Repr, DecidableEq

structure SpdmNegotiateInfo where
  spdmVersionSel : SpdmVersion := .spdmVersion10
  reqCapabilitiesSel : Flags := 0
  rspCapabilitiesSel : Flags := 0
  reqCtExponentSel : Nat := 0
  rspCtExponentSel : Nat := 0
  measurementSpecificationSel : Flags := 0
  measurementHashSel : Flags := 0
  baseHashSel : Flags := 0
  baseAsymSel : Flags := 0
  dheSel : Flags := 0
  aeadSel : Flags := 0
  reqAsymSel : Flags := 0
  keyScheduleSel : Flags := 0
  otherParamsSupport : Flags := 0
  terminationPolicySet : Bool := false
  reqDataTransferSizeSel : Nat := 0
  reqMaxSpdmMsgSizeSel : Nat := 0
  rspDataTransferSizeSel : Nat := 0
  rspMaxSpdmMsgSizeSel : Nat := 0
  melSpecificationSel : Flags := 0
  multiKeyConnReq : Bool := false
  multiKeyConnRsp : Bool := false
  pqcAsymSel : Flags := 0
  pqcReqAsymSel : Flags := 0
  kemSel : Flags := 0
  deriving Repr, DecidableEq

inductive SpdmMeasurementContentChanged where
  | notSupported
  | detectedChange
  | noChange
  deriving Repr, DecidableEq, Inhabited

structure SpdmRuntimeInfo where
  connectionState : SpdmConnectionState := .notStarted
  lastSessionId : Option Nat := none
  localUsedCertChainSlotId : Nat := 0
  peerUsedCertChainSlotId : Nat := 0
  needMeasurementSummaryHash : Bool := false
  needMeasurementSignature : Bool := false
  messageA : Bytes := []
  messageB : Bytes := []
  messageC : Bytes := []
  messageM : Bytes := []
  digestContextM1M2 : Option HashCtx := none
  digestContextL1L2 : Option HashCtx := none
  contentChanged : SpdmMeasurementContentChanged := .notSupported
  vdmMessageTranscriptBeforeKeyExchange : Option Bytes := none
  deriving Repr, DecidableEq

structure SpdmProvisionInfo where
  myCertChainData : Slots Bytes := Vector.replicate 8 none
  myCertChain : Slots Bytes := Vector.replicate 8 none
  peerRootCertData : List (Option Bytes) := []
  myPubKey : Option Bytes := none
  peerPubKey : Option Bytes := none
  localSupportedSlotMask : Nat := 0xff
  localKeyPairId : Slots UInt8 := Vector.replicate 8 none
  localCertInfo : Slots UInt8 := Vector.replicate 8 none
  localKeyUsageBitMask : Slots Nat := Vector.replicate 8 none
  deriving Repr, DecidableEq

structure SpdmPeerInfo where
  peerCertChain : Slots Bytes := Vector.replicate 8 none
  peerCertChainTemp : Option Bytes := none
  peerSupportedSlotMask : Nat := 0
  peerProvisionedSlotMask : Nat := 0
  peerKeyPairId : Slots UInt8 := Vector.replicate 8 none
  peerCertInfo : Slots UInt8 := Vector.replicate 8 none
  peerKeyUsageBitMask : Slots Nat := Vector.replicate 8 none
  deriving Repr, DecidableEq

structure SpdmEncapContext where
  mutAuthRequested : Flags := 0
  reqSlotId : Nat := 0
  requestId : UInt8 := 0
  encapCertSize : Nat := 0
  deriving Repr, DecidableEq

inductive SpdmChunkStatus where
  | idle
  | chunkSendAndAck
  | chunkGetAndResponse
  deriving Repr, DecidableEq, Inhabited

structure SpdmChunkContext where
  chunkStatus : SpdmChunkStatus := .idle
  chunkSeqNum : Nat := 0
  chunkMessageSize : Nat := 0
  chunkMessageData : Bytes := []
  transferredSize : Nat := 0
  deriving Repr, DecidableEq

structure Transport where
  /-- `encap` (message, room, secured) -/
  encap : Bytes → Nat → Bool → Except SpdmStatus Bytes
  /-- `decap` (packet, room), with the secured flag -/
  decap : Bytes → Nat → Except SpdmStatus (Bytes × Bool)
  /-- `encap_app` (message, room, application message); `none` is a panic -/
  encapApp : Bytes → Nat → Bool → Option (Except SpdmStatus Bytes)
  /-- `decap_app` (message, room), with the application flag; `none` is a panic -/
  decapApp : Bytes → Nat → Option (Except SpdmStatus (Bytes × Bool))
  sequenceNumberCount : Nat
  maxRandomCount : Nat

inductive WatchdogCall where
  | start (sessionId seconds : Nat)
  | reset (sessionId : Nat)
  | stop (sessionId : Nat)
  deriving Repr, DecidableEq

structure AppDelivery where
  sessionId : Nat
  sessionState : SpdmSessionState
  message : Bytes
  deriving Repr, DecidableEq

structure World where
  /-- what each later receive gives; none is a timeout or a device error -/
  inbox : List (Option Bytes) := []
  /-- whether each later send succeeds; sends beyond the list do -/
  sendResults : List Bool := []
  /-- what the random source gives; it fails when empty -/
  random : List Bytes := []
  /-- every packet handed to the device, oldest first -/
  outbox : List Bytes := []
  /-- every call of the watchdog, oldest first -/
  watchdog : List WatchdogCall := []
  /-- every call of the application handler, oldest first -/
  delivered : List AppDelivery := []
  deriving Repr, DecidableEq

structure SpdmContext where
  build : Build
  transportEncap : Transport
  configInfo : SpdmConfigInfo := {}
  negotiateInfo : SpdmNegotiateInfo := {}
  runtimeInfo : SpdmRuntimeInfo := {}
  provisionInfo : SpdmProvisionInfo := {}
  peerInfo : SpdmPeerInfo := {}
  encapContext : SpdmEncapContext := {}
  mutAuthDone : Bool := false
  chunkContext : SpdmChunkContext := {}
  chunkReqHandle : Nat := 0
  chunkRspHandle : Nat := 0
  session : List SpdmSession := []
  world : World := {}

abbrev SpdmResult (α : Type) := Prog SpdmContext SpdmStatus α

namespace SpdmContext

/-! ## §2. Resets. -/

def new (build : Build) (transportEncap : Transport) (configInfo : SpdmConfigInfo)
    (provisionInfo : SpdmProvisionInfo) : SpdmContext :=
  { build, transportEncap, configInfo, provisionInfo
    session := List.replicate build.config.maxSpdmSessionCount {} }

def mutAuthReq : Flags := 0x1

def resetContext (c : SpdmContext) : SpdmContext :=
  { c with
    runtimeInfo := {}
    negotiateInfo := {}
    peerInfo := {}
    encapContext := if c.encapContext.mutAuthRequested = mutAuthReq then
        { mutAuthRequested := mutAuthReq, reqSlotId := c.encapContext.reqSlotId }
      else {}
    mutAuthDone := false
    session := c.session.map SpdmSession.setDefault }

/-! ## §3. The session table. -/

def sessionViaId (c : SpdmContext) (id : Nat) : Option SpdmSession :=
  c.session.find? fun s => s.sessionId == id

def setSlot (i : Nat) (s : SpdmSession) (c : SpdmContext) : SpdmContext :=
  { c with session := c.session.set i s }

section Slot
variable (i : Nat) (s : SpdmSession) (c : SpdmContext)

@[simp] theorem setSlot_session : (c.setSlot i s).session = c.session.set i s := rfl
@[simp] theorem setSlot_build : (c.setSlot i s).build = c.build := rfl
@[simp] theorem setSlot_runtimeInfo : (c.setSlot i s).runtimeInfo = c.runtimeInfo := rfl
@[simp] theorem setSlot_negotiateInfo : (c.setSlot i s).negotiateInfo = c.negotiateInfo := rfl
@[simp] theorem setSlot_world : (c.setSlot i s).world = c.world := rfl
@[simp] theorem setSlot_chunkContext : (c.setSlot i s).chunkContext = c.chunkContext := rfl

end Slot

def withSession {ε α : Type} (id : Nat) (e : ε) (m : Prog SpdmSession ε α) :
    Prog SpdmContext ε α := fun c =>
  match c.session.findIdx? fun s => s.sessionId == id with
  | none => .err e c
  | some i =>
    match c.session[i]? with
    | none => .err e c
    | some s =>
      match m s with
      | .ok a s' => .ok a (c.setSlot i s')
      | .err e s' => .err e (c.setSlot i s')
      | .panic => .panic

def initialSessionId : Nat := 0xFFFD

def halfSessionId (isRequester : Bool) (id : Nat) : Nat :=
  if isRequester then id % 0x10000 else id / 0x10000 % 0x10000

def getNextHalfSessionId (isRequester : Bool) (c : SpdmContext) : Except SpdmStatus Nat :=
  match c.session.findIdx? fun s => halfSessionId isRequester s.sessionId == 0 with
  | some index => .ok ((initialSessionId + 0x10000 - index) % 0x10000)
  | none => .error .sessionNumberExceed

end SpdmContext

end Spdm
