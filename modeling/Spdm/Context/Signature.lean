/-
  Spdm.Context.Signature — what a signature covers (`common/mod.rs`, and the
  `generate_…_signature` and `verify_…_signature` functions on both sides).
-/
import Spdm.Context.Channel
import Spdm.Protocol.Device

namespace Spdm

open Effect Codec

/-! ## §1. Purposes. -/

inductive SigningContext where
  | challengeAuth
  | measurements
  | keyExchangeRsp
  | finish
  deriving Repr, DecidableEq

namespace SigningContext

def bytes : SigningContext → Bytes
  -- "responder-challenge_auth signing"
  | challengeAuth => List.replicate 4 0 ++
    [0x72, 0x65, 0x73, 0x70, 0x6f, 0x6e, 0x64, 0x65, 0x72, 0x2d, 0x63, 0x68, 0x61, 0x6c, 0x6c, 0x65,
      0x6e, 0x67, 0x65, 0x5f, 0x61, 0x75, 0x74, 0x68, 0x20, 0x73, 0x69, 0x67, 0x6e,
        0x69, 0x6e, 0x67]
  -- "responder-measurements signing"
  | measurements => List.replicate 6 0 ++
    [0x72, 0x65, 0x73, 0x70, 0x6f, 0x6e, 0x64, 0x65, 0x72, 0x2d, 0x6d, 0x65, 0x61, 0x73, 0x75, 0x72,
      0x65, 0x6d, 0x65, 0x6e, 0x74, 0x73, 0x20, 0x73, 0x69, 0x67, 0x6e, 0x69, 0x6e, 0x67]
  -- "responder-key_exchange_rsp signing"
  | keyExchangeRsp => List.replicate 2 0 ++
    [0x72, 0x65, 0x73, 0x70, 0x6f, 0x6e, 0x64, 0x65, 0x72, 0x2d, 0x6b, 0x65, 0x79, 0x5f, 0x65, 0x78,
      0x63, 0x68, 0x61, 0x6e, 0x67, 0x65, 0x5f, 0x72, 0x73, 0x70, 0x20, 0x73, 0x69, 0x67, 0x6e, 0x69,
      0x6e, 0x67]
  -- "requester-finish signing"
  | finish => List.replicate 12 0 ++
    [0x72, 0x65, 0x71, 0x75, 0x65, 0x73, 0x74, 0x65, 0x72, 0x2d, 0x66, 0x69, 0x6e, 0x69, 0x73, 0x68,
      0x20, 0x73, 0x69, 0x67, 0x6e, 0x69, 0x6e, 0x67]

end SigningContext

def signingPrefixContext (v : SpdmVersion) : Bytes :=
  (List.replicate 4 ([0x64, 0x6d, 0x74, 0x66, 0x2d, 0x73, 0x70, 0x64, 0x6d, 0x2d, 0x76,
    ((v.toByte >>> 4) &&& 0xF) + 0x30, 0x2e, (v.toByte &&& 0xF) + 0x30, 0x2e, 0x2a] :
      Bytes)).flatten

def purposedHash (v : SpdmVersion) (purpose : SigningContext) (hash : Bytes) : Bytes :=
  signingPrefixContext v ++ purpose.bytes ++ hash

/-! ## §2. Transcripts. -/

inductive Transcript where
  | raw (message : Bytes)
  | hashed (ctx : HashCtx)
  deriving Repr, DecidableEq

def Transcript.bytes : Transcript → Bytes
  | raw message => message
  | hashed ctx => ctx.fed

def joinMessages (max : Nat) (messages : List Bytes) : Option Bytes :=
  messages.foldlM (appendMessage max) []

section
variable [Crypto]

def Transcript.hash (hashSel : Flags) : Transcript → Option Bytes
  | raw message => hashAll hashSel message
  | hashed ctx => hashCtxFinalize ctx

def signedData (v : SpdmVersion) (hashSel : Flags) (purpose : SigningContext) (t : Transcript) :
    Option Bytes := do
  let hash ← t.hash hashSel
  if v.atLeast .spdmVersion12 then some (purposedHash v purpose hash)
  else match t with
    | .raw message => some message
    | .hashed _ => none

end

namespace SpdmContext

def m1m2 (c : SpdmContext) : Option Transcript :=
  if c.build.hashedTranscriptData then c.runtimeInfo.digestContextM1M2.map .hashed
  else (joinMessages (maxManagedBufferM1M2Size c.build.config)
    [c.runtimeInfo.messageA, c.runtimeInfo.messageB, c.runtimeInfo.messageC]).map .raw

def messageM (c : SpdmContext) : Option Nat → Option (Bytes × Option HashCtx)
  | none => some (c.runtimeInfo.messageM, c.runtimeInfo.digestContextL1L2)
  | some id => (c.sessionViaId id).map fun s =>
      (s.runtimeInfo.messageM, s.runtimeInfo.digestContextL1L2)

def l1l2Raw (c : SpdmContext) (messageM : Bytes) : Option Transcript :=
  (joinMessages (maxManagedBufferL1L2Size c.build.config)
    (if c.negotiateInfo.spdmVersionSel.atLeast .spdmVersion12 then
      [c.runtimeInfo.messageA, messageM] else [messageM])).map .raw

def asymSigSize? (c : SpdmContext) : Option Nat :=
  if c.negotiateInfo.pqcAsymSel ≠ 0 then SpdmPqcAsymAlgo.sigSize? c.negotiateInfo.pqcAsymSel
  else SpdmBaseAsymAlgo.sigSize? c.negotiateInfo.baseAsymSel

def hashSize? (c : SpdmContext) : Option Nat := SpdmBaseHashAlgo.size? c.negotiateInfo.baseHashSel

def peerKey (slotId pubKeySlotId : Nat) : SpdmResult SpdmDer := do
  let c ← read
  if slotId = pubKeySlotId then do
    let key ← orFail .invalidParameter c.provisionInfo.peerPubKey
    ret (.pubKeyRfc7250 key)
  else do
    let slot ← orAbort c.peerInfo.peerCertChain[slotId]?
    let chain ← orFail .invalidParameter slot
    let hashSize ← orAbort c.hashSize?
    assert (decide (4 + hashSize ≤ chain.length))
    ret (.certChain (chain.drop (4 + hashSize)))

section
variable [Crypto] [Device]

def signTranscript (c : SpdmContext) (purpose : SigningContext) (t : Transcript) :
    Option Bytes := do
  let data ← signedData c.negotiateInfo.spdmVersionSel c.negotiateInfo.baseHashSel purpose t
  spdmAsymSign c c.negotiateInfo.baseHashSel c.negotiateInfo.baseAsymSel
    c.negotiateInfo.pqcAsymSel data

def verifyTranscript (c : SpdmContext) (purpose : SigningContext) (der : SpdmDer) (t : Transcript)
    (signature : Bytes) : Except SpdmStatus Unit :=
  match signedData c.negotiateInfo.spdmVersionSel c.negotiateInfo.baseHashSel purpose t with
  | none => .error .cryptoError
  | some data => spdmAsymVerify c.negotiateInfo.baseHashSel c.negotiateInfo.baseAsymSel
      c.negotiateInfo.pqcAsymSel der data signature

/-! ## Certificate chains. -/

def slice (begin stop : Nat) (certs : Bytes) : Bytes := (certs.take stop).drop begin

def verifyCertChainBuffer (chain : Bytes) : SpdmResult Bytes := do
  let c ← read
  let hashSize ← orAbort c.hashSize?
  guardElse (decide (4 + hashSize < chain.length)) .invalidCert
  guardElse (leNat (chain.take 4) == chain.length) .invalidCert
  let certs := chain.drop (4 + hashSize)
  assert (decide (certs.length ≤ c.build.config.maxSpdmCertChainDataSize))
  guardElse (match verifyCertChain certs with
    | .ok _ => true
    | .error _ => false) .invalidCert
  let (rootBegin, rootEnd) ← liftResult (getCertFromCertChain certs 0)
  assert (decide (rootBegin ≤ rootEnd ∧ rootEnd ≤ c.build.config.maxSpdmCertChainDataSize))
  let root := slice rootBegin rootEnd certs
  (if isRootCertificate root then do
    let rootHash ← orFail .cryptoError (hashAll c.negotiateInfo.baseHashSel root)
    guardElse (rootHash == (chain.take (4 + hashSize)).drop 4) .invalidCert
  else ret ())
  ret certs

def verifyProvisionedRoot (certs : Bytes) : SpdmResult Unit := do
  let c ← read
  let (rootBegin, rootEnd) ← liftResult (getCertFromCertChain certs 0)
  let roots := c.provisionInfo.peerRootCertData.filterMap id
  guardElse (roots.isEmpty || roots.contains (slice rootBegin rootEnd certs)) .invalidCert

def constructCertChain (slotId : Fin 8) : SpdmResult Unit := do
  let c ← read
  match c.provisionInfo.myCertChain.get slotId, c.provisionInfo.myCertChainData.get slotId with
  | none, some certs => do
    let (rootBegin, rootEnd) ← liftResult (getCertFromCertChain certs 0)
    assert (decide (rootBegin ≤ rootEnd ∧ rootEnd ≤ certs.length))
    let rootHash ← orFail .cryptoError
      (hashAll c.negotiateInfo.baseHashSel ((certs.take rootEnd).drop rootBegin))
    let chain := leBytes 4 (4 + rootHash.length + certs.length) ++ rootHash ++ certs
    update fun c => { c with provisionInfo := { c.provisionInfo with
      myCertChain := c.provisionInfo.myCertChain.set slotId (some chain) } }
  | _, _ => ret ()

def constructMyCertChain : SpdmResult Unit :=
  forEach constructCertChain (List.finRange 8)

end

end SpdmContext

end Spdm
