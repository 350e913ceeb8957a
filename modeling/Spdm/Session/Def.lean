/-
  Spdm.Session.Def — one secure session (`common/session.rs`).
-/
import Spdm.Protocol.Crypto

namespace Spdm

open Effect Codec

/-! ## §1. Data. -/

structure SpdmSessionCryptoParam where
  baseHashAlgo : Flags := 0
  dheAlgo : Flags := 0
  kemAlgo : Flags := 0
  aeadAlgo : Flags := 0
  keyScheduleAlgo : Flags := 0
  deriving Repr, DecidableEq

structure SpdmSessionSharedSecretRoot where
  sharedSecret : Bytes := []
  handshakeSecret : Bytes := []
  masterSecret : Bytes := []
  deriving Repr, DecidableEq

structure SpdmSessionSecretParam where
  encryptionKey : Bytes := []
  salt : Bytes := []
  sequenceNumber : Nat := 0
  deriving Repr, DecidableEq

structure SpdmSessionHandshakeSecret where
  requestHandshakeSecret : Bytes := []
  responseHandshakeSecret : Bytes := []
  requestFinishedKey : Bytes := []
  responseFinishedKey : Bytes := []
  requestDirection : SpdmSessionSecretParam := {}
  responseDirection : SpdmSessionSecretParam := {}
  deriving Repr, DecidableEq

structure SpdmSessionApplicationSecret where
  requestDataSecret : Bytes := []
  responseDataSecret : Bytes := []
  requestDirection : SpdmSessionSecretParam := {}
  responseDirection : SpdmSessionSecretParam := {}
  exportMasterSecret : Bytes := []
  deriving Repr, DecidableEq

structure SpdmSessionTransportParam where
  sequenceNumberCount : Nat := 0
  maxRandomCount : Nat := 0
  deriving Repr, DecidableEq

structure SecuredMessageVersion where
  majorVersion : Nat := 1
  minorVersion : Nat := 1
  updateVersionNumber : Nat := 0
  alpha : Nat := 0
  deriving Repr, DecidableEq

structure SpdmSessionRuntimeInfo where
  pskHint : Option Bytes := none
  messageA : Bytes := []
  rspCertHash : Option Bytes := none
  reqCertHash : Option Bytes := none
  messageK : Bytes := []
  messageF : Bytes := []
  messageM : Bytes := []
  messageFInitialized : Bool := false
  digestContextTh : Option HashCtx := none
  digestContextL1L2 : Option HashCtx := none
  vdmMessageTranscriptBeforeFinish : Option Bytes := none
  deriving Repr, DecidableEq

structure SealRecord where
  fromRequester : Bool
  key : Bytes
  nonce : Bytes
  payload : Bytes
  deriving Repr, DecidableEq

structure OpenRecord where
  message : Bytes
  key : Bytes
  nonce : Bytes
  payload : Bytes
  deriving Repr, DecidableEq

structure SpdmSession where
  sessionId : Nat := invalidSessionId
  usePsk : Bool := false
  mutAuthRequested : Flags := 0
  sessionState : SpdmSessionState := .notStarted
  cryptoParam : SpdmSessionCryptoParam := {}
  sharedSecretRoot : SpdmSessionSharedSecretRoot := {}
  handshakeSecret : SpdmSessionHandshakeSecret := {}
  applicationSecret : SpdmSessionApplicationSecret := {}
  applicationSecretBackup : SpdmSessionApplicationSecret := {}
  responderBackupValid : Bool := false
  requesterBackupValid : Bool := false
  transportParam : SpdmSessionTransportParam := {}
  runtimeInfo : SpdmSessionRuntimeInfo := {}
  th1 : Bytes := []
  th2 : Bytes := []
  heartbeatPeriod : Nat := 0
  secureSpdmVersionSel : SecuredMessageVersion := {}
  sealed : List SealRecord := []
  opened : List OpenRecord := []
  deriving Repr, DecidableEq

namespace SpdmSession

/-! ## §2. Setup and teardown. -/

def setDefault (s : SpdmSession) : SpdmSession :=
  { responderBackupValid := s.responderBackupValid
    requesterBackupValid := s.requesterBackupValid
    th1 := s.th1
    th2 := s.th2 }

def setup (sessionId : Nat) : Prog SpdmSession SpdmStatus Unit := do
  let s ← read
  assert (s.sessionId == invalidSessionId)
  update fun s => { s.setDefault with sessionId := sessionId }

def teardown (s : SpdmSession) : SpdmSession := s.setDefault

def setCryptoParam (p : SpdmSessionCryptoParam) (s : SpdmSession) : SpdmSession :=
  { s with cryptoParam := p }

def setTransportParam (sequenceNumberCount maxRandomCount : Nat) (s : SpdmSession) : SpdmSession :=
  { s with transportParam := ⟨sequenceNumberCount, maxRandomCount⟩ }

def setSessionState (st : SpdmSessionState) (s : SpdmSession) : SpdmSession :=
  { s with sessionState := st }

/-! ## §3. Deriving the secrets of a phase. -/

section Secrets
variable [Crypto]

def setSharedSecret (v : SpdmVersion) (sharedSecret : Bytes) :
    Prog SpdmSession SpdmStatus Unit := do
  update fun s => { s with sharedSecretRoot := { s.sharedSecretRoot with sharedSecret } }
  let s ← read
  let hs ← (do orFail .cryptoError (← deriveHandshakeSecret s.cryptoParam.baseHashAlgo
    sharedSecret))
  let ms ← (do orFail .cryptoError (← deriveMasterSecret v s.cryptoParam.baseHashAlgo hs))
  update fun s => { s with sharedSecretRoot :=
    { s.sharedSecretRoot with handshakeSecret := hs, masterSecret := ms } }

def handshakeRoot (s : SpdmSession) : Option Bytes :=
  if s.usePsk then none else some s.sharedSecretRoot.handshakeSecret

def masterRoot (s : SpdmSession) : Option Bytes :=
  if s.usePsk then none else some s.sharedSecretRoot.masterSecret

def generateHandshakeSecret (v : SpdmVersion) (th1 : Bytes) : Prog SpdmSession SpdmStatus Unit := do
  let s ← read
  let hashAlgo := s.cryptoParam.baseHashAlgo
  let aeadAlgo := s.cryptoParam.aeadAlgo
  let req ← (do orFail .cryptoError (← deriveRequestHandshakeSecret s.usePsk v hashAlgo
    s.handshakeRoot s.runtimeInfo.pskHint th1))
  update fun s => { s with handshakeSecret :=
    { s.handshakeSecret with requestHandshakeSecret := req } }
  let rsp ← (do orFail .cryptoError (← deriveResponseHandshakeSecret s.usePsk v hashAlgo
    s.handshakeRoot s.runtimeInfo.pskHint th1))
  update fun s => { s with handshakeSecret :=
    { s.handshakeSecret with responseHandshakeSecret := rsp } }
  let reqFin ← (do orFail .cryptoError (← deriveFinishedKey v hashAlgo req))
  update fun s => { s with handshakeSecret :=
    { s.handshakeSecret with requestFinishedKey := reqFin } }
  let rspFin ← (do orFail .cryptoError (← deriveFinishedKey v hashAlgo rsp))
  update fun s => { s with handshakeSecret :=
    { s.handshakeSecret with responseFinishedKey := rspFin } }
  let reqKey ← (do orFail .cryptoError (← deriveAeadKeyIv v hashAlgo aeadAlgo req))
  update fun s => { s with handshakeSecret := { s.handshakeSecret with
    requestDirection := { s.handshakeSecret.requestDirection with
      encryptionKey := reqKey.1, salt := reqKey.2 } } }
  let rspKey ← (do orFail .cryptoError (← deriveAeadKeyIv v hashAlgo aeadAlgo rsp))
  update fun s => { s with handshakeSecret := { s.handshakeSecret with
    responseDirection := { s.handshakeSecret.responseDirection with
      encryptionKey := rspKey.1, salt := rspKey.2 } } }

def generateDataSecret (v : SpdmVersion) (th2 : Bytes) : Prog SpdmSession SpdmStatus Unit := do
  let s ← read
  let hashAlgo := s.cryptoParam.baseHashAlgo
  let aeadAlgo := s.cryptoParam.aeadAlgo
  let req ← (do orFail .cryptoError (← deriveRequestDataSecret s.usePsk v hashAlgo
    s.masterRoot s.runtimeInfo.pskHint th2))
  update fun s => { s with applicationSecret :=
    { s.applicationSecret with requestDataSecret := req } }
  let rsp ← (do orFail .cryptoError (← deriveResponseDataSecret s.usePsk v hashAlgo
    s.masterRoot s.runtimeInfo.pskHint th2))
  update fun s => { s with applicationSecret :=
    { s.applicationSecret with responseDataSecret := rsp } }
  let reqKey ← (do orFail .cryptoError (← deriveAeadKeyIv v hashAlgo aeadAlgo req))
  update fun s => { s with applicationSecret := { s.applicationSecret with
    requestDirection := { s.applicationSecret.requestDirection with
      encryptionKey := reqKey.1, salt := reqKey.2 } } }
  let rspKey ← (do orFail .cryptoError (← deriveAeadKeyIv v hashAlgo aeadAlgo rsp))
  update fun s => { s with applicationSecret := { s.applicationSecret with
    responseDirection := { s.applicationSecret.responseDirection with
      encryptionKey := rspKey.1, salt := rspKey.2 } } }
  let exp ← (do orFail .cryptoError (← deriveExportMasterSecret s.usePsk v hashAlgo
    s.masterRoot s.runtimeInfo.pskHint))
  update fun s => { s with applicationSecret :=
    { s.applicationSecret with exportMasterSecret := exp } }

/-! ## §4. Key update. -/

def backupRequester (s : SpdmSession) : SpdmSession :=
  { s with
    applicationSecretBackup := { s.applicationSecretBackup with
      requestDataSecret := s.applicationSecret.requestDataSecret
      requestDirection := s.applicationSecret.requestDirection }
    requesterBackupValid := true }

def backupResponder (s : SpdmSession) : SpdmSession :=
  { s with
    applicationSecretBackup := { s.applicationSecretBackup with
      responseDataSecret := s.applicationSecret.responseDataSecret
      responseDirection := s.applicationSecret.responseDirection }
    responderBackupValid := true }

def setRequestDataSecret (secret : Bytes) (s : SpdmSession) : SpdmSession :=
  { s with applicationSecret := { s.applicationSecret with requestDataSecret := secret } }

def setResponseDataSecret (secret : Bytes) (s : SpdmSession) : SpdmSession :=
  { s with applicationSecret := { s.applicationSecret with responseDataSecret := secret } }

def setRequestDirection (p : SpdmSessionSecretParam) (s : SpdmSession) : SpdmSession :=
  { s with applicationSecret := { s.applicationSecret with requestDirection := p } }

def setResponseDirection (p : SpdmSessionSecretParam) (s : SpdmSession) : SpdmSession :=
  { s with applicationSecret := { s.applicationSecret with responseDirection := p } }

def createRequesterUpdate (v : SpdmVersion) : Prog SpdmSession SpdmStatus Unit := do
  update backupRequester
  let s ← read
  let secret ← (do orFail .cryptoError (← deriveUpdateSecret v s.cryptoParam.baseHashAlgo
    s.applicationSecret.requestDataSecret))
  update (setRequestDataSecret secret)
  let keyIv ← (do orFail .cryptoError (← deriveAeadKeyIv v s.cryptoParam.baseHashAlgo
    s.cryptoParam.aeadAlgo secret))
  update (setRequestDirection ⟨keyIv.1, keyIv.2, 0⟩)

def createResponderUpdate (v : SpdmVersion) : Prog SpdmSession SpdmStatus Unit := do
  update backupResponder
  let s ← read
  let secret ← (do orFail .cryptoError (← deriveUpdateSecret v s.cryptoParam.baseHashAlgo
    s.applicationSecret.responseDataSecret))
  update (setResponseDataSecret secret)
  let keyIv ← (do orFail .cryptoError (← deriveAeadKeyIv v s.cryptoParam.baseHashAlgo
    s.cryptoParam.aeadAlgo secret))
  update (setResponseDirection ⟨keyIv.1, keyIv.2, 0⟩)

def createDataSecretUpdate (v : SpdmVersion) (updateRequester updateResponder : Bool) :
    Prog SpdmSession SpdmStatus Unit := do
  (if updateRequester then createRequesterUpdate v else ret ())
  (if updateResponder then createResponderUpdate v else ret ())

def restoreRequester (s : SpdmSession) : SpdmSession :=
  if s.requesterBackupValid then
    (s.setRequestDataSecret s.applicationSecretBackup.requestDataSecret).setRequestDirection
      s.applicationSecretBackup.requestDirection
  else s

def restoreResponder (s : SpdmSession) : SpdmSession :=
  if s.responderBackupValid then
    (s.setResponseDataSecret s.applicationSecretBackup.responseDataSecret).setResponseDirection
      s.applicationSecretBackup.responseDirection
  else s

def dropRequesterBackup (s : SpdmSession) : SpdmSession :=
  { s with
    applicationSecretBackup := { s.applicationSecretBackup with
      requestDataSecret := [], requestDirection := {} }
    requesterBackupValid := false }

def dropResponderBackup (s : SpdmSession) : SpdmSession :=
  { s with
    applicationSecretBackup := { s.applicationSecretBackup with
      responseDataSecret := [], responseDirection := {} }
    responderBackupValid := false }

def applyWhen (update : Bool) (f : SpdmSession → SpdmSession) (s : SpdmSession) : SpdmSession :=
  if update then f s else s

def activateDataSecretUpdate (updateRequester updateResponder useNewKey : Bool)
    (s : SpdmSession) : SpdmSession :=
  if useNewKey then
    applyWhen updateResponder dropResponderBackup (applyWhen updateRequester dropRequesterBackup s)
  else
    applyWhen updateResponder restoreResponder (applyWhen updateRequester restoreRequester s)

/-! ## §5. Finished keys. -/

def generateHmacWithResponseFinishedKey (messageHash : Bytes) (s : SpdmSession) : Option Bytes :=
  hmac s.cryptoParam.baseHashAlgo s.handshakeSecret.responseFinishedKey messageHash

def generateHmacWithRequestFinishedKey (messageHash : Bytes) (s : SpdmSession) : Option Bytes :=
  hmac s.cryptoParam.baseHashAlgo s.handshakeSecret.requestFinishedKey messageHash

def verifyHmacWithRequestFinishedKey (messageHash mac : Bytes) (s : SpdmSession) :
    Except SpdmStatus Unit :=
  hmacVerify s.cryptoParam.baseHashAlgo s.handshakeSecret.requestFinishedKey messageHash mac

end Secrets

end SpdmSession

end Spdm
