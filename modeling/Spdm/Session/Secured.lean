/-
  Spdm.Session.Secured — sealing and opening secured messages (`encode_spdm_secured_message`,
  `decode_spdm_secured_message`).
-/
import Spdm.Session.Def

namespace Spdm

open Effect Codec

def maxSequenceNumber : Nat := 2 ^ 64 - 1

def seqByte (seq i : Nat) : UInt8 := UInt8.ofNat (seq >>> (8 * (i % 8)))

def seqPrefix (count seq : Nat) : Bytes := (List.range count).map (seqByte seq)

def xorSalt (salt : Bytes) (seq : Nat) : Bytes :=
  salt.mapIdx fun i b => if i < 8 then b ^^^ seqByte seq i else b

def aadBytes (sessionId count seq length : Nat) : Bytes :=
  leBytes 4 sessionId ++ seqPrefix count seq ++ leBytes 2 length

def aadBufferSize : Nat := 6 + 8

namespace SpdmSessionSecretParam

def nonce (p : SpdmSessionSecretParam) : Bytes := xorSalt p.salt p.sequenceNumber

def advance (p : SpdmSessionSecretParam) : SpdmSessionSecretParam :=
  { p with sequenceNumber := p.sequenceNumber + 1 }

@[simp] theorem advance_key (p : SpdmSessionSecretParam) :
    p.advance.encryptionKey = p.encryptionKey := rfl

@[simp] theorem advance_salt (p : SpdmSessionSecretParam) : p.advance.salt = p.salt := rfl

@[simp] theorem advance_sequenceNumber {p : SpdmSessionSecretParam} :
    p.advance.sequenceNumber = p.sequenceNumber + 1 := rfl

end SpdmSessionSecretParam

namespace SpdmSession

variable [Crypto]

/-! ## §1. One message under one key. -/

def encodeMsg (config : Config) (app : Bytes) (room : Nat) (p : SpdmSessionSecretParam) :
    Prog SpdmSession SpdmStatus Bytes := do
  let s ← read
  let cipherTextSize := app.length + 2
  let tagSize ← orAbort (SpdmAeadAlgo.tagSize? s.cryptoParam.aeadAlgo)
  guardElse (p.sequenceNumber != maxSequenceNumber) .sequenceNumberOverflow
  let aad := aadBytes s.sessionId s.transportParam.sequenceNumberCount p.sequenceNumber
    (cipherTextSize + tagSize)
  guardElse (decide (aad.length ≤ aadBufferSize)) .bufferTooSmall
  assert (decide (cipherTextSize ≤ config.senderBufferSize))
  assert (decide (aad.length + cipherTextSize ≤ room))
  let (cipherText, tag) ← liftResult (aeadEncrypt s.cryptoParam.aeadAlgo p.encryptionKey p.nonce
    aad (leBytes 2 app.length ++ app))
  assert (tag.length == tagSize && cipherText.length == cipherTextSize)
  assert (decide (aad.length + cipherTextSize + tagSize ≤ room) && tagSize == 16)
  ret (aad ++ cipherText ++ tag)

def parseAad (sessionId count seq : Nat) : Parser Nat := do
  let readSessionId ← uintLe 4
  require (readSessionId == sessionId)
  let readSeq ← takeBytes count
  require (readSeq == seqPrefix count seq)
  uintLe 2

def decodeMsg (config : Config) (secured : Bytes) (room : Nat) (p : SpdmSessionSecretParam) :
    Prog SpdmSession SpdmStatus Bytes := do
  let s ← read
  let tagSize ← orAbort (SpdmAeadAlgo.tagSize? s.cryptoParam.aeadAlgo)
  guardElse (p.sequenceNumber != maxSequenceNumber) .sequenceNumberOverflow
  let count := s.transportParam.sequenceNumberCount
  let length ← (match parseAad s.sessionId count p.sequenceNumber secured with
    | .ok length _ => ret length
    | .err _ _ => fail .decodeAeadFail
    | .panic => abort)
  let aadSize := 6 + count
  guardElse (decide (length + aadSize ≤ secured.length)) .decodeAeadFail
  guardElse (decide (tagSize ≤ length)) .decodeAeadFail
  let cipherTextSize := length - tagSize
  assert (decide (cipherTextSize ≤ config.receiverBufferSize))
  let plain ← liftResult (aeadDecrypt s.cryptoParam.aeadAlgo p.encryptionKey p.nonce
    (secured.take aadSize) ((secured.drop aadSize).take cipherTextSize)
    ((secured.drop (aadSize + cipherTextSize)).take tagSize))
  -- the plain text sits in a zeroed buffer, from which the length is read
  let appLength := leNat (plain.take 2)
  guardElse (decide (appLength + 2 ≤ plain.length)) .decodeAeadFail
  assert (decide (appLength ≤ room))
  ret ((plain.drop 2).take appLength)

/-! ## §2. The session's own keys. -/

def direction (requester : Bool) (s : SpdmSession) : SpdmSessionSecretParam :=
  match s.sessionState, requester with
  | .established, true => s.applicationSecret.requestDirection
  | .established, false => s.applicationSecret.responseDirection
  | _, true => s.handshakeSecret.requestDirection
  | _, false => s.handshakeSecret.responseDirection

def advanceDirection (requester : Bool) (s : SpdmSession) : SpdmSession :=
  match s.sessionState, requester with
  | .established, true => { s with applicationSecret := { s.applicationSecret with
      requestDirection := s.applicationSecret.requestDirection.advance } }
  | .established, false => { s with applicationSecret := { s.applicationSecret with
      responseDirection := s.applicationSecret.responseDirection.advance } }
  | _, true => { s with handshakeSecret := { s.handshakeSecret with
      requestDirection := s.handshakeSecret.requestDirection.advance } }
  | _, false => { s with handshakeSecret := { s.handshakeSecret with
      responseDirection := s.handshakeSecret.responseDirection.advance } }

omit [Crypto] in
@[simp] theorem advanceDirection_sessionId (requester : Bool) (s : SpdmSession) :
    (s.advanceDirection requester).sessionId = s.sessionId := by
  unfold advanceDirection
  split <;> rfl

omit [Crypto] in
@[simp] theorem advanceDirection_sessionState (requester : Bool) (s : SpdmSession) :
    (s.advanceDirection requester).sessionState = s.sessionState := by
  unfold advanceDirection
  split <;> simp_all

def advanceBackup (s : SpdmSession) : SpdmSession :=
  { s with applicationSecretBackup := { s.applicationSecretBackup with
      responseDirection := s.applicationSecretBackup.responseDirection.advance } }

def recordSeal (fromRequester : Bool) (p : SpdmSessionSecretParam) (app : Bytes)
    (s : SpdmSession) : SpdmSession :=
  { s with sealed := s.sealed ++ [⟨fromRequester, p.encryptionKey, p.nonce, app⟩] }

def recordOpen (p : SpdmSessionSecretParam) (secured app : Bytes) (s : SpdmSession) :
    SpdmSession :=
  { s with opened := s.opened ++ [⟨secured, p.encryptionKey, p.nonce, app⟩] }

def tearDownOnOverflow {α : Type} : Except SpdmStatus α → Prog SpdmSession SpdmStatus α
  | .ok a => ret a
  | .error e => do
    (if e = .sequenceNumberOverflow then update setDefault else ret ())
    fail e

def encodeSpdmSecuredMessage (config : Config) (app : Bytes) (room : Nat) (isRequester : Bool) :
    Prog SpdmSession SpdmStatus Bytes := do
  let s ← read
  let p := s.direction isRequester
  let r ← attempt (if s.sessionState = .notStarted then fail .invalidStateLocal
    else encodeMsg config app room p)
  (match r with
    | .ok _ => update fun s => (s.advanceDirection isRequester).recordSeal isRequester p app
    | .error _ => ret ())
  tearDownOnOverflow r

def countDecoded (p : SpdmSessionSecretParam) (advance : SpdmSession → SpdmSession)
    (secured : Bytes) : Except SpdmStatus Bytes → Prog SpdmSession SpdmStatus Bytes
  | .ok app => do
    update fun s => (advance s).recordOpen p secured app
    ret app
  | .error e => do
    (if e = .sequenceNumberOverflow then ret () else update advance)
    fail e

def refusedByCipher : Except SpdmStatus Bytes → Bool
  | .ok _ => false
  | .error e => e == .cryptoError

def openEstablishedResponse (config : Config) (secured : Bytes) (room : Nat) :
    Prog SpdmSession SpdmStatus Bytes := do
  let s ← read
  let p := s.applicationSecret.responseDirection
  let backup := s.applicationSecretBackup.responseDirection
  let r ← attempt (decodeMsg config secured room p)
  if refusedByCipher r && s.responderBackupValid then
    let rBackup ← attempt (decodeMsg config secured room backup)
    countDecoded backup advanceBackup secured rBackup
  else
    countDecoded p (advanceDirection false) secured r

def openDirection (config : Config) (secured : Bytes) (room : Nat) (isRequester : Bool) :
    Prog SpdmSession SpdmStatus Bytes := do
  let s ← read
  let p := s.direction isRequester
  let r ← attempt (decodeMsg config secured room p)
  countDecoded p (advanceDirection isRequester) secured r

def decodeSpdmSecuredMessage (config : Config) (secured : Bytes) (room : Nat)
    (isRequester : Bool) : Prog SpdmSession SpdmStatus Bytes := do
  let s ← read
  let r ← attempt (match s.sessionState, isRequester with
    | .notStarted, _ => fail .invalidStateLocal
    | .established, false => openEstablishedResponse config secured room
    | _, _ => openDirection config secured room isRequester)
  tearDownOnOverflow r

theorem decodeSpdmSecuredMessage_notStarted {s : SpdmSession} (h : s.sessionState = .notStarted)
    (config : Config) (secured : Bytes) (room : Nat) (isRequester : Bool) :
    decodeSpdmSecuredMessage config secured room isRequester s = .err .invalidStateLocal s := by
  unfold decodeSpdmSecuredMessage
  rw [read_bind, h]
  rfl

end SpdmSession

end Spdm
