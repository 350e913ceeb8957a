/-
  Spdm.Certificate.X509 — the checks on X.509 certificates (`x509v3.rs`).
-/
import Spdm.Protocol.Types

namespace Spdm

namespace X509v3

/-! ## §1. Tags and lengths. -/

def asn1TagBoolean : UInt8 := 0x1
def asn1TagNumberInteger : UInt8 := 0x2
def asn1TagBitString : UInt8 := 0x3
def asn1TagOctetString : UInt8 := 0x4
def asn1TagNumberObjectIdentifier : UInt8 := 0x6
def asn1TagSequence : UInt8 := 0x30
def asn1TagExplicitExtension : UInt8 := 0xA3
def asn1TagExtnValue : UInt8 := 0x04
def x509v3Version : UInt8 := 2
def keyUsageDigitalSignatureBit : UInt8 := 0x80

def oidRsaSha256Rsa : Bytes := [0x2a, 0x86, 0x48, 0x86, 0xf7, 0x0d, 0x01, 0x01, 0x0b]
def oidRsaSha384Rsa : Bytes := [0x2a, 0x86, 0x48, 0x86, 0xf7, 0x0d, 0x01, 0x01, 0x0c]
def oidRsaSha512Rsa : Bytes := [0x2a, 0x86, 0x48, 0x86, 0xf7, 0x0d, 0x01, 0x01, 0x0d]
def oidEcdsaSha256 : Bytes := [0x2a, 0x86, 0x48, 0xce, 0x3d, 0x04, 0x03, 0x02]
def oidEcdsaSha384 : Bytes := [0x2a, 0x86, 0x48, 0xce, 0x3d, 0x04, 0x03, 0x03]
def oidDmtfSpdmDeviceInfo : Bytes := [0x2B, 0x06, 0x01, 0x04, 0x01, 0x83, 0x1C, 0x82, 0x12, 0x01]
def oidDmtfSpdmHardwareIdentity : Bytes :=
  [0x2B, 0x06, 0x01, 0x04, 0x01, 0x83, 0x1C, 0x82, 0x12, 0x02]
def oidDmtfSpdmEkuResponderAuth : Bytes :=
  [0x2B, 0x06, 0x01, 0x04, 0x01, 0x83, 0x1C, 0x82, 0x12, 0x03]
def oidDmtfSpdmEkuRequesterAuth : Bytes :=
  [0x2B, 0x06, 0x01, 0x04, 0x01, 0x83, 0x1C, 0x82, 0x12, 0x04]
def oidDmtfMutableCertificate : Bytes :=
  [0x2B, 0x06, 0x01, 0x04, 0x01, 0x83, 0x1C, 0x82, 0x12, 0x05]
def oidDmtfSpdmExtension : Bytes := [0x2B, 0x06, 0x01, 0x04, 0x01, 0x83, 0x1C, 0x82, 0x12, 0x06]
def oidKeyUsage : Bytes := [0x55, 0x1D, 0x0F]
def oidSubjectAlternativeName : Bytes := [0x55, 0x1D, 0x11]
def oidExtKeyUsage : Bytes := [0x55, 0x1D, 0x25]

def getOidByBaseAsymAlgo (algo : Flags) : Option Bytes :=
  if algo = SpdmBaseAsymAlgo.tpmAlgRsassa2048 then some oidRsaSha256Rsa
  else if algo = SpdmBaseAsymAlgo.tpmAlgRsapss2048 then some oidRsaSha256Rsa
  else if algo = SpdmBaseAsymAlgo.tpmAlgRsassa3072 then some oidRsaSha384Rsa
  else if algo = SpdmBaseAsymAlgo.tpmAlgRsapss3072 then some oidRsaSha384Rsa
  else if algo = SpdmBaseAsymAlgo.tpmAlgEcdsaEccNistP256 then some oidEcdsaSha256
  else if algo = SpdmBaseAsymAlgo.tpmAlgRsassa4096 then some oidRsaSha512Rsa
  else if algo = SpdmBaseAsymAlgo.tpmAlgRsapss4096 then some oidRsaSha512Rsa
  else if algo = SpdmBaseAsymAlgo.tpmAlgEcdsaEccNistP384 then some oidEcdsaSha384
  else none

abbrev Check (α : Type) := Except SpdmStatus α

def reject {α : Type} : Check α := .error .verifFail

def require (b : Bool) : Check Unit := if b then .ok () else reject

def checkTag (tag : UInt8) (data : Bytes) : Check Unit := require (data.head? == some tag)

def checkTagIsSequence : Bytes → Check Unit := checkTag asn1TagSequence

def checkTagIsNumOid : Bytes → Check Unit := checkTag asn1TagNumberObjectIdentifier

def combined (high low : UInt8) : Nat := (high.toNat <<< 8) ||| low.toNat

theorem combined_eq {high low : UInt8} : combined high low = high.toNat * 256 + low.toNat := by
  have hlow : low.toNat < 2 ^ 8 := low.toNat_lt
  unfold combined
  rw [← Nat.shiftLeft_add_eq_or_of_lt hlow, Nat.shiftLeft_eq]

def decodeLength : Bytes → Check (Nat × Nat)
  | [] => reject
  | byte0 :: rest =>
    if byte0 &&& 0x80 = 0 then .ok (byte0.toNat, 1)
    else if byte0 = 0x81 then
      match rest with
      | [] => reject
      -- less than 0x80 is not the canonical encoding
      | second :: _ => if second.toNat < 0x80 then reject else .ok (second.toNat, 2)
    else if byte0 = 0x82 then
      match rest with
      | second :: third :: _ =>
        if combined second third < 0x100 then reject else .ok (combined second third, 3)
      | _ => reject
    else reject

def checkLength (data : Bytes) : Check (Nat × Nat) := do
  let (length, consumed) ← decodeLength data
  if data.length < consumed + length then reject else .ok (length, consumed)

/-! ## §2. Elements. -/

def checkAndGetCommonTag (data : Bytes) : Check (Nat × Bytes) := do
  require (decide (1 ≤ data.length))
  let (length, consumed) ← checkLength (data.drop 1)
  require (decide (1 + consumed + length ≤ data.length))
  .ok (1 + consumed + length, (data.take (1 + consumed + length)).drop (1 + consumed))

def checkAndSkipCommonTag (data : Bytes) : Check Nat := do
  require (decide (1 ≤ data.length))
  let (length, consumed) ← checkLength (data.drop 1)
  require (decide (1 + consumed + length ≤ data.length))
  .ok (1 + consumed + length)

def checkAndSkipCommonSequence (data : Bytes) : Check Nat := do
  checkTagIsSequence data
  checkAndSkipCommonTag data

def checkName : Bytes → Check Nat := checkAndSkipCommonSequence

def checkValidity : Bytes → Check Nat := checkAndSkipCommonSequence

def checkPublicKeyInfo : Bytes → Check Nat := checkAndSkipCommonSequence

def checkVersion (data : Bytes) : Check Nat := do
  require (data.take 5 == [0xA0, 3, asn1TagNumberInteger, 1, x509v3Version])
  .ok 5

def checkObjectIdentifier (data : Bytes) (oid : Option Bytes) : Check Nat :=
  match data with
  | tag :: length :: rest => do
    require (tag == asn1TagNumberObjectIdentifier)
    require (decide (length.toNat ≤ rest.length ∧ length < 0x80))
    require (oid.all fun oid => rest.take length.toNat == oid)
    .ok (length.toNat + 2)
  | _ => reject

def checkAndGetExtensions (data : Bytes) : Check (Nat × Bytes) :=
  if data.head? = some asn1TagExplicitExtension then checkAndGetCommonTag data
  else .ok (data.length, data)

def checkAndGetExtnId (data : Bytes) : Check (Bytes × Nat) := do
  checkTagIsSequence data
  let (length, consumed) ← checkLength (data.drop 1)
  require (decide (1 + consumed + length ≤ data.length))
  let extnId := data.drop (1 + consumed)
  checkTagIsNumOid extnId
  let (idLength, idConsumed) ← checkLength (extnId.drop 1)
  .ok ((extnId.take (1 + idConsumed + idLength)).drop (1 + idConsumed), 1 + consumed + length)

/-! ## §3. Extensions. -/

theorem length_drop_lt_cons {tag : UInt8} {body : Bytes} {n : Nat} :
    (body.drop n).length < (tag :: body).length := by
  rw [List.length_drop, List.length_cons]
  omega

def keyUsageBits (data : Bytes) : Check (Bool × UInt8) := do
  checkTag asn1TagExtnValue data
  let (_, consumed) ← checkLength (data.drop 1)
  let data := data.drop (1 + consumed)
  require (!data.isEmpty)
  if data.head? = some asn1TagBitString then do
    let (length, consumed) ← checkLength (data.drop 1)
    -- the last byte of the bit string
    match data[consumed + length]? with
    | some value => .ok (true, value)
    | none => reject
  else .ok (false, 0)

def keyUsageValue (data : Bytes) : Check (Bool × UInt8) :=
  -- the critical flag is optional
  if data.head? = some asn1TagBoolean then do
    let size ← checkAndSkipCommonTag data
    keyUsageBits (data.drop size)
  else keyUsageBits data

def searchKeyUsage (data : Bytes) : Check (Bool × UInt8) :=
  match data with
  | [] => .ok (false, 0)
  | tag :: body => do
    let (length, consumed) ← checkLength body
    if tag = asn1TagSequence then searchKeyUsage (body.drop consumed)
    else if tag = asn1TagNumberObjectIdentifier ∧
        (body.take (consumed + length)).drop consumed = oidKeyUsage then
      keyUsageValue (body.drop (consumed + length))
    else searchKeyUsage (body.drop (consumed + length))
termination_by data.length
decreasing_by
  · exact length_drop_lt_cons
  · exact length_drop_lt_cons

def getKeyUsageValue (data : Bytes) : Check (Bool × UInt8) := do
  checkTagIsSequence data
  let (_, consumed) ← checkLength (data.drop 1)
  searchKeyUsage (data.drop (1 + consumed))

def searchObjectIdentifier (target : Bytes) (data : Bytes) : Check Bool :=
  if target.length < data.length then
    match data with
    | [] => reject
    | tag :: body => do
      let (length, consumed) ← checkLength body
      if tag = asn1TagNumberObjectIdentifier then
        if (body.take (consumed + length)).drop consumed = target then .ok true
        else searchObjectIdentifier target (body.drop (consumed + length))
      else if tag = asn1TagSequence ∨ tag = asn1TagExtnValue then
        searchObjectIdentifier target (body.drop consumed)
      else searchObjectIdentifier target (body.drop (consumed + length))
  else .ok false
termination_by data.length
decreasing_by
  · exact length_drop_lt_cons
  · exact length_drop_lt_cons
  · exact length_drop_lt_cons

def findTargetObjectIdentifierInSingleExtension (data target : Bytes) : Check Bool := do
  require (!data.isEmpty)
  searchObjectIdentifier target data

def extensionNamesAuth (extnId extension : Bytes) : Check Bool :=
  let find := findTargetObjectIdentifierInSingleExtension extension
  if extnId = oidSubjectAlternativeName then do
    let _ ← find oidDmtfSpdmDeviceInfo
    .ok false
  else if extnId = oidExtKeyUsage then do
    let responder ← find oidDmtfSpdmEkuResponderAuth
    if responder then .ok true else find oidDmtfSpdmEkuRequesterAuth
  else if extnId = oidDmtfSpdmExtension then do
    let mutableCert ← find oidDmtfMutableCertificate
    (if mutableCert then .ok false else do
      let _ ← find oidDmtfSpdmHardwareIdentity
      .ok false)
  else .ok false

def walkExtensions (payload : Nat) (data : Bytes) (found : Bool) : Check Bool :=
  if 0 < payload then
    match checkAndGetExtnId data with
    | .error e => .error e
    | .ok (extnId, size) => do
      -- an extension has at least its tag
      if size = 0 ∨ payload < size then reject
      else do
        let names ← extensionNamesAuth extnId (data.take size)
        walkExtensions (payload - size) (data.drop size) (found || names)
  else .ok found
termination_by payload
decreasing_by omega

def checkExtensionsSpdmOid (extensions : Bytes) (isLeafCert : Bool) : Check Bool := do
  checkTagIsSequence extensions
  let (payload, consumed) ← checkLength (extensions.drop 1)
  let found ← walkExtensions payload (extensions.drop (1 + consumed)) false
  .ok (isLeafCert || !found)

def enter (tag : UInt8) (data : Bytes) : Check (Nat × Bytes) := do
  checkTag tag data
  let (length, consumed) ← checkLength (data.drop 1)
  require (decide (1 + consumed < data.length))
  .ok (length, data.drop (1 + consumed))

def valueHolds (target data : Bytes) : Check Bool := do
  let (_, data) ← enter asn1TagOctetString data
  let (_, data) ← enter asn1TagSequence data
  let (_, data) ← enter asn1TagSequence data
  let (length, data) ← enter asn1TagNumberObjectIdentifier data
  require (length == target.length)
  .ok (data.take length == target)

def extensionHolds (target data : Bytes) : Check Bool :=
  -- the critical flag is optional: tag, length and value
  valueHolds target (if data.head? = some asn1TagBoolean then data.drop 3 else data)

def searchExtensions (target data : Bytes) : Check Bool :=
  match data with
  | [] => .ok false
  | tag :: body => do
    require (tag == asn1TagSequence)
    let (extensionLength, consumed) ← checkLength body
    let extension := body.drop consumed
    require (!extension.isEmpty)
    let (length, id) ← enter asn1TagNumberObjectIdentifier extension
    let holds ← (if length < id.length ∧ id.take length = oidDmtfSpdmExtension then
      extensionHolds target (id.drop length) else .ok false)
    if holds then .ok true
    else searchExtensions target (body.drop (consumed + extensionLength))
termination_by data.length
decreasing_by exact length_drop_lt_cons

def findTargetObjectIdentifierInExtensions (data target : Bytes) : Check Bool := do
  checkTagIsSequence data
  let (length, consumed) ← checkLength (data.drop 1)
  searchExtensions target ((data.drop (1 + consumed)).take length)

/-! ## §4. Certificates. -/

def skipToIssuer (data : Bytes) (oid : Option Bytes) : Check (Nat × Nat × Nat) := do
  checkTagIsSequence data
  let (tbsLength, consumed) ← checkLength (data.drop 1)
  let start := 1 + consumed
  require (decide (start + tbsLength ≤ data.length))
  let size ← checkVersion (data.drop start)
  let walker := start + size
  let size ← checkAndSkipCommonTag (data.drop walker)
  let walker := walker + size
  checkTagIsSequence (data.drop walker)
  let walker := walker + 1
  let (signatureIdLength, consumed) ← checkLength (data.drop walker)
  let walker := walker + consumed
  let _ ← checkObjectIdentifier (data.drop walker) oid
  .ok (start, tbsLength, walker + signatureIdLength)

def skipToExtensions (data : Bytes) (walker : Nat) : Check Nat := do
  let size ← checkName (data.drop walker)
  let walker := walker + size
  let size ← checkValidity (data.drop walker)
  let walker := walker + size
  let size ← checkName (data.drop walker)
  let walker := walker + size
  let size ← checkPublicKeyInfo (data.drop walker)
  .ok (walker + size)

def requiredOid (baseAsymAlgo : Flags) (isLeafCert : Bool) : Option Bytes :=
  if isLeafCert then getOidByBaseAsymAlgo baseAsymAlgo else none

def checkTbsCertificate (data : Bytes) (baseAsymAlgo : Flags) (isLeafCert : Bool) : Check Nat := do
  let (start, tbsLength, walker) ← skipToIssuer data (requiredOid baseAsymAlgo isLeafCert)
  let walker ← skipToExtensions data walker
  let (size, extensions) ← checkAndGetExtensions (data.drop walker)
  let (findKeyUsage, keyUsage) ← getKeyUsageValue extensions
  let spdmSuccess ← checkExtensionsSpdmOid extensions isLeafCert
  let keyUsageSuccess := !(isLeafCert && findKeyUsage &&
    keyUsageDigitalSignatureBit &&& keyUsage != keyUsageDigitalSignatureBit)
  require (walker + size == start + tbsLength && keyUsageSuccess && spdmSuccess)
  .ok (start + tbsLength)

def checkSignatureAlgorithm (data : Bytes) (baseAsymAlgo : Flags) (isLeafCert : Bool) :
    Check Nat := do
  checkTagIsSequence data
  let (length, consumed) ← checkLength (data.drop 1)
  let _ ← checkObjectIdentifier (data.drop (1 + consumed)) (requiredOid baseAsymAlgo isLeafCert)
  .ok (1 + consumed + length)

def checkSignatureValue : Bytes → Check Nat := checkAndSkipCommonTag

def checkCertFormat (cert : Bytes) (baseAsymAlgo : Flags) : Check Nat := do
  checkTagIsSequence cert
  let (bodySize, consumed) ← checkLength (cert.drop 1)
  let start := 1 + consumed
  let isLeafCert := cert.length == start + bodySize
  let size ← checkTbsCertificate (cert.drop start) baseAsymAlgo isLeafCert
  let walker := start + size
  let size ← checkSignatureAlgorithm (cert.drop walker) baseAsymAlgo isLeafCert
  let walker := walker + size
  let size ← checkSignatureValue (cert.drop walker)
  require (walker + size == start + bodySize)
  .ok (walker + size)

def checkCertChainFormat (chain : Bytes) (baseAsymAlgo : Flags) : Check Nat :=
  if 0 < chain.length then
    match checkCertFormat chain baseAsymAlgo with
    | .error e => .error e
    | .ok size => do
      -- a certificate has at least its tag
      if size = 0 ∨ chain.length < size then reject
      else do
        let count ← checkCertChainFormat (chain.drop size) baseAsymAlgo
        .ok (count + 1)
  else .ok 0
termination_by chain.length
decreasing_by
  rw [List.length_drop]
  omega

def isRootCertificate (cert : Bytes) : Check Unit := do
  checkTagIsSequence cert
  let (_, consumed) ← checkLength (cert.drop 1)
  let data := cert.drop (1 + consumed)
  let (_, _, walker) ← skipToIssuer data none
  let (size, issuer) ← checkAndGetCommonTag (data.drop walker)
  let walker := walker + size
  let size ← checkValidity (data.drop walker)
  let (_, subject) ← checkAndGetCommonTag (data.drop (walker + size))
  require (subject == issuer)

def checkLeafCertificate (cert : Bytes) (isAliasCertModel : Bool) : Check Unit := do
  checkTagIsSequence cert
  let (_, consumed) ← checkLength (cert.drop 1)
  let data := cert.drop (1 + consumed)
  let (_, _, walker) ← skipToIssuer data none
  let walker ← skipToExtensions data walker
  let (_, extensions) ← checkAndGetExtensions (data.drop walker)
  let hardware ← findTargetObjectIdentifierInExtensions extensions oidDmtfSpdmHardwareIdentity
  require (!(isAliasCertModel && hardware))

/-! ## §5. What is accepted. -/

theorem Check.bind_eq_ok {α β : Type} {m : Check α} {f : α → Check β} {b : β} :
    (m >>= f) = .ok b ↔ ∃ a, m = .ok a ∧ f a = .ok b := by
  cases m with
  | error e =>
    refine ⟨fun h => ?_, fun ⟨_, h, _⟩ => ?_⟩
    · cases h
    · cases h
  | ok a =>
    refine ⟨fun h => ⟨a, rfl, h⟩, fun ⟨_, h, h'⟩ => ?_⟩
    cases h
    exact h'

theorem require_eq_ok {b : Bool} {u : Unit} : require b = .ok u ↔ b = true := by
  cases b <;> simp [require, reject]

theorem checkLength_ok {data : Bytes} {length consumed : Nat}
    (h : checkLength data = .ok (length, consumed)) :
    decodeLength data = .ok (length, consumed) ∧ consumed + length ≤ data.length := by
  obtain ⟨⟨n, k⟩, hdecode, h⟩ := Check.bind_eq_ok.1 h
  dsimp only at h
  split at h
  case isTrue => cases h
  case isFalse hfits =>
    cases h
    exact ⟨hdecode, by omega⟩

theorem decodeLength_two_octet {high low : UInt8} {rest : Bytes} {length consumed : Nat}
    (h : decodeLength (0x82 :: high :: low :: rest) = .ok (length, consumed)) :
    length = combined high low ∧ consumed = 3 ∧ 0x100 ≤ combined high low := by
  have hbit : ¬ (0x82 &&& 0x80 : UInt8) = 0 := by decide
  have hone : ¬ (0x82 : UInt8) = 0x81 := by decide
  unfold decodeLength at h
  dsimp only at h
  rw [if_neg hbit, if_neg hone, if_pos rfl] at h
  split at h
  case isTrue => cases h
  case isFalse hlong =>
    cases h
    exact ⟨rfl, rfl, by omega⟩

theorem checkCertFormat_ok {cert : Bytes} {baseAsymAlgo : Flags} {size : Nat}
    (h : checkCertFormat cert baseAsymAlgo = .ok size) :
    ∃ length consumed, checkLength (cert.drop 1) = .ok (length, consumed) ∧
      size = 1 + consumed + length := by
  obtain ⟨_, -, h⟩ := Check.bind_eq_ok.1 h
  obtain ⟨⟨length, consumed⟩, hlength, h⟩ := Check.bind_eq_ok.1 h
  obtain ⟨_, -, h⟩ := Check.bind_eq_ok.1 h
  obtain ⟨_, -, h⟩ := Check.bind_eq_ok.1 h
  obtain ⟨_, -, h⟩ := Check.bind_eq_ok.1 h
  obtain ⟨_, hsize, h⟩ := Check.bind_eq_ok.1 h
  cases h
  exact ⟨length, consumed, hlength, by simpa [require_eq_ok] using hsize⟩

end X509v3

end Spdm
