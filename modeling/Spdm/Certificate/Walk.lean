/-
  Spdm.Certificate.Walk — the certificate checks with their indices (`x509v3.rs`,
  `get_cert_from_cert_chain`).
-/
import Spdm.Certificate.Ring
import Spdm.Lib.Slice

namespace Spdm

open Effect

namespace X509v3.Indexed

/-! ## §1. Tags and lengths. -/

abbrev Walker (α : Type) := Walk SpdmStatus α

def verifFail {α : Type} : Walker α := stop .verifFail

def checkTag (tag : UInt8) (data : Bytes) : Walker Unit :=
  if data.isEmpty then verifFail
  else do
    let first ← indexAt data 0
    if first = tag then ret () else verifFail

def decodeLength (data : Bytes) (byte0 : UInt8) : Walker (Nat × Nat) :=
  if byte0 &&& 0x80 = 0 then ret (byte0.toNat, 1)
  else if byte0 = 0x81 then
    if data.length < 2 then verifFail
    else do
      let second ← indexAt data 1
      -- less than 0x80 is not the canonical encoding
      if second.toNat < 0x80 then verifFail else ret (second.toNat, 2)
  else if byte0 = 0x82 then
    if data.length < 3 then verifFail
    else do
      let second ← indexAt data 1
      let third ← indexAt data 2
      if combined second third < 0x100 then verifFail else ret (combined second third, 3)
  else verifFail

def checkLength (data : Bytes) : Walker (Nat × Nat) :=
  if data.length < 1 then verifFail
  else do
    let byte0 ← indexAt data 0
    let (length, consumed) ← decodeLength data byte0
    if data.length < consumed + length then verifFail else ret (length, consumed)

def objectIdentifiersAreSame (a b : Bytes) : Bool :=
  if a.length ≠ b.length then false else (a.zip b).all fun p => p.1 == p.2

/-! ## §2. Elements. -/

def checkAndSkipCommonTag (data : Bytes) : Walker Nat :=
  if data.length < 1 then verifFail
  else do
    let rest ← sliceFrom data 1
    let (length, consumed) ← checkLength rest
    if data.length < 1 + consumed + length then verifFail else ret (1 + consumed + length)

def checkAndGetCommonTag (data : Bytes) : Walker (Nat × Bytes) :=
  if data.length < 1 then verifFail
  else do
    let rest ← sliceFrom data 1
    let (length, consumed) ← checkLength rest
    if data.length < 1 + consumed + length then verifFail
    else do
      let payload ← slice data (1 + consumed) (1 + consumed + length)
      ret (1 + consumed + length, payload)

def checkAndSkipCommonSequence (data : Bytes) : Walker Nat :=
  if data.length < 1 then verifFail
  else do
    let first ← indexAt data 0
    if first ≠ asn1TagSequence then verifFail
    else do
      let rest ← sliceFrom data 1
      let (length, consumed) ← checkLength rest
      if data.length < 1 + consumed + length then verifFail else ret (1 + consumed + length)

def checkVersion (data : Bytes) : Walker Nat :=
  if data.length < 5 then verifFail
  else do
    let byte0 ← indexAt data 0
    let byte1 ← indexAt data 1
    let byte2 ← indexAt data 2
    let byte3 ← indexAt data 3
    if byte0 ≠ 0xA0 ∨ byte1 ≠ 3 ∨ byte2 ≠ asn1TagNumberInteger ∨ byte3 ≠ 1 then verifFail
    else do
      let version ← indexAt data 4
      if version = x509v3Version then ret 5 else verifFail

def checkObjectIdentifier (data : Bytes) (oid : Option Bytes) : Walker Nat :=
  if data.length < 2 then verifFail
  else do
    let tag ← indexAt data 0
    if tag ≠ asn1TagNumberObjectIdentifier then verifFail
    else do
      let length ← indexAt data 1
      if data.length < length.toNat + 2 ∨ 0x80 ≤ length then verifFail
      else
        match oid with
        | some oid => do
          let id ← slice data 2 (2 + length.toNat)
          if objectIdentifiersAreSame id oid then ret (length.toNat + 2) else verifFail
        | none => ret (length.toNat + 2)

def checkAndGetExtensions (data : Bytes) : Walker (Nat × Bytes) :=
  if data.length < 1 then ret (data.length, data)
  else do
    let tag ← indexAt data 0
    if tag ≠ asn1TagExplicitExtension then ret (data.length, data)
    else do
      let rest ← sliceFrom data 1
      let (length, consumed) ← checkLength rest
      if data.length < 1 + consumed + length then verifFail
      else do
        let payload ← slice data (1 + consumed) (1 + consumed + length)
        ret (1 + consumed + length, payload)

def checkAndGetExtnId (data : Bytes) : Walker (Bytes × Nat) :=
  if data.length < 1 then verifFail
  else do
    let tag ← indexAt data 0
    if tag ≠ asn1TagSequence then verifFail
    else do
      let rest ← sliceFrom data 1
      let (length, consumed) ← checkLength rest
      if data.length < 1 + consumed + length then verifFail
      else do
        let extnId ← sliceFrom data (1 + consumed)
        if extnId.isEmpty then verifFail
        else do
          let tag ← indexAt extnId 0
          if tag ≠ asn1TagNumberObjectIdentifier then verifFail
          else do
            let rest ← sliceFrom extnId 1
            let (idLength, idConsumed) ← checkLength rest
            let id ← slice extnId (1 + idConsumed) (1 + idConsumed + idLength)
            ret (id, 1 + consumed + length)

/-! ## §3. Extensions. -/

def keyUsageBits (data : Bytes) (index : Nat) : Walker (Bool × UInt8) := do
  let tag ← indexAt data index
  if tag = asn1TagExtnValue then
    if data.length ≤ index + 1 then verifFail
    else do
      let rest ← sliceFrom data (index + 1)
      let (_, consumed) ← checkLength rest
      let index := index + (1 + consumed)
      if data.length ≤ index then verifFail
      else do
        let tag ← indexAt data index
        if tag = asn1TagBitString then
          if data.length ≤ index + 1 then verifFail
          else do
            let rest ← sliceFrom data (index + 1)
            let (length, consumed) ← checkLength rest
            if data.length ≤ index + (consumed + length) then verifFail
            else do
              let value ← indexAt data (index + (consumed + length))
              ret (true, value)
        else ret (false, 0)
  else verifFail

def keyUsageValue (data : Bytes) (index : Nat) : Walker (Bool × UInt8) :=
  if data.length ≤ index then verifFail
  else do
    let tag ← indexAt data index
    if tag = asn1TagBoolean then
      if data.length ≤ index + 1 then verifFail
      else do
        let rest ← sliceFrom data (index + 1)
        let (length, consumed) ← checkLength rest
        if data.length ≤ index + (1 + consumed + length) then verifFail
        else keyUsageBits data (index + (1 + consumed + length))
    else keyUsageBits data index

def searchKeyUsage (data : Bytes) : Nat → Nat → Walker (Bool × UInt8)
  | 0, _ => fail .endless
  | turns + 1, index =>
    let len := data.length
    if index < len then
      if len ≤ index + 1 then verifFail
      else do
        let rest ← sliceFrom data (index + 1)
        let (length, consumed) ← checkLength rest
        let room ← minus len (index + 1)
        if room < consumed + length then verifFail
        else do
          let tag ← indexAt data index
          if tag = asn1TagSequence then searchKeyUsage data turns (index + (1 + consumed))
          else do
            let found ← (if tag = asn1TagNumberObjectIdentifier ∧ length =
              oidKeyUsage.length then do
                let id ← slice data (index + (1 + consumed)) (index + (1 + consumed) + length)
                ret (objectIdentifiersAreSame id oidKeyUsage)
              else ret false)
            if found then keyUsageValue data (index + (1 + consumed + length))
            else searchKeyUsage data turns (index + (1 + consumed + length))
    else ret (false, 0)

def getKeyUsageValue (data : Bytes) : Walker (Bool × UInt8) :=
  let len := data.length
  if len < 1 then verifFail
  else do
    let tag ← indexAt data 0
    if tag ≠ asn1TagSequence then verifFail
    else do
      let rest ← sliceFrom data 1
      let (length, consumed) ← checkLength rest
      if len < 1 + length + consumed then verifFail
      else searchKeyUsage data (len + 1) (1 + consumed)

def searchObjectIdentifier (target data : Bytes) : Nat → Nat → Walker Bool
  | 0, _ => fail .endless
  | turns + 1, index => do
    let len := data.length
    let last ← minus len target.length
    if index < last then
      if len ≤ index + 1 then verifFail
      else do
        let rest ← sliceFrom data (index + 1)
        let (length, consumed) ← checkLength rest
        let room ← minus len (index + 1)
        if room < consumed + length then verifFail
        else do
          let tag ← indexAt data index
          if tag = asn1TagNumberObjectIdentifier then do
            let id ← slice data (index + (1 + consumed)) (index + (1 + consumed) + length)
            if objectIdentifiersAreSame id target ∧ length = target.length then ret true
            else searchObjectIdentifier target data turns (index + (1 + consumed + length))
          else if tag = asn1TagSequence ∨ tag = asn1TagExtnValue then
            searchObjectIdentifier target data turns (index + (1 + consumed))
          else searchObjectIdentifier target data turns (index + (1 + consumed + length))
    else ret false

def findTargetObjectIdentifierInSingleExtension (data target : Bytes) : Walker Bool :=
  if data.length < 1 then verifFail
  else if data.length < target.length then ret false
  else searchObjectIdentifier target data (data.length + 1) 0

def walkExtensions (sequences : Bytes) (payload : Nat) :
    Nat → Nat → Bool → Bool → Walker Bool
  | 0, _, _, _ => fail .endless
  | turns + 1, index, responder, requester =>
    if index < payload then do
      let rest ← sliceFrom sequences index
      let (extnId, size) ← checkAndGetExtnId rest
      let room ← minus payload index
      if room < size then verifFail
      else if objectIdentifiersAreSame extnId oidSubjectAlternativeName then do
        let extension ← slice sequences index (index + size)
        let _ ← findTargetObjectIdentifierInSingleExtension extension oidDmtfSpdmDeviceInfo
        walkExtensions sequences payload turns (index + size) responder requester
      else if objectIdentifiersAreSame extnId oidExtKeyUsage then do
        let extension ← slice sequences index (index + size)
        let found ← findTargetObjectIdentifierInSingleExtension extension
          oidDmtfSpdmEkuResponderAuth
        if found then walkExtensions sequences payload turns (index + size) true requester
        else do
          let extension ← slice sequences index (index + size)
          let found ←
            findTargetObjectIdentifierInSingleExtension extension oidDmtfSpdmEkuRequesterAuth
          if found then walkExtensions sequences payload turns (index + size) responder true
          else walkExtensions sequences payload turns (index + size) responder requester
      else if objectIdentifiersAreSame extnId oidDmtfSpdmExtension then do
        let extension ← slice sequences index (index + size)
        let found ← findTargetObjectIdentifierInSingleExtension extension oidDmtfMutableCertificate
        if found then walkExtensions sequences payload turns (index + size) responder requester
        else do
          let extension ← slice sequences index (index + size)
          let _ ← findTargetObjectIdentifierInSingleExtension extension oidDmtfSpdmHardwareIdentity
          walkExtensions sequences payload turns (index + size) responder requester
      else walkExtensions sequences payload turns (index + size) responder requester
    else ret (responder || requester)

def checkExtensionsSpdmOid (extensions : Bytes) (isLeafCert : Bool) : Walker Bool :=
  if extensions.length < 1 then verifFail
  else do
    let tag ← indexAt extensions 0
    if tag ≠ asn1TagSequence then verifFail
    else do
      let rest ← sliceFrom extensions 1
      let (payload, consumed) ← checkLength rest
      let sequences ← sliceFrom extensions (1 + consumed)
      if sequences.length < payload then verifFail
      else do
        let found ← walkExtensions sequences payload (payload + 1) 0 false false
        ret !(!isLeafCert && found)

def enter (tag : UInt8) (data : Bytes) (walker : Nat) : Walker (Nat × Nat) := do
  let rest ← sliceFrom data walker
  checkTag tag rest
  if data.length ≤ walker + 1 then verifFail
  else do
    let rest ← sliceFrom data (walker + 1)
    let (length, consumed) ← checkLength rest
    if data.length ≤ walker + (1 + consumed) then verifFail
    else ret (length, walker + (1 + consumed))

def valueHolds (target data : Bytes) (walker : Nat) : Walker Bool := do
  let (_, walker) ← enter asn1TagOctetString data walker
  let (_, walker) ← enter asn1TagSequence data walker
  let (_, walker) ← enter asn1TagSequence data walker
  let (length, walker) ← enter asn1TagNumberObjectIdentifier data walker
  if length ≠ target.length then verifFail
  else if walker + length ≤ data.length then do
    let id ← slice data walker (walker + length)
    ret (objectIdentifiersAreSame id target)
  else ret false

def extensionHolds (target data : Bytes) (walker : Nat) : Walker Bool :=
  if data.length ≤ walker then verifFail
  else do
    let rest ← sliceFrom data walker
    -- the critical flag is optional: tag, length and value
    let critical ← attempt (checkTag asn1TagBoolean rest)
    if critical.isOk then
      if data.length ≤ walker + 3 then verifFail else valueHolds target data (walker + 3)
    else valueHolds target data walker

def searchExtensions (target data : Bytes) : Nat → Nat → Walker Bool
  | 0, _ => fail .endless
  | turns + 1, walker =>
    if walker < data.length then do
      let (extensionLength, start) ← enter asn1TagSequence data walker
      let (length, id) ← enter asn1TagNumberObjectIdentifier data start
      let isSpdm ← (if id + length < data.length then do
          let extnId ← slice data id (id + length)
          ret (objectIdentifiersAreSame extnId oidDmtfSpdmExtension)
        else ret false)
      let holds ← (if isSpdm then extensionHolds target data (id + length) else ret false)
      if holds then ret true
      else searchExtensions target data turns (start + extensionLength)
    else ret false

def findTargetObjectIdentifierInExtensions (data target : Bytes) : Walker Bool :=
  if data.length ≤ 0 then verifFail
  else do
    let rest ← sliceFrom data 0
    checkTag asn1TagSequence rest
    if data.length ≤ 1 then verifFail
    else do
      let rest ← sliceFrom data 1
      let (payload, consumed) ← checkLength rest
      let room ← minus data.length (1 + consumed)
      if room < payload then verifFail
      else do
        let inner ← slice data (1 + consumed) (1 + consumed + payload)
        searchExtensions target inner (payload + 1) 0

/-! ## §4. Certificates. -/

def skipToIssuer (data : Bytes) (oid : Option Bytes) : Walker (Nat × Nat × Nat) := do
  checkTag asn1TagSequence data
  let rest ← sliceFrom data 1
  let (tbsLength, consumed) ← checkLength rest
  let start := 1 + consumed
  if data.length < start + tbsLength then verifFail
  else do
    let rest ← sliceFrom data start
    let size ← checkVersion rest
    let walker := start + size
    let rest ← sliceFrom data walker
    let size ← checkAndSkipCommonTag rest
    let walker := walker + size
    let rest ← sliceFrom data walker
    checkTag asn1TagSequence rest
    let walker := walker + 1
    let rest ← sliceFrom data walker
    let (signatureIdLength, consumed) ← checkLength rest
    let walker := walker + consumed
    let rest ← sliceFrom data walker
    let _ ← checkObjectIdentifier rest oid
    ret (start, tbsLength, walker + signatureIdLength)

def skipToExtensions (data : Bytes) (walker : Nat) : Walker Nat := do
  let rest ← sliceFrom data walker
  let size ← checkAndSkipCommonSequence rest
  let walker := walker + size
  let rest ← sliceFrom data walker
  let size ← checkAndSkipCommonSequence rest
  let walker := walker + size
  let rest ← sliceFrom data walker
  let size ← checkAndSkipCommonSequence rest
  let walker := walker + size
  let rest ← sliceFrom data walker
  let size ← checkAndSkipCommonSequence rest
  ret (walker + size)

def checkTbsCertificate (data : Bytes) (baseAsymAlgo : Flags) (isLeafCert : Bool) :
    Walker Nat := do
  let (start, tbsLength, walker) ← skipToIssuer data (requiredOid baseAsymAlgo isLeafCert)
  let walker ← skipToExtensions data walker
  let rest ← sliceFrom data walker
  let (size, extensions) ← checkAndGetExtensions rest
  let (findKeyUsage, keyUsage) ← getKeyUsageValue extensions
  let keyUsageSuccess := !(isLeafCert && findKeyUsage &&
    keyUsageDigitalSignatureBit &&& keyUsage != keyUsageDigitalSignatureBit)
  let spdmSuccess ← checkExtensionsSpdmOid extensions isLeafCert
  if walker + size = start + tbsLength ∧ keyUsageSuccess ∧ spdmSuccess then ret (start + tbsLength)
  else verifFail

def checkSignatureAlgorithm (data : Bytes) (baseAsymAlgo : Flags) (isLeafCert : Bool) :
    Walker Nat := do
  let rest ← sliceFrom data 0
  checkTag asn1TagSequence rest
  let rest ← sliceFrom data 1
  let (length, consumed) ← checkLength rest
  let rest ← sliceFrom data (1 + consumed)
  let _ ← checkObjectIdentifier rest (requiredOid baseAsymAlgo isLeafCert)
  ret (1 + consumed + length)

def checkCertFormat (cert : Bytes) (baseAsymAlgo : Flags) : Walker Nat := do
  checkTag asn1TagSequence cert
  let rest ← sliceFrom cert 1
  let (bodySize, consumed) ← checkLength rest
  let start := 1 + consumed
  let isLeafCert := cert.length == start + bodySize
  let rest ← sliceFrom cert start
  let size ← checkTbsCertificate rest baseAsymAlgo isLeafCert
  let walker := start + size
  let rest ← sliceFrom cert walker
  let size ← checkSignatureAlgorithm rest baseAsymAlgo isLeafCert
  let walker := walker + size
  let rest ← sliceFrom cert walker
  let size ← checkAndSkipCommonTag rest
  if walker + size = start + bodySize then ret (walker + size) else verifFail

def walkChain (chain : Bytes) (baseAsymAlgo : Flags) : Nat → Nat → Nat → Walker Nat
  | 0, _, _ => fail .endless
  | turns + 1, walker, count =>
    if walker < chain.length then do
      let rest ← sliceFrom chain walker
      let size ← checkCertFormat rest baseAsymAlgo
      walkChain chain baseAsymAlgo turns (walker + size) (count + 1)
    else if walker = chain.length then ret count
    else verifFail

def checkCertChainFormat (chain : Bytes) (baseAsymAlgo : Flags) : Walker Nat :=
  walkChain chain baseAsymAlgo (chain.length + 1) 0 0

def isRootCertificate (cert : Bytes) : Walker Unit := do
  checkTag asn1TagSequence cert
  let rest ← sliceFrom cert 1
  let (_, consumed) ← checkLength rest
  let data ← sliceFrom cert (1 + consumed)
  let (_, _, walker) ← skipToIssuer data none
  let rest ← sliceFrom data walker
  let (size, issuer) ← checkAndGetCommonTag rest
  let walker := walker + size
  let rest ← sliceFrom data walker
  let size ← checkAndSkipCommonSequence rest
  let walker := walker + size
  let rest ← sliceFrom data walker
  let (_, subject) ← checkAndGetCommonTag rest
  if subject = issuer then ret () else verifFail

def checkLeafCertificate (cert : Bytes) (isAliasCertModel : Bool) : Walker Unit := do
  checkTag asn1TagSequence cert
  let rest ← sliceFrom cert 1
  let (_, consumed) ← checkLength rest
  let data ← sliceFrom cert (1 + consumed)
  let (_, _, walker) ← skipToIssuer data none
  let walker ← skipToExtensions data walker
  let rest ← sliceFrom data walker
  let (_, extensions) ← checkAndGetExtensions rest
  let find := findTargetObjectIdentifierInExtensions extensions oidDmtfSpdmHardwareIdentity
  if isAliasCertModel then do
    let hardware ← find
    if hardware then verifFail else ret ()
  else do
    -- a device certificate without it is only reported
    let _ ← find
    ret ()

end X509v3.Indexed

namespace SpdmRing.Indexed

def findCert (chain : Bytes) (index : Int) : Nat → Nat → Int → Walk SpdmStatus (Nat × Nat)
  | 0, _, _ => fail .endless
  | turns + 1, offset, thisIndex => do
    let rest ← sliceFrom chain offset
    if rest.length < 4 ∨ chain.length < offset then stop .invalidCert
    else do
      let tag ← indexAt chain offset
      let form ← indexAt chain (offset + 1)
      if tag ≠ 0x30 ∨ form ≠ 0x82 then stop .invalidCert
      else do
        let high ← indexAt chain (offset + 2)
        let low ← indexAt chain (offset + 3)
        let size := (high.toNat <<< 8) + low.toNat + 4
        let room ← minus chain.length offset
        if room < size then stop .invalidCert
        else if thisIndex = index then ret (offset, offset + size)
        else if offset + size = chain.length ∧ index = -1 then ret (offset, offset + size)
        else findCert chain index turns (offset + size) (thisIndex + 1)

def getCertFromCertChain (chain : Bytes) (index : Int) : Walk SpdmStatus (Nat × Nat) :=
  findCert chain index (chain.length + 1) 0 0

end SpdmRing.Indexed

end Spdm
