/-
  Spdm.Protocol.Device — the rest of the environment's code.
-/
import Spdm.Context.Def

namespace Spdm

/-- A measurement record: how many blocks, and their bytes. -/
structure SpdmMeasurementRecordStructure where
  numberOfBlocks : UInt8
  measurementRecord : Bytes
  deriving Repr, DecidableEq

inductive SpdmDer where
  | certChain (der : Bytes)
  | pubKeyRfc7250 (der : Bytes)
  deriving Repr, DecidableEq

abbrev HandlerResult := Except SpdmStatus Unit × Option Bytes

class Device where
  /-- `secret::asym_sign::sign` -/
  asymSign : SpdmContext → Flags → Flags → Bytes → Option Bytes
  /-- `secret::pqc_asym_sign::sign` -/
  pqcAsymSign : SpdmContext → Flags → Flags → Bytes → Option Bytes
  /-- `asym_verify::verify` (hash, algorithm, key, data, signature) -/
  asymVerify : Flags → Flags → SpdmDer → Bytes → Bytes → Except SpdmStatus Unit
  /-- `pqc_asym_verify::verify` -/
  pqcAsymVerify : Flags → Flags → Bytes → Bytes → Bytes → Except SpdmStatus Unit
  /-- `cert_operation::get_cert_from_cert_chain` (chain, index), giving begin and end -/
  getCertFromCertChain : Bytes → Int → Except SpdmStatus (Nat × Nat)
  /-- `cert_operation::verify_cert_chain` -/
  verifyCertChain : Bytes → Except SpdmStatus Unit
  /-- `is_root_certificate` -/
  isRootCertificate : Bytes → Bool
  /-- `check_leaf_certificate` (certificate, alias certificate) -/
  checkLeafCertificate : Bytes → Bool → Bool
  /-- `dhe::generate_key_pair` (algorithm, random bytes), giving public and private value -/
  dheKeyPair : Flags → Bytes → Option (Bytes × Bytes)
  /-- `compute_final_key` of a Diffie-Hellman private value -/
  dheFinalKey : Flags → Bytes → Bytes → Option Bytes
  /-- `kem_decap::generate_key_pair` (algorithm, random bytes), giving both keys -/
  kemKeyPair : Flags → Bytes → Option (Bytes × Bytes)
  /-- `compute_final_key` of a decapsulation key -/
  kemDecap : Flags → Bytes → Bytes → Option Bytes
  /-- `kem_encap::new_key` and its final key (algorithm, random bytes, encapsulation key) -/
  kemEncap : Flags → Bytes → Bytes → Option (Bytes × Bytes)
  /-- `secret::measurement::measurement_collection` -/
  measurementCollection : SpdmVersion → Flags → Flags → Nat →
    Option SpdmMeasurementRecordStructure
  /-- `secret::measurement::generate_measurement_summary_hash` -/
  generateMeasurementSummaryHash : SpdmVersion → Flags → Flags → Flags → UInt8 → Option Bytes
  /-- the registered application handler (session id, message) -/
  dispatchSecuredAppMessage : Nat → Bytes → HandlerResult
  /-- the extended vendor handler (session id, request), when one is registered -/
  vendorDefinedRequestHandlerEx : Option (Option Nat → Bytes → HandlerResult)
  /-- the vendor handler (vendor id, payload) -/
  vendorDefinedRequestHandler : Bytes → Bytes → Except SpdmStatus Bytes

export Device (asymSign pqcAsymSign asymVerify pqcAsymVerify getCertFromCertChain verifyCertChain
  isRootCertificate checkLeafCertificate dheKeyPair dheFinalKey kemKeyPair kemDecap kemEncap
    measurementCollection
  generateMeasurementSummaryHash dispatchSecuredAppMessage vendorDefinedRequestHandlerEx
  vendorDefinedRequestHandler)

section
variable [Device]

def spdmAsymSign (c : SpdmContext) (hashAlgo asymAlgo pqcAlgo : Flags) (data : Bytes) :
    Option Bytes :=
  if pqcAlgo ≠ 0 then pqcAsymSign c hashAlgo pqcAlgo data else asymSign c hashAlgo asymAlgo data

def spdmAsymVerify (hashAlgo asymAlgo pqcAlgo : Flags) (der : SpdmDer) (data signature : Bytes) :
    Except SpdmStatus Unit :=
  if pqcAlgo ≠ 0 then
    match der with
    | .certChain d => pqcAsymVerify hashAlgo pqcAlgo d data signature
    | .pubKeyRfc7250 d => pqcAsymVerify hashAlgo pqcAlgo d data signature
  else asymVerify hashAlgo asymAlgo der data signature

end

end Spdm
