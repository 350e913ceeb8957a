/-
  Spdm.Protocol.Crypto — the cryptographic backend and the key schedule.
-/
import Spdm.Lib.Codec
import Spdm.Protocol.Types

namespace Spdm

open Effect Codec

/-! ## §1. The backend. -/

class Crypto where
  /-- `hash::hash_all` -/
  hashAll : Flags → Bytes → Option Bytes
  /-- whether `hash::hash_ctx_init` gives a context for the algorithm -/
  hashCtxSupported : Flags → Bool
  /-- `hmac::hmac` -/
  hmac : Flags → Bytes → Bytes → Option Bytes
  /-- `hmac::hmac_verify` (algorithm, key, data, hmac) -/
  hmacVerify : Flags → Bytes → Bytes → Bytes → Except SpdmStatus Unit
  /-- `hkdf::hkdf_extract` (algorithm, salt, input keying material) -/
  hkdfExtract : Flags → Bytes → Bytes → Option Bytes
  /-- `hkdf::hkdf_expand` (algorithm, pseudo-random key, info, size) -/
  hkdfExpand : Flags → Bytes → Bytes → Nat → Option Bytes
  /-- `secret::psk::handshake_secret_hkdf_expand` -/
  pskHandshakeSecretHkdfExpand : SpdmVersion → Flags → Bytes → Bytes → Option Bytes
  /-- `secret::psk::master_secret_hkdf_expand` -/
  pskMasterSecretHkdfExpand : SpdmVersion → Flags → Bytes → Bytes → Option Bytes
  /-- `aead::encrypt` (algorithm, key, iv, aad, plain text), giving cipher text and tag -/
  aeadEncrypt : Flags → Bytes → Bytes → Bytes → Bytes → Except SpdmStatus (Bytes × Bytes)
  /-- `aead::decrypt` (algorithm, key, iv, aad, cipher text, tag) -/
  aeadDecrypt : Flags → Bytes → Bytes → Bytes → Bytes → Bytes → Except SpdmStatus Bytes

export Crypto (hashAll hashCtxSupported hmac hmacVerify hkdfExtract hkdfExpand
  pskHandshakeSecretHkdfExpand
  pskMasterSecretHkdfExpand aeadEncrypt aeadDecrypt)

structure HashCtx where
  algo : Flags
  fed : Bytes
  deriving Repr, DecidableEq

section
variable [Crypto]

def hashCtxInit (algo : Flags) : Option HashCtx :=
  if hashCtxSupported algo then some ⟨algo, []⟩ else none

def HashCtx.feed (ctx : HashCtx) (data : Bytes) : HashCtx := { ctx with fed := ctx.fed ++ data }

def hashCtxFinalize (ctx : HashCtx) : Option Bytes := hashAll ctx.algo ctx.fed

end

def liftResult {σ ε α : Type} : Except ε α → Prog σ ε α
  | .ok a => ret a
  | .error e => fail e

theorem liftResult_eq_ok {σ ε α : Type} {r : Except ε α} {a : α} {s t : σ} :
    (liftResult r : Prog σ ε α) s = .ok a t ↔ r = .ok a ∧ s = t := by
  cases r <;> simp [liftResult]

@[simp] theorem wp_liftResult {σ ε α : Type} {Q : α → σ → Prop} {E : ε → σ → Prop} {s : σ}
    {r : Except ε α} :
    wp (liftResult r) Q E s ↔ (∀ a, r = .ok a → Q a s) ∧ (∀ e, r = .error e → E e s) := by
  cases r <;> simp [liftResult]

def liftCall {σ ε α : Type} : Option (Except ε α) → Prog σ ε α
  | some r => liftResult r
  | none => abort

theorem liftCall_eq_ok {σ ε α : Type} {r : Option (Except ε α)} {a : α} {s t : σ} :
    (liftCall r : Prog σ ε α) s = .ok a t ↔ r = some (.ok a) ∧ s = t := by
  cases r <;> simp [liftCall, liftResult_eq_ok]

theorem paired_liftResult {σ ε α : Type} {P : σ → σ → Prop} {r : Except ε α} :
    Paired P (· = ·) (liftResult r : Prog σ ε α) (liftResult r) := by
  cases r with
  | ok a => exact .ret rfl
  | error e => exact .fail e

/-! ## §2. Labels. -/

inductive KeyLabel where
  | derived
  | reqHsData
  | rspHsData
  | reqAppData
  | rspAppData
  | key
  | iv
  | finished
  | expMaster
  | trafficUpd
  deriving Repr, DecidableEq

namespace KeyLabel

def bytes : KeyLabel → Bytes
  -- "derived"
  | derived => [0x64, 0x65, 0x72, 0x69, 0x76, 0x65, 0x64]
  -- "req hs data"
  | reqHsData => [0x72, 0x65, 0x71, 0x20, 0x68, 0x73, 0x20, 0x64, 0x61, 0x74, 0x61]
  -- "rsp hs data"
  | rspHsData => [0x72, 0x73, 0x70, 0x20, 0x68, 0x73, 0x20, 0x64, 0x61, 0x74, 0x61]
  -- "req app data"
  | reqAppData => [0x72, 0x65, 0x71, 0x20, 0x61, 0x70, 0x70, 0x20, 0x64, 0x61, 0x74, 0x61]
  -- "rsp app data"
  | rspAppData => [0x72, 0x73, 0x70, 0x20, 0x61, 0x70, 0x70, 0x20, 0x64, 0x61, 0x74, 0x61]
  -- "key"
  | key => [0x6B, 0x65, 0x79]
  -- "iv"
  | iv => [0x69, 0x76]
  -- "finished"
  | finished => [0x66, 0x69, 0x6E, 0x69, 0x73, 0x68, 0x65, 0x64]
  -- "exp master"
  | expMaster => [0x65, 0x78, 0x70, 0x20, 0x6D, 0x61, 0x73, 0x74, 0x65, 0x72]
  -- "traffic upd"
  | trafficUpd => [0x74, 0x72, 0x61, 0x66, 0x66, 0x69, 0x63, 0x20, 0x75, 0x70, 0x64]

end KeyLabel

def maxBinConcatBufSize : Nat := 2 + 8 + 12 + spdmMaxHashSize

def versionString (v : SpdmVersion) : Bytes :=
  [0x73, 0x70, 0x64, 0x6D, (v.toByte >>> 4) + 0x30, 0x2E, (v.toByte &&& 0x0F) + 0x30, 0x20]

def binconcat (length : Nat) (v : SpdmVersion) (label : KeyLabel) (context : Option Bytes) :
    Option Bytes :=
  if maxBinConcatBufSize - 10 < label.bytes.length + (context.getD []).length then none
  else some (leBytes 2 length ++ versionString v ++ label.bytes ++ context.getD [])

def sized (max : Nat) (b : Bytes) : Option Bytes :=
  if b.length = 0 ∨ max < b.length then none else some b

theorem sized_eq_some {max : Nat} {b c : Bytes} :
    sized max b = some c ↔ c = b ∧ 0 < b.length ∧ b.length ≤ max := by
  unfold sized
  split_ifs with h
  · simp only [false_iff]
    omega
  · simp only [Option.some.injEq]
    exact ⟨fun hb => ⟨hb.symm, by omega, by omega⟩, fun hb => hb.1.symm⟩

/-! ## §3. The key schedule. -/

section KeySchedule
variable [Crypto] {σ ε : Type}

def expandSecret (hashAlgo : Flags) (secret : Bytes) (info : Option Bytes) (size : Nat) :
    Option Bytes := do
  let prk ← sized spdmMaxHashSize secret
  hkdfExpand hashAlgo prk (← info) size

def deriveHandshakeSecret (hashAlgo : Flags) (sharedSecret : Bytes) : Prog σ ε (Option Bytes) := do
  let size ← SpdmBaseHashAlgo.getSize hashAlgo
  ret ((hkdfExtract hashAlgo (List.replicate size 0) sharedSecret).bind (sized spdmMaxHashSize))

def deriveMasterSecret (v : SpdmVersion) (hashAlgo : Flags) (handshakeSecret : Bytes) :
    Prog σ ε (Option Bytes) := do
  let size ← SpdmBaseHashAlgo.getSize hashAlgo
  ret do
    let salt1 ← expandSecret hashAlgo handshakeSecret (binconcat size v .derived none) size
    let prk ← hkdfExtract hashAlgo salt1 (List.replicate size 0)
    sized spdmMaxHashSize prk

def deriveDirectionSecret (pskExpand : SpdmVersion → Flags → Bytes → Bytes → Option Bytes)
    (label : KeyLabel) (usePsk : Bool) (v : SpdmVersion) (hashAlgo : Flags) (key : Option Bytes)
    (pskHint : Option Bytes) (th : Option Bytes) : Prog σ ε (Option Bytes) := do
  let size ← SpdmBaseHashAlgo.getSize hashAlgo
  ret do
    let info ← binconcat size v label th
    let okm ← if usePsk then pskExpand v hashAlgo (pskHint.getD []) info
      else expandSecret hashAlgo (← key) (some info) size
    sized spdmMaxHashSize okm

def deriveRequestHandshakeSecret (usePsk : Bool) (v : SpdmVersion) (hashAlgo : Flags)
    (key pskHint : Option Bytes) (th1 : Bytes) : Prog σ ε (Option Bytes) :=
  deriveDirectionSecret pskHandshakeSecretHkdfExpand .reqHsData usePsk v hashAlgo key pskHint
    (some th1)

def deriveResponseHandshakeSecret (usePsk : Bool) (v : SpdmVersion) (hashAlgo : Flags)
    (key pskHint : Option Bytes) (th1 : Bytes) : Prog σ ε (Option Bytes) :=
  deriveDirectionSecret pskHandshakeSecretHkdfExpand .rspHsData usePsk v hashAlgo key pskHint
    (some th1)

def deriveRequestDataSecret (usePsk : Bool) (v : SpdmVersion) (hashAlgo : Flags)
    (key pskHint : Option Bytes) (th2 : Bytes) : Prog σ ε (Option Bytes) :=
  deriveDirectionSecret pskMasterSecretHkdfExpand .reqAppData usePsk v hashAlgo key pskHint
    (some th2)

def deriveResponseDataSecret (usePsk : Bool) (v : SpdmVersion) (hashAlgo : Flags)
    (key pskHint : Option Bytes) (th2 : Bytes) : Prog σ ε (Option Bytes) :=
  deriveDirectionSecret pskMasterSecretHkdfExpand .rspAppData usePsk v hashAlgo key pskHint
    (some th2)

def deriveExportMasterSecret (usePsk : Bool) (v : SpdmVersion) (hashAlgo : Flags)
    (key pskHint : Option Bytes) : Prog σ ε (Option Bytes) :=
  deriveDirectionSecret pskMasterSecretHkdfExpand .expMaster usePsk v hashAlgo key pskHint none

def deriveFinishedKey (v : SpdmVersion) (hashAlgo : Flags) (key : Bytes) :
    Prog σ ε (Option Bytes) := do
  let size ← SpdmBaseHashAlgo.getSize hashAlgo
  ret ((expandSecret hashAlgo key (binconcat size v .finished none) size).bind
    (sized spdmMaxHashSize))

def aeadKeyIv (v : SpdmVersion) (hashAlgo : Flags) (keySize ivSize : Nat) (secret : Bytes) :
    Option (Bytes × Bytes) := do
  let keyOkm ← expandSecret hashAlgo secret (binconcat keySize v .key none) spdmMaxAeadKeySize
  let key ← sized spdmMaxAeadKeySize keyOkm
  let ivOkm ← expandSecret hashAlgo secret (binconcat ivSize v .iv none) spdmMaxAeadIvSize
  let iv ← sized spdmMaxAeadIvSize ivOkm
  pure (key, iv)

def deriveAeadKeyIv (v : SpdmVersion) (hashAlgo aeadAlgo : Flags) (secret : Bytes) :
    Prog σ ε (Option (Bytes × Bytes)) := do
  let keySize ← orAbort (SpdmAeadAlgo.keySize? aeadAlgo)
  let ivSize ← orAbort (SpdmAeadAlgo.ivSize? aeadAlgo)
  ret (aeadKeyIv v hashAlgo keySize ivSize secret)

def updateSecret (v : SpdmVersion) (hashAlgo : Flags) (size : Nat) (secret : Bytes) :
    Option Bytes :=
  (expandSecret hashAlgo secret (binconcat size v .trafficUpd none) size).bind
    (sized spdmMaxHashSize)

def deriveUpdateSecret (v : SpdmVersion) (hashAlgo : Flags) (secret : Bytes) :
    Prog σ ε (Option Bytes) := do
  let size ← SpdmBaseHashAlgo.getSize hashAlgo
  ret (updateSecret v hashAlgo size secret)

end KeySchedule

end Spdm
