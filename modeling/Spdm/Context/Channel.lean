/-
  Spdm.Context.Channel — the device, the transport binding and the secured channel, as the
  context uses them (`common/mod.rs`).
-/
import Spdm.Context.Transcript

namespace Spdm

open Effect Codec

variable {σ ε α : Type} {bs rest : Bytes}

/-! ## §1. Message headers. -/

structure SpdmMessageHeader where
  version : SpdmVersion
  requestResponseCode : UInt8
  deriving Repr, DecidableEq

def parseHeader : Parser SpdmMessageHeader := do
  let b ← u8
  match SpdmVersion.ofByte? b with
  | none => reject
  | some v => do
    let code ← u8
    ret ⟨v, code⟩

def encodeHeader (v : SpdmVersion) (code : UInt8) : Bytes := [v.toByte, code]

def parseGeneralPayload : Parser (UInt8 × UInt8) := do
  let param1 ← u8
  let param2 ← u8
  ret (param1, param2)

def parse {σ ε α : Type} (p : Parser α) (bs : Bytes) : Prog σ ε (Option α) :=
  match p bs with
  | .ok a _ => ret (some a)
  | .err _ _ => ret none
  | .panic => abort

def parseRest {σ ε α : Type} (p : Parser α) (bs : Bytes) : Prog σ ε (Option (α × Bytes)) :=
  match p bs with
  | .ok a rest => ret (some (a, rest))
  | .err _ _ => ret none
  | .panic => abort

def writeInto {σ : Type} (room : Nat) (message : Bytes) : Prog σ SpdmStatus Bytes := do
  guardElse (decide (message.length ≤ room)) .bufferFull
  ret message

theorem parseHeader_encodeHeader (v : SpdmVersion) (code : UInt8) (rest : Bytes) :
    parseHeader (encodeHeader v code ++ rest) = .ok ⟨v, code⟩ rest := by
  have hu8 : u8 (v.toByte :: code :: rest) = .ok v.toByte (code :: rest) := rfl
  show parseHeader (v.toByte :: code :: rest) = _
  unfold parseHeader
  rw [bind_of_ok hu8, SpdmVersion.ofByte?_toByte]
  rfl

theorem parseHeader_eq_ok {h : SpdmMessageHeader}
    (hp : parseHeader bs = .ok h rest) :
    bs = encodeHeader h.version h.requestResponseCode ++ rest := by
  obtain ⟨b, bs₁, hb, hp⟩ := bind_eq_ok.1 hp
  cases bs with
  | nil => cases hb
  | cons b' bs =>
    obtain ⟨rfl, rfl⟩ : b' = b ∧ bs = bs₁ := by simpa using hb
    cases hv : SpdmVersion.ofByte? b' with
    | none => rw [hv] at hp; cases hp
    | some v =>
      rw [hv] at hp
      obtain ⟨code, bs₂, hcode, hret⟩ := bind_eq_ok.1 hp
      obtain ⟨rfl, rfl⟩ := ret_eq_ok.1 hret
      cases bs with
      | nil => cases hcode
      | cons code' bs =>
        obtain ⟨rfl, rfl⟩ : code' = code ∧ bs = bs₂ := by simpa using hcode
        show b' :: code' :: bs = v.toByte :: code' :: bs
        rw [SpdmVersion.toByte_of_ofByte? hv]

theorem parseRest_eq_ok {p : Parser α} {r : Option (α × Bytes)}
    {s t : σ} (h : (parseRest p bs : Prog σ ε _) s = .ok r t) :
    s = t ∧ ∀ a rest, r = some (a, rest) → p bs = .ok a rest := by
  unfold parseRest at h
  cases hp : p bs with
  | ok a rest =>
    rw [hp] at h
    obtain ⟨rfl, rfl⟩ := ret_eq_ok.1 h
    refine ⟨rfl, fun a' rest' hr => ?_⟩
    obtain ⟨rfl, rfl⟩ : a = a' ∧ rest = rest' := by simpa using hr
    rfl
  | err e rest =>
    rw [hp] at h
    obtain ⟨rfl, rfl⟩ := ret_eq_ok.1 h
    exact ⟨rfl, fun _ _ hr => by cases hr⟩
  | panic => rw [hp] at h; cases h

theorem parseRest_of_ok {p : Parser α} {a : α} {s : σ}
    (h : p bs = .ok a rest) : (parseRest p bs : Prog σ ε _) s = .ok (some (a, rest)) s := by
  rw [parseRest, h]
  rfl

theorem parse_of_ok {p : Parser α} {a : α} {s : σ}
    (h : p bs = .ok a rest) : (parse p bs : Prog σ ε _) s = .ok (some a) s := by
  rw [parse, h]
  rfl

theorem parse_of_err {p : Parser α} {e : Unit} {s : σ}
    (h : p bs = .err e rest) : (parse p bs : Prog σ ε _) s = .ok none s := by
  rw [parse, h]
  rfl

@[simp] theorem wp_parse {Q : Option α → σ → Prop} {E : ε → σ → Prop} {s : σ}
    {p : Parser α} :
    wp (parse p bs) Q E s ↔
      (∀ a rest, p bs = .ok a rest → Q (some a) s) ∧
        (∀ e rest, p bs = .err e rest → Q none s) := by
  unfold parse
  cases p bs <;> simp

@[simp] theorem wp_parseRest {Q : Option (α × Bytes) → σ → Prop}
    {E : ε → σ → Prop} {s : σ} {p : Parser α} :
    wp (parseRest p bs) Q E s ↔
      (∀ a rest, p bs = .ok a rest → Q (some (a, rest)) s) ∧
        (∀ e rest, p bs = .err e rest → Q none s) := by
  unfold parseRest
  cases p bs <;> simp

namespace SpdmContext

/-! ## §2. The device. -/

def spdmDataTransferSize (config : Config) : Nat := config.receiverBufferSize - transportOverhead
def spdmSenderDataTransferSize (config : Config) : Nat :=
  config.senderBufferSize - transportOverhead

def deviceSend (packet : Bytes) : SpdmResult Unit := do
  let c ← read
  update fun c => { c with world := { c.world with
    outbox := c.world.outbox ++ [packet], sendResults := c.world.sendResults.tail } }
  guardElse (c.world.sendResults.headD true) .sendFail

def sizeShl {ε : Type} (a n : Nat) : Prog SpdmContext ε Nat := do
  let c ← read
  assert (!c.build.overflowChecks || decide (n < 64))
  ret ((a <<< (n % 64)) % 2 ^ 64)

def st1 : Nat := 1000000

def timeoutFor {ε : Type} (exponent : SpdmContext → Nat) (cryptoRequest : Bool) :
    Prog SpdmContext ε Nat := do
  let c ← read
  if cryptoRequest then sizeShl 2 (exponent c) else ret st1

def deviceReceive : SpdmResult Bytes := do
  let c ← read
  update fun c => { c with world := { c.world with inbox := c.world.inbox.tail } }
  let packet ← orFail .receiveFail (c.world.inbox.headD none)
  ret (packet.take c.build.config.receiverBufferSize)

def getRandom (n : Nat) : SpdmResult Bytes := do
  let c ← read
  update fun c => { c with world := { c.world with random := c.world.random.tail } }
  match c.world.random.head? with
  | some bytes => ret ((bytes ++ List.replicate n 0).take n)
  | none => fail .lowEntropy

def drawEntropy {ε : Type} : Prog SpdmContext ε Bytes := do
  let c ← read
  update fun c => { c with world := { c.world with random := c.world.random.tail } }
  ret (c.world.random.headD [])

/-! ## §3. Plain and secured packets. -/

variable [Crypto]

def encap (message : Bytes) (room : Nat) : SpdmResult Bytes := do
  let c ← read
  liftResult (c.transportEncap.encap message room false)

def encodeSecuredMessage (sessionId : Nat) (message : Bytes) (room : Nat)
    (isRequester isAppMessage : Bool) : SpdmResult Bytes := do
  let c ← read
  let config := c.build.config
  let app ← liftCall (c.transportEncap.encapApp message config.senderBufferSize isAppMessage)
  let encoded ← withSession sessionId .invalidParameter
    (SpdmSession.encodeSpdmSecuredMessage config app config.senderBufferSize isRequester)
  liftResult (c.transportEncap.encap encoded room true)

def decap (packet : Bytes) (room : Nat) : Prog SpdmContext (SpdmStatus × Bytes) Bytes := do
  let c ← read
  match c.transportEncap.decap packet room with
  | .error e => fail (e, [])
  | .ok (message, secured) =>
    if secured then fail (.decapFail, message) else ret message

def decodeSecuredMessage (sessionId : Nat) (packet : Bytes) (room : Nat) :
    SpdmResult Bytes := do
  let c ← read
  let config := c.build.config
  let (encoded, secured) ← liftResult (c.transportEncap.decap packet config.receiverBufferSize)
  guardElse secured .decapFail
  let app ← withSession sessionId .invalidParameter
    (SpdmSession.decodeSpdmSecuredMessage config encoded config.receiverBufferSize false)
  let (message, _) ← liftCall (c.transportEncap.decapApp app room)
  ret message

end SpdmContext

end Spdm
