/-
  Spdm.Message.Chunk — CHUNK_SEND, CHUNK_SEND_ACK, CHUNK_GET and CHUNK_RESPONSE
  (`message/chunk_send.rs`, `message/chunk_get.rs`).
-/
import Spdm.Context.Channel

namespace Spdm

open Effect Codec

def offsetOfResponseInChunkSendAck12 : Nat := 6
def offsetOfResponseInChunkSendAck14 : Nat := 8
def offsetOfSpdmChunkInFirstChunkSend : Nat := 16
def offsetOfSpdmChunkInChunkSend : Nat := 12
def offsetOfSpdmChunkInFirstChunkResponse : Nat := 16
def offsetOfSpdmChunkInChunkResponse : Nat := 12

def lastChunk : Flags := 0x1

def earlyErrorDetected : Flags := 0x1

/-! ## §1. The chunk buffer. -/

def bufTake (n : Nat) (buf : Bytes) : Bytes := (buf ++ List.replicate n 0).take n

def bufWrite (off : Nat) (data buf : Bytes) : Bytes :=
  bufTake off buf ++ data ++ buf.drop (off + data.length)

@[simp] theorem bufTake_length {n : Nat} {buf : Bytes} : (bufTake n buf).length = n := by
  simp [bufTake]

theorem bufTake_bufWrite (off : Nat) (data buf : Bytes) :
    bufTake (off + data.length) (bufWrite off data buf) = bufTake off buf ++ data := by
  have hlen : off + data.length ≤ (bufWrite off data buf).length := by simp [bufWrite]
  rw [bufTake, List.take_append_of_le_length hlen, bufWrite,
    List.take_append_of_le_length (by simp)]
  exact List.take_of_length_le (by simp)

theorem bufTake_of_le {n : Nat} {buf : Bytes} (h : n ≤ buf.length) :
    bufTake n buf = buf.take n := by
  simp [bufTake, List.take_append_of_le_length h]

theorem bufTake_of_length {n : Nat} {buf : Bytes} (h : buf.length = n) : bufTake n buf = buf := by
  rw [bufTake_of_le h.ge, List.take_of_length_le h.le]

def idleChunk : SpdmChunkContext := {}

def wordSub (a b : Nat) : Nat := (a % 2 ^ 64 + 2 ^ 64 - b % 2 ^ 64) % 2 ^ 64

namespace SpdmContext

def sizeSub {ε : Type} (a b : Nat) : Prog SpdmContext ε Nat := do
  let c ← read
  assert (!c.build.overflowChecks || decide (b ≤ a))
  ret (wordSub a b)

def largeChunk (c : SpdmContext) : Bool := c.negotiateInfo.spdmVersionSel.atLeast .spdmVersion14

def setChunk (chunk : SpdmChunkContext) (c : SpdmContext) : SpdmContext :=
  { c with chunkContext := chunk }

/-! ## §2. CHUNK_SEND and CHUNK_RESPONSE. -/

end SpdmContext

structure ChunkPayload where
  attributes : Flags
  handle : Nat
  chunkSeqNum : Nat
  chunkSize : Nat
  largeMessageSize : Option Nat
  deriving Repr, DecidableEq

def parseChunkHead (large : Bool) : Parser (Flags × Nat × Nat × Nat) := do
  let attributes ← u8
  let handle ← u8
  let chunkSeqNum ← (if large then uintLe 4 else do
    let n ← uintLe 2
    let _ ← uintLe 2
    ret n)
  let chunkSize ← uintLe 4
  ret (attributes.toNat &&& lastChunk, handle.toNat, chunkSeqNum, chunkSize)

def parseChunkResponse (large : Bool) : Parser (ChunkPayload × Bytes) := do
  let (attributes, handle, chunkSeqNum, chunkSize) ← parseChunkHead large
  let largeMessageSize ← (if chunkSeqNum = 0 then do
      let n ← uintLe 4
      ret (some n)
    else ret none)
  let data ← takeBytes chunkSize
  ret ({ attributes, handle, chunkSeqNum, chunkSize, largeMessageSize }, data)

def optionalUintLe (n : Nat) : Parser (Option Nat) := fun bs =>
  match uintLe n bs with
  | .ok v rest => .ok (some v) rest
  | .err _ _ => .ok none bs
  | .panic => .panic

def encodeChunkHead (large : Bool) (p : ChunkPayload) : Bytes :=
  [UInt8.ofNat p.attributes, UInt8.ofNat p.handle] ++
    (if large then leBytes 4 p.chunkSeqNum else leBytes 2 p.chunkSeqNum ++ leBytes 2 0) ++
    leBytes 4 p.chunkSize ++ (p.largeMessageSize.map (leBytes 4)).getD []

namespace SpdmContext

def storeChunk (data : Bytes) (c : SpdmContext) : SpdmContext :=
  { c with chunkContext := { c.chunkContext with
    chunkMessageData := bufWrite c.chunkContext.transferredSize data c.chunkContext.chunkMessageData
    transferredSize := c.chunkContext.transferredSize + data.length } }

def loadChunk {ε : Type} (chunkSize : Nat) : Prog SpdmContext ε Bytes := do
  let c ← read
  let off := c.chunkContext.transferredSize
  assert (decide (off + chunkSize ≤ c.build.config.maxSpdmMsgSize))
  update fun c => { c with chunkContext := { c.chunkContext with transferredSize := off +
    chunkSize } }
  ret ((bufTake (off + chunkSize) c.chunkContext.chunkMessageData).drop off)

def encodeChunk (code : UInt8) (p : ChunkPayload) (room : Nat) :
    SpdmResult Bytes := do
  let c ← read
  let head ← writeInto room
    (encodeHeader c.negotiateInfo.spdmVersionSel code ++ encodeChunkHead c.largeChunk p)
  let data ← loadChunk p.chunkSize
  assert (decide (head.length + data.length ≤ room))
  ret (head ++ data)

def readChunkResponse (bs : Bytes) : SpdmResult (Option ChunkPayload) := do
  let c ← read
  let r ← parseRest (parseChunkResponse c.largeChunk) bs
  match r with
  | none => ret none
  | some ((p, data), _) =>
    let total := p.chunkSize + c.chunkContext.transferredSize
    if c.build.config.maxSpdmMsgSize < total ||
        (p.chunkSeqNum != 0 && c.chunkContext.chunkMessageSize < total) then ret none
    else do
      update (storeChunk data)
      ret (some p)

def readChunkSend (bs : Bytes) : SpdmResult (Option ChunkPayload) := do
  let c ← read
  let r ← parseRest (do
    let (attributes, handle, chunkSeqNum, chunkSize) ← parseChunkHead c.largeChunk
    let largeMessageSize ← (if chunkSeqNum = 0 then optionalUintLe 4 else ret none)
    ret ({ attributes, handle, chunkSeqNum, chunkSize, largeMessageSize } : ChunkPayload)) bs
  match r with
  | none => ret none
  | some (p, rest) =>
    let chunk := c.chunkContext
    if p.chunkSeqNum = 0 then
      if chunk.chunkStatus = .idle ∧ p.chunkSize ≤ c.build.config.maxSpdmMsgSize then do
        update fun c => { c with chunkContext := { c.chunkContext with transferredSize := 0 } }
        storeSent p rest
      else ret none
    else do
      let missing ← sizeSub chunk.chunkMessageSize chunk.transferredSize
      if missing < p.chunkSize then ret none else storeSent p rest
where
  storeSent (p : ChunkPayload) (rest : Bytes) :
      SpdmResult (Option ChunkPayload) := do
    let c ← read
    if rest.length < p.chunkSize then ret none
    else do
      assert (decide (c.chunkContext.transferredSize + p.chunkSize ≤ c.build.config.maxSpdmMsgSize))
      update (storeChunk (rest.take p.chunkSize))
      ret (some p)

/-! ## §3. CHUNK_SEND_ACK and CHUNK_GET. -/

end SpdmContext

structure ChunkSendAckPayload where
  chunkReceiverAttributes : Flags
  handle : Nat
  chunkSeqNum : Nat
  responseToLargeRequestSize : Nat
  deriving Repr, DecidableEq

structure ChunkGetPayload where
  handle : Nat
  chunkSeqNum : Nat
  deriving Repr, DecidableEq

def encodeChunkSeqNum (large : Bool) (n : Nat) : Bytes := if large then leBytes 4 n else leBytes 2 n

def parseChunkSeqNum (large : Bool) : Parser Nat := if large then uintLe 4 else uintLe 2

def encodeChunkGet (v : SpdmVersion) (large : Bool) (p : ChunkGetPayload) : Bytes :=
  encodeHeader v SpdmRequestResponseCode.spdmRequestChunkGet ++ [0, UInt8.ofNat p.handle] ++
    encodeChunkSeqNum large p.chunkSeqNum

def parseChunkGet (large : Bool) : Parser ChunkGetPayload := do
  let _ ← u8
  let handle ← u8
  let chunkSeqNum ← parseChunkSeqNum large
  ret ⟨handle.toNat, chunkSeqNum⟩

def parseAckHead (large : Bool) : Parser (Flags × Nat × Nat) := do
  let attributes ← u8
  let handle ← u8
  let chunkSeqNum ← parseChunkSeqNum large
  ret (attributes.toNat &&& earlyErrorDetected, handle.toNat, chunkSeqNum)

namespace SpdmContext

def encodeChunkSendAck (p : ChunkSendAckPayload) (room : Nat) :
    SpdmResult Bytes := do
  let c ← read
  let head ← writeInto room
    (encodeHeader c.negotiateInfo.spdmVersionSel SpdmRequestResponseCode.spdmResponseChunkSendAck ++
      [UInt8.ofNat p.chunkReceiverAttributes, UInt8.ofNat p.handle] ++
      encodeChunkSeqNum c.largeChunk p.chunkSeqNum)
  assert (decide (p.responseToLargeRequestSize ≤ c.build.config.maxSpdmMsgSize))
  assert (decide (head.length + p.responseToLargeRequestSize ≤ room))
  ret (head ++ bufTake p.responseToLargeRequestSize c.chunkContext.chunkMessageData)

def readChunkSendAck (bs : Bytes) : SpdmResult (Option ChunkSendAckPayload) := do
  let c ← read
  let r ← parseRest (parseAckHead c.largeChunk) bs
  match r with
  | none => ret none
  | some ((attributes, handle, chunkSeqNum), rest) =>
    if c.chunkContext.chunkMessageSize ≤ c.chunkContext.transferredSize ||
        contains attributes earlyErrorDetected then
      if 0 < rest.length ∧ rest.length ≤ c.build.config.maxSpdmMsgSize then do
        update fun c => { c with chunkContext := { c.chunkContext with
          chunkMessageSize := rest.length
          chunkMessageData := bufWrite 0 rest c.chunkContext.chunkMessageData
          transferredSize := rest.length } }
        ret (some ⟨attributes, handle, chunkSeqNum, rest.length⟩)
      else ret none
    else ret (some ⟨attributes, handle, chunkSeqNum, 0⟩)

end SpdmContext

end Spdm
