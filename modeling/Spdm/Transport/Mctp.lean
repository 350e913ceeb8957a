/-
  Spdm.Transport.Mctp — the MCTP binding (`mctp_transport/src/header.rs`).
-/
import Spdm.Lib.Buffer
import Spdm.Message.Total

namespace Spdm

open Effect Codec

variable {status : SpdmStatus}

namespace Mctp

inductive MctpMessageType where
  | mctpControl
  | pldm
  | ncsi
  | ethernet
  | nvme
  | spdm
  | securedMctp
  | vendorDefinedPci
  | vendorDefinedIana
  | unknown (code : UInt8)
  deriving Repr, DecidableEq

namespace MctpMessageType

def getU8 : MctpMessageType → UInt8
  | mctpControl => 0x00
  | pldm => 0x01
  | ncsi => 0x02
  | ethernet => 0x03
  | nvme => 0x04
  | spdm => 0x05
  | securedMctp => 0x06
  | vendorDefinedPci => 0x7E
  | vendorDefinedIana => 0x7F
  | unknown code => code

def ofU8 (code : UInt8) : MctpMessageType :=
  if code = 0x00 then mctpControl
  else if code = 0x01 then pldm
  else if code = 0x02 then ncsi
  else if code = 0x03 then ethernet
  else if code = 0x04 then nvme
  else if code = 0x05 then spdm
  else if code = 0x06 then securedMctp
  else if code = 0x7E then vendorDefinedPci
  else if code = 0x7F then vendorDefinedIana
  else unknown code

end MctpMessageType

def readHeader : Parser MctpMessageType := do
  let code ← u8
  ret (.ofU8 code)

def frame (type : MctpMessageType) (status : SpdmStatus) (payload : Bytes) :
    Prog Bytes SpdmStatus Nat := do
  let headerSize ← mapErr (fun _ => status) (put 0 [type.getU8])
  let buffer ← read
  guardElse (decide (headerSize + payload.length ≤ buffer.length)) status
  update (overwrite headerSize payload)
  ret (headerSize + payload.length)

def unframe (flag : MctpMessageType → Option Bool) (status : SpdmStatus) (framed : Bytes) :
    Prog Bytes SpdmStatus (Nat × Bool) := do
  let header ← parseRest readHeader framed
  let (type, rest) ← orFail status header
  let flag ← orFail status (flag type)
  let headerSize := framed.length - rest.length
  let payloadSize := framed.length - headerSize
  let buffer ← read
  guardElse (decide (payloadSize ≤ buffer.length)) status
  update (overwrite 0 (framed.drop headerSize))
  ret (payloadSize, flag)

def securedMessage : MctpMessageType → Option Bool
  | .spdm => some false
  | .securedMctp => some true
  | _ => none

def appMessage : MctpMessageType → Option Bool
  | .spdm => some false
  | .pldm => some true
  | _ => none

def encap (spdm : Bytes) (secured : Bool) : Prog Bytes SpdmStatus Nat :=
  frame (if secured then .securedMctp else .spdm) .encapFail spdm

def decap (transportBuffer : Bytes) : Prog Bytes SpdmStatus (Nat × Bool) :=
  unframe securedMessage .decapFail transportBuffer

def encapApp (spdm : Bytes) (isAppMessage : Bool) : Prog Bytes SpdmStatus Nat :=
  frame (if isAppMessage then .pldm else .spdm) .encapAppFail spdm

def decapApp (app : Bytes) : Prog Bytes SpdmStatus (Nat × Bool) :=
  unframe appMessage .decapAppFail app

/-! ## §1. What the functions do. -/

theorem frame_eq {type : MctpMessageType} {status : SpdmStatus} {m buf : Bytes}
    (hroom : 1 + m.length ≤ buf.length) :
    frame type status m buf = .ok (1 + m.length)
      ([type.getU8] ++ m ++ buf.drop (1 + m.length)) := by
  have hheader := @put_zero [type.getU8] buf (by rw [List.length_singleton]; omega)
  have hfits : decide ([type.getU8].length + m.length ≤
      ([type.getU8] ++ buf.drop [type.getU8].length).length) = true := by
    simp only [List.length_append, List.length_singleton, List.length_drop, decide_eq_true_eq]
    omega
  unfold frame
  rw [bind_of_ok (mapErr_eq_ok.2 hheader), read_bind, bind_of_ok (guardElse_of hfits),
    update_bind, overwrite_append, List.drop_drop]
  rfl

theorem unframe_eq {flag : MctpMessageType → Option Bool} {status : SpdmStatus}
    {type : MctpMessageType} {b : Bool} {m buf : Bytes}
    (htype : MctpMessageType.ofU8 type.getU8 = type) (hflag : flag type = some b)
    (hroom : m.length ≤ buf.length) :
    unframe flag status ([type.getU8] ++ m) buf = .ok (m.length, b) (m ++ buf.drop m.length) := by
  have hread : readHeader ([type.getU8] ++ m) = .ok type m := by
    show (.ok (MctpMessageType.ofU8 type.getU8) m : Outcome Bytes Unit MctpMessageType) = _
    rw [htype]
  have hsize : ([type.getU8] ++ m).length - m.length = 1 := by
    rw [List.length_append, List.length_singleton]
    omega
  have hpayload : ([type.getU8] ++ m).length - 1 = m.length := by
    omega
  have hover := overwrite_append [] m buf
  rw [List.length_nil, List.nil_append, List.nil_append] at hover
  unfold unframe
  rw [bind_of_ok (parseRest_of_ok hread), bind_of_ok (orFail_eq_ok.2 ⟨rfl, rfl⟩)]
  show ((orFail _ _ >>= _)) buf = _
  rw [bind_of_ok (orFail_eq_ok.2 ⟨hflag, rfl⟩), hsize, hpayload, read_bind,
    bind_of_ok (guardElse_of (decide_eq_true hroom))]
  show Outcome.ok (m.length, b) (overwrite 0 m buf) = _
  rw [hover]

theorem total_unframe {flag : MctpMessageType → Option Bool}
    {framed : Bytes} : Total (unframe flag status framed) :=
  .bind (total_parseRest (.bind total_u8 fun _ => .ret _)) fun _ => .bind (.orFail _ _) fun _ =>
    .bind (.orFail _ _) fun _ => .bind .read fun _ => .bind (.guardElse _ _) fun _ =>
    .bind (.update _) fun _ => .ret _

end Mctp

end Spdm
