/-
  Spdm.Transport.PciDoe — the PCI DOE binding (`pcidoe_transport/src/header.rs`).
-/
import Spdm.Lib.Buffer
import Spdm.Message.Total

namespace Spdm

open Effect Codec

variable {buf m : Bytes}

namespace PciDoe

/-! ## §1. The header. -/

inductive PciDoeVendorId where
  | pciSig
  | unknown (code : UInt16)
  deriving Repr, DecidableEq

namespace PciDoeVendorId

def getU16 : PciDoeVendorId → UInt16
  | pciSig => 0x0001
  | unknown code => code

def ofU16 (code : UInt16) : PciDoeVendorId := if code = 0x0001 then pciSig else unknown code

/-- No assigned code under the name of an unknown one. -/
def Canonical (v : PciDoeVendorId) : Prop := ofU16 v.getU16 = v

instance (v : PciDoeVendorId) : Decidable v.Canonical := inferInstanceAs (Decidable (_ = _))

end PciDoeVendorId

inductive PciDoeDataObjectType where
  | doeDiscovery
  | spdm
  | securedSpdm
  | spdmWithConnectionId
  | securedSpdmWithConnectionId
  | unknown (code : UInt8)
  deriving Repr, DecidableEq

namespace PciDoeDataObjectType

def getU8 : PciDoeDataObjectType → UInt8
  | doeDiscovery => 0x00
  | spdm => 0x01
  | securedSpdm => 0x02
  | spdmWithConnectionId => 0x03
  | securedSpdmWithConnectionId => 0x04
  | unknown code => code

def ofU8 (code : UInt8) : PciDoeDataObjectType :=
  if code = 0x00 then doeDiscovery
  else if code = 0x01 then spdm
  else if code = 0x02 then securedSpdm
  else if code = 0x03 then spdmWithConnectionId
  else if code = 0x04 then securedSpdmWithConnectionId
  else unknown code

/-- No assigned code under the name of an unknown one. -/
def Canonical (t : PciDoeDataObjectType) : Prop := ofU8 t.getU8 = t

instance (t : PciDoeDataObjectType) : Decidable t.Canonical := inferInstanceAs (Decidable (_ = _))

end PciDoeDataObjectType

/-- `PciDoeMessageHeader`; the payload length is in bytes. -/
structure PciDoeMessageHeader where
  vendorId : PciDoeVendorId
  dataObjectType : PciDoeDataObjectType
  payloadLength : Nat
  connectionId : Nat
  deriving Repr, DecidableEq

namespace PciDoeMessageHeader

def size : Nat := 8

def lengthField (h : PciDoeMessageHeader) : Nat :=
  let length := ((h.payloadLength + 8) % 2 ^ 32) >>> 2
  if length = 0x40000 then 0 else length

def header2 (h : PciDoeMessageHeader) : Nat := h.lengthField ||| (h.connectionId >>> 18)

def encode (h : PciDoeMessageHeader) : Prog Bytes Unit Nat := do
  let cnt ← put 0 (leBytes 2 h.vendorId.getU16.toNat)
  let cnt ← put cnt [h.dataObjectType.getU8]
  let cnt ← put cnt [0]
  assert (decide (((h.payloadLength + 8) % 2 ^ 32) >>> 2 ≤ 0x40000))
  assert (decide (h.connectionId < 0x1000))
  put cnt (leBytes 4 h.header2)

def read : Parser PciDoeMessageHeader := do
  let vendorId ← uintLe 2
  let dataObjectType ← u8
  let _ ← u8
  let header2 ← uintLe 4
  let length := header2 &&& 0x3ffff
  let connectionId := ((header2 >>> 18) % 2 ^ 16) &&& 0x0fff
  let length := if length = 0 then 0x40000 else length
  require (decide (2 ≤ length))
  require (decide (8 ≤ length <<< 2))
  ret { vendorId := .ofU16 (UInt16.ofNat vendorId)
        dataObjectType := .ofU8 dataObjectType
        payloadLength := (length <<< 2) - 8
        connectionId }

def bytes (h : PciDoeMessageHeader) : Bytes :=
  leBytes 2 h.vendorId.getU16.toNat ++ [h.dataObjectType.getU8] ++ [0] ++ leBytes 4 h.header2

@[simp] theorem bytes_length (h : PciDoeMessageHeader) : h.bytes.length = size := by
  simp [bytes, size]

theorem length_le {n : Nat} (h : n + 8 ≤ 2 ^ 20) : ((n + 8) % 2 ^ 32) >>> 2 ≤ 0x40000 := by
  omega

def bytes1 (h : PciDoeMessageHeader) : Bytes :=
  leBytes 2 h.vendorId.getU16.toNat ++ [h.dataObjectType.getU8] ++ [0]

theorem encode_run (h : PciDoeMessageHeader) (hroom : size ≤ buf.length) :
    h.encode buf = (do
      assert (decide (((h.payloadLength + 8) % 2 ^ 32) >>> 2 ≤ 0x40000))
      assert (decide (h.connectionId < 0x1000))
      put h.bytes1.length (leBytes 4 h.header2) : Prog Bytes Unit Nat)
        (h.bytes1 ++ buf.drop 4) := by
  have hroom' : 8 ≤ buf.length := hroom
  have hvendor : (leBytes 2 h.vendorId.getU16.toNat).length ≤ buf.length := by
    rw [leBytes_length]
    omega
  unfold encode
  rw [bind_of_ok (put_zero hvendor), leBytes_length]
  -- the offset is the length of what was written so far
  have htype := @put_append (leBytes 2 h.vendorId.getU16.toNat) [h.dataObjectType.getU8]
    (buf.drop 2) (by rw [List.length_drop, List.length_singleton]; omega)
  rw [leBytes_length] at htype
  rw [bind_of_ok htype]
  have hzero := @put_append (leBytes 2 h.vendorId.getU16.toNat ++ [h.dataObjectType.getU8]) [0]
    ((buf.drop 2).drop [h.dataObjectType.getU8].length)
    (by simp only [List.length_drop, List.length_singleton]; omega)
  rw [bind_of_ok hzero, List.drop_drop, List.drop_drop]
  rfl

theorem encode_eq (h : PciDoeMessageHeader) {buf : Bytes} (hroom : size ≤ buf.length)
    (hlength : h.payloadLength + 8 ≤ 2 ^ 20) (hconnection : h.connectionId < 0x1000) :
    h.encode buf = .ok size (h.bytes ++ buf.drop size) := by
  have hroom' : 8 ≤ buf.length := hroom
  have hlen : decide (((h.payloadLength + 8) % 2 ^ 32) >>> 2 ≤ 0x40000) = true :=
    decide_eq_true (length_le hlength)
  have hid : decide (h.connectionId < 0x1000) = true := decide_eq_true hconnection
  rw [encode_run h hroom, bind_of_ok (assert_of hlen), bind_of_ok (assert_of hid),
    put_append (by rw [leBytes_length, List.length_drop]; omega)]
  simp [bytes, bytes1, size]

theorem encode_panic (h : PciDoeMessageHeader) {buf : Bytes} (hroom : size ≤ buf.length)
    (hlength : 2 ^ 20 < h.payloadLength + 5) (hword : h.payloadLength + 8 < 2 ^ 32) :
    h.encode buf = .panic := by
  have hlarge : decide (((h.payloadLength + 8) % 2 ^ 32) >>> 2 ≤ 0x40000) = false := by
    rw [decide_eq_false_iff_not]
    omega
  rw [encode_run h hroom, hlarge]
  rfl

theorem header2_eq {h : PciDoeMessageHeader} (hconnection : h.connectionId < 0x1000) :
    h.header2 = h.lengthField := by
  have hgone : h.connectionId >>> 18 = 0 := by
    omega
  rw [header2, hgone, Nat.or_zero]

theorem lengthField_lt {h : PciDoeMessageHeader} (hlength : h.payloadLength + 8 ≤ 2 ^ 20) :
    h.lengthField < 2 ^ 18 := by
  unfold lengthField
  dsimp only
  split_ifs with hmax
  · decide
  · omega

theorem lengthField_read {h : PciDoeMessageHeader} (hlength : h.payloadLength + 8 ≤ 2 ^ 20) :
    (if h.lengthField = 0 then 0x40000 else h.lengthField) = (h.payloadLength + 8) / 4 := by
  have hdwords : ((h.payloadLength + 8) % 2 ^ 32) >>> 2 = (h.payloadLength + 8) / 4 := by
    omega
  unfold lengthField
  dsimp only
  split_ifs <;> omega

theorem read_bytes (h : PciDoeMessageHeader) (rest : Bytes)
    (hlength : h.payloadLength + 8 ≤ 2 ^ 20) (hconnection : h.connectionId < 0x1000) :
    read (h.bytes ++ rest) = .ok
      { vendorId := .ofU16 h.vendorId.getU16
        dataObjectType := .ofU8 h.dataObjectType.getU8
        payloadLength := h.payloadLength / 4 * 4
        connectionId := 0 } rest := by
  have hfield := lengthField_lt hlength
  have hmask : h.lengthField &&& 0x3ffff = h.lengthField := by
    rw [show (0x3ffff) = 2 ^ 18 - 1 from rfl, Nat.and_two_pow_sub_one_eq_mod]
    omega
  have hhigh : (h.lengthField >>> 18) % 2 ^ 16 &&& 0x0fff = 0 := by
    rw [Nat.shiftRight_eq_div_pow, Nat.div_eq_of_lt hfield, Nat.zero_mod, Nat.zero_and]
  have hvendor : uintLe 2 (h.bytes ++ rest) = .ok h.vendorId.getU16.toNat
      ([h.dataObjectType.getU8] ++ [0] ++ leBytes 4 h.header2 ++ rest) := by
    exact uintLe_append _ h.vendorId.getU16.toNat_lt
  have hword : uintLe 4 (leBytes 4 h.header2 ++ rest) = .ok h.lengthField rest := by
    rw [header2_eq hconnection]
    exact uintLe_append _ (by omega)
  unfold read
  rw [bind_of_ok hvendor]
  show (u8 >>= _) (h.dataObjectType.getU8 :: 0 :: (leBytes 4 h.header2 ++ rest)) = _
  rw [bind_of_ok (u8_cons _ _), bind_of_ok (u8_cons _ _), bind_of_ok hword]
  rw [hmask, hhigh, lengthField_read hlength, Nat.shiftLeft_eq]
  rw [require, bind_of_ok (guardElse_of (decide_eq_true (by omega))), require,
    bind_of_ok (guardElse_of (decide_eq_true (by omega)))]
  have hpayload : (h.payloadLength + 8) / 4 * 2 ^ 2 - 8 = h.payloadLength / 4 * 4 := by omega
  rw [hpayload, UInt16.ofNat_toNat]
  rfl

/-- A header that was written at the start of a buffer reads back, and the
length in its second dword counts the object in dwords. -/
structure RoundTrips (h : PciDoeMessageHeader) (buf : Bytes) (buf' : Bytes) : Prop where
  encoded : h.encode buf = .ok size buf'
  decoded : read (buf'.take size) = .ok h []
  dwords : leNat ((buf'.drop 4).take 4) &&& 0x3ffff = (size + h.payloadLength) / 4

/-- **Headers read back exactly when they carry no connection id** (and no
assigned code under the name of an unknown one). -/
theorem roundTrips_iff (h : PciDoeMessageHeader) (buf : Bytes) (hroom : size ≤ buf.length)
    (hconnection : h.connectionId < 4096) (hmultiple : h.payloadLength % 4 = 0)
    (hlength : h.payloadLength < 2 ^ 20 - 8) :
    (∃ buf', RoundTrips h buf buf') ↔
      h.connectionId = 0 ∧ h.vendorId.Canonical ∧ h.dataObjectType.Canonical := by
  have hencode := encode_eq h hroom (by omega) hconnection
  have hread := read_bytes h [] (by omega) hconnection
  rw [List.append_nil] at hread
  have hstarts : (h.bytes ++ buf.drop size).take size = h.bytes := by
    rw [List.take_append_of_le_length (by rw [bytes_length]),
      List.take_of_length_le (by rw [bytes_length])]
  constructor
  · rintro ⟨buf', hencoded, hdecoded, -⟩
    obtain rfl : h.bytes ++ buf.drop size = buf' := by
      rw [hencode] at hencoded
      cases hencoded
      rfl
    rw [hstarts, hread] at hdecoded
    -- the header that was read is the header that was written
    have hsame := (Outcome.ok.inj hdecoded).1
    refine ⟨?_, ?_, ?_⟩
    · exact (congrArg connectionId hsame).symm
    · exact congrArg vendorId hsame
    · exact congrArg dataObjectType hsame
  · rintro ⟨hzero, hvendor, htype⟩
    refine ⟨_, hencode, ?_, ?_⟩
    · rw [hstarts, hread]
      have hpayload : h.payloadLength / 4 * 4 = h.payloadLength := by omega
      rw [hpayload, ← hzero, hvendor, htype]
    · have hword : ((h.bytes ++ buf.drop size).drop 4).take 4 = leBytes 4 h.header2 := by
        have hfour : (leBytes 2 h.vendorId.getU16.toNat ++ [h.dataObjectType.getU8] ++
            [0]).length = 4 := by simp
        rw [bytes, List.append_assoc _ (leBytes 4 _), ← hfour, List.drop_left, hfour]
        rw [List.take_append_of_le_length (by rw [leBytes_length]),
          List.take_of_length_le (by rw [leBytes_length])]
      have hfield := @lengthField_lt h (by omega)
      have hdwords := @lengthField_read h (by omega)
      rw [hword, header2_eq hconnection, leNat_leBytes_of_lt (by omega),
        show (0x3ffff : Nat) = 2 ^ 18 - 1 from rfl, Nat.and_two_pow_sub_one_eq_mod, size]
      split_ifs at hdwords <;> omega

def threeDwords (connectionId : Nat) : PciDoeMessageHeader :=
  { vendorId := .pciSig, dataObjectType := .spdm, payloadLength := 12, connectionId }

theorem roundTrips_threeDwords : ∃ buf', RoundTrips (threeDwords 0) (List.replicate 8 0) buf' :=
  (roundTrips_iff (threeDwords 0) (List.replicate 8 0) (by decide) (by decide) (by decide)
    (by decide)).2 (by decide)

theorem connectionId_lost :
    (threeDwords 1).connectionId < 4096 ∧ (threeDwords 1).payloadLength % 4 = 0 ∧
      (threeDwords 1).payloadLength < 2 ^ 20 - 8 ∧
      ¬ ∃ buf', RoundTrips (threeDwords 1) (List.replicate 8 0) buf' := by
  refine ⟨by decide, by decide, by decide, ?_⟩
  rintro ⟨buf', hencoded, hdecoded, -⟩
  have hwritten : (threeDwords 1).encode (List.replicate 8 0) =
      .ok size [1, 0, 1, 0, 5, 0, 0, 0] := by decide
  rw [hwritten] at hencoded
  cases hencoded
  have hread : read [1, 0, 1, 0, 5, 0, 0, 0] = .ok (threeDwords 0) [] := by decide
  rw [List.take_of_length_le (by decide), hread] at hdecoded
  exact absurd (Outcome.ok.inj hdecoded).1 (by decide)

end PciDoeMessageHeader

/-! ## §2. The binding. -/

def alignedLen (spdm : Bytes) : Nat := (spdm.length + 3) / 4 * 4

def messageHeader (spdm : Bytes) (secured : Bool) : PciDoeMessageHeader :=
  { vendorId := .pciSig
    dataObjectType := if secured then .securedSpdm else .spdm
    payloadLength := alignedLen spdm % 2 ^ 32
    connectionId := 0 }

def encap (spdm : Bytes) (secured : Bool) : Prog Bytes SpdmStatus Nat := do
  let headerSize ← mapErr (fun _ => .encapFail) (messageHeader spdm secured).encode
  let transportBuffer ← read
  guardElse (decide (headerSize + alignedLen spdm ≤ transportBuffer.length)) .encapFail
  update (overwrite headerSize spdm)
  ret (headerSize + alignedLen spdm)

def securedMessage : PciDoeDataObjectType → Option Bool
  | .spdm => some false
  | .securedSpdm => some true
  | _ => none

def decap (transportBuffer : Bytes) : Prog Bytes SpdmStatus (Nat × Bool) := do
  let header ← parseRest PciDoeMessageHeader.read transportBuffer
  let (header, rest) ← orFail .decapFail header
  guardElse (header.vendorId == .pciSig) .decapFail
  let secured ← orFail .decapFail (securedMessage header.dataObjectType)
  let headerSize := transportBuffer.length - rest.length
  let payloadSize := header.payloadLength
  guardElse (decide (headerSize + payloadSize ≤ transportBuffer.length)) .decapFail
  let spdmBuffer ← read
  guardElse (decide (payloadSize ≤ spdmBuffer.length)) .decapFail
  update (overwrite 0 ((transportBuffer.drop headerSize).take payloadSize))
  ret (payloadSize, secured)

def encapApp (spdm : Bytes) (_isAppMessage : Bool) : Prog Bytes SpdmStatus Nat := do
  let appBuffer ← read
  assert (decide (spdm.length ≤ appBuffer.length))
  update (overwrite 0 spdm)
  ret spdm.length

def decapApp (app : Bytes) : Prog Bytes SpdmStatus (Nat × Bool) := do
  let spdmBuffer ← read
  assert (decide (app.length ≤ spdmBuffer.length))
  update (overwrite 0 app)
  ret (app.length, false)

theorem length_le_alignedLen (m : Bytes) :
    m.length ≤ alignedLen m ∧ alignedLen m < m.length + 4 := by
  unfold alignedLen
  omega

theorem alignedLen_mod (m : Bytes) : alignedLen m / 4 * 4 = alignedLen m := by
  unfold alignedLen
  omega

def packet (m : Bytes) (secured : Bool) (padding : Bytes) : Bytes :=
  (messageHeader m secured).bytes ++ (m ++ padding)

open PciDoeMessageHeader in
theorem encap_eq (secured : Bool) (hroom : size + alignedLen m ≤ buf.length)
    (hlargest : size + alignedLen m ≤ 2 ^ 20) :
    ∃ buf', encap m secured buf = .ok (size + alignedLen m) buf' ∧
      buf'.take (size + alignedLen m) =
        packet m secured ((buf.drop (size + m.length)).take (alignedLen m - m.length)) := by
  obtain ⟨hle, -⟩ := length_le_alignedLen m
  have height : size = 8 := rfl
  have hheader := @encode_eq (messageHeader m secured) buf (by omega)
    (by show alignedLen m % 2 ^ 32 + 8 ≤ 2 ^ 20; omega) (show (0) < 0x1000 by decide)
  have hwritten : overwrite size m ((messageHeader m secured).bytes ++ buf.drop size) =
      (messageHeader m secured).bytes ++ m ++ (buf.drop size).drop m.length := by
    rw [← bytes_length (messageHeader m secured), overwrite_append]
  refine ⟨(messageHeader m secured).bytes ++ m ++ (buf.drop size).drop m.length, ?_, ?_⟩
  · have hfits : decide (size + alignedLen m ≤
        ((messageHeader m secured).bytes ++ buf.drop size).length) = true := by
      rw [decide_eq_true_eq, List.length_append, bytes_length, List.length_drop]
      omega
    unfold encap
    rw [bind_of_ok (mapErr_eq_ok.2 hheader), read_bind, bind_of_ok (guardElse_of hfits),
      update_bind, hwritten]
    rfl
  · have hpad : size + alignedLen m =
        ((messageHeader m secured).bytes ++ m).length + (alignedLen m - m.length) := by
      rw [List.length_append, bytes_length]
      omega
    rw [hpad, List.take_length_add_append, List.drop_drop, packet, List.append_assoc]

open PciDoeMessageHeader in
theorem payloadLength_messageHeader (secured : Bool)
    (hlargest : size + alignedLen m ≤ 2 ^ 20) :
    (messageHeader m secured).payloadLength = alignedLen m := by
  exact Nat.mod_eq_of_lt (by omega)

open PciDoeMessageHeader in
theorem read_messageHeader (rest : Bytes) (secured : Bool)
    (hlargest : size + alignedLen m ≤ 2 ^ 20) :
    PciDoeMessageHeader.read ((messageHeader m secured).bytes ++ rest) =
      .ok (messageHeader m secured) rest := by
  have height : size = 8 := rfl
  have hpayload := payloadLength_messageHeader secured hlargest
  rw [read_bytes (messageHeader m secured) rest (by omega) (show (0) < 0x1000 by decide),
    hpayload, alignedLen_mod, ← hpayload]
  cases secured <;> rfl

open PciDoeMessageHeader in
theorem decap_packet {padding : Bytes} (secured : Bool)
    (hpadding : m.length + padding.length = alignedLen m) (hroom : alignedLen m ≤ buf.length)
    (hlargest : size + alignedLen m ≤ 2 ^ 20) :
    decap (packet m secured padding) buf =
      .ok (alignedLen m, secured) (m ++ padding ++ buf.drop (alignedLen m)) := by
  have hread : PciDoeMessageHeader.read (packet m secured padding) =
      .ok (messageHeader m secured) (m ++ padding) :=
    read_messageHeader (m ++ padding) secured hlargest
  have hvendor : ((messageHeader m secured).vendorId == PciDoeVendorId.pciSig) = true := rfl
  have hflag : securedMessage (messageHeader m secured).dataObjectType = some secured := by
    cases secured <;> rfl
  have hsize : (packet m secured padding).length - (m ++ padding).length = size := by
    rw [packet, List.length_append, bytes_length]
    omega
  have hwhole : size + alignedLen m ≤ (packet m secured padding).length := by
    rw [packet, List.length_append, bytes_length, List.length_append]
    omega
  have hpayload : ((packet m secured padding).drop size).take (alignedLen m) = m ++ padding := by
    rw [packet, ← bytes_length (messageHeader m secured), List.drop_left,
      List.take_of_length_le (by rw [List.length_append]; omega)]
  have hover := overwrite_append [] (m ++ padding) buf
  rw [List.length_nil, List.nil_append, List.length_append, hpadding] at hover
  unfold decap
  rw [bind_of_ok (parseRest_of_ok hread), bind_of_ok (orFail_eq_ok.2 ⟨rfl, rfl⟩)]
  show ((guardElse _ _ >>= _)) buf = _
  rw [bind_of_ok (guardElse_of hvendor), bind_of_ok (orFail_eq_ok.2 ⟨hflag, rfl⟩), hsize,
    payloadLength_messageHeader secured hlargest,
    bind_of_ok (guardElse_of (decide_eq_true hwhole)), read_bind,
    bind_of_ok (guardElse_of (decide_eq_true hroom)), update_bind, hpayload, hover]
  rfl

open PciDoeMessageHeader in
theorem encap_panic (secured : Bool) (hroom : size + alignedLen m ≤ buf.length)
    (hlarge : 2 ^ 20 < size + alignedLen m) (hword : buf.length < 2 ^ 32) :
    encap m secured buf = .panic := by
  have height : size = 8 := rfl
  have haligned := alignedLen_mod m
  have hpayload : (messageHeader m secured).payloadLength = alignedLen m :=
    Nat.mod_eq_of_lt (by omega)
  have hencode := @encode_panic (messageHeader m secured) buf (by omega) (by omega) (by omega)
  have hmapped : mapErr (fun _ => SpdmStatus.encapFail) (messageHeader m secured).encode buf =
      .panic := by
    rw [mapErr, hencode]
  unfold encap
  rw [bind_apply, hmapped]

theorem total_read : Total PciDoeMessageHeader.read :=
  .bind (total_uintLe 2) fun _ => .bind total_u8 fun _ => .bind total_u8 fun _ =>
    .bind (total_uintLe 4) fun _ => .bind (.guardElse _ _) fun _ => .bind (.guardElse _ _) fun _ =>
    .ret _

theorem total_decap (transportBuffer : Bytes) : Total (decap transportBuffer) :=
  .bind (total_parseRest total_read) fun _ => .bind (.orFail _ _) fun _ =>
    .bind (.guardElse _ _) fun _ => .bind (.orFail _ _) fun _ => .bind (.guardElse _ _) fun _ =>
    .bind .read fun _ => .bind (.guardElse _ _) fun _ => .bind (.update _) fun _ => .ret _

theorem encapApp_eq (isApp : Bool) (hroom : m.length ≤ buf.length) :
    encapApp m isApp buf = .ok m.length (m ++ buf.drop m.length) := by
  have hover := overwrite_append [] m buf
  rw [List.length_nil, List.nil_append] at hover
  unfold encapApp
  rw [read_bind, bind_of_ok (assert_of (decide_eq_true hroom)), update_bind, hover]
  rfl

theorem decapApp_eq {app : Bytes} (hroom : app.length ≤ buf.length) :
    decapApp app buf = .ok (app.length, false) (app ++ buf.drop app.length) := by
  have hover := overwrite_append [] app buf
  rw [List.length_nil, List.nil_append] at hover
  unfold decapApp
  rw [read_bind, bind_of_ok (assert_of (decide_eq_true hroom)), update_bind, hover]
  rfl

theorem decapApp_panic_iff (app buf : Bytes) :
    decapApp app buf = .panic ↔ buf.length < app.length := by
  constructor
  · intro hpanic
    by_contra hroom
    rw [decapApp_eq (by omega)] at hpanic
    cases hpanic
  · intro hsmall
    have hfalse : decide (app.length ≤ buf.length) = false := by
      rw [decide_eq_false_iff_not]
      omega
    unfold decapApp
    rw [read_bind, hfalse]
    rfl

end PciDoe

end Spdm
