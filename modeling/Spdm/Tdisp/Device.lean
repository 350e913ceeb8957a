/-
  Spdm.Tdisp.Device — the report of an interface, at the device
  (`pci_tdisp_rsp_device_interface_report.rs`, `pci_tdisp_rsp_dispatcher.rs`,
  `pci_tdisp_rsp_tdisp_error.rs`).
-/
import Spdm.Context.Small
import Spdm.Message.Total
import Spdm.Tdisp.Message

namespace Spdm

open Effect Codec

namespace Tdisp

/-! ## §1. The device. -/

structure ReportAnswer where
  interfaceId : InterfaceId
  tdiReport : Bytes
  tdiReportSize : Nat
  tdispErrorCode : Option TdispErrorCode
  deriving Repr, DecidableEq

/-- The callbacks of a device, and its handlers of the other requests. -/
structure TdispDevice where
  deviceInterfaceReport : Except SpdmStatus ReportAnswer
  deviceError : Except SpdmStatus InterfaceId
  handleOther : TdispRequestResponseCode → Bytes → Except SpdmStatus Bytes
  vdmResponse : Bytes → Except SpdmStatus Bytes

abbrev DeviceHandler (α : Type) := Prog Unit SpdmStatus α

def sizeDifference (build : Build) (a b : Nat) : DeviceHandler Nat := do
  assert (!build.overflowChecks || decide (b ≤ a))
  ret (wordSub a b)

def writeError (device : TdispDevice) (build : Build) (errorCode : TdispErrorCode) (errorData : Nat)
    (extErrorData : Bytes) : DeviceHandler Bytes := do
  let interfaceId ← liftResult device.deviceError
  let room := maxSpdmVendorDefinedPayloadSize build.config
  let message ← writeInto room (RspTdispError.encode
    { messageHeader := { messageType := .tdispError, interfaceId }, errorCode, errorData })
  writeInto room (message ++ extErrorData)

def clampLength (build : Build) (tdiReportSize : Nat) (request : ReqGetDeviceInterfaceReport) :
    DeviceHandler Nat := do
  let most := maxPortionLength build.config
  let portionLength := if most < request.length then most % 2 ^ 16 else request.length
  if tdiReportSize < request.offset + portionLength then do
    let remainder ← sizeDifference build tdiReportSize request.offset
    let remainder := remainder % 2 ^ 16
    ret (if portionLength < remainder then portionLength else remainder)
  else ret portionLength

def writeReport (build : Build) (answer : ReportAnswer) (offset portionLength : Nat) :
    DeviceHandler Bytes := do
  let remainderLength := if offset + portionLength < answer.tdiReportSize then
    (answer.tdiReportSize - offset - portionLength) % 2 ^ 16 else 0
  -- both slices of the copy
  assert (decide (portionLength ≤ maxPortionLength build.config) &&
    decide (offset + portionLength ≤ answer.tdiReport.length))
  let message ← writeInto (maxSpdmVendorDefinedPayloadSize build.config)
    (RspDeviceInterfaceReport.encode
      { messageHeader :=
          { messageType := .deviceInterfaceReport, interfaceId := answer.interfaceId }
        portionLength
        remainderLength
        report := (answer.tdiReport.drop offset).take portionLength })
  if 2 ^ 16 - 1 < message.length then fail .invalidStateLocal else ret message

def pciTdispRspInterfaceReport (device : TdispDevice) (build : Build) (payload : Bytes) :
    DeviceHandler Bytes := do
  let request ← orFail .invalidMsgField (ReqGetDeviceInterfaceReport.parse payload).returned
  let answer ← liftResult device.deviceInterfaceReport
  match answer.tdispErrorCode with
  | some errorCode => writeError device build errorCode 0 []
  | none => do
    let portionLength ← clampLength build answer.tdiReportSize request
    writeReport build answer request.offset portionLength

def served : List TdispRequestResponseCode :=
  [.getTdispVersion, .getTdispCapabilities, .lockInterfaceRequest, .getDeviceInterfaceState,
    .startInterfaceRequest, .stopInterfaceRequest, .setMmioAttributeRequest, .bindP2pStreamRequest,
    .unbindP2pStreamRequest]

def pciTdispRspDispatcher (device : TdispDevice) (build : Build) (vendor payload : Bytes) :
    DeviceHandler Bytes :=
  match payload with
  | protocolId :: _ :: code :: _ =>
    if vendor ≠ vendorId ∨ protocolId ≠ tdispProtocolId then fail .invalidMsgField
    else match TdispRequestResponseCode.ofByte? code with
      | some code =>
        if code = .getDeviceInterfaceReport then pciTdispRspInterfaceReport device build payload
        else if code ∈ served then liftResult (device.handleOther code payload)
        else writeError device build .unsupportedRequest 0 []
      | none => liftResult (device.vdmResponse payload)
  | _ => fail .invalidMsgField

/-! ## §2. The slice. -/

/-- The device has this report, and its buffer is as large as the callback
expects. -/
structure HasReport (device : TdispDevice) (build : Build) (interfaceId : InterfaceId)
    (buffer : Bytes) (n : Nat) : Prop where
  answer : device.deviceInterfaceReport = .ok
    { interfaceId, tdiReport := buffer, tdiReportSize := n, tdispErrorCode := none }
  buffer_length : buffer.length = maxDeviceReportBuffer build.config
  size_le : n ≤ maxDeviceReportBuffer build.config

def sliceLength (config : Config) (n : Nat) (request : ReqGetDeviceInterfaceReport) : Nat :=
  min request.length (min (maxPortionLength config) (n - request.offset))

def reportResponse (interfaceId : InterfaceId) (buffer : Bytes) (offset portionLength
    remainderLength : Nat) : RspDeviceInterfaceReport where
  messageHeader := { messageType := .deviceInterfaceReport, interfaceId }
  portionLength
  remainderLength
  report := (buffer.drop offset).take portionLength

theorem offset_lt {payload rest : Bytes} {request : ReqGetDeviceInterfaceReport}
    (h : ReqGetDeviceInterfaceReport.parse payload = .ok request rest) :
    request.offset < 2 ^ 16 ∧ request.length < 2 ^ 16 := by
  obtain ⟨header, _, -, h⟩ := bind_eq_ok.1 h
  obtain ⟨offset, _, hoffset, h⟩ := bind_eq_ok.1 h
  obtain ⟨length, _, hlength, h⟩ := bind_eq_ok.1 h
  obtain ⟨rfl, -⟩ := ret_eq_ok.1 h
  exact ⟨uintLe_lt hoffset, uintLe_lt hlength⟩

theorem dispatcher_report {payload rest : Bytes} {request : ReqGetDeviceInterfaceReport}
    (device : TdispDevice) (build : Build)
    (h : ReqGetDeviceInterfaceReport.parse payload = .ok request rest)
    (hcode : request.messageHeader.messageType = .getDeviceInterfaceReport) :
    pciTdispRspDispatcher device build vendorId payload =
      pciTdispRspInterfaceReport device build payload := by
  obtain ⟨header, left, hheader, h⟩ := bind_eq_ok.1 h
  obtain ⟨_, _, -, h⟩ := bind_eq_ok.1 h
  obtain ⟨_, _, -, h⟩ := bind_eq_ok.1 h
  obtain ⟨rfl, -⟩ := ret_eq_ok.1 h
  -- the header names the protocol and the code
  obtain ⟨protocolId, left₁, hprotocol, h₁⟩ := bind_eq_ok.1 hheader
  obtain ⟨_, _, hrequire, h₂⟩ := bind_eq_ok.1 h₁
  obtain ⟨hsame, rfl⟩ := guardElse_eq_ok.1 hrequire
  obtain ⟨version, left₂, hversion, h₃⟩ := bind_eq_ok.1 h₂
  obtain ⟨code, left₃, hbyte, h₄⟩ := bind_eq_ok.1 h₃
  obtain ⟨messageType, _, hsome, h₅⟩ := bind_eq_ok.1 h₄
  obtain ⟨hknown, rfl⟩ := orFail_eq_ok.1 hsome
  obtain ⟨_, _, -, h₆⟩ := bind_eq_ok.1 h₅
  obtain ⟨_, _, -, h₇⟩ := bind_eq_ok.1 h₆
  obtain ⟨rfl, -⟩ := ret_eq_ok.1 h₇
  obtain rfl := u8_eq_ok hprotocol
  obtain rfl := u8_eq_ok hversion
  obtain rfl := u8_eq_ok hbyte
  have hmessage : messageType = .getDeviceInterfaceReport := hcode
  subst hmessage
  unfold pciTdispRspDispatcher
  dsimp only
  rw [if_neg (by simpa using hsame), hknown]
  rfl

section Slice

variable {device : TdispDevice} {build : Build} {interfaceId : InterfaceId}
  {buffer payload rest : Bytes}
  {n : Nat} {request : ReqGetDeviceInterfaceReport}

theorem interfaceReport_eq (hhas : HasReport device build interfaceId buffer n)
    (hparse : ReqGetDeviceInterfaceReport.parse payload = .ok request rest) :
    pciTdispRspInterfaceReport device build payload () =
      (clampLength build n request >>= fun portionLength =>
        writeReport build ⟨interfaceId, buffer, n, none⟩ request.offset portionLength) () := by
  have hrequest : (ReqGetDeviceInterfaceReport.parse payload).returned = some request := by
    rw [hparse]
    rfl
  unfold pciTdispRspInterfaceReport
  rw [bind_of_ok (orFail_eq_ok.2 ⟨hrequest, rfl⟩),
    bind_of_ok (liftResult_eq_ok.2 ⟨hhas.answer, rfl⟩)]

theorem writeReport_inside {portionLength : Nat}
    (hhas : HasReport device build interfaceId buffer n)
    (hsize : maxSpdmVendorDefinedPayloadSize build.config ≤ 2 ^ 16 - 1)
    (hroom : request.offset + portionLength ≤ maxDeviceReportBuffer build.config) :
    writeReport build ⟨interfaceId, buffer, n, none⟩ request.offset portionLength () =
      .ok (reportResponse interfaceId buffer request.offset portionLength
        (n - request.offset - portionLength)).encode () := by
  have hbuffer := hhas.buffer_length
  have hn := hhas.size_le
  have hmsg := build.msgSize_ge
  have hmost : maxDeviceReportBuffer build.config + 21 =
      maxSpdmVendorDefinedPayloadSize build.config := by
    unfold maxDeviceReportBuffer maxSpdmVendorDefinedPayloadSize
    unfold minDataTransferSize at hmsg
    omega
  have hremainder : (if request.offset + portionLength < n then
      (n - request.offset - portionLength) % 2 ^ 16 else 0) = n - request.offset -
        portionLength := by
    split
    · rw [Nat.mod_eq_of_lt (by omega)]
    · omega
  have hslices : (decide (portionLength ≤ maxPortionLength build.config) &&
      decide (request.offset + portionLength ≤ buffer.length)) = true := by
    unfold maxPortionLength
    rw [Bool.and_eq_true, decide_eq_true_eq, decide_eq_true_eq]
    omega
  have hlength : (reportResponse interfaceId buffer request.offset portionLength
      (n - request.offset - portionLength)).encode.length ≤ 21 + portionLength := by
    rw [RspDeviceInterfaceReport.length_encode]
    exact Nat.add_le_add_left (Nat.min_le_left _ _) _
  have hwrite : (writeInto (maxSpdmVendorDefinedPayloadSize build.config)
    (reportResponse interfaceId
      buffer request.offset portionLength (n - request.offset - portionLength)).encode :
      DeviceHandler Bytes) () = .ok (reportResponse interfaceId buffer request.offset portionLength
        (n - request.offset - portionLength)).encode () := by
    unfold writeInto
    rw [bind_of_ok (guardElse_of (decide_eq_true (by omega)))]
    rfl
  unfold writeReport
  rw [hremainder, bind_of_ok (assert_of hslices)]
  show (writeInto _ (reportResponse interfaceId buffer request.offset portionLength
    (n - request.offset - portionLength)).encode >>= _ : DeviceHandler Bytes) () = _
  rw [bind_of_ok hwrite, if_neg (by omega)]
  rfl

theorem clampLength_ne_err (n : Nat) (request : ReqGetDeviceInterfaceReport) (e : SpdmStatus)
    (s : Unit) : clampLength build n request () ≠ .err e s := by
  unfold clampLength sizeDifference
  generalize (if maxPortionLength build.config < request.length then
    maxPortionLength build.config % 2 ^ 16 else request.length) = most
  by_cases hends : n < request.offset + most
  · rw [if_pos hends, Effect.bind_assoc]
    by_cases hchecks : (!build.overflowChecks || decide (request.offset ≤ n)) = true
    · rw [bind_of_ok (assert_of hchecks)]
      intro h
      cases h
    · rw [assert, if_neg hchecks]
      intro h
      cases h
  · rw [if_neg hends]
    intro h
    cases h

theorem clampLength_inside (hhas : HasReport device build interfaceId buffer n)
    (hsize : maxSpdmVendorDefinedPayloadSize build.config ≤ 2 ^ 16 - 1)
    (hlength : request.length < 2 ^ 16) (hoffset : request.offset ≤ n) :
    clampLength build n request () = .ok (sliceLength build.config n request) () := by
  have hn := hhas.size_le
  have hmost : maxPortionLength build.config < 2 ^ 16 := by
    unfold maxPortionLength maxDeviceReportBuffer
    omega
  have hfirst : (if maxPortionLength build.config < request.length then
      maxPortionLength build.config % 2 ^ 16 else request.length) =
      min request.length (maxPortionLength build.config) := by
    rw [Nat.mod_eq_of_lt hmost]
    split <;> omega
  unfold clampLength sliceLength
  dsimp only
  rw [hfirst]
  by_cases hends : n < request.offset + min request.length (maxPortionLength build.config)
  · have hword : wordSub n request.offset = n - request.offset := by
      refine wordSub_eq hoffset ?_
      unfold maxDeviceReportBuffer at hn
      omega
    unfold sizeDifference
    rw [if_pos hends, Effect.bind_assoc, bind_of_ok (assert_of (by simp [hoffset])),
      ret_bind, hword,
      Nat.mod_eq_of_lt (by unfold maxDeviceReportBuffer at hn; omega)]
    show Outcome.ok (if _ then _ else _) () = _
    congr 1
    split <;> omega
  · rw [if_neg hends]
    show Outcome.ok _ () = _
    congr 1
    omega

theorem interfaceReport_inside (hhas : HasReport device build interfaceId buffer n)
    (hparse : ReqGetDeviceInterfaceReport.parse payload = .ok request rest)
    (hsize : maxSpdmVendorDefinedPayloadSize build.config ≤ 2 ^ 16 - 1)
    (hoffset : request.offset ≤ n) :
    pciTdispRspInterfaceReport device build payload () =
      .ok (reportResponse interfaceId buffer request.offset (sliceLength build.config n request)
        (n - request.offset - sliceLength build.config n request)).encode () := by
  have hn := hhas.size_le
  have hslice : request.offset + sliceLength build.config n request ≤
      maxDeviceReportBuffer build.config := by
    unfold sliceLength
    omega
  rw [interfaceReport_eq hhas hparse,
    bind_of_ok (clampLength_inside hhas hsize (offset_lt hparse).2 hoffset),
    writeReport_inside hhas hsize hslice]

theorem interfaceReport_behind (hhas : HasReport device build interfaceId buffer n)
    (hparse : ReqGetDeviceInterfaceReport.parse payload = .ok request rest)
    (hsize : maxSpdmVendorDefinedPayloadSize build.config ≤ 2 ^ 16 - 1)
    (hoffset : n < request.offset) :
    pciTdispRspInterfaceReport device build payload () = .panic ∨
      ∃ portionLength, pciTdispRspInterfaceReport device build payload () =
        .ok (reportResponse interfaceId buffer request.offset portionLength 0).encode () := by
  rw [interfaceReport_eq hhas hparse]
  cases hclamp : clampLength build n request () with
  | panic =>
    left
    rw [Effect.bind_apply, hclamp]
  | err e s =>
    -- clamping has no errors of its own
    exact absurd hclamp (clampLength_ne_err n request e s)
  | ok portionLength s =>
    rw [bind_of_ok hclamp]
    by_cases hroom : request.offset + portionLength ≤ maxDeviceReportBuffer build.config
    · right
      refine ⟨portionLength, ?_⟩
      rw [writeReport_inside hhas hsize hroom,
        show n - request.offset - portionLength = 0 by omega]
    · left
      have hbuffer := hhas.buffer_length
      have houtside : ¬ (decide (portionLength ≤ maxPortionLength build.config) &&
          decide (request.offset + portionLength ≤ buffer.length)) = true := by
        rw [Bool.and_eq_true, decide_eq_true_eq, decide_eq_true_eq]
        omega
      unfold writeReport
      rw [assert, if_neg houtside]
      rfl

end Slice

/-! ## §3. What the device should do. -/

def ErrorAnswer (outcome : Outcome Unit SpdmStatus Bytes) : Prop :=
  (∃ e, outcome = .err e ()) ∨
    ∃ message error rest, outcome = .ok message () ∧ RspTdispError.parse message = .ok error rest

/-- **The slices of a report**: no abort, the bytes from the offset on with
the lengths that go with them, and an error behind the end. -/
structure ReportSlices (build : Build) (interfaceId : InterfaceId) (buffer : Bytes) (n : Nat)
    (request : ReqGetDeviceInterfaceReport) (outcome : Outcome Unit SpdmStatus Bytes) : Prop where
  ne_panic : outcome ≠ .panic
  inside : request.offset ≤ n → outcome = .ok (RspDeviceInterfaceReport.encode
    { messageHeader := { messageType := .deviceInterfaceReport, interfaceId }
      portionLength := sliceLength build.config n request
      remainderLength := n - request.offset - sliceLength build.config n request
      report := ((buffer.take n).drop request.offset).take
        (sliceLength build.config n request) }) ()
  behind : n < request.offset → ErrorAnswer outcome

/-- **When the device answers as it should**: for an offset inside its
report. -/
theorem reportSlices_iff {device : TdispDevice} {build : Build} {interfaceId : InterfaceId}
    {buffer payload rest : Bytes} {n : Nat} {request : ReqGetDeviceInterfaceReport}
    (hsize : maxSpdmVendorDefinedPayloadSize build.config ≤ 2 ^ 16 - 1)
    (hhas : HasReport device build interfaceId buffer n)
    (hparse : ReqGetDeviceInterfaceReport.parse payload = .ok request rest)
    (hcode : request.messageHeader.messageType = .getDeviceInterfaceReport) :
    ReportSlices build interfaceId buffer n request
      (pciTdispRspDispatcher device build vendorId payload ()) ↔ request.offset ≤ n := by
  rw [dispatcher_report device build hparse hcode]
  constructor
  · intro hslices
    by_contra hbehind
    have hlt : n < request.offset := Nat.lt_of_not_le hbehind
    obtain hpanic | ⟨portionLength, hok⟩ := interfaceReport_behind hhas hparse hsize hlt
    · exact hslices.ne_panic hpanic
    · -- a response that is no error
      have herror := hslices.behind hlt
      rw [hok] at herror
      obtain ⟨e, he⟩ | ⟨message, error, left, hmessage, herr⟩ := herror
      · cases he
      · cases hmessage
        have hnone := @RspTdispError.parse_other .deviceInterfaceReport (by decide)
          interfaceId (leBytes 2 portionLength ++ leBytes 2 0 ++
            ((buffer.drop request.offset).take portionLength).take portionLength)
        rw [← List.append_assoc, ← List.append_assoc] at hnone
        have hsome : (RspTdispError.parse (reportResponse interfaceId buffer request.offset
            portionLength 0).encode).returned = some error := by
          rw [herr]
          rfl
        cases hnone.symm.trans hsome
  · intro hoffset
    have hok := interfaceReport_inside hhas hparse hsize hoffset
    have hslice : request.offset + sliceLength build.config n request ≤ n := by
      unfold sliceLength
      omega
    refine ⟨by rw [hok]; nofun, fun _ => ?_, fun hlt => absurd hoffset (Nat.not_le_of_lt hlt)⟩
    rw [hok]
    unfold reportResponse
    congr 3
    rw [List.drop_take, List.take_take, Nat.min_eq_left (by omega)]

end Tdisp

namespace SmallBackend

open Tdisp

def smallReportBuffer : Bytes := [1, 2, 3] ++ List.replicate 113 0

def smallTdispDevice : TdispDevice where
  deviceInterfaceReport := .ok
    { interfaceId := {}, tdiReport := smallReportBuffer, tdiReportSize := 3,
      tdispErrorCode := none }
  deviceError := .ok {}
  handleOther _ _ := .error .unsupportedCap
  vdmResponse _ := .error .unsupportedCap

theorem hasReport_small :
    HasReport smallTdispDevice (smallBuild false false) {} smallReportBuffer 3 where
  answer := rfl
  buffer_length := by decide
  size_le := by decide

def sliceRequest (offset length : Nat) : ReqGetDeviceInterfaceReport where
  messageHeader := { messageType := .getDeviceInterfaceReport, interfaceId := {} }
  offset
  length

theorem parse_sliceRequest {offset length : Nat} (hoffset : offset < 2 ^ 16)
    (hlength : length < 2 ^ 16) :
    ReqGetDeviceInterfaceReport.parse (sliceRequest offset length).encode =
      .ok (sliceRequest offset length) [] := by
  have h := ReqGetDeviceInterfaceReport.parse_encode hoffset hlength .getDeviceInterfaceReport {} []
  rwa [List.append_nil] at h

theorem reportSlices_small :
    ReportSlices (smallBuild false false) {} smallReportBuffer 3 (sliceRequest 1 10)
      (pciTdispRspDispatcher smallTdispDevice (smallBuild false false) vendorId
        (sliceRequest 1 10).encode ()) :=
  (reportSlices_iff (by decide) hasReport_small
    (parse_sliceRequest (by decide) (by decide)) rfl).2 (by decide)

theorem slice_behind_report :
    pciTdispRspDispatcher smallTdispDevice (smallBuild false false) vendorId
      (sliceRequest 5 4).encode () = .ok (reportResponse {} smallReportBuffer 5 4 0).encode () ∧
    pciTdispRspDispatcher smallTdispDevice
      { smallBuild false false with overflowChecks := true } vendorId
      (sliceRequest 5 4).encode () = .panic ∧
    ¬ ReportSlices { smallBuild false false with overflowChecks := true } {} smallReportBuffer 3
      (sliceRequest 5 4) (pciTdispRspDispatcher smallTdispDevice
        { smallBuild false false with overflowChecks := true } vendorId
        (sliceRequest 5 4).encode ()) := by
  have hpanic : pciTdispRspDispatcher smallTdispDevice
      { smallBuild false false with overflowChecks := true } vendorId
      (sliceRequest 5 4).encode () = .panic := by decide +kernel
  exact ⟨by decide +kernel, hpanic, fun h => h.ne_panic hpanic⟩

end SmallBackend

end Spdm
