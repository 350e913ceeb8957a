/-
  Spdm.Tdisp.Report — the report of an interface, at the requester
  (`pci_tdisp_req_get_device_interface_report.rs`).
-/
import Spdm.Lib.Loop
import Spdm.Lib.Slice
import Spdm.Tdisp.Device

namespace Spdm

open Effect Codec

namespace Tdisp

/-! ## §1. The loop. -/

abbrev ReportError := SpdmStatus × Option TdispErrorCode

structure Reassembly where
  offset : Nat := 0
  reportBufferWalker : Nat := 0
  report : Bytes
  deriving Repr, DecidableEq

section Requester
variable {σ : Type}

def reportRequest (config : Config) (interfaceId : InterfaceId) (offset : Nat) :
    ReqGetDeviceInterfaceReport where
  messageHeader := { messageType := .getDeviceInterfaceReport, interfaceId }
  offset
  length := maxPortionLength config % 2 ^ 16

def failWith {α : Type} (status : SpdmStatus) : Prog σ (Fault ReportError) α :=
  fail (.error (status, none))

def checkResponse (config : Config) (interfaceId : InterfaceId) (response : Bytes) :
    Prog σ (Fault ReportError) RspDeviceInterfaceReport :=
  match (RspTdispError.parse response).returned with
  | some tdispError => fail (.error (.errorPeer, some tdispError.errorCode))
  | none => do
    let rsp ← orFail (.error (.invalidMsgField, none))
      (RspDeviceInterfaceReport.parse config response).returned
    if rsp.messageHeader ≠ { messageType := .deviceInterfaceReport, interfaceId } then
      failWith .invalidMsgField
    else ret rsp

def storePortion (build : Build) (a : Reassembly) (rsp : RspDeviceInterfaceReport) :
    Prog σ (Fault ReportError) (Turn Reassembly (Bytes × Nat)) :=
  let most := maxDeviceReportBuffer build.config
  let walker := a.reportBufferWalker + rsp.portionLength
  if most < walker + rsp.remainderLength then failWith .bufferFull
  else do
    -- both slices of the copy
    assert (decide (walker ≤ a.report.length) &&
      decide (rsp.portionLength ≤ maxPortionLength build.config))
    let report := a.report.take a.reportBufferWalker ++ rsp.report.take rsp.portionLength ++
      a.report.drop walker
    if rsp.remainderLength = 0 then ret (.done (report, walker))
    else do
      -- the offset has sixteen bits
      assert (!build.overflowChecks || decide (a.offset + rsp.portionLength < 2 ^ 16))
      ret (.again
        { offset := (a.offset + rsp.portionLength) % 2 ^ 16, reportBufferWalker := walker, report })

def reportTurn (exchange : Bytes → Prog σ SpdmStatus Bytes) (build : Build)
    (interfaceId : InterfaceId) (a : Reassembly) :
    Prog σ (Fault ReportError) (Turn Reassembly (Bytes × Nat)) := do
  let request := (reportRequest build.config interfaceId a.offset).encode
  let response ← mapErr (fun status => .error (status, none)) (do
    let payload ← writeInto (maxSpdmVendorDefinedPayloadSize build.config) request
    exchange payload)
  let rsp ← checkResponse build.config interfaceId response
  storePortion build a rsp

def pciTdispReqGetDeviceInterfaceReport (exchange : Bytes → Prog σ SpdmStatus Bytes) (build : Build)
    (interfaceId : InterfaceId) (report : Bytes) (exchanges : Nat) :
    Prog σ (Fault ReportError) (Bytes × Nat) :=
  loop (reportTurn exchange build interfaceId) .endless exchanges { report }

def portionResponse (interfaceId : InterfaceId) (report : Bytes) (remainderLength : Nat) :
    RspDeviceInterfaceReport where
  messageHeader := { messageType := .deviceInterfaceReport, interfaceId }
  portionLength := report.length
  remainderLength
  report

theorem parse_portionResponse {config : Config} {report : Bytes} {remainderLength : Nat}
    (hreport : report.length ≤ maxPortionLength config) (hsize : report.length < 2 ^ 16)
    (hremainder : remainderLength < 2 ^ 16) (i : InterfaceId) :
    RspDeviceInterfaceReport.parse config (portionResponse i report remainderLength).encode =
      .ok (portionResponse i.wire report remainderLength) [] := by
  have h := RspDeviceInterfaceReport.parse_encode hreport hsize hremainder .deviceInterfaceReport i
    []
  rwa [List.append_nil] at h

theorem checkResponse_portion {config : Config} {report : Bytes} {remainderLength : Nat}
    (hreport : report.length ≤ maxPortionLength config) (hsize : report.length < 2 ^ 16)
    (hremainder : remainderLength < 2 ^ 16) (i interfaceId : InterfaceId) :
    (checkResponse config interfaceId (portionResponse i report remainderLength).encode :
      Prog σ _ _) = if i.wire = interfaceId then ret (portionResponse interfaceId report
        remainderLength) else failWith .invalidMsgField := by
  have hother : (RspTdispError.parse (portionResponse i report remainderLength).encode).returned =
      none := by
    have h := @RspTdispError.parse_other .deviceInterfaceReport (by decide) i
      (leBytes 2 report.length ++ leBytes 2 remainderLength ++ report.take report.length)
    rwa [← List.append_assoc] at h
  unfold checkResponse
  rw [hother, parse_portionResponse hreport hsize hremainder i]
  funext s
  show (if (portionResponse i.wire report remainderLength).messageHeader ≠ _ then failWith _
    else ret (portionResponse i.wire report remainderLength)) s = _
  by_cases hwire : i.wire = interfaceId
  · rw [if_pos hwire, if_neg (by rw [hwire]; exact fun h => h rfl), hwire]
  · rw [if_neg hwire, if_pos]
    intro h
    exact hwire (congrArg TdispMessageHeader.interfaceId h)

section Exchange
variable {exchange : Bytes → Prog σ SpdmStatus Bytes} {build : Build} {interfaceId : InterfaceId}
  {a : Reassembly} {s s' : σ}

theorem writeInto_request (hroom : 21 ≤ maxSpdmVendorDefinedPayloadSize build.config) :
    (writeInto (maxSpdmVendorDefinedPayloadSize build.config)
      (reportRequest build.config interfaceId a.offset).encode >>= exchange) s =
      exchange (reportRequest build.config interfaceId a.offset).encode s := by
  have hfits : decide ((reportRequest build.config interfaceId a.offset).encode.length ≤
      maxSpdmVendorDefinedPayloadSize build.config) = true := by
    rw [ReqGetDeviceInterfaceReport.length_encode]
    exact decide_eq_true hroom
  unfold writeInto
  rw [Effect.bind_assoc, bind_of_ok (guardElse_of hfits)]
  rfl

theorem reportTurn_of_ok (hroom : 21 ≤ maxSpdmVendorDefinedPayloadSize build.config)
    {response : Bytes}
    (h : exchange (reportRequest build.config interfaceId a.offset).encode s = .ok response s') :
    reportTurn exchange build interfaceId a s =
      (checkResponse build.config interfaceId response >>= storePortion build a) s' := by
  unfold reportTurn
  rw [bind_of_ok (mapErr_eq_ok.2 ((writeInto_request hroom).trans h))]

end Exchange

end Requester

/-! ## §2. Any device. -/

def exchangeFrom (responses : Nat → Except SpdmStatus Bytes) (request : Bytes) :
    Prog (List Bytes) SpdmStatus Bytes := do
  let sent ← read
  update (· ++ [request])
  liftResult (responses sent.length)

inductive Gathered (config : Config) (interfaceId : InterfaceId)
    (responses : Nat → Except SpdmStatus Bytes) : List Bytes → List Bytes → Prop
  | start : Gathered config interfaceId responses [] []
  | next {portions sent : List Bytes} {response rest : Bytes} {rsp : RspDeviceInterfaceReport}
      (before : Gathered config interfaceId responses portions sent)
      (answer : responses sent.length = .ok response)
      (parsed : RspDeviceInterfaceReport.parse config response = .ok rsp rest) :
      Gathered config interfaceId responses (portions ++ [rsp.report])
        (sent ++ [(reportRequest config interfaceId portions.flatten.length).encode])

structure Holds (config : Config) (portions : List Bytes) (a : Reassembly) : Prop where
  offset_eq : a.offset = portions.flatten.length
  walker_eq : a.reportBufferWalker = portions.flatten.length
  length_eq : a.report.length = maxDeviceReportBuffer config
  walker_le : a.reportBufferWalker ≤ maxDeviceReportBuffer config
  stored : a.report.take a.reportBufferWalker = portions.flatten

structure Collected (config : Config) (interfaceId : InterfaceId)
    (responses : Nat → Except SpdmStatus Bytes) (result : Bytes × Nat) (sent : List Bytes) :
    Prop where
  size_le : result.2 ≤ maxDeviceReportBuffer config
  length_eq : result.1.length = maxDeviceReportBuffer config
  gathered : ∃ portions, Gathered config interfaceId responses portions sent ∧
    result.1.take result.2 = portions.flatten

def Progress (config : Config) (responses : Nat → Except SpdmStatus Bytes) : Prop :=
  ∀ i response rsp rest, responses i = .ok response →
    RspDeviceInterfaceReport.parse config response = .ok rsp rest →
    rsp.remainderLength ≠ 0 → rsp.portionLength ≠ 0

/-- **The property**: no abort, an end after at most one exchange more than
the buffer has bytes, and the portions in their order. -/
structure Reassembles (build : Build) (interfaceId : InterfaceId)
    (responses : Nat → Except SpdmStatus Bytes) (report : Bytes) : Prop where
  ne_panic : ∀ exchanges, pciTdispReqGetDeviceInterfaceReport (exchangeFrom responses) build
    interfaceId report exchanges [] ≠ .panic
  ends : ∀ exchanges sent, maxDeviceReportBuffer build.config + 1 ≤ exchanges →
    pciTdispReqGetDeviceInterfaceReport (exchangeFrom responses) build interfaceId report
      exchanges [] ≠ .err .endless sent
  collected : ∀ exchanges result sent, pciTdispReqGetDeviceInterfaceReport (exchangeFrom responses)
    build interfaceId report exchanges [] = .ok result sent →
    Collected build.config interfaceId responses result sent

/-! ## §3. One exchange. -/

theorem RspDeviceInterfaceReport.length_of_parse {config : Config} {bs rest : Bytes}
    {rsp : RspDeviceInterfaceReport} (h : RspDeviceInterfaceReport.parse config bs = .ok rsp rest) :
    rsp.report.length = rsp.portionLength ∧ rsp.portionLength ≤ maxPortionLength config := by
  obtain ⟨header, _, -, h⟩ := bind_eq_ok.1 h
  obtain ⟨portionLength, _, -, h⟩ := bind_eq_ok.1 h
  obtain ⟨remainderLength, _, -, h⟩ := bind_eq_ok.1 h
  obtain ⟨_, _, hfits, h⟩ := bind_eq_ok.1 h
  obtain ⟨report, _, htake, h⟩ := bind_eq_ok.1 h
  obtain ⟨rfl, -⟩ := ret_eq_ok.1 h
  exact ⟨(takeBytes_eq_ok htake).1, of_decide_eq_true (guardElse_eq_ok.1 hfits).1⟩

def Onward (config : Config) (interfaceId : InterfaceId)
    (responses : Nat → Except SpdmStatus Bytes) (a : Reassembly) (sent : List Bytes) : Prop :=
  ∃ portions, Gathered config interfaceId responses portions sent ∧ Holds config portions a

def AfterTurn (config : Config) (interfaceId : InterfaceId)
    (responses : Nat → Except SpdmStatus Bytes) (walker : Nat) :
    Turn Reassembly (Bytes × Nat) → List Bytes → Prop
  | .again a, sent => Onward config interfaceId responses a sent ∧
      (Progress config responses → walker < a.reportBufferWalker)
  | .done result, sent => Collected config interfaceId responses result sent

section Turn
variable {build : Build} {interfaceId : InterfaceId} {responses : Nat → Except SpdmStatus Bytes}
  {portions sent : List Bytes} {a : Reassembly} {rsp : RspDeviceInterfaceReport}

theorem take_stored (hheld : Holds build.config portions a)
    (hfits : a.reportBufferWalker + rsp.portionLength ≤ maxDeviceReportBuffer build.config)
    (hlength : rsp.report.length = rsp.portionLength) :
    (a.report.take a.reportBufferWalker ++ rsp.report.take rsp.portionLength ++
        a.report.drop (a.reportBufferWalker + rsp.portionLength)).take
          (a.reportBufferWalker + rsp.portionLength) = (portions ++ [rsp.report]).flatten ∧
      (a.report.take a.reportBufferWalker ++ rsp.report.take rsp.portionLength ++
        a.report.drop (a.reportBufferWalker + rsp.portionLength)).length =
          maxDeviceReportBuffer build.config := by
  have hwhole : rsp.report.take rsp.portionLength = rsp.report :=
    List.take_of_length_le (Nat.le_of_eq hlength)
  have hfront : (portions.flatten ++ rsp.report).length =
      a.reportBufferWalker + rsp.portionLength := by
    rw [List.length_append, hlength, hheld.walker_eq]
  rw [hwhole, hheld.stored, List.flatten_append, List.flatten_singleton]
  constructor
  · exact List.take_left' hfront
  · rw [List.length_append, List.length_drop, hheld.length_eq]
    omega

theorem flatten_snoc_length (hheld : Holds build.config portions a)
    (hlength : rsp.report.length = rsp.portionLength) :
    (portions ++ [rsp.report]).flatten.length = a.reportBufferWalker + rsp.portionLength := by
  rw [List.flatten_append, List.flatten_singleton, List.length_append, hlength, hheld.walker_eq]

theorem storePortion_twp (hsize : maxSpdmVendorDefinedPayloadSize build.config ≤ 2 ^ 16 - 1)
    (hheld : Holds build.config portions a) (hlength : rsp.report.length = rsp.portionLength)
    (hportion : rsp.portionLength ≤ maxPortionLength build.config)
    (hgathered : Gathered build.config interfaceId responses (portions ++ [rsp.report]) sent)
    (hprogress : Progress build.config responses →
      rsp.remainderLength ≠ 0 → rsp.portionLength ≠ 0) :
    twp (storePortion build a rsp)
      (AfterTurn build.config interfaceId responses a.reportBufferWalker)
      (fun e _ => e ≠ .endless) sent := by
  unfold storePortion
  refine twp_ite (fun _ => nofun) fun hroom => ?_
  have hfits : a.reportBufferWalker + rsp.portionLength ≤ maxDeviceReportBuffer build.config := by
    omega
  have hwalker := flatten_snoc_length hheld hlength
  obtain ⟨hstored, hstoredLength⟩ := take_stored hheld hfits hlength
  have hmost : maxDeviceReportBuffer build.config < 2 ^ 16 := by
    unfold maxDeviceReportBuffer
    omega
  have hoffset : a.offset + rsp.portionLength < 2 ^ 16 := by
    rw [hheld.offset_eq, ← hheld.walker_eq]
    omega
  rw [twp_bind, twp_assert, Bool.and_eq_true, decide_eq_true_eq, decide_eq_true_eq, hheld.length_eq]
  refine ⟨⟨hfits, hportion⟩, twp_ite (fun _ => ?_) fun hmore => ?_⟩
  · -- the last portion
    exact ⟨hfits, hstoredLength, _, hgathered, hstored⟩
  · rw [twp_bind, twp_assert, decide_eq_true hoffset, Bool.or_true]
    refine ⟨rfl, ⟨_, hgathered, ?_⟩, fun hprog => ?_⟩
    · exact
        { offset_eq := by
            rw [Nat.mod_eq_of_lt hoffset, hwalker, hheld.offset_eq, hheld.walker_eq]
          walker_eq := hwalker.symm
          length_eq := hstoredLength
          walker_le := hfits
          stored := hstored }
    · have hne := hprogress hprog hmore
      show a.reportBufferWalker < a.reportBufferWalker + rsp.portionLength
      omega

theorem reportTurn_twp (hsize : maxSpdmVendorDefinedPayloadSize build.config ≤ 2 ^ 16 - 1)
    (honward : Onward build.config interfaceId responses a sent) :
    twp (reportTurn (exchangeFrom responses) build interfaceId a)
      (AfterTurn build.config interfaceId responses a.reportBufferWalker)
      (fun e _ => e ≠ .endless) sent := by
  obtain ⟨portions, hgathered, hheld⟩ := honward
  unfold reportTurn
  rw [twp_bind, twp_mapErr, twp_bind]
  unfold writeInto
  rw [twp_bind]
  refine twp_guardElse (fun _ => ?_) nofun
  rw [twp_ret]
  unfold exchangeFrom
  rw [twp_bind, twp_read, twp_bind]
  cases hanswer : responses sent.length with
  | error status => exact nofun
  | ok response =>
    show twp (checkResponse build.config interfaceId response >>= storePortion build a) _ _ _
    rw [twp_bind]
    unfold checkResponse
    cases (RspTdispError.parse response).returned with
    | some tdispError => exact nofun
    | none =>
      rw [twp_bind]
      refine twp_orFail (fun rsp hrsp => ?_) nofun
      obtain ⟨rest, hparse⟩ := Outcome.returned_eq_some.1 hrsp
      refine twp_ite (fun _ => nofun) fun _ => ?_
      obtain ⟨hlength, hportion⟩ := RspDeviceInterfaceReport.length_of_parse hparse
      have hnext := hgathered.next hanswer hparse
      rw [← hheld.offset_eq] at hnext
      exact storePortion_twp hsize hheld hlength hportion hnext
        fun hprog => hprog sent.length response rsp rest hanswer hparse

end Turn

/-! ## §4. The whole loop. -/

section Run
variable {build : Build} {interfaceId : InterfaceId} {responses : Nat → Except SpdmStatus Bytes}
  {report : Bytes}

theorem onward_start (hreport : report.length = maxDeviceReportBuffer build.config) :
    Onward build.config interfaceId responses { report } [] :=
  ⟨[], .start,
    { offset_eq := rfl
      walker_eq := rfl
      length_eq := hreport
      walker_le := Nat.zero_le _
      stored := rfl }⟩

theorem reassembly_safe (hsize : maxSpdmVendorDefinedPayloadSize build.config ≤ 2 ^ 16 - 1)
    (hreport : report.length = maxDeviceReportBuffer build.config) (exchanges : Nat) :
    twp (pciTdispReqGetDeviceInterfaceReport (exchangeFrom responses) build interfaceId report
      exchanges) (Collected build.config interfaceId responses) (fun _ _ => True) [] := by
  have hstart : Onward build.config interfaceId responses { report } [] := onward_start hreport
  refine twp_loop_dry (fun a sent honward => ?_) (fun _ => trivial) hstart
  refine twp_mono (reportTurn_twp hsize honward) (fun t sent' hafter => ?_) fun _ _ _ => trivial
  cases t with
  | done result => exact hafter
  | again a' => exact ⟨hafter.1, Nat.zero_lt_one⟩

theorem reassembly_ends (hsize : maxSpdmVendorDefinedPayloadSize build.config ≤ 2 ^ 16 - 1)
    (hreport : report.length = maxDeviceReportBuffer build.config)
    (hprogress : Progress build.config responses) {exchanges : Nat}
    (henough : maxDeviceReportBuffer build.config < exchanges) :
    twp (pciTdispReqGetDeviceInterfaceReport (exchangeFrom responses) build interfaceId report
      exchanges) (fun _ _ => True) (fun e _ => e ≠ .endless) [] := by
  refine @twp_loop _ _ _ _ _ _ (Onward build.config interfaceId responses)
    (fun a _ => maxDeviceReportBuffer build.config - a.reportBufferWalker) _ _ _ _ _
    (fun a sent honward => ?_) (onward_start hreport) henough
  refine twp_mono (reportTurn_twp hsize honward) (fun t sent' hafter => ?_) fun _ _ h => h
  cases t with
  | done result => trivial
  | again a' =>
    obtain ⟨portions, -, hheld⟩ := hafter.1
    have hle := hheld.walker_le
    have hlt := hafter.2 hprogress
    exact ⟨hafter.1, by dsimp only; omega⟩

/-- **When the report is put together**: if every portion that is not the last
has bytes in it. -/
theorem reassembles_of_progress
    (hsize : maxSpdmVendorDefinedPayloadSize build.config ≤ 2 ^ 16 - 1)
    (hreport : report.length = maxDeviceReportBuffer build.config)
    (hprogress : Progress build.config responses) :
    Reassembles build interfaceId responses report where
  ne_panic exchanges := (reassembly_safe hsize hreport exchanges).ne_panic
  ends exchanges sent henough := by
    intro hendless
    exact wp_err (reassembly_ends hsize hreport hprogress henough).wp hendless rfl
  collected exchanges result sent hrun := (reassembly_safe hsize hreport exchanges).of_ok hrun

end Run

end Tdisp

namespace SmallBackend

open Tdisp

def emptyReport : Bytes := List.replicate 116 0

def twoPortions (i : Nat) : Except SpdmStatus Bytes :=
  .ok (if i = 0 then (portionResponse {} [1, 2] 1).encode else (portionResponse {} [3] 0).encode)

theorem progress_twoPortions : Progress (smallBuild false false).config twoPortions := by
  intro i response rsp rest hanswer hparse hmore
  cases hanswer
  by_cases hfirst : i = 0
  · rw [if_pos hfirst, parse_portionResponse (by decide) (by decide) (by decide)] at hparse
    cases hparse
    decide
  · -- nothing is left behind the second
    rw [if_neg hfirst, parse_portionResponse (by decide) (by decide) (by decide)] at hparse
    cases hparse
    exact absurd rfl hmore

theorem reassembles_twoPortions :
    Reassembles (smallBuild false false) {} twoPortions emptyReport :=
  reassembles_of_progress (by decide) (by decide) progress_twoPortions

def emptyPortions (_ : Nat) : Except SpdmStatus Bytes := .ok (portionResponse {} [] 1).encode

def firstRequest : Bytes := (reportRequest (smallBuild false false).config {} 0).encode

theorem reportTurn_emptyPortions (sent : List Bytes) :
    reportTurn (exchangeFrom emptyPortions) (smallBuild false false) {} { report := emptyReport }
      sent = .ok (.again { report := emptyReport }) (sent ++ [firstRequest]) := by
  have hexchange : exchangeFrom emptyPortions
      (reportRequest (smallBuild false false).config {} ({ report := emptyReport } :
        Reassembly).offset).encode sent =
      .ok (portionResponse {} [] 1).encode (sent ++ [firstRequest]) := rfl
  rw [reportTurn_of_ok (by decide) hexchange,
    checkResponse_portion (by decide) (by decide) (by decide)]
  rfl

theorem empty_portions_endless :
    (∀ exchanges, pciTdispReqGetDeviceInterfaceReport (exchangeFrom emptyPortions)
      (smallBuild false false) {} emptyReport exchanges [] =
        .err .endless (List.replicate exchanges firstRequest)) ∧
    ¬ Reassembles (smallBuild false false) {} emptyPortions emptyReport := by
  have hloop : ∀ exchanges sent, pciTdispReqGetDeviceInterfaceReport (exchangeFrom emptyPortions)
      (smallBuild false false) {} emptyReport exchanges sent =
        .err .endless (sent ++ List.replicate exchanges firstRequest) := by
    intro exchanges
    induction exchanges with
    | zero =>
      intro sent
      rw [List.replicate_zero, List.append_nil]
      rfl
    | succ n ih =>
      intro sent
      unfold pciTdispReqGetDeviceInterfaceReport at ih ⊢
      rw [loop_succ_again (reportTurn_emptyPortions sent), ih, List.append_assoc]
      rfl
  refine ⟨fun exchanges => by rw [hloop, List.nil_append], fun h => ?_⟩
  exact h.ends _ _ (Nat.le_refl _) (hloop _ [])

end SmallBackend

end Spdm
