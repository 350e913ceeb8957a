/-
  Spdm.Responder.Error — how a responder's handlers answer (`responder/error_rsp.rs`).
-/
import Spdm.Context.Channel
import Spdm.Protocol.Device

namespace Spdm

open Effect Codec

variable {e : SpdmStatus} {code : UInt8}

namespace Responder

open SpdmRequestResponseCode SpdmErrorCode

abbrev Refusal := SpdmStatus × Option Bytes

abbrev Handler (α : Type) := Prog SpdmContext Refusal α

/-- A dispatcher: the session, the request, and the response. -/
abbrev Dispatch := Option Nat → Bytes → Handler (Option Bytes)

def errorMessage (c : SpdmContext) (errorCode errorData : UInt8) : Bytes :=
  encodeHeader c.negotiateInfo.spdmVersionSel spdmResponseError ++ [errorCode, errorData]

def refuse {α : Type} (e : SpdmStatus) (errorCode : UInt8) : Handler α := do
  let c ← read
  fail (e, some (errorMessage c errorCode 0))

def demand (b : Bool) (e : SpdmStatus) (errorCode : UInt8) : Handler Unit :=
  if b then ret () else refuse e errorCode

def expect {α : Type} (o : Option α) (e : SpdmStatus) (errorCode : UInt8) : Handler α :=
  match o with
  | some a => ret a
  | none => refuse e errorCode

def orRefuse {α : Type} (m : SpdmResult α) (e : SpdmStatus) (errorCode : UInt8) :
    Handler α := do
  let r ← attempt m
  match r with
  | .ok a => ret a
  | .error _ => refuse e errorCode

def respond (m : Bytes) : Handler Bytes := do
  let c ← read
  demand (decide (m.length ≤ c.build.config.maxSpdmMsgSize)) .invalidStateLocal spdmErrorUnspecified
  ret m

def readHeader (bytes : Bytes) (noHeader : SpdmStatus) : Handler Bytes := do
  let c ← read
  let header ← parseRest parseHeader bytes
  let (header, rest) ← expect header noHeader spdmErrorInvalidRequest
  demand (header.version == c.negotiateInfo.spdmVersionSel) .invalidMsgField
    spdmErrorVersionMismatch
  ret rest

def readPayload {α : Type} (p : Parser α) (rest : Bytes) (e : SpdmStatus) :
    Handler (α × Bytes) := do
  let r ← parseRest p rest
  expect r e spdmErrorInvalidRequest

def handleErrorRequest (errorCode : UInt8) (bytes : Bytes) : Handler Bytes := do
  let c ← read
  let header ← parseRest parseHeader bytes
  let (header, _) ← expect header .invalidMsgField spdmErrorInvalidRequest
  demand (header.version == c.negotiateInfo.spdmVersionSel) .invalidMsgField
    spdmErrorVersionMismatch
  ret (errorMessage c errorCode
    (if errorCode = spdmErrorUnsupportedRequest then header.requestResponseCode else 0))

/-! ## Reading a request. -/

def headerRest (v : SpdmVersion) (bytes : Bytes) : Option Bytes :=
  match parseHeader bytes with
  | .ok header rest => if header.version == v then some rest else none
  | _ => none

def payloadOf {α : Type} (p : Parser α) (v : SpdmVersion) (bytes : Bytes) : Option α :=
  (headerRest v bytes).bind fun rest => (p rest).returned

variable {α : Type} {bytes rest : Bytes} {c c' : SpdmContext}

theorem headerRest_eq_some {v : SpdmVersion} (h : headerRest v bytes = some rest) :
    ∃ header, parseHeader bytes = .ok header rest ∧ (header.version == v) = true := by
  unfold headerRest at h
  cases hparse : parseHeader bytes with
  | ok header left =>
    simp only [hparse, Option.ite_none_right_eq_some, Option.some.injEq] at h
    obtain ⟨hversion, rfl⟩ := h
    exact ⟨header, rfl, hversion⟩
  | err e left => simp [hparse] at h
  | panic => simp [hparse] at h

theorem readHeader_of_some (e : SpdmStatus)
    (h : headerRest c.negotiateInfo.spdmVersionSel bytes = some rest) :
    readHeader bytes e c = .ok rest c := by
  obtain ⟨header, hparse, hversion⟩ := headerRest_eq_some h
  have hread : (parseRest parseHeader bytes : Handler _) c = .ok (some (header, rest)) c := by
    rw [parseRest, hparse]
    rfl
  have hdemand : demand (header.version == c.negotiateInfo.spdmVersionSel)
      .invalidMsgField spdmErrorVersionMismatch c = .ok () c := by
    rw [hversion]
    rfl
  unfold readHeader
  rw [read_bind, bind_of_ok hread]
  exact bind_of_ok hdemand

theorem readHeader_of_none (e : SpdmStatus)
    (h : headerRest c.negotiateInfo.spdmVersionSel bytes = none) :
    wp (readHeader bytes e) (fun _ _ => False) (fun _ c' => c' = c) c := by
  unfold headerRest at h
  unfold readHeader
  simp only [wp_bind, wp_read, wp_parseRest]
  refine ⟨fun header left hparse => ?_, fun _ _ _ => rfl⟩
  rw [hparse] at h
  have hversion : (header.version == c.negotiateInfo.spdmVersionSel) = false := by simpa using h
  rw [expect, wp_ret, demand, if_neg (by rw [hversion]; decide)]
  exact rfl

theorem readPayload_of_ok {p : Parser α} {a : α} {left : Bytes} {c : SpdmContext}
    (h : p rest = .ok a left) : readPayload p rest e c = .ok (a, left) c := by
  simp only [readPayload, bind_apply, parseRest, h, ret, expect]

theorem readPayload_of_none {p : Parser α} (h : (p rest).returned = none) :
    wp (readPayload p rest e) (fun _ _ => False) (fun _ c' => c' = c) c := by
  unfold readPayload
  simp only [wp_bind, wp_parseRest]
  exact ⟨fun a left hp => (by simp [hp, Outcome.returned] at h), fun _ _ _ => rfl⟩

theorem demand_eq_ok {b : Bool} {u : Unit}
    (h : demand b e code c = .ok u c') : b = true ∧ c' = c := by
  cases b with
  | false => cases h
  | true => cases h; exact ⟨rfl, rfl⟩

theorem expect_eq_ok {o : Option α} {a : α}
    (h : expect o e code c = .ok a c') : o = some a ∧ c' = c := by
  cases o with
  | none => cases h
  | some b => cases h; exact ⟨rfl, rfl⟩

theorem orRefuse_eq_ok {m : SpdmResult α} {a : α}
    (h : orRefuse m e code c = .ok a c') : m c = .ok a c' := by
  unfold orRefuse at h
  rw [bind_apply, attempt] at h
  cases hm : m c with
  | ok b c₁ => rw [hm] at h; cases h; rfl
  | err e' c₁ => rw [hm] at h; cases h
  | panic => rw [hm] at h; cases h

theorem readPayload_eq_ok {p : Parser α} {left : Bytes} {a : α}
    (h : readPayload p rest e c = .ok (a, left) c') : c' = c ∧ p rest = .ok a left := by
  obtain ⟨r, c₁, hparse, hexpect⟩ := bind_eq_ok.1 h
  obtain ⟨rfl, hread⟩ := parseRest_eq_ok hparse
  obtain ⟨rfl, rfl⟩ := expect_eq_ok hexpect
  exact ⟨rfl, hread a left rfl⟩

end Responder

end Spdm
