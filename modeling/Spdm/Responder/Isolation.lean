/-
  Spdm.Responder.Isolation — sessions do not disturb each other.
-/
import Spdm.Context.Small
import Spdm.Responder.Run

namespace Spdm

open Effect Codec

namespace Responder

open SpdmContext SpdmRequestResponseCode

/-! ## §1. Steps on one session. -/

def OnlySession (id : Nat) (c c' : SpdmContext) : Prop :=
  c'.session.length = c.session.length ∧
    ∀ (i : Nat) (s : SpdmSession), c.session[i]? = some s → s.sessionId ≠ id →
      c'.session[i]? = some s

namespace OnlySession
variable {id : Nat} {c c' : SpdmContext}

instance : StepRel (OnlySession id) where
  refl _ := ⟨rfl, fun _ _ h _ => h⟩
  trans h h' := ⟨h'.1.trans h.1, fun i s hi hs => h'.2 i s (h.2 i s hi hs) hs⟩

theorem of_session_eq (h : c'.session = c.session) : OnlySession id c c' :=
  ⟨by rw [h], fun _ _ hi _ => h ▸ hi⟩

theorem setSlot {i : Nat} {s t : SpdmSession} (hat : SlotAt c id i s) :
    OnlySession id c (c.setSlot i t) := by
  refine ⟨by simp, fun j u hj hu => getElem?_setSlot_ne hj fun hij => ?_⟩
  subst hij
  obtain rfl := Option.some.inj (hj.symm.trans hat.slot)
  exact hu hat.sessionId

theorem mildAct (h : MildAct (Eq id) c c') : OnlySession id c c' := by
  cases h with
  | quiet h => exact of_session_eq h.session
  | slot htouch hat _ =>
    subst htouch
    exact setSlot hat

theorem wire (h : WireStep c c') : OnlySession id c c' := by
  exact of_session_eq (by rw [h])

theorem within_mild {ε α : Type} {m : Prog SpdmContext ε α}
    (h : Within (Steps (MildAct (Eq id))) m) : Within (OnlySession id) m :=
  h.mono fun _ _ hs => hs.lift fun _ _ => mildAct

theorem within_session {ε α : Type} {m : Prog SpdmSession ε α} {e : ε} :
    Within (OnlySession id) (withSession id e m) :=
  within_withSession_of fun _ _ _ _ hat _ => setSlot hat

end OnlySession

open OnlySession

section
variable [Crypto] [Device] {id : Nat}

/-! ## §2. A request of a session. -/

omit [Device] in
theorem within_deriveData_session (th2 : Bytes) : Within (OnlySession id) (deriveData id th2) := by
  refine .bind .read fun _ => .bind (.attempt within_session) fun r => ?_
  cases r with
  | ok _ => exact .ret _
  | error e => exact within_refuse

theorem within_dispatchAt_session (depth : Nat) (bytes : Bytes) :
    Within (OnlySession id) (dispatchAt depth (some id) bytes) := by
  induction depth generalizing bytes with
  | zero => exact .abort
  | succ depth ih =>
    have hleads : ∀ {α : Type} {m : Handler α}, Leads (fun _ => True) (OnlySession id)
        (fun _ _ => True) m → Within (OnlySession id) m := fun h => h.within.mono fun _ _ h =>
          h trivial
    have hderive := fun th2 => Leads.of_within (I := fun _ => True)
      (show Within (OnlySession id) _ from within_deriveData_session th2)
    have hown : Eq id id := rfl
    have hnote : ∀ c c', NoteAct (Eq id) c c' → OnlySession id c c' := fun _ _ h => mildAct h.mild
    have hdown : ∀ c, OnlySession id c (teardownSession id c) := fun c =>
      (steps_teardownSession hown c).lift fun _ _ => mildAct
    refine fun c => wp_dispatchAt (fun _ => StepRel.refl (R := OnlySession id) c)
      fun service hservice => ?_
    have hrouted := routed_of_serviceOf hservice
    have ht : ∀ j, some id = some j ∨ service = .heartbeat j → id = j := by
      rintro j (h | rfl)
      · exact Option.some.inj h
      · exact Option.some.inj hrouted.1
    cases service with
    | version | capability | algorithm => cases hrouted.1
    | keyExchange | pskExchange => cases hrouted
    | chunkSend => exact within_handleSpdmChunkSend (fun _ _ h => wire h.wire) ih bytes c
    | chunkGet =>
      have hget : Within (OnlySession id) (handleSpdmChunkGet bytes) :=
        within_handleSpdmChunkGet (fun _ _ h => wire h.wire) bytes
      exact within_answer hget c
    | finish j =>
      obtain rfl := hrouted.1 id rfl
      exact hleads (leads_finish hown hnote hdown (fun _ _ _ h => h) hderive bytes) c
    | pskFinish j =>
      cases hrouted.1
      exact within_answer
        (hleads (leads_pskFinish hown hnote hdown (fun _ _ _ h => h) hderive bytes)) c
    | keyUpdate j =>
      cases hrouted.1
      exact within_answer (within_keyUpdate hown hnote (fun _ _ => within_session) bytes) c
    | endSession j =>
      cases hrouted.1
      exact within_answer (within_mild (within_handleSpdmEndSession hown)) c
    | _ => exact within_mild (within_handle_notes rfl ht) c

/-! ## §3. Processing. -/

omit [Device] in
theorem within_sendResponse_session {isApp : Bool} {r : Except SpdmStatus Unit × Option Bytes} :
    Within (OnlySession id) (sendResponse (some id) isApp r) := by
  have hestablish : Within (OnlySession id) (establish id) :=
    .bind within_session fun _ => within_mild within_callWatchdog
  refine within_sendResponse (fun message => ?_) r
  rw [sendMessage_eq]
  exact .bind (within_sealAndSend (R := OnlySession id)
    (fun _ => within_keepLargeResponse (fun _ _ h => wire h.wire) _)
    (fun _ hid _ _ _ => by cases hid; exact within_session) (fun _ _ => of_session_eq rfl) _ _)
    fun _ => within_settleSent (R := OnlySession id) (fun _ => of_session_eq rfl)
      (fun _ _ => of_session_eq rfl) (fun _ hid => by cases hid; exact within_session)
      (fun _ hid => by cases hid; exact hestablish) (fun hid => by cases hid) _

def addressee (c : SpdmContext) : Option Nat :=
  match receiveMessage c with
  | .ok (message, true) _ =>
    match uintLe 4 message with
    | .ok id _ => some id
    | _ => none
  | _ => none

theorem within_serveSecured_session {depth : Nat} {message : Bytes}
    (hid : ∃ rest, uintLe 4 message = .ok id rest) :
    Within (OnlySession id) (serveSecured depth message) := by
  obtain ⟨rest, hid⟩ := hid
  have hrequest : ∀ request, Within (OnlySession id) (serveRequest depth (some id) request) := by
    intro request c
    have hstate : OnlySession id c (requestState request c) :=
      wire (chunkStep_requestState request c).wire
    exact wp_serve (fun _ => StepRel.refl c) (wp_mono (within_dispatchAt_session depth request _)
      (fun _ _ => StepRel.trans hstate) fun _ _ => StepRel.trans hstate) fun r c₁ h =>
        wp_mono (within_sendResponse_session c₁) (fun _ _ => StepRel.trans h) fun _ _ =>
          StepRel.trans h
  have hdecode : Within (OnlySession id) (decodeRequest id message) :=
    .bind .read fun _ => .bind (.mapErr within_session) fun _ => .mapErr within_liftCall
  intro c
  unfold serveSecured
  rw [wp_bind, wp_parse, hid]
  refine ⟨fun a rest h => ?_, fun e rest h => by cases h⟩
  cases h
  rw [wp_bind, wp_orFail]
  refine ⟨fun a h => ?_, fun h => by cases h⟩
  cases h
  refine Within.bind hdecode (fun decoded => ?_) c
  obtain ⟨request, isApp⟩ := decoded
  refine .bind (within_mild within_callWatchdog) fun _ => ?_
  cases isApp with
  | true => exact .bind (.update fun _ => of_session_eq rfl) fun _ =>
      within_sendResponse_session
  | false => exact hrequest request

/-- **Session isolation.**  A secured message for session `id`, whatever it
holds and in whatever state it meets the responder: after the call of
`process_message` the slots of all other sessions are as they were. -/
theorem session_isolation {depth : Nat} {c c' : SpdmContext}
    (hto : addressee c = some id) (hran : Ran (processMessage depth) c c') :
    OnlySession id c c' := by
  unfold addressee at hto
  split at hto
  case h_2 => cases hto
  case h_1 message c₁ hreceive =>
    split at hto
    case h_2 => cases hto
    case h_1 _ rest hid =>
      cases hto
      have hdevice : OnlySession id c c₁ := wire (within_receiveMessage.of_ok hreceive).wire
      obtain ⟨e, herr⟩ | ⟨_, c₂, hok, hserve⟩ := Ran.of_bind hran
      · rw [hreceive] at herr
        cases herr
      · rw [hreceive] at hok
        cases hok
        exact StepRel.trans hdevice ((within_serveSecured_session ⟨rest, hid⟩).ran hserve)

end

/-! ## §4. Two sessions. -/

namespace SmallRun

open SmallBackend

def twoSessions : SpdmContext :=
  let c := { smallContext (smallSession 0 0 0) [] with
    session := [smallSession 0 0 0, { smallSession 0 0 0 with sessionId := 0xFFFCFFFC }] }
  { c with world := { c.world with inbox := [some (inSession false
    (encodeHeader .spdmVersion12 spdmRequestHeartbeat ++ [0, 0]) c)] } }

theorem session_isolation_heartbeat : ∃ c', Ran (processMessage 3) twoSessions c' ∧
    c'.session[0]? ≠ twoSessions.session[0]? ∧ c'.session[1]? = twoSessions.session[1]? := by
  have hrun : (processMessage 3 twoSessions).okWith
      (fun _ c' => c'.session[0]? != twoSessions.session[0]?) = true := by
    decide +kernel
  obtain ⟨r, c', hok, hchanged⟩ := Outcome.exists_of_okWith hrun
  have hran : Ran (processMessage 3) twoSessions c' := .inl ⟨r, hok⟩
  have honly : OnlySession 0xFFFDFFFD twoSessions c' :=
    session_isolation (by decide +kernel) hran
  exact ⟨c', hran, by simpa using hchanged, honly.2 1 _ rfl (by decide)⟩

end SmallRun

end Responder

end Spdm
