/-
  Spdm.Responder.Standing — which sessions are established.
-/
import Spdm.Responder.Order
import Spdm.Responder.Service

namespace Spdm

open Effect Codec

variable {c c' : SpdmContext} {id i period size : Nat} {s t : SpdmSession} {code : UInt8}
    {R : SpdmContext → SpdmContext → Prop}

namespace Responder

open SpdmContext SpdmRequestResponseCode SpdmErrorCode

/-! ## §1. Established sessions and running watchdogs. -/

structure StandsFor (s : SpdmSession) (id period : Nat) : Prop where
  sessionId : s.sessionId = id
  state : s.sessionState = .established
  period : s.heartbeatPeriod = period

def Live (c : SpdmContext) (id period : Nat) : Prop := ∃ s ∈ c.session, StandsFor s id period

def NotLive (c : SpdmContext) (id : Nat) : Prop := ∀ period, ¬ Live c id period

def watchdogAfter (running : Nat → Option Nat) : WatchdogCall → Nat → Option Nat
  | .start id seconds => fun j => if j = id then some seconds else running j
  | .reset _ => running
  | .stop id => fun j => if j = id then none else running j

def running (calls : List WatchdogCall) : Nat → Option Nat :=
  calls.foldl watchdogAfter fun _ => none

theorem running_append {calls : List WatchdogCall} {call : WatchdogCall} :
    running (calls ++ [call]) = watchdogAfter (running calls) call := by
  simp [running]

def Spent (s : SpdmSession) : Prop :=
  s.sessionState = .established ∧ (s.direction false).sequenceNumber = maxSequenceNumber

def Unspent (c : SpdmContext) : Prop := ∀ s ∈ c.session, ¬ Spent s

structure SameLive (c c' : SpdmContext) : Prop where
  live : ∀ id period, Live c' id period ↔ Live c id period
  running : running c'.world.watchdog = running c.world.watchdog

structure Stands (c c' : SpdmContext) : Prop extends SameLive c c' where
  unspent : Unspent c → Unspent c'

instance : StepRel SameLive where
  refl _ := ⟨fun _ _ => Iff.rfl, rfl⟩
  trans h h' := ⟨fun id period => (h'.live id period).trans (h.live id period),
    h'.running.trans h.running⟩

instance : StepRel Stands where
  refl c := ⟨StepRel.refl c, fun h => h⟩
  trans h h' := ⟨StepRel.trans h.toSameLive h'.toSameLive, fun hc => h'.unspent (h.unspent hc)⟩

theorem SameLive.notLive (h : SameLive c c') (hc : NotLive c id) :
    NotLive c' id := fun period hlive => hc period ((h.live id period).1 hlive)

theorem NotLive.state (h : NotLive c id)
    (hs : s ∈ c.session) (hid : s.sessionId = id) : s.sessionState ≠ .established :=
  fun hstate => h _ ⟨s, hs, hid, hstate, rfl⟩

theorem Table.notLive (h : Table false c) : NotLive c invalidSessionId := by
  rintro period ⟨s, hs, hid, hstate, -⟩
  rw [h.free s hs hid] at hstate
  cases hstate

theorem live_iff (hs : c.session[i]? = some s)
    (id period : Nat) : Live c id period ↔ StandsFor s id period ∨
      ∃ j u, j ≠ i ∧ c.session[j]? = some u ∧ StandsFor u id period := by
  constructor
  · rintro ⟨u, hu, hfor⟩
    obtain ⟨j, hj⟩ := List.mem_iff_getElem?.1 hu
    by_cases hij : j = i
    · subst hij
      cases hs.symm.trans hj
      exact .inl hfor
    · exact .inr ⟨j, u, hij, hj, hfor⟩
  · rintro (hfor | ⟨j, u, -, hj, hfor⟩)
    · exact ⟨s, List.mem_of_getElem? hs, hfor⟩
    · exact ⟨u, List.mem_of_getElem? hj, hfor⟩

theorem live_setSlot_iff (t : SpdmSession)
    (hs : c.session[i]? = some s) (id period : Nat) :
    Live (c.setSlot i t) id period ↔ StandsFor t id period ∨
      ∃ j u, j ≠ i ∧ c.session[j]? = some u ∧ StandsFor u id period := by
  have hlt : i < c.session.length := (List.getElem?_eq_some_iff.1 hs).1
  have hset : (c.setSlot i t).session[i]? = some t := by simp [hlt]
  have hother : ∀ j, j ≠ i → (c.setSlot i t).session[j]? = c.session[j]? := fun j hj => by
    rw [SpdmContext.setSlot_session, List.getElem?_set_ne (Ne.symm hj)]
  rw [live_iff hset]
  refine or_congr Iff.rfl (exists_congr fun j => exists_congr fun u => and_congr_right fun hj => ?_)
  rw [hother j hj]

theorem SameLive.setSlot
    (hs : c.session[i]? = some s)
    (hfor : ∀ id period, StandsFor t id period ↔ StandsFor s id period) :
    SameLive c (c.setSlot i t) := by
  refine ⟨fun id period => ?_, rfl⟩
  rw [live_setSlot_iff t hs, live_iff hs, hfor]

theorem Stands.setSlot
    (hs : c.session[i]? = some s) (hfor : ∀ id period, StandsFor t id period ↔
      StandsFor s id period)
    (hspent : Spent t → Spent s) : Stands c (c.setSlot i t) := by
  refine ⟨.setSlot hs hfor, fun hc u hu => ?_⟩
  obtain hu | rfl := List.mem_or_eq_of_mem_set hu
  · exact hc u hu
  · exact fun ht => hc s (List.mem_of_getElem? hs) (hspent ht)

theorem Stands.of_session_eq (hsession : c'.session = c.session)
    (hwatchdog : c'.world.watchdog = c.world.watchdog) : Stands c c' := by
  refine ⟨⟨fun id period => ?_, by rw [hwatchdog]⟩, fun hc s hs => hc s (hsession ▸ hs)⟩
  unfold Live
  rw [hsession]

instance : MildRel anySession Stands where
  silent h := .of_session_eq h.session h.watchdog
  note _ hat h := by
    unfold NoteStep at h
    refine .setSlot hat.slot (fun id period => ?_) fun ht => ?_
    · rw [h]
      exact ⟨fun ⟨h₁, h₂, h₃⟩ => ⟨h₁, h₂, h₃⟩, fun ⟨h₁, h₂, h₃⟩ => ⟨h₁, h₂, h₃⟩⟩
    · rw [h] at ht
      exact ht

/-! ## §2. Sessions and their periods. -/

def KeepsPeriods (but : Nat → Prop) (c c' : SpdmContext) : Prop :=
  ∀ t ∈ c'.session, t.sessionId ≠ invalidSessionId → ¬ but t.sessionId →
    ∃ s ∈ c.session, s.sessionId = t.sessionId ∧ s.heartbeatPeriod = t.heartbeatPeriod

instance (but : Nat → Prop) : StepRel (KeepsPeriods but) where
  refl _ t ht _ _ := ⟨t, ht, rfl, rfl⟩
  trans h h' t ht hused hbut := by
    obtain ⟨u, hu, hid, hperiod⟩ := h' t ht hused hbut
    obtain ⟨s, hs, hid', hperiod'⟩ := h u hu (hid ▸ hused) (hid ▸ hbut)
    exact ⟨s, hs, hid'.trans hid, hperiod'.trans hperiod⟩

namespace KeepsPeriods
variable {but : Nat → Prop} {c c' : SpdmContext}

theorem of_session_eq (h : c'.session = c.session) : KeepsPeriods but c c' :=
  fun t ht _ _ => ⟨t, h ▸ ht, rfl, rfl⟩

theorem setSlot (hs : c.session[i]? = some s)
    (h : t.sessionId ≠ invalidSessionId → ¬ but t.sessionId →
      s.sessionId = t.sessionId ∧ s.heartbeatPeriod = t.heartbeatPeriod) :
    KeepsPeriods but c (c.setSlot i t) := by
  intro u hu hused hbut
  obtain hu | rfl := List.mem_or_eq_of_mem_set hu
  · exact ⟨u, hu, rfl, rfl⟩
  · exact ⟨s, List.mem_of_getElem? hs, h hused hbut⟩

end KeepsPeriods

instance (but : Nat → Prop) : MildRel anySession (KeepsPeriods but) where
  silent h := .of_session_eq h.session
  note _ hat h := by
    unfold NoteStep at h
    refine .setSlot hat.slot fun _ _ => ?_
    rw [h]
    exact ⟨rfl, rfl⟩

/-! ## §3. Work on a session of its own. -/

inductive OwnAct (id : Nat) (c : SpdmContext) : SpdmContext → Prop where
  | note {c' : SpdmContext} (h : NoteAct anySession c c') : OwnAct id c c'
  | slot {j i : Nat} {s t : SpdmSession} (hj : j = id ∨ j = invalidSessionId)
      (hat : SlotAt c j i s) (hid : t.sessionId = id ∨ t.sessionId = invalidSessionId)
      (hstate : t.sessionState = .established → s.sessionState = .established) :
      OwnAct id c (c.setSlot i t)
  | last (o : Option Nat) : OwnAct id c
      { c with runtimeInfo := { c.runtimeInfo with lastSessionId := o } }

instance (id : Nat) : MildRel anySession (Steps (OwnAct id)) where
  silent h := .single (.note (.silent h))
  note ht hat h := .single (.note (.note ht hat h))

def Spares (id : Nat) (c c' : SpdmContext) : Prop :=
  NotLive c id → NotLive c invalidSessionId → Stands c c'

instance (id : Nat) : StepRel (Spares id) where
  refl c _ _ := StepRel.refl (R := Stands) c
  trans h h' hc hfree := StepRel.trans (R := Stands) (h hc hfree)
    (h' ((h hc hfree).notLive hc) ((h hc hfree).notLive hfree))

theorem OwnAct.spares (h : OwnAct id c c') : Spares id c c' := by
  intro hc hfree
  cases h with
  | note h => exact h.rel
  | last => exact .of_session_eq rfl rfl
  | @slot j i s t hj hat hid hstate =>
    have hs : s.sessionState ≠ .established := by
      have hmem := List.mem_of_getElem? hat.slot
      obtain rfl | rfl := hj
      · exact hc.state hmem hat.sessionId
      · exact hfree.state hmem hat.sessionId
    refine .setSlot hat.slot (fun _ _ => ?_) fun ht => absurd (hstate ht.1) hs
    exact iff_of_false (fun h => hs (hstate h.state)) fun h => hs h.state

theorem OwnAct.keepsPeriods (h : OwnAct id c c') :
    KeepsPeriods (· = id) c c' := by
  cases h with
  | note h => exact h.rel
  | last => exact .of_session_eq rfl
  | slot _ hat hid _ =>
    refine .setSlot hat.slot fun hused hbut => ?_
    obtain h | h := hid
    · exact absurd h hbut
    · exact absurd h hused

def Announces (code : UInt8) (period : Nat) (m : Bytes) : Prop :=
  ∃ version, [version, code, UInt8.ofNat period] <+: m

theorem Announces.append {m : Bytes} (h : Announces code period m)
    (rest : Bytes) : Announces code period (m ++ rest) :=
  h.imp fun _ h => h.trans (List.prefix_append _ _)

def HasPeriod (id period : Nat) (c : SpdmContext) : Prop :=
  ∃ s ∈ c.session, s.sessionId = id ∧ s.heartbeatPeriod = period

theorem OwnAct.configInfo (h : OwnAct id c c') :
    c'.configInfo = c.configInfo := by
  cases h with
  | slot => rfl
  | last => rfl
  | note h =>
    cases h with
    | silent h => exact h.configInfo
    | note => rfl

theorem SilentStep.pskWithoutContext (h : SilentStep c c') :
    c'.pskWithoutContext = c.pskWithoutContext := by
  unfold SpdmContext.pskWithoutContext
  rw [h.negotiateInfo]

theorem OwnAct.pskWithoutContext (h : OwnAct id c c') :
    c'.pskWithoutContext = c.pskWithoutContext := by
  cases h with
  | slot => rfl
  | last => rfl
  | note h =>
    cases h with
    | silent h => exact SilentStep.pskWithoutContext h
    | note => rfl

section Own
variable {id : Nat} {ε α : Type}

structure SlotKept (s t : SpdmSession) : Prop where
  sessionId : t.sessionId = s.sessionId
  state : t.sessionState = .established → s.sessionState = .established

instance : StepRel SlotKept where
  refl _ := ⟨rfl, fun h => h⟩
  trans h h' := ⟨h'.sessionId.trans h.sessionId, fun ht => h.state (h'.state ht)⟩

theorem within_own {m : Prog SpdmSession ε α} {e : ε} (hm : Within SlotKept m) :
    Within (Steps (OwnAct id)) (withSession id e m) :=
  within_withSession_of fun _ _ _ _ hat hran =>
    have hkept := hm.ran hran
    .single (.slot (.inl rfl) hat (.inl (hkept.sessionId.trans hat.sessionId)) hkept.state)

theorem own_teardownSession (c : SpdmContext) : Steps (OwnAct id) c (teardownSession id c) :=
  mapSession_of fun hat => .single (.slot (.inl rfl) hat (.inr rfl) fun h => by cases h)

theorem within_changeSession_own {f : SpdmSession → SpdmSession} (hf : ∀ s, SlotKept s (f s)) :
    Within (Steps (OwnAct id)) (changeSession id f) :=
  within_orRefuse (within_own (.update hf))

theorem within_sessionStep [StepRel R]
    {m : Prog SpdmSession SpdmStatus Unit}
    (hm : Within R (withSession id SpdmStatus.invalidStateLocal m)) :
    Within R (sessionStep id m) := by
  refine .bind (.attempt hm) fun r => ?_
  cases r with
  | ok _ => exact .ret _
  | error _ => exact within_refuse

variable [Crypto]

theorem within_deriveHandshake_own {th1 : Bytes} :
    Within (Steps (OwnAct id)) (deriveHandshake id th1) :=
  .bind .read fun _ => within_sessionStep <| within_own <|
    .bind (.update fun _ => ⟨rfl, fun h => h⟩) fun _ =>
    (SpdmSession.within_generateHandshakeSecret _ _).mono fun _ _ h =>
      ⟨h.sessionId_eq, fun ht => by rwa [h.1] at ht⟩

theorem within_deriveData_own (th2 : Bytes) : Within (Steps (OwnAct id)) (deriveData id th2) :=
  .bind .read fun _ => within_sessionStep <| within_own <|
    .bind (.update fun _ => ⟨rfl, fun h => h⟩) fun _ =>
    (SpdmSession.within_generateDataSecret _ _).mono fun _ _ h =>
      ⟨h.sessionId_eq, fun ht => h.sessionState_eq ▸ ht⟩

theorem within_responseMac_own {hash : Bytes} :
    Within (Steps (OwnAct id)) (responseMac id hash) := by
  refine .bind within_sessionOf fun s => ?_
  cases s.generateHmacWithResponseFinishedKey hash with
  | some mac => exact .ret _
  | none => exact .bind (.update own_teardownSession) fun _ => within_refuse

section
omit [Crypto]

theorem within_setup_own {k : Prog SpdmSession SpdmStatus α} (hk : Within SetupStep k) :
    Within (Steps (OwnAct id)) (withSession invalidSessionId SpdmStatus.invalidStateLocal
      (SpdmSession.setup id >>= fun _ => k)) :=
  within_withSession_of fun _ _ s _ hat hran => by
    obtain ⟨hfresh, hid⟩ := hran.of_wp (wp_setup hk)
    exact .single (.slot (.inr rfl) hat (.inl hid) fun h => by rw [hfresh.state] at h; cases h)

theorem leads_changeSession_own {I : SpdmContext → Prop}
    {f : SpdmSession → SpdmSession} (hf : ∀ s, SlotKept s (f s))
    (hperiod : ∀ s, (f s).heartbeatPeriod = period) :
    Leads I (Steps (OwnAct id)) (fun _ => HasPeriod id period) (changeSession id f) := by
  refine leads_orRefuse (fun c _ => ?_)
  refine wp_withSession_of (fun i s hat => ?_) (StepRel.refl _)
  have hlt : i < c.session.length := (List.getElem?_eq_some_iff.1 hat.slot).1
  have hid : (f s).sessionId = id := (hf s).sessionId.trans hat.sessionId
  exact ⟨.single (.slot (.inl rfl) hat (.inl hid) (hf s).state),
    f s, List.mem_set hlt _, hid, hperiod s⟩

end

variable [Device]

theorem leads_runKeyExchange_own (p : PreparedKeyExchange) (period : Nat) :
    Leads (fun c => c.configInfo.heartbeatPeriod = period) (Steps (OwnAct p.sessionId))
      (fun m c' => Announces spdmResponseKeyExchangeRsp period m ∧ HasPeriod p.sessionId period c')
      (runKeyExchange p) := by
  have hkeep : ∀ {β : Type} {m : Handler β}, Within (Steps (OwnAct p.sessionId)) m →
      Leads (fun c => c.configInfo.heartbeatPeriod = period) (Steps (OwnAct p.sessionId))
        (fun _ c => c.configInfo.heartbeatPeriod = period) m := fun hm =>
    .of_steps hm (fun _ _ h => .single h) fun _ _ h hc => by rw [h.configInfo, hc]
  have hopen : Within (Steps (OwnAct p.sessionId)) (openKeyExchangeSession p) := by
    refine .bind .read fun _ => .bind (.attempt (within_setup_own
      (.bind (.update fun _ => rfl) fun _ => within_setSharedSecret))) fun r => ?_
    cases r with
    | ok _ => exact within_changeSession_own fun _ => ⟨rfl, fun h => h⟩
    | error _ => exact .bind (.update own_teardownSession) fun _ => within_refuse
  refine leads_keyExchange hkeep (fun _ rest h => h.append rest) trivial
    (fun _ => within_responseMac_own) (fun _ => hkeep within_deriveHandshake_own) rfl (hkeep hopen)
    (fun c payload hc hpayload => ?_)
    (fun _ hc => leads_changeSession_own (fun _ => ⟨rfl, fun h => by cases h⟩) fun _ => hc)
    (.update fun _ h => ⟨.single (.last _), h⟩) fun _ h => h
  rw [← hc, ← hpayload]
  exact ⟨c.negotiateInfo.spdmVersionSel.toByte, _, rfl⟩

omit [Device] in
theorem leads_runPskExchange_own (p : PreparedPskExchange) (period : Nat) :
    Leads (fun c => c.configInfo.heartbeatPeriod = period ∧ c.pskWithoutContext = false)
      (Steps (OwnAct p.sessionId))
      (fun m c' => Announces spdmResponsePskExchangeRsp period m ∧ HasPeriod p.sessionId period c')
      (runPskExchange p) := by
  let I (c : SpdmContext) : Prop :=
    c.configInfo.heartbeatPeriod = period ∧ c.pskWithoutContext = false
  have hkeep : ∀ {β : Type} {m : Handler β}, Within (Steps (OwnAct p.sessionId)) m →
      Leads I (Steps (OwnAct p.sessionId)) (fun _ => I) m := fun hm =>
    .of_steps hm (fun _ _ h => .single h) fun _ _ h hc =>
      ⟨by rw [h.configInfo, hc.1], by rw [h.pskWithoutContext, hc.2]⟩
  have hopen : Within (Steps (OwnAct p.sessionId)) (openPskSession p) :=
    .bind .read fun _ => within_orRefuse (within_setup_own
      (.bind (.update fun _ => by rfl) fun _ => .update fun _ => by rfl))
  refine leads_pskExchange (K := I) hkeep (fun _ rest h => h.append rest) trivial
    (fun _ => within_responseMac_own) (fun _ => hkeep within_deriveHandshake_own) rfl (hkeep hopen)
    (fun c payload hc hpayload => ?_)
    (hkeep (within_changeSession_own fun _ => ⟨rfl, fun h => by cases h⟩)) (fun c hc => ?_)
    fun _ hc => leads_changeSession_own (fun _ => ⟨rfl, fun h => h⟩) fun _ => hc.1
  · rw [← hc.1, ← hpayload]
    exact ⟨c.negotiateInfo.spdmVersionSel.toByte, _, rfl⟩
  · rw [hc.2]
    exact .ret fun _ h => h

end Own

/-! ## §4. Opening a session. -/

structure Opens (c : SpdmContext) (response : Option Bytes) (t : SpdmSession) : Prop where
  absent : ∀ s ∈ c.session, s.sessionId ≠ t.sessionId
  configured : t.heartbeatPeriod = c.configInfo.heartbeatPeriod
  announced : ∃ m code, response = some m ∧
    code ∈ [spdmResponseKeyExchangeRsp, spdmResponsePskExchangeRsp] ∧
    Announces code t.heartbeatPeriod m

structure SessionsServed (c : SpdmContext) (response : Option Bytes) (c' : SpdmContext) : Prop where
  stands : Stands c c'
  periods : ∀ t ∈ c'.session, t.sessionId ≠ invalidSessionId →
    HasPeriod t.sessionId t.heartbeatPeriod c ∨ Opens c response t

theorem SessionsServed.of_kept {response : Option Bytes} (hstands : Stands c c')
    (hperiods : KeepsPeriods (fun _ => False) c c') : SessionsServed c response c' :=
  ⟨hstands, fun t ht hused => .inl (hperiods t ht hused id)⟩

theorem Table.teardown_gone (h : Table false c)
    (hid : id ≠ invalidSessionId) : ∀ t ∈ (teardownSession id c).session, t.sessionId ≠ id := by
  unfold teardownSession mapSession
  cases hfirst : c.session.findIdx? fun s => s.sessionId == id with
  | none => simpa using List.findIdx?_eq_none_iff.1 hfirst
  | some i =>
    intro t ht htid
    obtain ⟨hlt, hfound, -⟩ := List.findIdx?_eq_some_iff_getElem.1 hfirst
    have hfound : c.session[i].sessionId = id := by simpa using hfound
    obtain ⟨j, hj⟩ := List.mem_iff_getElem?.1 ht
    rw [List.getElem?_modify] at hj
    split_ifs at hj with hij
    · obtain ⟨s, -, rfl⟩ := Option.map_eq_some_iff.1 hj
      exact hid htid.symm
    · have hj' : c.session[j]? = some t := by simpa using hj
      exact hij (h.injective (List.getElem?_eq_getElem hlt) hj' (hfound ▸ hid)
        (hfound.trans htid.symm))

variable [Crypto]

theorem served_exchange {π : Type} {prepare : Handler π} {run : π → Handler Bytes} {id : π → Nat}
    {I : SpdmContext → Prop}
    (hcode : code ∈ [spdmResponseKeyExchangeRsp, spdmResponsePskExchangeRsp])
    (hprepare : Leads (fun _ => True) (Steps (NoteAct fun _ => False))
      (fun p => NextFor false (id p)) prepare)
    (hI : ∀ c c', NoteAct (fun _ => False) c c' → I c → I c')
    (hacts : ∀ p, Leads (fun c => Table false c ∧ NextFor false (id p) c)
      (Steps (Act false anySession)) (fun _ _ => True) (run p))
    (hown : ∀ p period, Leads (fun c => c.configInfo.heartbeatPeriod = period ∧ I c)
      (Steps (OwnAct (id p)))
      (fun m c' => Announces code period m ∧ HasPeriod (id p) period c') (run p))
        (hc : Table false c) (hIc : I c) :
    wp (answer (do
        let p ← prepare
        ownSession (id p) (run p))) (SessionsServed c) (fun e => SessionsServed c e.2) c := by
  unfold answer
  rw [wp_bind, wp_bind]
  refine wp_mono (hprepare c trivial) (fun p c₁ ⟨hsteps, hnext⟩ => ?_) fun e c₁ hsteps => ?_
  case refine_2 =>
    have hsilent : SilentStep c c₁ := hsteps.lift fun _ _ => NoteAct.rel_never
    exact .of_kept (SilentRel.silent hsilent) (SilentRel.silent hsilent)
  case refine_1 =>
    have hsilent : SilentStep c c₁ := hsteps.lift fun _ _ => NoteAct.rel_never
    have htable₁ : Table false c₁ :=
      hc.of_session_eq hsilent.session (hsilent.lastSessionId ▸ hc.last)
    obtain ⟨hid, habsent⟩ := htable₁.not_mem_of_next hnext
    have hlive : NotLive c₁ (id p) := fun _ ⟨s, hs, hfor⟩ => habsent s hs hfor.sessionId
    have hwork : ∀ c₂, Steps (OwnAct (id p)) c₁ c₂ → Stands c c₂ ∧
      KeepsPeriods (· = id p) c c₂ := by
      intro c₂ hacts
      have hspares : Spares (id p) c₁ c₂ := hacts.lift fun _ _ h => h.spares
      have hkeeps : KeepsPeriods (· = id p) c₁ c₂ := hacts.lift fun _ _ h => h.keepsPeriods
      exact ⟨StepRel.trans (SilentRel.silent hsilent)
          (hspares hlive (Table.notLive htable₁)),
        StepRel.trans (SilentRel.silent hsilent) hkeeps⟩
    unfold ownSession
    rw [wp_bind, wp_attempt]
    refine wp_mono (wp_and (hacts p c₁ ⟨htable₁, hnext⟩)
      (hown p _ c₁ ⟨rfl, hsteps.keep hI hIc⟩)) (fun m c₂ h => ?_) fun e c₂ ⟨hact, hsteps⟩ => ?_
    · obtain ⟨⟨hact, -⟩, hsteps, hannounces, s, hs, hsid, hperiod⟩ := h
      obtain ⟨hstands, hkeeps⟩ := hwork c₂ hsteps
      have htable₂ : Table false c₂ := hact.keep (fun _ _ hact h => h.act hact) htable₁
      refine ⟨hstands, fun t ht hused => ?_⟩
      by_cases htid : t.sessionId = id p
      · -- the id stands in one slot
        obtain ⟨i, hi⟩ := List.mem_iff_getElem?.1 hs
        obtain ⟨j, hj⟩ := List.mem_iff_getElem?.1 ht
        have hij : i = j := htable₂.injective hi hj (hsid ▸ hid) (hsid.trans htid.symm)
        rw [hij] at hi
        cases hi.symm.trans hj
        refine .inr ⟨fun u hu => ?_, ?_, m, code, rfl, hcode, hperiod ▸ hannounces⟩
        · rw [htid]
          exact habsent u (hsilent.session ▸ hu)
        · rw [hperiod, hsilent.configInfo]
      · exact .inl (hkeeps t ht hused htid)
    · -- the session that was opened is torn down
      have htable₂ : Table false c₂ := hact.keep (fun _ _ hact h => h.act hact) htable₁
      obtain ⟨hstands, hkeeps⟩ := hwork _ (hsteps.trans (own_teardownSession c₂))
      exact ⟨hstands, fun t ht hused =>
        .inl (hkeeps t ht hused (Table.teardown_gone htable₂ hid t ht))⟩

/-! ## §5. The other handlers. -/

structure SealKept (s t : SpdmSession) : Prop where
  rest : t = { s with
    applicationSecret := t.applicationSecret
    applicationSecretBackup := t.applicationSecretBackup
    responderBackupValid := t.responderBackupValid
    requesterBackupValid := t.requesterBackupValid
    runtimeInfo := t.runtimeInfo
    th1 := t.th1
    th2 := t.th2 }
  counter : t.applicationSecret.responseDirection.sequenceNumber = maxSequenceNumber →
    s.applicationSecret.responseDirection.sequenceNumber = maxSequenceNumber

instance : StepRel SealKept where
  refl _ := ⟨rfl, fun h => h⟩
  trans h h' := ⟨by rw [h'.rest, h.rest], fun ht => h.counter (h'.counter ht)⟩

omit [Crypto] in
theorem SealKept.direction (h : SealKept s t)
    (ht : (t.direction false).sequenceNumber = maxSequenceNumber) :
    (s.direction false).sequenceNumber = maxSequenceNumber := by
  have hstate : t.sessionState = s.sessionState := by rw [h.rest]
  have hkeys : t.handshakeSecret = s.handshakeSecret := by rw [h.rest]
  unfold SpdmSession.direction at ht ⊢
  rw [hstate] at ht
  cases hs : s.sessionState with
  | established => rw [hs] at ht; exact h.counter ht
  | notStarted => rw [hs] at ht; exact hkeys ▸ ht
  | handshaking => rw [hs] at ht; exact hkeys ▸ ht

theorem within_createDataSecretUpdate_kept {v : SpdmVersion} {req rsp : Bool} :
    Within SealKept (SpdmSession.createDataSecretUpdate v req rsp) := by
  have hreq : Within SealKept (SpdmSession.createRequesterUpdate v) :=
    .bind (.update fun _ => ⟨rfl, fun h => h⟩) fun _ => .bind .read fun _ =>
      .bind SpdmSession.within_derivation fun _ =>
      .bind (.update fun _ => ⟨rfl, fun h => h⟩) fun _ =>
      .bind SpdmSession.within_keyIvDerivation fun _ => .update fun _ => ⟨rfl, fun h => h⟩
  have hrsp : Within SealKept (SpdmSession.createResponderUpdate v) :=
    .bind (.update fun _ => ⟨rfl, fun h => h⟩) fun _ => .bind .read fun _ =>
      .bind SpdmSession.within_derivation fun _ =>
      .bind (.update fun _ => ⟨rfl, fun h => h⟩) fun _ =>
      .bind SpdmSession.within_keyIvDerivation fun _ => .update fun _ =>
        ⟨rfl, fun h => absurd (show 0 = maxSequenceNumber from h) (by decide)⟩
  refine .bind ?_ fun _ => ?_
  · cases req with
    | false => exact .ret _
    | true => exact hreq
  · cases rsp with
    | false => exact .ret _
    | true => exact hrsp

theorem within_applyKeyUpdate_kept (v : SpdmVersion) (op : UInt8) :
    Within SealKept (applyKeyUpdate v op) := by
  have hactivate : ∀ req rsp s, SealKept s (s.activateDataSecretUpdate req rsp true) :=
    fun req rsp s => by cases req <;> cases rsp <;> exact ⟨rfl, fun h => h⟩
  unfold applyKeyUpdate
  split_ifs
  · exact .bind (.attempt within_createDataSecretUpdate_kept) fun _ => .ret _
  · exact .bind (.attempt within_createDataSecretUpdate_kept) fun _ => .update (hactivate _ _)
  · exact .update (hactivate _ _)

theorem within_generateDataSecret_kept (v : SpdmVersion) (th2 : Bytes) :
    Within SealKept (do
      update fun s => { s with th2 := th2 }
      SpdmSession.generateDataSecret v th2) :=
  .bind (.update fun _ => ⟨rfl, fun h => h⟩) fun _ => .bind .read fun _ =>
    .bind SpdmSession.within_derivation fun _ => .bind (.update fun _ => ⟨rfl, fun h => h⟩) fun _ =>
    .bind SpdmSession.within_derivation fun _ => .bind (.update fun _ => ⟨rfl, fun h => h⟩) fun _ =>
    .bind SpdmSession.within_keyIvDerivation fun _ =>
    .bind (.update fun _ => ⟨rfl, fun h => h⟩) fun _ =>
    .bind SpdmSession.within_keyIvDerivation fun _ =>
    .bind (.update fun _ => ⟨rfl, fun h => h⟩) fun _ =>
    .bind SpdmSession.within_derivation fun _ => .update fun _ => ⟨rfl, fun h => h⟩

theorem within_deriveData_kept [StepRel R]
    (hR : ∀ {c i s t}, SlotAt c id i s → SealKept s t → R c (c.setSlot i t)) (th2 : Bytes) :
    Within R (deriveData id th2) :=
  .bind .read fun _ => within_sessionStep <| within_withSession_of fun _ _ _ _ hat hran =>
    hR hat ((within_generateDataSecret_kept _ th2).ran hran)

omit [Crypto] in
theorem stands_sealKept (hat : SlotAt c id i s)
    (h : SealKept s t) : Stands c (c.setSlot i t) ∧ KeepsPeriods (fun _ => False) c
    (c.setSlot i t) := by
  have hperiod : t.heartbeatPeriod = s.heartbeatPeriod := by rw [h.rest]
  have hid : t.sessionId = s.sessionId := by rw [h.rest]
  have hstate : t.sessionState = s.sessionState := by rw [h.rest]
  refine ⟨.setSlot hat.slot (fun id period => ?_) fun ht =>
    ⟨hstate.symm.trans ht.1, h.direction ht.2⟩,
    .setSlot hat.slot fun _ _ => ⟨hid.symm, hperiod.symm⟩⟩
  constructor
  · rintro ⟨h₁, h₂, h₃⟩
    exact ⟨hid.symm.trans h₁, hstate.symm.trans h₂, hperiod.symm.trans h₃⟩
  · rintro ⟨h₁, h₂, h₃⟩
    exact ⟨hid.trans h₁, hstate.trans h₂, hperiod.trans h₃⟩

section Served
variable [Device] {c : SpdmContext} {dispatch : Dispatch}
  {sessionId : Option Nat} {bytes : Bytes}

abbrev ServedBy (c : SpdmContext) (m : Handler (Option Bytes)) : Prop :=
  wp m (SessionsServed c) (fun e => SessionsServed c e.2) c

section
omit [Crypto] [Device]

theorem servedBy_of_within {m : Handler (Option Bytes)} (hstands : Within Stands m)
    (hperiods : Within (KeepsPeriods fun _ => False) m) : ServedBy c m :=
  wp_mono (wp_and (hstands c) (hperiods c)) (fun _ _ h => .of_kept h.1 h.2)
    fun _ _ h => .of_kept h.1 h.2

theorem servedBy_of_notes {m : Handler (Option Bytes)}
    (h : Within (Steps (NoteAct anySession)) m) : ServedBy c m :=
  servedBy_of_within (h.mono fun _ _ hs => hs.lift fun _ _ => NoteAct.rel)
    (h.mono fun _ _ hs => hs.lift fun _ _ => NoteAct.rel)

end

omit [Crypto] [Device] in
theorem keepsPeriods_teardownSession (id : Nat) (c : SpdmContext) :
    KeepsPeriods (fun _ => False) c (teardownSession id c) :=
  mapSession_of fun hat => .setSlot hat.slot fun hused => absurd rfl hused

theorem within_finishes [MildRel anySession R]
    (hdown : ∀ c, R c (teardownSession id c)) (hderive : ∀ th2, Within R (deriveData id th2)) :
    Within R (handleSpdmFinish id bytes) ∧ Within R (answer (handleSpdmPskFinish id bytes)) := by
  have ht : anySession id := trivial
  exact ⟨(leads_finish ht (fun _ _ => NoteAct.rel) hdown (fun _ _ _ h => h)
      (fun th2 => .of_within (hderive th2)) bytes).within.mono fun _ _ h => h trivial,
    within_answer ((leads_pskFinish ht (fun _ _ => NoteAct.rel) hdown
      (fun _ _ _ h => h) (fun th2 => .of_within (hderive th2)) bytes).within.mono
        fun _ _ h => h trivial)⟩

theorem servedBy_finishes (hc : Table false c) (hlive : NotLive c id) :
    ServedBy c (handleSpdmFinish id bytes) ∧
      ServedBy c (answer (handleSpdmPskFinish id bytes)) := by
  have hown : Within (Steps (OwnAct id)) (handleSpdmFinish id bytes) ∧ _ :=
    within_finishes own_teardownSession within_deriveData_own
  have hkeeps : Within (KeepsPeriods fun _ => False) (handleSpdmFinish id bytes) ∧ _ :=
    within_finishes (keepsPeriods_teardownSession id)
      (within_deriveData_kept fun hat h => (stands_sealKept hat h).2)
  have hserved : ∀ {m : Handler (Option Bytes)}, Within (Steps (OwnAct id)) m →
      Within (KeepsPeriods fun _ => False) m → ServedBy c m := fun hm hperiods => by
    have hspares : Within (Spares id) _ := hm.mono fun _ _ hs => hs.lift fun _ _ h => h.spares
    exact wp_mono (wp_and (hspares c) (hperiods c))
      (fun _ _ h => .of_kept (h.1 hlive (Table.notLive hc)) h.2)
      fun _ _ h => .of_kept (h.1 hlive (Table.notLive hc)) h.2
  exact ⟨hserved hown.1 hkeeps.1, hserved hown.2 hkeeps.2⟩

theorem served_handle {service : Service} (hc : Table false c) (hchunked : service.chunked = false)
    (hversion : service ≠ .version) (hend : ∀ id, service ≠ .endSession id)
    (hown : ∀ id, service = .finish id ∨ service = .pskFinish id → NotLive c id)
    (hpsk : service = .pskExchange → c.pskWithoutContext = false) :
    ServedBy c (service.handle dispatch sessionId bytes) := by
  have ht : ∀ id : Nat, anySession id := fun _ => trivial
  cases service with
  | version => exact absurd rfl hversion
  | endSession id => exact absurd rfl (hend id)
  | chunkSend | chunkGet => cases hchunked
  | capability =>
    exact servedBy_of_within
      (within_answer (within_capability (fun _ _ => NoteAct.rel_never)
        (fun _ _ h => .of_session_eq (by rw [h]) (by rw [h])) bytes))
      (within_answer (within_capability (fun _ _ => NoteAct.rel_never)
        (fun _ _ h => .of_session_eq (by rw [h])) bytes))
  | algorithm =>
    exact servedBy_of_within
      (within_answer (within_algorithm (fun _ _ => NoteAct.rel_never)
        (fun _ _ h => .of_session_eq (by rw [h.rest]) (by rw [h.rest])) bytes))
      (within_answer (within_algorithm (fun _ _ => NoteAct.rel_never)
        (fun _ _ h => .of_session_eq (by rw [h.rest])) bytes))
  | keyExchange =>
    exact served_exchange (I := fun _ => True) (by decide) (leads_prepareKeyExchange bytes)
      (fun _ _ _ h => h) (fun _ => leads_runKeyExchange (ht _))
      (fun p period => .mono (leads_runKeyExchange_own p period) (fun _ h => h.1) fun _ _ h => h)
      hc trivial
  | pskExchange =>
    exact served_exchange (by decide)
      (leads_preparePskExchange bytes)
      (fun _ _ h hpsk => (SilentStep.pskWithoutContext h.rel_never).trans hpsk)
      (fun _ => leads_runPskExchange (ht _)) leads_runPskExchange_own hc (hpsk rfl)
  | finish id => exact (servedBy_finishes hc (hown id (.inl rfl))).1
  | pskFinish id => exact (servedBy_finishes hc (hown id (.inr rfl))).2
  | keyUpdate id =>
    exact servedBy_of_within
      (within_answer (within_keyUpdate (ht id) (fun _ _ => NoteAct.rel) (fun v op =>
        within_withSession_of fun _ _ _ _ hat hran =>
          (stands_sealKept hat ((within_applyKeyUpdate_kept v op).ran hran)).1) bytes))
      (within_answer (within_keyUpdate (ht id) (fun _ _ => NoteAct.rel) (fun v op =>
        within_withSession_of fun _ _ _ _ hat hran =>
          (stands_sealKept hat ((within_applyKeyUpdate_kept v op).ran hran)).2) bytes))
  | _ => exact servedBy_of_notes (within_handle_notes rfl fun _ _ => trivial)

end Served

end Responder

end Spdm
