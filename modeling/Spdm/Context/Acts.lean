/-
  Spdm.Context.Acts — everything a party does to its context, said once.
-/
import Spdm.Session.Acts

namespace Spdm

open Effect Codec

variable {c c' : SpdmContext} {touch : Nat → Prop} {isRequester : Bool} {i : Nat}
    {s : SpdmSession}

/-! ## §1. The acts. -/

structure NegotiateStep (c c' : SpdmContext) : Prop where
  build : c'.build = c.build
  transportEncap : c'.transportEncap = c.transportEncap
  chunkContext : c'.chunkContext = c.chunkContext
  chunkReqHandle : c'.chunkReqHandle = c.chunkReqHandle
  chunkRspHandle : c'.chunkRspHandle = c.chunkRspHandle
  session : c'.session = c.session
  lastSessionId : c'.runtimeInfo.lastSessionId = c.runtimeInfo.lastSessionId
  inbox : c'.world.inbox = c.world.inbox
  sendResults : c'.world.sendResults = c.world.sendResults
  outbox : c'.world.outbox = c.world.outbox
  delivered : c'.world.delivered = c.world.delivered

instance : StepRel NegotiateStep where
  refl _ := ⟨rfl, rfl, rfl, rfl, rfl, rfl, rfl, rfl, rfl, rfl, rfl⟩
  trans h h' := ⟨h'.1.trans h.1, h'.2.trans h.2, h'.3.trans h.3, h'.4.trans h.4, h'.5.trans h.5,
    h'.6.trans h.6, h'.7.trans h.7, h'.8.trans h.8, h'.9.trans h.9, h'.10.trans h.10,
    h'.11.trans h.11⟩

structure QuietStep (c c' : SpdmContext) : Prop extends NegotiateStep c c' where
  configInfo : c'.configInfo = c.configInfo
  negotiateInfo : c'.negotiateInfo = { c.negotiateInfo with
    terminationPolicySet := c'.negotiateInfo.terminationPolicySet }
  provisionInfo : c'.provisionInfo = c.provisionInfo
  connectionState : c'.runtimeInfo.connectionState = c.runtimeInfo.connectionState

def WireStep (c c' : SpdmContext) : Prop :=
  c' = { c with
    world := { c.world with
      inbox := c'.world.inbox
      sendResults := c'.world.sendResults
      outbox := c'.world.outbox }
    chunkContext := c'.chunkContext
    chunkReqHandle := c'.chunkReqHandle
    chunkRspHandle := c'.chunkRspHandle }

instance : StepRel WireStep where
  refl _ := rfl
  trans h h' := by
    unfold WireStep at *
    rw [h', h]

theorem WireStep.build_eq (h : WireStep c c') : c'.build = c.build := by
  rw [h]

def ChunkStep (c c' : SpdmContext) : Prop :=
  c' = { c with
    chunkContext := c'.chunkContext
    chunkReqHandle := c'.chunkReqHandle
    chunkRspHandle := c'.chunkRspHandle }

theorem ChunkStep.wire (h : ChunkStep c c') : WireStep c c' := by
  unfold WireStep
  rw [h]

def DeviceStep (c c' : SpdmContext) : Prop :=
  c' = { c with world := { c.world with
    inbox := c'.world.inbox
    sendResults := c'.world.sendResults
    outbox := c'.world.outbox } }

instance : StepRel DeviceStep where
  refl _ := rfl
  trans h h' := by
    unfold DeviceStep at *
    rw [h', h]

theorem DeviceStep.wire (h : DeviceStep c c') : WireStep c c' := by
  unfold WireStep
  rw [h]

inductive TableAct (R : SpdmSession → SpdmSession → Prop) (touch : Nat → Prop) :
    SpdmContext → SpdmContext → Prop
  | quiet {c c' : SpdmContext} (h : QuietStep c c') : TableAct R touch c c'
  | slot {c : SpdmContext} {id i : Nat} {s t : SpdmSession} (htouch : touch id)
      (hat : SlotAt c id i s) (h : R s t) : TableAct R touch c (c.setSlot i t)

abbrev MildAct (touch : Nat → Prop) : SpdmContext → SpdmContext → Prop := TableAct MildSlot touch

def NextFor (isRequester : Bool) (id : Nat) (c : SpdmContext) : Prop :=
  c.getNextHalfSessionId isRequester = .ok (SpdmContext.halfSessionId isRequester id)

variable [Crypto]

inductive Act (isRequester : Bool) (touch : Nat → Prop) : SpdmContext → SpdmContext → Prop
  | table {c c' : SpdmContext} (h : TableAct (Steps (SlotAct isRequester)) touch c c') :
      Act isRequester touch c c'
  | negotiates {c c' : SpdmContext} (h : NegotiateStep c c') : Act isRequester touch c c'
  | opens {c : SpdmContext} {i : Nat} {s t : SpdmSession} (free : SlotAt c invalidSessionId i s)
      (next : NextFor isRequester t.sessionId c)
      (htouch : touch t.sessionId) (fresh : Fresh t) : Act isRequester touch c (c.setSlot i t)
  | last (c : SpdmContext) {o : Option Nat} (used : o ≠ some invalidSessionId) :
      Act isRequester touch c
        { c with runtimeInfo := { c.runtimeInfo with lastSessionId := o } }
  | reset (c : SpdmContext) (htouch : ∀ id, touch id) : Act isRequester touch c c.resetContext

inductive PartyAct (isRequester : Bool) (touch : Nat → Prop) : SpdmContext → SpdmContext → Prop
  | act {c c' : SpdmContext} (h : Act isRequester touch c c') : PartyAct isRequester touch c c'
  | wire {c c' : SpdmContext} (h : WireStep c c') : PartyAct isRequester touch c c'

omit [Crypto] in
theorem TableAct.mono {R S : SpdmSession → SpdmSession → Prop} {touch' : Nat → Prop}
    (hRS : ∀ s t, R s t → S s t) (ht : ∀ id, touch id → touch' id)
    (h : TableAct R touch c c') : TableAct S touch' c c' := by
  cases h with
  | quiet h => exact .quiet h
  | slot htouch hat h => exact .slot (ht _ htouch) hat (hRS _ _ h)

theorem MildAct.act
    (h : MildAct touch c c') : Act isRequester touch c c' :=
  .table (h.mono (fun _ _ hst => .single hst.slotAct) fun _ => id)

theorem within_act_of_mild {ε α : Type}
    {m : Prog SpdmContext ε α} (h : Within (Steps (MildAct touch)) m) :
    Within (Steps (Act isRequester touch)) m :=
  h.mono fun _ _ hs => hs.lift fun _ _ hact => .single hact.act

/-! ## §2. The session table. -/

section
omit [Crypto]

theorem getNextHalfSessionId_lt {own : Nat}
    (h : c.getNextHalfSessionId isRequester = .ok own) : own < 2 ^ 16 := by
  unfold SpdmContext.getNextHalfSessionId at h
  split at h
  · injection h with h
    omega
  · cases h

theorem nextFor_responder {own peer : Nat} (hpeer : peer < 2 ^ 16)
    (h : c.getNextHalfSessionId false = .ok own) : NextFor false (own * 2 ^ 16 + peer) c := by
  have hlt := getNextHalfSessionId_lt h
  have hhalf : SpdmContext.halfSessionId false (own * 2 ^ 16 + peer) = own := by
    simp only [SpdmContext.halfSessionId, Bool.false_eq_true, if_false]
    omega
  unfold NextFor
  rw [hhalf, h]

theorem MildAct.session_eq (hact : MildAct (fun _ => False) c c') :
    c'.session = c.session := by
  cases hact with
  | quiet hq => exact hq.session
  | slot htouch => exact htouch.elim

theorem TableAct.lastSessionId_eq {R : SpdmSession → SpdmSession → Prop}
    (hact : TableAct R touch c c') :
    c'.runtimeInfo.lastSessionId = c.runtimeInfo.lastSessionId := by
  cases hact with
  | quiet hq => exact hq.lastSessionId
  | slot => rfl

theorem NextFor.of_session_eq {id : Nat}
    (h : NextFor isRequester id c) (hs : c'.session = c.session) : NextFor isRequester id c' := by
  unfold NextFor SpdmContext.getNextHalfSessionId at *
  rwa [hs]

end

/-- **The session table invariant.**  There are no more slots than half ids,
and the own half of the id in slot `i` is `INITIAL_SESSION_ID - i`; a free
slot is idle, and the session opened last is none of them. -/
structure Table (isRequester : Bool) (c : SpdmContext) : Prop where
  bound : c.session.length ≤ SpdmContext.initialSessionId
  own : ∀ i s, c.session[i]? = some s → s.sessionId ≠ invalidSessionId →
    SpdmContext.halfSessionId isRequester s.sessionId = SpdmContext.initialSessionId - i
  free : ∀ s ∈ c.session, s.sessionId = invalidSessionId → s.sessionState = .notStarted
  last : c.runtimeInfo.lastSessionId ≠ some invalidSessionId

def TouchesNew (isRequester : Bool) (touch : Nat → Prop) (c : SpdmContext) : Prop :=
  Table isRequester c ∧ ∀ id, NextFor isRequester id c → touch id

namespace Table
variable {isRequester : Bool} {touch : Nat → Prop} {c c' : SpdmContext}

section
omit [Crypto]

theorem half_eq_zero (h : Table isRequester c)
    (hi : c.session[i]? = some s) :
    SpdmContext.halfSessionId isRequester s.sessionId = 0 ↔ s.sessionId = invalidSessionId := by
  constructor
  · intro hhalf
    by_contra hid
    have hown := h.own i s hi hid
    have hlt : i < c.session.length := (List.getElem?_eq_some_iff.1 hi).1
    have hbound := h.bound
    omega
  · intro hid
    rw [hid]
    cases isRequester <;> rfl

theorem nextHalf (h : Table isRequester c) {own : Nat}
    (hnext : c.getNextHalfSessionId isRequester = .ok own) :
    ∃ i s, SlotAt c invalidSessionId i s ∧ own = SpdmContext.initialSessionId - i ∧ own ≠ 0 := by
  unfold SpdmContext.getNextHalfSessionId at hnext
  cases hfind : c.session.findIdx? fun s =>
      SpdmContext.halfSessionId isRequester s.sessionId == 0 with
  | none => rw [hfind] at hnext; cases hnext
  | some i =>
    rw [hfind] at hnext
    obtain ⟨hlt, hp, hbefore⟩ := List.findIdx?_eq_some_iff_getElem.1 hfind
    have hget : c.session[i]? = some c.session[i] := List.getElem?_eq_getElem hlt
    have hbound := h.bound
    refine ⟨i, c.session[i], ⟨?_, hget⟩, ?_, ?_⟩
    · refine List.findIdx?_eq_some_iff_getElem.2 ⟨hlt, ?_, fun j hj hjfree => hbefore j hj ?_⟩
      · simpa using (h.half_eq_zero hget).1 (by simpa using hp)
      · have hgetj : c.session[j]? = some c.session[j] := List.getElem?_eq_getElem (hj.trans hlt)
        simpa using (h.half_eq_zero hgetj).2 (by simpa using hjfree)
    all_goals
      injection hnext with hnext
      unfold SpdmContext.initialSessionId at *
      omega

theorem setSlot (h : Table isRequester c) {t : SpdmSession}
    (ht : t.sessionId ≠ invalidSessionId →
      SpdmContext.halfSessionId isRequester t.sessionId = SpdmContext.initialSessionId - i)
    (hidle : t.sessionId = invalidSessionId → t.sessionState = .notStarted) :
    Table isRequester (c.setSlot i t) := by
  refine ⟨by simpa using h.bound, fun j u hj hu => ?_, fun u hu hfree => ?_, h.last⟩
  · rw [SpdmContext.setSlot_session, List.getElem?_set] at hj
    split_ifs at hj with hij hlt
    · cases hj
      exact hij ▸ ht hu
    · exact h.own j u hj hu
  · obtain hmem | rfl := List.mem_or_eq_of_mem_set hu
    · exact h.free u hmem hfree
    · exact hidle hfree

theorem of_session_eq (h : Table isRequester c) (hs : c'.session = c.session)
    (hlast : c'.runtimeInfo.lastSessionId ≠ some invalidSessionId) : Table isRequester c' :=
  ⟨hs ▸ h.bound, fun i s hi => h.own i s (hs ▸ hi), fun s hmem => h.free s (hs ▸ hmem), hlast⟩

theorem touchesNew_mildAct (hact : MildAct (fun _ => False) c c')
    (h : TouchesNew isRequester touch c) : TouchesNew isRequester touch c' :=
  ⟨h.1.of_session_eq hact.session_eq (hact.lastSessionId_eq ▸ h.1.last), fun id hid =>
    h.2 id (hid.of_session_eq hact.session_eq.symm)⟩

end

theorem act (h : Table isRequester c) (hact : Act isRequester touch c c') :
    Table isRequester c' := by
  cases hact with
  | table hact =>
    cases hact with
    | quiet hq => exact h.of_session_eq hq.session (hq.lastSessionId ▸ h.last)
    | slot htouch hat hst =>
      refine h.setSlot (fun ht => ?_)
        (SlotAct.steps_freeIdle hst (h.free _ (List.mem_of_getElem? hat.slot)))
      obtain hid | hfree := SlotAct.steps_sessionId hst
      · rw [hid] at ht ⊢
        exact h.own _ _ hat.slot ht
      · exact absurd hfree ht
  | negotiates hn => exact h.of_session_eq hn.session (hn.lastSessionId ▸ h.last)
  | opens free next htouch fresh =>
    obtain ⟨j, u, hat, hown, -⟩ := h.nextHalf next
    obtain rfl : _ = j := Option.some.inj (free.first.symm.trans hat.first)
    exact h.setSlot (fun _ => hown) fun _ => fresh.state
  | last used => exact h.of_session_eq rfl used
  | reset htouch =>
    refine ⟨by simpa [SpdmContext.resetContext] using h.bound, fun i s hi hs => ?_,
      fun s hs _ => ?_, fun hlast => by cases hlast⟩
    · simp only [SpdmContext.resetContext, List.getElem?_map, Option.map_eq_some_iff] at hi
      obtain ⟨s₀, -, rfl⟩ := hi
      exact absurd rfl hs
    · obtain ⟨s₀, -, rfl⟩ := List.mem_map.1 hs
      rfl

theorem partyAct (h : Table isRequester c) (hact : PartyAct isRequester touch c c') :
    Table isRequester c' := by
  cases hact with
  | act hact => exact h.act hact
  | wire hw =>
    exact h.of_session_eq (by rw [hw]) (by rw [hw]; exact h.last)

omit [Crypto] in
theorem injective (h : Table isRequester c) {j : Nat} {t : SpdmSession}
    (hi : c.session[i]? = some s) (hj : c.session[j]? = some t)
    (hs : s.sessionId ≠ invalidSessionId) (hst : s.sessionId = t.sessionId) : i = j := by
  have hown := h.own i s hi hs
  have hown' := h.own j t hj (hst ▸ hs)
  have hltj : j < c.session.length := (List.getElem?_eq_some_iff.1 hj).1
  have hbound := h.bound
  rw [hst] at hown
  omega

omit [Crypto] in
theorem not_mem_of_next (h : Table isRequester c) {id : Nat}
    (hnext : NextFor isRequester id c) :
    id ≠ invalidSessionId ∧ ∀ s ∈ c.session, s.sessionId ≠ id := by
  obtain ⟨i, s₀, hat, hown, hne⟩ := h.nextHalf hnext
  have hid : id ≠ invalidSessionId := by
    rintro rfl
    apply hne
    cases isRequester <;> rfl
  refine ⟨hid, fun s hs hsid => ?_⟩
  obtain ⟨j, hj⟩ := List.mem_iff_getElem?.1 hs
  have hown' := h.own j s hj (hsid ▸ hid)
  rw [hsid] at hown'
  obtain rfl : j = i := by omega
  obtain rfl : s = s₀ := Option.some.inj (hj.symm.trans hat.slot)
  exact hid (hsid.symm.trans hat.sessionId)

end Table

/-! ## §3. What an act leaves alone. -/

omit [Crypto] in
theorem getElem?_setSlot_ne {c : SpdmContext} {i j : Nat} {s t : SpdmSession}
    (hi : c.session[i]? = some s) (hij : j ≠ i) : (c.setSlot j t).session[i]? = some s := by
  rw [SpdmContext.setSlot_session, List.getElem?_set_ne hij]
  exact hi

/-! ## §4. What holds of a session under its id. -/

structure Standing (isRequester : Bool) (id : Nat) (P : SpdmSession → Prop) (c : SpdmContext) :
    Prop where
  table : Table isRequester c
  id_ne : id ≠ invalidSessionId
  holds : ∀ s ∈ c.session, s.sessionId = id → P s

namespace Standing
variable {isRequester : Bool} {touch : Nat → Prop} {id : Nat} {P Q : SpdmSession → Prop}
  {c c' : SpdmContext}

omit [Crypto] in
theorem slotAt (h : Standing isRequester id P c)
    (hat : SlotAt c id i s) : P s :=
  h.holds s (List.mem_of_getElem? hat.slot) hat.sessionId

omit [Crypto] in
theorem of_slotAt (ht : Table isRequester c) (hid : id ≠ invalidSessionId) (hat : SlotAt c id i s)
    (hs : P s) : Standing isRequester id P c := by
  refine ⟨ht, hid, fun t hmem htid => ?_⟩
  obtain ⟨j, hj⟩ := List.mem_iff_getElem?.1 hmem
  obtain rfl : j = i := ht.injective hj hat.slot (htid ▸ hid) (htid.trans hat.sessionId.symm)
  obtain rfl := Option.some.inj (hj.symm.trans hat.slot)
  exact hs

theorem mildAct (hP : ∀ s t, TranscriptStep s t → P s → P t) (h : Standing isRequester id P c)
    (hact : MildAct touch c c') : Standing isRequester id P c' := by
  refine ⟨h.table.act hact.act, h.id_ne, ?_⟩
  cases hact with
  | quiet hq => rw [hq.session]; exact h.holds
  | slot htouch hat hst =>
    intro u hu huid
    obtain hmem | rfl := List.mem_or_eq_of_mem_set hu
    · exact h.holds u hmem huid
    · cases hst with
      | transcript hst =>
        exact hP _ _ hst (h.holds _ (List.mem_of_getElem? hat.slot)
          (hst.sessionId_eq.symm.trans huid))
      | free => exact absurd huid.symm h.id_ne

end Standing

section Leads
variable {isRequester : Bool} {touch : Nat → Prop} {id : Nat} {P Q : SpdmSession → Prop}
  {ε α : Type}

theorem within_slot {m : Prog SpdmSession ε α} {e : ε} (ht : touch id)
    (hm : Within (Steps (SlotAct isRequester)) m) :
    Within (Steps (Act isRequester touch)) (SpdmContext.withSession id e m) :=
  within_withSession_of fun _ _ _ _ hat hran => .single (.table (.slot ht hat (hm.ran hran)))

theorem leads_mild {m : Prog SpdmContext ε α} (hP : ∀ s t, TranscriptStep s t → P s → P t)
    (hm : Within (Steps (MildAct touch)) m) :
    Leads (Standing isRequester id P) (Steps (Act isRequester touch))
      (fun _ => Standing isRequester id P) m :=
  .of_steps hm (fun _ _ hact => .single hact.act) fun _ _ hact h => h.mildAct hP hact

theorem leads_withSession {m : Prog SpdmSession ε α} {e : ε} (ht : touch id)
    (hm : ∀ s, s.sessionId ≠ invalidSessionId → P s →
      wp m (fun _ t => Steps (SlotAct isRequester) s t ∧ Q t)
      (fun _ t => Steps (SlotAct isRequester) s t) s) :
    Leads (Standing isRequester id P) (Steps (Act isRequester touch))
      (fun _ => Standing isRequester id Q) (SpdmContext.withSession id e m) := by
  intro c hc
  unfold wp SpdmContext.withSession
  cases hfirst : c.session.findIdx? fun s => s.sessionId == id with
  | none => exact .refl
  | some i =>
    dsimp only
    cases hi : c.session[i]? with
    | none => exact .refl
    | some s =>
      have hat : SlotAt c id i s := ⟨hfirst, hi⟩
      have hs := hm s (hat.sessionId ▸ hc.id_ne) (hc.slotAt hat)
      unfold wp at hs
      dsimp only
      cases hrun : m s with
      | ok a t =>
        rw [hrun] at hs
        have hact : Act isRequester touch c (c.setSlot i t) := .table (.slot ht hat hs.1)
        refine ⟨.single hact, hc.table.act hact, hc.id_ne, fun u hu huid => ?_⟩
        -- the other slots have other ids
        rw [SpdmContext.setSlot_session] at hu
        obtain ⟨j, hj⟩ := List.mem_iff_getElem?.1 hu
        rw [List.getElem?_set] at hj
        split_ifs at hj with hij hlt
        · cases hj
          exact hs.2
        · exact absurd (hc.table.injective hi hj (hat.sessionId ▸ hc.id_ne)
            (hat.sessionId.trans huid.symm)) hij
      | err e' t =>
        rw [hrun] at hs
        exact .single (.table (.slot ht hat hs))
      | panic => trivial

theorem leads_opens {m : Prog SpdmSession ε α} {e : ε} (ht : touch id)
    (hm : ∀ s, wp m (fun _ t => Fresh t ∧ t.sessionId = id) (fun _ t =>
      Fresh t ∧ t.sessionId = id) s) :
    Leads (fun c => Table isRequester c ∧ NextFor isRequester id c) (Steps (Act isRequester touch))
      (fun _ => Standing isRequester id Fresh)
      (SpdmContext.withSession invalidSessionId e m) := by
  rintro c ⟨htable, hnext⟩
  obtain ⟨hid, habsent⟩ := htable.not_mem_of_next hnext
  obtain ⟨i, s, hat, -, -⟩ := htable.nextHalf hnext
  rw [wp_withSession hat]
  have hact : ∀ t, Fresh t → t.sessionId = id → Act isRequester touch c (c.setSlot i t) :=
    fun t hfresh htid => .opens hat (htid ▸ hnext) (htid ▸ ht) hfresh
  refine wp_mono (hm s) (fun _ t h => ?_) fun _ t h => .single (hact t h.1 h.2)
  refine ⟨.single (hact t h.1 h.2), htable.act (hact t h.1 h.2), hid, fun u hu huid => ?_⟩
  obtain hmem | rfl := List.mem_or_eq_of_mem_set hu
  · exact absurd huid (habsent u hmem)
  · exact h.1

end Leads

/-! ## §5. Runs. -/

def Surroundings (c c' : SpdmContext) : Prop :=
  c' = { c with
    configInfo := c'.configInfo
    provisionInfo := c'.provisionInfo
    encapContext := c'.encapContext
    runtimeInfo := { c.runtimeInfo with
      contentChanged := c'.runtimeInfo.contentChanged
      vdmMessageTranscriptBeforeKeyExchange :=
        c'.runtimeInfo.vdmMessageTranscriptBeforeKeyExchange }
    world := { c.world with
      inbox := c'.world.inbox
      sendResults := c'.world.sendResults
      random := c'.world.random } }

/-- A party as it starts, in a build with no more slots than half ids. -/
def Started (c : SpdmContext) : Prop :=
  ∃ build transportEncap configInfo provisionInfo,
    build.config.maxSpdmSessionCount ≤ SpdmContext.initialSessionId ∧
      c = .new build transportEncap configInfo provisionInfo

omit [Crypto] in
theorem Table.of_started (h : Started c) :
    Table isRequester c := by
  obtain ⟨build, transportEncap, configInfo, provisionInfo, hbound, rfl⟩ := h
  have hfree : ∀ s ∈ (SpdmContext.new build transportEncap configInfo provisionInfo).session,
      s = {} := fun s hs => List.eq_of_mem_replicate hs
  refine ⟨by simpa [SpdmContext.new] using hbound, fun i s hi hs => ?_, fun s hs _ => ?_, ?_⟩
  · exact absurd (by rw [hfree s (List.mem_of_getElem? hi)]) hs
  · rw [hfree s hs]
  · simp [SpdmContext.new]

omit [Crypto] in
theorem Table.surroundings (hc : Table isRequester c)
    (h : Surroundings c c') : Table isRequester c' := by
  exact hc.of_session_eq (by rw [h]) (by rw [h]; exact hc.last)

end Spdm
