/-
  Spdm.Requester.CertificateFetch — a certificate chain, against any responder
  (`send_receive_spdm_certificate`, `handle_spdm_certificate_partial_response`).
-/
import Spdm.Context.Mild
import Spdm.Requester.Attested
import Spdm.Requester.LargeRequest

namespace Spdm

open Effect Codec

variable {c c' : SpdmContext} {max slotId : Nat} {p : CertificateFields} {data : Bytes}
    {id : Option Nat} {crypto : Bool}

namespace Requester

open SpdmContext SpdmRequestResponseCode

/-! ## §1. Lengths. -/

theorem twp_u32Sub {Q : Nat → SpdmContext → Prop} {E : SpdmStatus → SpdmContext → Prop} {a b : Nat}
    (hab : b ≤ a) (ha : a < 2 ^ 32) (h : Q (a - b) c) :
    twp (u32Sub a b) Q E c := by
  refine twp_seq (twp_seq (twp_assert.2 ⟨by simp [hab], ?_⟩))
  have heq : (a + (2 ^ 32 - b % 2 ^ 32)) % 2 ^ 32 = a - b := by omega
  rw [heq]
  exact h

theorem twp_u32Add {Q : Nat → SpdmContext → Prop} {E : SpdmStatus → SpdmContext → Prop} {a b : Nat}
    (hab : a + b < 2 ^ 32) (h : Q (a + b) c) :
    twp (u32Add a b) Q E c := by
  refine twp_seq (twp_seq (twp_assert.2 ⟨by rw [decide_eq_true hab, Bool.or_true], ?_⟩))
  rw [Nat.mod_eq_of_lt hab]
  exact h

structure ChainCursor where
  totalSize : Nat := 0
  offset : Nat := 0
  length : Nat := maxSpdmCertPortionLen
  deriving Repr, DecidableEq

/-- The cursor stands at the start, or inside the announced chain with the
next request cut to what remains of it. -/
structure ChainCursor.Fits (max : Nat) (a : ChainCursor) : Prop where
  fresh : a.totalSize = 0 → a.offset = 0 ∧ a.length = maxSpdmCertPortionLen
  running : a.totalSize ≠ 0 → 0 < a.offset ∧ a.offset ≤ a.totalSize ∧ a.totalSize < max ∧
    a.length = min (a.totalSize - a.offset) maxSpdmCertPortionLen

theorem ChainCursor.Fits.offset_le {a : ChainCursor} (h : a.Fits max) :
    a.offset ≤ max := by
  by_cases hzero : a.totalSize = 0
  · rw [(h.fresh hzero).1]
    exact Nat.zero_le _
  · have := h.running hzero
    omega

theorem ChainCursor.Fits.length_le {a : ChainCursor} (h : a.Fits max) :
    a.length ≤ maxSpdmCertPortionLen := by
  by_cases hzero : a.totalSize = 0
  · exact (h.fresh hzero).2.le
  · rw [(h.running hzero).2.2.2]
    exact Nat.min_le_right _ _

structure PortionFits (max : Nat) (a : ChainCursor) (p : CertificateFields) : Prop where
  pos : 0 < p.first
  asked : p.first ≤ a.length
  below : a.offset + p.first + p.second < max
  announced : a.totalSize = 0 ∨ a.totalSize = a.offset + p.first + p.second

def ChainCursor.next (a : ChainCursor) (p : CertificateFields) : ChainCursor :=
  { totalSize := if a.totalSize = 0 then p.first + p.second else a.totalSize
    offset := a.offset + p.first
    length := min p.second maxSpdmCertPortionLen }

theorem ChainCursor.Fits.totalSize_next {a : ChainCursor} (h : a.Fits max)
    (hp : PortionFits max a p) :
    (a.next p).totalSize = (a.next p).offset + p.second := by
  unfold ChainCursor.next
  dsimp only
  obtain hzero | htotal := hp.announced
  · rw [if_pos hzero, (h.fresh hzero).1]
    omega
  · have hpos := hp.pos
    rw [if_neg (by omega)]
    exact htotal

theorem ChainCursor.Fits.next {a : ChainCursor} (h : a.Fits max) (hp : PortionFits max a p) :
    (a.next p).Fits max := by
  have htotal := h.totalSize_next hp
  have hoffset : (a.next p).offset = a.offset + p.first := rfl
  have hlength : (a.next p).length = min p.second maxSpdmCertPortionLen := rfl
  have hpos := hp.pos
  have hbelow := hp.below
  refine ⟨fun hzero => by omega, fun _ => ⟨by omega, by omega, by omega, ?_⟩⟩
  rw [hlength, htotal, Nat.add_sub_cancel_left]

theorem twp_checkPortion {a : ChainCursor}
    (ha : a.Fits c.build.config.maxSpdmCertChainDataSize) (p : CertificateFields) :
    twp (checkPortion a.totalSize a.offset a.length p)
      (fun _ c' => c' = c ∧ PortionFits c.build.config.maxSpdmCertChainDataSize a p)
      (fun _ _ => True) c := by
  have hmax := c.build.certChain_le
  have hoffset := ha.offset_le
  refine twp_seq (twp_seq (twp_guardElse (fun hasked => ?_) trivial))
  simp only [Bool.and_eq_true, bne_iff_ne, ne_eq, decide_eq_true_eq] at hasked
  refine twp_seq (twp_u32Sub hoffset (by omega) (twp_seq (twp_guardElse (fun hroom => ?_) trivial)))
  simp only [decide_eq_true_eq] at hroom
  refine twp_seq (twp_u32Sub hoffset (by omega) (twp_seq (twp_u32Sub hroom (by omega)
    (twp_seq (twp_guardElse (fun hrest => ?_) trivial)))))
  simp only [decide_eq_true_eq] at hrest
  refine twp_ite (fun hzero => ⟨rfl, by omega, hasked.2, by omega, .inl hzero⟩) fun _ => ?_
  refine twp_seq (twp_u32Add (by omega) (twp_seq (twp_u32Add (by omega) (twp_guardElse
    (fun htotal => ⟨rfl, by omega, hasked.2, by omega, .inr ?_⟩) trivial))))
  exact beq_iff_eq.1 htotal

/-! ## §2. One CERTIFICATE. -/

variable [Crypto]

omit [Crypto] in
theorem total_parseCertificateResponse (c : SpdmContext) : Total (parseCertificateResponse c) := by
  have hskip : ∀ n, Total (skipBytes n) := fun n => .bind (total_takeBytes n) fun _ => .ret _
  refine .bind ?_ fun p => .bind (total_takeBytes _) fun _ => .ret _
  refine .bind total_u8 fun param1 => .bind (.guardElse _ _) fun _ => .bind (.guardElse _ _)
    fun _ => .bind (hskip 1) fun _ => .bind ?_ fun _ => .bind (total_uintLe _) fun _ =>
    .bind (total_uintLe _) fun _ => .ret _
  split
  · exact hskip 4
  · exact .ret _

omit [Crypto] in
theorem parseCertificateResponse_length {rest left : Bytes}
    (h : parseCertificateResponse c rest = .ok (p, data) left)
    (hp : p.first ≤ maxSpdmCertPortionLen) : data.length = p.first := by
  obtain ⟨p', _, -, hdata⟩ := bind_eq_ok.1 h
  obtain ⟨bytes, _, htake, hret⟩ := bind_eq_ok.1 hdata
  obtain ⟨hpair, -⟩ := ret_eq_ok.1 hret
  obtain ⟨rfl, rfl⟩ := Prod.mk.inj hpair
  rw [(takeBytes_eq_ok htake).1, Nat.min_eq_left hp]

def portionIn (c : SpdmContext) (response : Bytes) : Option (CertificateFields × Bytes) :=
  match parseHeader response with
  | .ok _ rest => (parseCertificateResponse c rest).returned
  | _ => none

def OnlyRuntime (c c' : SpdmContext) : Prop := c' = { c with runtimeInfo := c'.runtimeInfo }

omit [Crypto] in
instance : StepRel OnlyRuntime where
  refl _ := rfl
  trans h h' := by
    unfold OnlyRuntime at *
    rw [h', h]

theorem twp_appendMessageB (m : Bytes) (c : SpdmContext) :
    twp (appendMessageB m) (fun _ c' => OnlyRuntime c c') (fun _ c' => OnlyRuntime c c') c := by
  refine twp_seq (twp_ite (fun _ => twp_seq ?_) fun _ => twp_seq (twp_orFail (fun _ _ => rfl) rfl))
  refine (twp_read).2 (twp_seq ?_)
  split
  · exact rfl
  · exact twp_seq (twp_orFail (fun _ _ => rfl) rfl)

theorem twp_recordB (id : Option Nat) (request response : Bytes) :
    twp (recordB id request response) (fun _ c' => OnlyRuntime c c') (fun _ c' => OnlyRuntime c c')
      c := by
  cases id with
  | some id => exact rfl
  | none =>
    refine twp_seq (twp_mono (twp_appendMessageB request c) (fun _ c₁ h₁ => ?_) fun _ _ h => h)
    exact twp_mono (twp_appendMessageB response c₁) (fun _ _ h => StepRel.trans h₁ h)
      fun _ _ h => StepRel.trans h₁ h

omit [Crypto] in
theorem twp_onResponse {α : Type} {expected : UInt8} {response : Bytes}
    {k : Bytes → SpdmResult α} {Q : α → SpdmContext → Prop}
    (hk : ∀ header rest, parseHeader response = .ok header rest →
      header.requestResponseCode = expected → twp (k rest) Q (fun _ _ => True) c) :
    twp (onResponse id expected response k) Q (fun _ _ => True) c := by
  refine twp_seq (twp_seq (twp_parseRest total_parseHeader (fun header rest hparse => ?_)
    (twp_seq trivial)))
  refine twp_seq (twp_seq (twp_guardElse (fun _ => ?_) trivial))
  refine twp_ite (hk header rest hparse) fun _ => twp_ite (fun _ => ?_) fun _ => trivial
  exact twp_seq (twp_mono (twp_spdmHandleErrorResponseMain id response c) (fun _ _ h => h.elim)
    fun _ _ _ => trivial)

structure StoredPortion (slotId : Nat) (a : ChainCursor) (c : SpdmContext) (p : CertificateFields)
    (data : Bytes) (c' : SpdmContext) : Prop where
  slot : p.slotId = slotId
  fits : PortionFits c.build.config.maxSpdmCertChainDataSize a p
  size : data.length = p.first
  stored : ∃ chain, c.peerInfo.peerCertChainTemp = some chain ∧
    OnlyRuntime (setChainTemp (some (bufTake a.offset chain ++ data)) c) c'

theorem twp_handleSpdmCertificatePartialResponse {a : ChainCursor}
    (ha : a.Fits c.build.config.maxSpdmCertChainDataSize) (id : Option Nat) (slotId : Nat)
    (request response : Bytes) :
    twp (handleSpdmCertificatePartialResponse id slotId a.totalSize a.offset a.length request
        response)
      (fun r c' => ∃ p data, portionIn c response = some (p, data) ∧ r = (p.first, p.second) ∧
        StoredPortion slotId a c p data c')
      (fun _ _ => True) c := by
  have hmax := c.build.certChain_le
  refine twp_onResponse fun header rest hheader _ => twp_seq (twp_seq (twp_seq ?_))
  refine twp_parseRest (total_parseCertificateResponse c) (fun ⟨p, data⟩ left hparse => ?_) trivial
  refine twp_seq (twp_mono (twp_checkPortion ha p) (fun _ c₁ hcheck => ?_) fun _ _ h => h)
  obtain ⟨rfl, hfits⟩ := hcheck
  refine twp_seq (twp_guardElse (fun hslot => ?_) trivial)
  have hsmall : p.first ≤ maxSpdmCertPortionLen := hfits.asked.trans ha.length_le
  have hbelow := hfits.below
  have hsize := parseCertificateResponse_length hparse hsmall
  refine twp_seq (twp_seq (twp_seq (twp_orFail (fun chain hchain => ?_) trivial)))
  refine twp_seq (twp_assert.2 ⟨decide_eq_true (by omega), ?_⟩)
  refine twp_seq (twp_assert.2 ⟨decide_eq_true hsmall, twp_seq (twp_u32Add (by omega) ?_)⟩)
  have hstored : bufTake (a.offset + p.first) (bufTake a.offset chain ++ data) =
      bufTake a.offset chain ++ data := bufTake_of_length (by simp [hsize])
  rw [hstored]
  refine twp_seq (twp_mono (twp_recordB id request _) (fun _ c₂ hrecord => ?_)
    fun _ _ _ => trivial)
  refine ⟨p, data, ?_, rfl, beq_iff_eq.1 hslot, hfits, hsize, chain, hchain, hrecord⟩
  rw [portionIn, hheader]
  exact Outcome.returned_eq_some.2 ⟨left, hparse⟩

/-! ## §3. One round. -/

def askPortion (sessionId : Option Nat) (slotId : Nat) (a : ChainCursor) :
    SpdmResult (Bytes × Bytes) := do
  let c ← read
  let request ← sendRequest sessionId (encodeGetCertificate c slotId a.offset a.length)
  let response ← receiveResponse sessionId false
  ret (request, response)

def takeAnswer (sessionId : Option Nat) (slotId : Nat) (a : ChainCursor)
    (request response : Bytes) : SpdmResult (Turn ChainCursor Nat) := do
  let (portion, remainder) ← handleSpdmCertificatePartialResponse sessionId slotId a.totalSize
    a.offset a.length request response
  let announced ← (if a.totalSize = 0 then u32Add portion remainder else ret a.totalSize)
  let offset ← u32Add a.offset portion
  ret (.again ⟨announced, offset, min remainder maxSpdmCertPortionLen⟩)

def certificateTurn (sessionId : Option Nat) (slotId : Nat) (a : ChainCursor) :
    SpdmResult (Turn ChainCursor Nat) :=
  if a.length = 0 then ret (.done a.totalSize)
  else do
    let (request, response) ← askPortion sessionId slotId a
    takeAnswer sessionId slotId a request response

theorem fetchCertificate_eq_loop (id : Option Nat) (slotId n : Nat) (a : ChainCursor) :
    fetchCertificate id slotId n a.totalSize a.offset a.length =
      loop (certificateTurn id slotId) .receiveFail n a := by
  induction n generalizing a with
  | zero => rfl
  | succ n ih =>
    rw [loop, fetchCertificate]
    generalize loop (certificateTurn id slotId) SpdmStatus.receiveFail n = k at ih ⊢
    have hrest : ∀ total offset length, fetchCertificate id slotId n total offset length =
        k ⟨total, offset, length⟩ := fun _ _ _ => ih ⟨_, _, _⟩
    unfold certificateTurn askPortion takeAnswer
    by_cases hlength : a.length = 0
    · rw [if_pos hlength, if_pos hlength]
      rfl
    · rw [if_neg hlength, if_neg hlength]
      simp only [bind_assoc, hrest]
      rfl

theorem within_askPortion {R : SpdmSession → SpdmSession → Prop} [RequesterSlotRel R]
    (id : Option Nat) (slotId : Nat) (a : ChainCursor) :
    Within (ChannelStep R) (askPortion id slotId a) :=
  .bind .read fun _ => .bind (.bind .read fun _ => .bind (within_writeInto _) fun _ =>
    .bind (within_sendMessage _ _ _) fun _ => .ret _) fun _ =>
    .bind (.bind .read fun _ => within_receiveMessage _ _ _) fun _ => .ret _

theorem sameParty_askPortion (id : Option Nat) (slotId : Nat) (a : ChainCursor) :
    Within SameParty (askPortion id slotId a) :=
  (within_askPortion (R := fun _ _ => True) id slotId a).mono fun _ _ h => h.sameParty

structure TookPortion (id : Option Nat) (slotId : Nat) (a : ChainCursor) (c : SpdmContext)
    (p : CertificateFields) (data : Bytes) (c' : SpdmContext) : Prop where
  asked : a.length ≠ 0
  stored : ∃ request response c₁, askPortion id slotId a c = .ok (request, response) c₁ ∧
    portionIn c₁ response = some (p, data) ∧ StoredPortion slotId a c₁ p data c'

def Turned (id : Option Nat) (slotId : Nat) (a : ChainCursor) (c : SpdmContext) :
    Turn ChainCursor Nat → SpdmContext → Prop
  | .again a', c' => ∃ p data, TookPortion id slotId a c p data c' ∧ a' = a.next p
  | .done b, c' => a.length = 0 ∧ b = a.totalSize ∧ c' = c

def channelAborts (id : Option Nat) (slotId : Nat) (a : ChainCursor) (c : SpdmContext) : Bool :=
  a.length != 0 && (askPortion id slotId a c).isPanic

theorem certificateTurn_of_aborts {a : ChainCursor} (h : channelAborts id slotId a c = true) :
    certificateTurn id slotId a c = .panic := by
  unfold channelAborts at h
  rw [Bool.and_eq_true, bne_iff_ne, Outcome.isPanic_iff] at h
  rw [certificateTurn, if_neg h.1, bind_apply, h.2]

theorem twp_certificateTurn {a : ChainCursor}
    (ha : a.Fits c.build.config.maxSpdmCertChainDataSize)
    (hchannel : channelAborts id slotId a c = false) :
    twp (certificateTurn id slotId a) (Turned id slotId a c) (fun _ _ => True) c := by
  refine twp_ite (fun hzero => ⟨hzero, rfl, rfl⟩) fun hlength => twp_seq ?_
  have hask : askPortion id slotId a c ≠ .panic := fun hpanic => by
    simp [channelAborts, hlength, Outcome.isPanic_iff.2 hpanic] at hchannel
  refine twp_mono (twp_of_wp (sameParty_askPortion id slotId a c) hask).with_run
    (fun ⟨request, response⟩ c₁ hrun => ?_) fun _ _ _ => trivial
  obtain ⟨hrun, hparty⟩ := hrun
  have hmax := c₁.build.certChain_le
  have ha₁ : a.Fits c₁.build.config.maxSpdmCertChainDataSize := by rwa [hparty.build]
  refine twp_seq (twp_mono (twp_handleSpdmCertificatePartialResponse ha₁ id slotId request response)
    (fun r c₂ hstored => ?_) fun _ _ h => h)
  obtain ⟨p, data, hportion, rfl, hstored⟩ := hstored
  have hbelow := hstored.fits.below
  have hannounced : twp (if a.totalSize = 0 then u32Add p.first p.second else ret a.totalSize)
      (fun n c' => n = (a.next p).totalSize ∧ c' = c₂) (fun _ _ => True) c₂ := by
    refine twp_ite (fun hzero => twp_u32Add (by omega) ⟨?_, rfl⟩) fun hsome => ⟨?_, rfl⟩
    · exact (if_pos hzero).symm
    · exact (if_neg hsome).symm
  refine twp_seq (twp_mono hannounced (fun total c₃ htotal => ?_) fun _ _ _ => trivial)
  obtain ⟨rfl, rfl⟩ := htotal
  refine twp_seq (twp_u32Add (by omega) ?_)
  exact ⟨p, data, ⟨hlength, request, response, c₁, hrun, hportion, hstored⟩, rfl⟩

def receivedPortion (sessionId : Option Nat) (slotId : Nat) (a : ChainCursor) (c : SpdmContext) :
    Option (CertificateFields × Bytes) :=
  if a.length = 0 then none
  else match askPortion sessionId slotId a c with
    | .ok (_, response) c₁ => portionIn c₁ response
    | _ => none

section TookPortion
variable {id : Option Nat} {slotId : Nat} {a : ChainCursor} {c c' : SpdmContext}
  {p : CertificateFields} {data : Bytes}

theorem TookPortion.received (h : TookPortion id slotId a c p data c') :
    receivedPortion id slotId a c = some (p, data) := by
  obtain ⟨request, response, c₁, hrun, hportion, -⟩ := h.stored
  rw [receivedPortion, if_neg h.asked, hrun]
  exact hportion

theorem TookPortion.fits (h : TookPortion id slotId a c p data c') :
    PortionFits c.build.config.maxSpdmCertChainDataSize a p := by
  obtain ⟨request, response, c₁, hrun, -, hstored⟩ := h.stored
  rw [← ((sameParty_askPortion id slotId a).of_ok hrun).build]
  exact hstored.fits

theorem TookPortion.build (h : TookPortion id slotId a c p data c') : c'.build = c.build := by
  obtain ⟨request, response, c₁, hrun, -, hstored⟩ := h.stored
  obtain ⟨chain, -, hruntime⟩ := hstored.stored
  rw [hruntime]
  exact ((sameParty_askPortion id slotId a).of_ok hrun).build

theorem TookPortion.chain (h : TookPortion id slotId a c p data c') {chain : Bytes}
    (hchain : c.peerInfo.peerCertChainTemp = some chain) (hsize : chain.length = a.offset) :
    c'.peerInfo.peerCertChainTemp = some (chain ++ data) ∧ data.length = p.first := by
  obtain ⟨request, response, c₁, hrun, -, hstored⟩ := h.stored
  obtain ⟨chain₁, hchain₁, hruntime⟩ := hstored.stored
  rw [((sameParty_askPortion id slotId a).of_ok hrun).peerInfo, hchain] at hchain₁
  obtain rfl := Option.some.inj hchain₁
  rw [hruntime]
  exact ⟨by rw [setChainTemp, bufTake_of_length hsize], hstored.size⟩

end TookPortion

/-! ## §4. The loop. -/

def roomLeft (a : ChainCursor) (c : SpdmContext) : Nat :=
  if a.length = 0 then 0 else c.build.config.maxSpdmCertChainDataSize - a.offset

def CursorFits (a : ChainCursor) (c : SpdmContext) : Prop :=
  a.Fits c.build.config.maxSpdmCertChainDataSize

theorem TookPortion.step {a : ChainCursor} (h : TookPortion id slotId a c p data c')
    (ha : CursorFits a c) : CursorFits (a.next p) c' ∧ roomLeft (a.next p) c' < roomLeft a c := by
  have hfits := h.fits
  have hbelow := hfits.below
  have hpos := hfits.pos
  have hoffset : (a.next p).offset = a.offset + p.first := rfl
  refine ⟨?_, ?_⟩
  · rw [CursorFits, h.build]
    exact ha.next hfits
  · rw [roomLeft, roomLeft, h.build, if_neg h.asked]
    split <;> omega

theorem certificateTurn_moves (a : ChainCursor) (c : SpdmContext)
    (ha : CursorFits a c) (hchannel : channelAborts id slotId a c = false) :
    twp (certificateTurn id slotId a)
      (TurnPost CursorFits roomLeft (fun _ _ => True) (roomLeft a c)) (fun _ _ => True) c := by
  refine twp_mono (twp_certificateTurn ha hchannel) (fun t c' hturn => ?_) fun _ _ h => h
  cases t with
  | done b => exact trivial
  | again a' =>
    obtain ⟨p, data, htook, rfl⟩ := hturn
    exact htook.step ha

theorem wp_certificateTurn (a : ChainCursor) (c : SpdmContext)
    (ha : CursorFits a c) :
    wp (certificateTurn id slotId a) (TurnPost CursorFits roomLeft (fun _ _ => True) (roomLeft a c))
      (fun _ _ => True) c := by
  cases hchannel : channelAborts id slotId a c with
  | true => exact wp_of_panic (certificateTurn_of_aborts hchannel)
  | false => exact (certificateTurn_moves a c ha hchannel).wp

theorem turned_of_ok {a : ChainCursor}
    {t : Turn ChainCursor Nat} (ha : CursorFits a c)
    (hrun : certificateTurn id slotId a c = .ok t c') : Turned id slotId a c t c' := by
  cases hchannel : channelAborts id slotId a c with
  | true =>
    rw [certificateTurn_of_aborts hchannel] at hrun
    cases hrun
  | false => exact (twp_certificateTurn ha hchannel).of_ok hrun

structure Collected (portions : List (CertificateFields × Bytes)) (total : Nat) (c : SpdmContext) :
    Prop where
  chain : c.peerInfo.peerCertChainTemp = some (portions.flatMap (·.2))
  size : (portions.flatMap (·.2)).length = total
  announced : ∃ first, portions.head? = some first ∧ total = first.1.first + first.1.second

structure Collecting (portions : List (CertificateFields × Bytes)) (a : ChainCursor)
    (c : SpdmContext) : Prop where
  fits : CursorFits a c
  chain : c.peerInfo.peerCertChainTemp = some (portions.flatMap (·.2))
  size : (portions.flatMap (·.2)).length = a.offset
  announced : a.totalSize = match portions.head? with
    | some first => first.1.first + first.1.second
    | none => 0
  began : portions ≠ [] → a.totalSize ≠ 0

theorem Collecting.took {portions : List (CertificateFields × Bytes)} {a : ChainCursor}
    (h : Collecting portions a c) (htook : TookPortion id slotId a c p data c') :
    Collecting (portions ++ [(p, data)]) (a.next p) c' := by
  obtain ⟨hchain, hsize⟩ := htook.chain h.chain h.size
  refine ⟨(htook.step h.fits).1, ?_, ?_, ?_, fun _ => ?_⟩
  · simpa using hchain
  · have hbefore := h.size
    simp only [List.flatMap_append, List.flatMap_cons, List.flatMap_nil, List.append_nil,
      List.length_append]
    show _ = a.offset + p.first
    omega
  · have hannounced := h.announced
    cases portions with
    | nil =>
      exact if_pos hannounced
    | cons first rest =>
      exact (if_neg (h.began (List.cons_ne_nil _ _))).trans hannounced
  · have hpos := htook.fits.pos
    rw [h.fits.totalSize_next htook.fits]
    show a.offset + p.first + p.second ≠ 0
    omega

omit [Crypto] in
theorem Collecting.collected {portions : List (CertificateFields × Bytes)} {a : ChainCursor}
    (h : Collecting portions a c) (hend : a.length = 0) :
    Collected portions a.totalSize c := by
  have hsome : a.totalSize ≠ 0 := fun hzero => by
    have := (h.fits.fresh hzero).2
    unfold maxSpdmCertPortionLen at this
    omega
  obtain ⟨-, hle, -, hlength⟩ := h.fits.running hsome
  refine ⟨h.chain, ?_, ?_⟩
  · rw [h.size]
    unfold maxSpdmCertPortionLen at hlength
    omega
  · have hannounced := h.announced
    cases portions with
    | nil => exact absurd hannounced hsome
    | cons first rest => exact ⟨first, rfl, hannounced⟩

def receivedPortions (sessionId : Option Nat) (slotId n : Nat) (c : SpdmContext) :
    List (Option (CertificateFields × Bytes)) :=
  trace (certificateTurn sessionId slotId) (receivedPortion sessionId slotId) n {} c

omit [Crypto] in
theorem chainCursor_start (max : Nat) : ({} : ChainCursor).Fits max :=
  ⟨fun _ => ⟨rfl, rfl⟩, fun h => absurd rfl h⟩

theorem fetchCertificate_collected {n total : Nat}
    (htemp : c.peerInfo.peerCertChainTemp = some [])
    (hrun : fetchCertificate id slotId n 0 0 maxSpdmCertPortionLen c = .ok total c') :
    ∃ portions, receivedPortions id slotId n c = portions.map some ++ [none] ∧
      Collected portions total c' := by
  rw [fetchCertificate_eq_loop id slotId n {}] at hrun
  let J (h : List (Option (CertificateFields × Bytes))) (a : ChainCursor) (c : SpdmContext) :
      Prop := ∃ portions, h = portions.map some ∧ Collecting portions a c
  let K (h : List (Option (CertificateFields × Bytes))) (b : Nat) (c : SpdmContext) : Prop :=
    ∃ portions, h = portions.map some ++ [none] ∧ Collected portions b c
  refine loop_trace (J := J) (K := K) ?_ ?_
    ⟨[], rfl, chainCursor_start _, htemp, rfl, rfl, fun h => absurd rfl h⟩ hrun
  · rintro _ a c a' c' ⟨portions, rfl, hcol⟩ hturn
    obtain ⟨p, data, htook, rfl⟩ := turned_of_ok hcol.fits hturn
    exact ⟨portions ++ [(p, data)], by simp [htook.received], hcol.took htook⟩
  · rintro _ a c b c' ⟨portions, rfl, hcol⟩ hturn
    obtain ⟨hend, rfl, rfl⟩ := turned_of_ok hcol.fits hturn
    exact ⟨portions, by rw [receivedPortion, if_pos hend], hcol.collected hend⟩

def certificateRounds (sessionId : Option Nat) (slotId n : Nat) (c : SpdmContext) : Nat :=
  (trace (certificateTurn sessionId slotId) (fun a _ => a.length != 0) n {} c).count true

theorem certificateRounds_le (id : Option Nat) (slotId n : Nat)
    (hmax : 0 < c.build.config.maxSpdmCertChainDataSize) :
    certificateRounds id slotId n c ≤ c.build.config.maxSpdmCertChainDataSize := by
  let I (a : ChainCursor) (c : SpdmContext) : Prop :=
    CursorFits a c ∧ 0 < c.build.config.maxSpdmCertChainDataSize
  let m (a : ChainCursor) (c : SpdmContext) : Nat :=
    c.build.config.maxSpdmCertChainDataSize - a.offset
  refine count_trace_le (I := I) (m := m) (fun a c ha _ => ?_) (fun a c a' c' ha hturn => ?_) n
    ⟨chainCursor_start _, hmax⟩
  · obtain ⟨hfits, hpos⟩ := ha
    show 0 < _ - _
    by_cases hzero : a.totalSize = 0
    · rw [(hfits.fresh hzero).1]
      omega
    · have := hfits.running hzero
      omega
  · obtain ⟨p, data, htook, rfl⟩ := turned_of_ok ha.1 hturn
    have hbelow := htook.fits.below
    have hpos := htook.fits.pos
    have hoffset : (a.next p).offset = a.offset + p.first := rfl
    refine ⟨⟨(htook.step ha.1).1, by rw [htook.build]; exact ha.2⟩, ?_⟩
    show c'.build.config.maxSpdmCertChainDataSize - (a.next p).offset + (a.length != 0).toNat ≤
      c.build.config.maxSpdmCertChainDataSize - a.offset
    have hone := Bool.toNat_le (a.length != 0)
    rw [htook.build]
    omega

theorem fetchCertificate_ends (id : Option Nat) (slotId : Nat) {n n' : Nat}
    (hn : c.build.config.maxSpdmCertChainDataSize < n)
    (hn' : c.build.config.maxSpdmCertChainDataSize < n') :
    fetchCertificate id slotId n 0 0 maxSpdmCertPortionLen c =
      fetchCertificate id slotId n' 0 0 maxSpdmCertPortionLen c := by
  rw [fetchCertificate_eq_loop id slotId n {}, fetchCertificate_eq_loop id slotId n' {}]
  have hstart : CursorFits {} c := chainCursor_start _
  exact loop_eq_of_lt wp_certificateTurn hstart hn hn'

/-! ## §5. A channel that does not abort. -/

structure ChannelReady (id : Option Nat) (c : SpdmContext) : Prop where
  sized : id.isSome = true → Sized c
  refuses : id.isSome = true → RefusesLong c.transportEncap
  peer : CapabilitiesTaken c
  receives : spdmDataTransferSize c.build.config ≤ c.build.config.maxSpdmMsgSize
  buffer : c.chunkContext.transferredSize ≤ c.build.config.maxSpdmMsgSize

theorem ChannelReady.channel (h : ChannelReady id c)
    (hstep : ChannelStep KeepsCipher c c')
    (hbuffer : c'.chunkContext.transferredSize ≤ c.build.config.maxSpdmMsgSize) :
    ChannelReady id c' := by
  refine ⟨fun hid => (h.sized hid).channel hstep, ?_, ?_, ?_, ?_⟩
  · rw [hstep.transportEncap]
    exact h.refuses
  · unfold CapabilitiesTaken
    rw [hstep.negotiateInfo]
    exact h.peer
  · rw [hstep.build]
    exact h.receives
  · rw [hstep.build]
    exact hbuffer

theorem twp_sendRequest (hc : ChannelReady id c)
    {request : Bytes} (hshort : request.length ≤ minDataTransferSize) :
    twp (sendRequest id request) (fun _ c' => ChannelReady id c') (fun _ _ => True) c := by
  refine twp_seq (twp_seq (twp_writeInto (fun _ => twp_seq ?_) trivial))
  have hsingle : twp (sendSingleMessage id request false) (fun _ c' => ChannelReady id c')
      (fun _ _ => True) c := by
    refine twp_mono (twp_sendSingleMessage hc.sized request false) (fun _ c' hout => ?_)
      fun _ _ _ => trivial
    exact hc.channel hout.channel (by rw [hout.chunkContext]; exact hc.buffer)
  refine twp_seq (twp_seq (twp_guardElse (fun _ => twp_seq (twp_guardElse (fun _ => ?_) trivial))
    trivial))
  refine twp_ite (fun h => by cases h) fun _ => twp_ite (fun hlarge => ?_) fun _ => hsingle
  refine twp_ite (fun hchunk => ?_) fun _ => trivial
  -- where chunking is agreed on, a packet takes more than this
  simp only [Bool.and_eq_true] at hchunk
  have hpeer := hc.peer.transferSize_ge hchunk.1.2
  have hsender : minDataTransferSize ≤ spdmSenderDataTransferSize c.build.config :=
    Nat.le_sub_of_add_le (c.build.chunk_fits hchunk.2).1
  simp only [tooLargeForOnePacket, Bool.or_eq_true, Bool.and_eq_true, decide_eq_true_eq] at hlarge
  obtain ⟨-, hlt⟩ | hlt := hlarge
  · exact absurd (hlt.trans_le hshort) (Nat.not_lt.2 hpeer)
  · exact absurd (hlt.trans_le hshort) (Nat.not_lt.2 hsender)

theorem twp_fetchLargeResponse
    (hcrypto : InTime crypto c) (v : SpdmVersion) (rest : Bytes) :
    twp (fetchLargeResponse id v rest c.build.config.maxSpdmMsgSize crypto)
      (fun _ c' => c'.chunkContext = idleChunk) (fun _ _ => True) c := by
  have htotal : ∀ bs, u8 bs ≠ .panic := total_u8
  refine twp_seq (twp_seq (twp_guardElse (fun _ => twp_seq (twp_guardElse (fun _ => ?_) trivial))
    trivial))
  refine twp_seq (twp_parse htotal (fun handle _ _ => ?_) fun _ _ _ => twp_seq trivial)
  refine twp_seq (twp_seq (twp_seq (twp_attempt.2 ?_)))
  set c₁ : SpdmContext := { c with
    chunkRspHandle := handle.toNat
    chunkContext := { idleChunk with chunkStatus := .chunkGetAndResponse } } with hc₁
  have hsafe : FetchSafe id crypto c₁ := (fetchSafe_iff rfl).2 fun _ => hcrypto
  have hbuild := (within_receiveLargeResponse (R := KeepsCipher) id crypto
    (c₁.world.inbox.length + 1))
  refine twp_mono (twp_of_wp (hbuild c₁) (hsafe.noPanic c.build.overflowChecks)).with_run
    (fun u c₂ hrun => ?_)
    fun e c₂ _ => twp_seq ((twp_read).2 (twp_seq trivial))
  obtain ⟨chunks, -, hassembled⟩ := hsafe.content u c₂ hrun.1
  have hfits := hassembled.bounded
  rw [hrun.2.build] at hfits
  exact twp_seq (twp_seq (twp_seq (twp_assert.2 ⟨decide_eq_true hfits, rfl⟩)))

theorem twp_inspectReceived
    (hcrypto : InTime crypto c)
    (hbuffer : c.chunkContext.transferredSize ≤ c.build.config.maxSpdmMsgSize) (buffer : Bytes)
    {result : Except SpdmStatus Bytes} :
    twp (inspectReceived id c.build.config.maxSpdmMsgSize buffer result crypto)
      (fun _ c' => c'.chunkContext.transferredSize ≤ c.build.config.maxSpdmMsgSize)
      (fun _ _ => True) c := by
  have hresult : twp (liftResult result)
      (fun _ c' => c'.chunkContext.transferredSize ≤ c.build.config.maxSpdmMsgSize)
      (fun _ _ => True) c := twp_liftResult (fun _ _ => hbuffer) fun _ _ => trivial
  refine twp_seq (twp_parseRest total_parseHeader (fun header rest _ => ?_) hresult)
  refine twp_ite (fun _ => ?_) fun _ => hresult
  refine twp_seq (twp_parseRest total_parseGeneralPayload (fun ⟨param1, _⟩ left _ => ?_) trivial)
  refine twp_ite (fun _ => ?_) fun _ => hresult
  refine twp_mono (twp_fetchLargeResponse hcrypto header.version left) (fun _ c' hidle => ?_)
    fun _ _ h => h
  rw [hidle]
  exact Nat.zero_le _

theorem twp_receiveResponse
    (hc : ChannelReady id c) (hcrypto : InTime crypto c) :
    twp (receiveResponse id crypto) (fun _ c' => ChannelReady id c') (fun _ _ => True) c := by
  suffices hbuffer : twp (receiveResponse id crypto)
      (fun _ c' => c'.chunkContext.transferredSize ≤ c.build.config.maxSpdmMsgSize)
      (fun _ _ => True) c by
    have hchannel : Within (ChannelStep KeepsCipher) (receiveResponse id crypto) :=
      .bind .read fun _ => within_receiveMessage _ _ _
    refine twp_mono (twp_of_wp (wp_and hbuffer.wp (hchannel c)) hbuffer.ne_panic)
      (fun _ _ h => hc.channel h.2 h.1) fun _ _ _ => trivial
  have hsingle : twp (receiveSingleMessage id c.build.config.maxSpdmMsgSize crypto) _ _ c :=
    twp_receiveSingleMessage hc.sized hc.receives hcrypto (overrunsNext_of_refuses hc.refuses)
  -- a packet leaves the transfer as it is
  have hpacket : ∀ {c'}, PacketIn c c' → InTime crypto c' ∧
      c'.chunkContext.transferredSize ≤ c.build.config.maxSpdmMsgSize ∧
      c'.build.config.maxSpdmMsgSize = c.build.config.maxSpdmMsgSize := fun hin =>
    ⟨fun h => by rw [ctExponent, hin.channel.negotiateInfo]; exact hcrypto h,
      by rw [hin.chunkContext]; exact hc.buffer, by rw [hin.channel.build]⟩
  refine twp_seq (twp_seq (twp_ite (fun _ => twp_ite (fun _ => ?_) fun _ => ?_) fun _ => ?_))
  · refine twp_seq (twp_seq (twp_seq (twp_assert.2 ⟨?_, twp_seq ?_⟩)))
    · rw [bufTake_length]
      exact decide_eq_true hc.buffer
    · exact twp_inspectReceived (c := setChunk idleChunk c) hcrypto (Nat.zero_le _) _
  · refine twp_seq (twp_attempt.2 (twp_mono hsingle (fun m c' hin => ?_) fun e c' hin => ?_))
    · obtain ⟨htime, hbuffer, hmax⟩ := hpacket hin.1
      rw [← hmax] at hbuffer ⊢
      exact twp_inspectReceived htime hbuffer _
    · obtain ⟨htime, hbuffer, hmax⟩ := hpacket hin
      rw [← hmax] at hbuffer ⊢
      exact twp_inspectReceived htime hbuffer _
  · exact twp_mapErr.2 (twp_mono hsingle (fun _ _ hin => (hpacket hin.1).2.1)
      fun _ _ _ => trivial)

omit [Crypto] in
theorem encodeGetCertificate_length_le (c : SpdmContext) (slotId offset length : Nat) :
    (encodeGetCertificate c slotId offset length).length ≤ minDataTransferSize := by
  unfold encodeGetCertificate encodeCertificateFields encodeHeader minDataTransferSize
  split <;> simp

theorem twp_askPortion (hc : ChannelReady id c) (slotId : Nat)
    (a : ChainCursor) :
    twp (askPortion id slotId a) (fun _ c' => ChannelReady id c') (fun _ _ => True) c :=
  twp_seq (twp_seq (twp_mono (twp_sendRequest hc (encodeGetCertificate_length_le c slotId _ _))
    (fun _ _ hsent => twp_seq (twp_mono (twp_receiveResponse hsent nofun) (fun _ _ h => h)
      fun _ _ h => h)) fun _ _ h => h))

theorem twp_certificateTurn_of_ready (a : ChainCursor)
    (c : SpdmContext) (hc : CursorFits a c ∧ ChannelReady id c) :
    twp (certificateTurn id slotId a)
      (TurnPost (fun a c => CursorFits a c ∧ ChannelReady id c) roomLeft (fun _ _ => True)
        (roomLeft a c)) (fun _ _ => True) c := by
  obtain ⟨ha, hready⟩ := hc
  have hask := twp_askPortion hready slotId a
  have hchannel : channelAborts id slotId a c = false := by
    rw [channelAborts, Bool.and_eq_false_iff]
    exact .inr (Bool.eq_false_iff.2 fun h => hask.ne_panic (Outcome.isPanic_iff.1 h))
  refine twp_mono (twp_certificateTurn ha hchannel) (fun t c' hturn => ?_) fun _ _ h => h
  cases t with
  | done b => exact trivial
  | again a' =>
    obtain ⟨p, data, htook, rfl⟩ := hturn
    obtain ⟨hfits, hdrop⟩ := htook.step ha
    refine ⟨⟨hfits, ?_⟩, hdrop⟩
    obtain ⟨request, response, c₁, hrun, -, hstored⟩ := htook.stored
    obtain ⟨chain, -, hruntime⟩ := hstored.stored
    have hready₁ := hask.of_ok hrun
    rw [hruntime]
    exact ⟨fun hid => ⟨(hready₁.sized hid).aead, (hready₁.sized hid).transport,
      (hready₁.sized hid).keyed⟩, hready₁.refuses, hready₁.peer, hready₁.receives, hready₁.buffer⟩

/-! ## §6. The retrieval. -/

def SameChains (c c' : SpdmContext) : Prop :=
  c'.peerInfo.peerCertChain = c.peerInfo.peerCertChain

omit [Crypto] in
instance : StepRel SameChains where
  refl _ := rfl
  trans h h' := h'.trans h

theorem sameChains_handleSpdmCertificatePartialResponse
    {total offset length : Nat} {request response : Bytes} :
    Within SameChains (handleSpdmCertificatePartialResponse id slotId total offset length request
      response) := by
  have hadd : ∀ a b, Within SameChains (u32Add a b) := fun _ _ =>
    .bind .read fun _ => .bind (.assert _) fun _ => .ret _
  have hsub : ∀ a b, Within SameChains (u32Sub a b) := fun _ _ =>
    .bind .read fun _ => .bind (.assert _) fun _ => .ret _
  have happend : ∀ m, Within SameChains (appendMessageB m) := fun m c =>
    wp_mono (twp_appendMessageB m c).wp (fun _ _ h => by rw [SameChains, h])
      fun _ _ h => by rw [SameChains, h]
  refine .bind .read fun _ => .bind within_parseRest fun _ => .bind (.orFail _ _) fun _ =>
    .bind (.guardElse _ _) fun _ => ?_
  dsimp only [onResponseCode]
  split_ifs
  · refine .bind .read fun _ => .bind (.bind within_parseRest fun _ => .orFail _ _) fun _ =>
      .bind ?_ fun _ => .bind (.guardElse _ _) fun _ => .bind ?_ fun _ => .bind ?_ fun _ => .ret _
    · refine .bind .read fun _ => .bind (.guardElse _ _) fun _ => .bind (hsub _ _) fun _ =>
        .bind (.guardElse _ _) fun _ => .bind (hsub _ _) fun _ => .bind (hsub _ _) fun _ =>
        .bind (.guardElse _ _) fun _ => ?_
      split
      · exact .ret _
      · exact .bind (hadd _ _) fun _ => .bind (hadd _ _) fun _ => .guardElse _ _
    · exact .bind .read fun _ => .bind (.orFail _ _) fun _ => .bind (.assert _) fun _ =>
        .bind (.assert _) fun _ => .bind (hadd _ _) fun _ => .update fun _ => rfl
    · cases id with
      | none => exact .bind (happend _) fun _ => happend _
      | some id => exact .ret _
  · refine .bind ((within_spdmHandleErrorResponseMain (R := fun _ _ => True) _ _).mono ?_)
      fun _ => .fail _
    exact fun _ _ h => by rw [SameChains, h.peerInfo]
  · exact .fail _

theorem sameChains_fetchCertificate (id : Option Nat) (slotId n total offset length : Nat) :
    Within SameChains (fetchCertificate id slotId n total offset length) := by
  induction n generalizing total offset length with
  | zero => exact .fail _
  | succ n ih =>
    have hadd : ∀ a b, Within SameChains (u32Add a b) := fun _ _ =>
      .bind .read fun _ => .bind (.assert _) fun _ => .ret _
    have hchannel : ∀ {α : Type} {m : SpdmResult α},
        Within (ChannelStep fun _ _ => True) m → Within SameChains m := fun h =>
      h.mono fun _ _ hstep => by rw [SameChains, hstep.peerInfo]
    rw [fetchCertificate]
    split
    · exact .ret _
    · refine .bind .read fun _ => .bind (.bind .read fun _ => .bind (within_writeInto _) fun _ =>
        .bind (hchannel (within_sendMessage _ _ _)) fun _ => .ret _) fun _ =>
        .bind (.bind .read fun _ => hchannel (within_receiveMessage _ _ _)) fun _ =>
        .bind sameChains_handleSpdmCertificatePartialResponse fun _ =>
        .bind ?_ fun _ => .bind (hadd _ _) fun _ => ih _ _ _
      split
      · exact hadd _ _
      · exact .ret _

def startedRetrieval (id : Option Nat) (c : SpdmContext) : SpdmContext :=
  setChainTemp (some []) (resetBufferViaRequestCode spdmRequestGetCertificate id c)

def retrieve (id : Option Nat) (slotId : Nat) : SpdmResult Nat := do
  let c ← read
  fetchCertificate id slotId (c.build.config.maxSpdmCertChainDataSize + 1) 0 0 maxSpdmCertPortionLen

section
variable [Device]

/-- What a retrieval should do, whatever is received.  The loop makes no more
rounds than the largest chain has bytes, does not abort unless the channel
does, and collects what the portions carry; a known chain of the peer is
replaced by the collected one when that was verified, and stays on an
error. -/
structure CertificateFetch (id : Option Nat) (slotId : Nat) (c : SpdmContext) : Prop where
  rounds : 0 < c.build.config.maxSpdmCertChainDataSize → ∀ n,
    certificateRounds id slotId n (startedRetrieval id c) ≤ c.build.config.maxSpdmCertChainDataSize
  ends : ∀ n, c.build.config.maxSpdmCertChainDataSize < n →
    fetchCertificate id slotId n 0 0 maxSpdmCertPortionLen (startedRetrieval id c) =
      retrieve id slotId (startedRetrieval id c)
  noAbort : true ∉ trace (certificateTurn id slotId) (channelAborts id slotId)
      (c.build.config.maxSpdmCertChainDataSize + 1) {} (startedRetrieval id c) →
    retrieve id slotId (startedRetrieval id c) ≠ .panic
  ready : ChannelReady id (startedRetrieval id c) →
    retrieve id slotId (startedRetrieval id c) ≠ .panic
  content : ∀ total c', retrieve id slotId (startedRetrieval id c) = .ok total c' →
    ∃ portions, receivedPortions id slotId (c.build.config.maxSpdmCertChainDataSize + 1)
        (startedRetrieval id c) = portions.map some ++ [none] ∧ Collected portions total c'
  accepted : ∀ c', sendReceiveSpdmCertificate id slotId c = .ok () c' →
    ∃ total c₁ chain, retrieve id slotId (startedRetrieval id c) = .ok total c₁ ∧
      c₁.peerInfo.peerCertChainTemp = some chain ∧ verifySpdmCertificateChain c₁ = .ok () c₁ ∧
      c'.peerInfo.peerCertChain = c.peerInfo.peerCertChain.setIfInBounds slotId (some chain)
  kept : ∀ e c', sendReceiveSpdmCertificate id slotId c = .err e c' →
    c'.peerInfo.peerCertChain = c.peerInfo.peerCertChain

theorem verifySpdmCertificateChain_still :
    Within (fun c c' => c' = c) verifySpdmCertificateChain :=
  .bind .read fun _ => .bind (.orFail _ _) fun _ => .bind (verifyCertChainBuffer_still _) fun _ =>
    .bind within_liftResult fun _ => .bind (.assert _) fun _ => .bind (.guardElse _ _) fun _ =>
    verifyProvisionedRoot_still

omit [Crypto] [Device] in
theorem startedRetrieval_build (id : Option Nat) (c : SpdmContext) :
    (startedRetrieval id c).build = c.build := (sameParty_resetBuffer _ id c).build

omit [Crypto] [Device] in
theorem startedRetrieval_chains (id : Option Nat) (c : SpdmContext) :
    SameChains c (startedRetrieval id c) := by
  show (resetBufferViaRequestCode _ id c).peerInfo.peerCertChain = _
  rw [(sameParty_resetBuffer _ id c).peerInfo]

def settleRetrieval (slotId total : Nat) : SpdmResult Unit :=
  if total = 0 then do
    update (setChainTemp none)
    fail .invalidCert
  else acceptCertChain slotId

theorem sendReceiveSpdmCertificate_eq
    (hslot : slotId < spdmMaxSlotNumber) :
    sendReceiveSpdmCertificate id slotId c =
      (retrieve id slotId >>= settleRetrieval slotId) (startedRetrieval id c) := by
  rw [sendReceiveSpdmCertificate, bind_of_ok (guardElse_of (decide_eq_true hslot)), update_bind,
    update_bind, retrieve, bind_assoc]
  rfl

theorem acceptCertChain_spec (slotId : Nat) (c : SpdmContext) :
    wp (acceptCertChain slotId)
      (fun _ c' => verifySpdmCertificateChain c = .ok () c ∧ c'.peerInfo.peerCertChain =
        c.peerInfo.peerCertChain.setIfInBounds slotId c.peerInfo.peerCertChainTemp)
      (fun _ c' => SameChains c c') c := by
  unfold acceptCertChain
  cases hrun : verifySpdmCertificateChain c with
  | panic => exact wp_of_panic (by rw [bind_apply, attempt, hrun])
  | ok u c₁ =>
    obtain rfl := verifySpdmCertificateChain_still.of_ok hrun
    rw [wp_bind, wp_attempt, wp_of_ok hrun]
    exact ⟨rfl, rfl⟩
  | err e c₁ =>
    obtain rfl := verifySpdmCertificateChain_still.of_err hrun
    rw [wp_bind, wp_attempt, wp_of_err hrun]
    exact rfl

theorem settleRetrieval_spec (slotId total : Nat) (c : SpdmContext) :
    wp (settleRetrieval slotId total)
      (fun _ c' => verifySpdmCertificateChain c = .ok () c ∧ c'.peerInfo.peerCertChain =
        c.peerInfo.peerCertChain.setIfInBounds slotId c.peerInfo.peerCertChainTemp)
      (fun _ c' => SameChains c c') c :=
  wp_ite (fun _ => rfl) fun _ => acceptCertChain_spec slotId c

omit [Device] in
theorem sameChains_retrieve (id : Option Nat) (slotId : Nat) :
    Within SameChains (retrieve id slotId) :=
  .bind .read fun _ => sameChains_fetchCertificate _ _ _ _ _ _

/-- **A certificate chain, against any responder.** -/
theorem certificateFetch (id : Option Nat) (slotId : Nat) (c : SpdmContext) :
    CertificateFetch id slotId c := by
  have hbuild := startedRetrieval_build id c
  have hchains := startedRetrieval_chains id c
  have hstart : CursorFits {} (startedRetrieval id c) := chainCursor_start _
  have hretrieve : retrieve id slotId (startedRetrieval id c) =
      loop (certificateTurn id slotId) .receiveFail
        (c.build.config.maxSpdmCertChainDataSize + 1) {} (startedRetrieval id c) := by
    rw [retrieve, read_bind, hbuild, ← fetchCertificate_eq_loop]
  have hroom : roomLeft {} (startedRetrieval id c) <
      c.build.config.maxSpdmCertChainDataSize + 1 := by
    rw [← hbuild]
    exact Nat.lt_succ_self _
  constructor
  · intro hmax n
    rw [← hbuild] at hmax ⊢
    exact certificateRounds_le id slotId n hmax
  · intro n hn
    rw [← hbuild] at hn
    exact fetchCertificate_ends id slotId hn (Nat.lt_succ_self _)
  · intro hgood
    rw [hretrieve]
    exact (twp_loop_unless certificateTurn_moves hstart hroom hgood).ne_panic
  · intro hready
    rw [hretrieve]
    exact (twp_loop twp_certificateTurn_of_ready ⟨hstart, hready⟩ hroom).ne_panic
  · intro total c' hrun
    rw [← hbuild]
    exact fetchCertificate_collected rfl hrun
  · intro c' hrun
    by_cases hslot : slotId < spdmMaxSlotNumber
    · rw [sendReceiveSpdmCertificate_eq hslot] at hrun
      obtain ⟨total, c₁, hloop, hsettle⟩ := bind_eq_ok.1 hrun
      obtain ⟨portions, -, hcollected⟩ := fetchCertificate_collected rfl hloop
      obtain ⟨hverify, hset⟩ := wp_ok (settleRetrieval_spec slotId total c₁) hsettle
      have hkept := StepRel.trans hchains ((sameChains_retrieve id slotId).of_ok hloop)
      refine ⟨total, c₁, _, hloop, hcollected.chain, hverify, ?_⟩
      rw [hset, hkept, hcollected.chain]
    · rw [sendReceiveSpdmCertificate, decide_eq_false hslot] at hrun
      cases hrun
  · intro e c' hrun
    show SameChains c c'
    by_cases hslot : slotId < spdmMaxSlotNumber
    · rw [sendReceiveSpdmCertificate_eq hslot] at hrun
      obtain hloop | ⟨total, c₁, hloop, hsettle⟩ := bind_eq_err.1 hrun
      · exact StepRel.trans hchains ((sameChains_retrieve id slotId).of_err hloop)
      · have hsettled := wp_err (settleRetrieval_spec slotId total c₁) hsettle
        exact StepRel.trans (StepRel.trans hchains ((sameChains_retrieve id slotId).of_ok hloop))
          hsettled
    · rw [sendReceiveSpdmCertificate, decide_eq_false hslot] at hrun
      cases hrun
      rfl

end

end Requester

end Spdm
