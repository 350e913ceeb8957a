/-
  Spdm.Session.Freshness — nonces and replays between two key changes.
-/
import Spdm.Context.Small
import Spdm.Session.Delivery

namespace Spdm

open Effect Codec

namespace SpdmSession

/-! ## §1. Counters and nonces. -/

theorem seqPrefix_eq_leBytes (seq : Nat) : seqPrefix 8 seq = leBytes 8 seq := by
  simp [seqPrefix, seqByte, leBytes, List.range_succ, Nat.shiftRight_eq_div_pow,
    Nat.div_div_eq_div_mul]

theorem xorSalt_injective {salt : Bytes} {m n : Nat} (hsalt : 8 ≤ salt.length)
    (hm : m ≤ maxSequenceNumber) (hn : n ≤ maxSequenceNumber)
    (h : xorSalt salt m = xorSalt salt n) : m = n := by
  have hbytes : seqPrefix 8 m = seqPrefix 8 n := by
    refine List.map_congr_left fun i hi => ?_
    have hi : i < 8 := List.mem_range.1 hi
    have hat := congrArg (·[i]?) h
    simp only [xorSalt, List.getElem?_mapIdx, List.getElem?_eq_getElem (hi.trans_le hsalt), hi,
      if_true, Option.map_some, Option.some.injEq] at hat
    exact (UInt8.xor_right_inj _).1 hat
  rw [seqPrefix_eq_leBytes, seqPrefix_eq_leBytes] at hbytes
  unfold maxSequenceNumber at hm hn
  exact leBytes_injective (by norm_num; omega) (by norm_num; omega) hbytes

theorem direction_advanceDirection (d r : Bool) (s : SpdmSession) :
    (s.advanceDirection r).direction d =
      if d = r then (s.direction d).advance else s.direction d := by
  unfold advanceDirection direction
  cases s.sessionState <;> cases d <;> cases r <;> rfl

theorem advanceDirection_rest (r : Bool) (s : SpdmSession) : s.advanceDirection r = { s with
    handshakeSecret := (s.advanceDirection r).handshakeSecret
    applicationSecret := (s.advanceDirection r).applicationSecret } := by
  unfold advanceDirection
  cases s.sessionState <;> cases r <;> rfl

structure Counted {ι : Type} (used : Nat → ι → Prop) (n : Nat) (l : List ι) : Prop where
  below : ∀ x ∈ l, ∃ m < n, used m x
  apart : l.Pairwise fun x y => ∃ m k, m < k ∧ k < n ∧ used m x ∧ used k y

namespace Counted
variable {ι : Type} {used : Nat → ι → Prop} {n : Nat} {l : List ι}

theorem nil : Counted used n [] := ⟨by simp, .nil⟩

theorem skip (h : Counted used n l) : Counted used (n + 1) l :=
  ⟨fun x hx => (h.below x hx).imp fun _ hm => ⟨Nat.lt_succ_of_lt hm.1, hm.2⟩,
    h.apart.imp fun ⟨m, k, hmk, hk, hused⟩ => ⟨m, k, hmk, Nat.lt_succ_of_lt hk, hused⟩⟩

theorem use {p : ι → Bool} {x : ι} (h : Counted used n (l.filter p)) (hp : p x = true)
    (hx : used n x) : Counted used (n + 1) ((l ++ [x]).filter p) := by
  rw [List.filter_append, List.filter_cons_of_pos hp, List.filter_nil]
  refine ⟨fun y hy => ?_, List.pairwise_append.2 ⟨h.skip.apart, List.pairwise_singleton _ _, ?_⟩⟩
  · obtain hy | hy := List.mem_append.1 hy
    · exact h.skip.below y hy
    · exact ⟨n, Nat.lt_succ_self n, List.mem_singleton.1 hy ▸ hx⟩
  · intro y hy z hz
    obtain ⟨m, hm, hused⟩ := h.below y hy
    exact ⟨m, n, hm, Nat.lt_succ_self n, hused, List.mem_singleton.1 hz ▸ hx⟩

end Counted

/-! ## §2. Packets. -/

variable [Crypto] {role : Bool} {s t : SpdmSession}

/-- What a party does with a session between two changes of its keys. -/
inductive Traffic (role : Bool) (s t : SpdmSession) : Prop
  | sends (config : Config) (app : Bytes) (room : Nat)
      (h : Ran (encodeSpdmSecuredMessage config app room role) s t)
  | receives (config : Config) (packet : Bytes) (room : Nat)
      (h : Ran (decodeSpdmSecuredMessage config packet room (!role)) s t)

/-- The cipher opens a packet under one nonce of a key only. -/
structure NonceBound : Prop where
  opens_one : ∀ {algo : Flags} {key nonce nonce' aad cipher tag plain plain' : Bytes},
    aeadDecrypt algo key nonce aad cipher tag = .ok plain →
    aeadDecrypt algo key nonce' aad cipher tag = .ok plain' → nonce = nonce'

def lengthField (count : Nat) (packet : Bytes) : Nat := leNat ((packet.drop (4 + count)).take 2)

omit [Crypto] in
theorem parseAad_eq_ok {id count seq length : Nat} {packet rest : Bytes}
    (h : parseAad id count seq packet = .ok length rest) : length = lengthField count packet := by
  unfold parseAad at h
  obtain ⟨_, _, hid, h⟩ := bind_eq_ok.1 h
  obtain ⟨_, _, hguard, h⟩ := bind_eq_ok.1 h
  obtain ⟨-, rfl⟩ := guardElse_eq_ok.1 hguard
  obtain ⟨taken, _, htake, h⟩ := bind_eq_ok.1 h
  obtain ⟨_, _, hguard', hlength⟩ := bind_eq_ok.1 h
  obtain ⟨-, rfl⟩ := guardElse_eq_ok.1 hguard'
  obtain ⟨rfl, hrest⟩ := takeBytes_eq_ok htake
  have hlt := uintLe_lt hlength
  rw [uintLe_eq_ok hlength] at hrest
  rw [uintLe_eq_ok hid, hrest, lengthField, ← List.append_assoc,
    List.drop_left' (by simp), List.take_left' (by simp), leNat_leBytes_of_lt hlt]

def OpensAt (s : SpdmSession) (p : SpdmSessionSecretParam) (n : Nat) (r : OpenRecord) : Prop :=
  let head := 6 + s.transportParam.sequenceNumberCount
  let length := lengthField s.transportParam.sequenceNumberCount r.message
  ∃ tagSize plain, SpdmAeadAlgo.tagSize? s.cryptoParam.aeadAlgo = some tagSize ∧
    aeadDecrypt s.cryptoParam.aeadAlgo p.encryptionKey (xorSalt p.salt n) (r.message.take head)
      ((r.message.drop head).take (length - tagSize))
      ((r.message.drop (head + (length - tagSize))).take tagSize) = .ok plain

theorem decodeMsg_opensAt {config : Config} {r : OpenRecord} {app : Bytes} {room : Nat}
    {p : SpdmSessionSecretParam} (h : decodeMsg config r.message room p s = .ok app t) :
    OpensAt s p p.sequenceNumber r := by
  unfold decodeMsg at h
  rw [read_bind] at h
  obtain ⟨tagSize, _, horAbort, h⟩ := bind_eq_ok.1 h
  obtain ⟨htag, rfl⟩ := orAbort_eq_ok.1 horAbort
  obtain ⟨_, _, hcounter, h⟩ := bind_eq_ok.1 h
  obtain ⟨-, rfl⟩ := guardElse_eq_ok.1 hcounter
  obtain ⟨length, _, hparse, h⟩ := bind_eq_ok.1 h
  cases hfields : parseAad s.sessionId s.transportParam.sequenceNumberCount p.sequenceNumber
      r.message with
  | err _ _ => rw [hfields] at hparse; cases hparse
  | panic => rw [hfields] at hparse; cases hparse
  | ok length' rest =>
    rw [hfields] at hparse
    obtain ⟨rfl, rfl⟩ := ret_eq_ok.1 hparse
    obtain rfl := parseAad_eq_ok hfields
    obtain ⟨_, _, hsize, h⟩ := bind_eq_ok.1 h
    obtain ⟨-, rfl⟩ := guardElse_eq_ok.1 hsize
    obtain ⟨_, _, hsize', h⟩ := bind_eq_ok.1 h
    obtain ⟨-, rfl⟩ := guardElse_eq_ok.1 hsize'
    obtain ⟨_, _, hbuffer, h⟩ := bind_eq_ok.1 h
    obtain ⟨-, rfl⟩ := assert_eq_ok.1 hbuffer
    obtain ⟨plain, _, hdecrypt, -⟩ := bind_eq_ok.1 h
    exact ⟨tagSize, plain, htag, (liftResult_eq_ok.1 hdecrypt).1⟩

/-! ## §3. Runs. -/

def sealedUnder (key : Bytes) (s : SpdmSession) : List SealRecord := s.sealed.filter (·.key == key)

def openedUnder (key : Bytes) (s : SpdmSession) : List OpenRecord := s.opened.filter (·.key == key)

def SealedAt (p : SpdmSessionSecretParam) (n : Nat) (r : SealRecord) : Prop :=
  r.nonce = xorSalt p.salt n

structure Tracked (role : Bool) (s₀ s : SpdmSession) : Prop where
  keys : s.sessionState ≠ .notStarted → ∀ d,
    (s.direction d).encryptionKey = (s₀.direction d).encryptionKey ∧
      (s.direction d).salt = (s₀.direction d).salt
  terms : s.sessionState ≠ .notStarted → s.cryptoParam = s₀.cryptoParam ∧
    s.transportParam = s₀.transportParam
  single : s.responderBackupValid = false
  sealing : Counted (SealedAt (s₀.direction role)) (s.direction role).sequenceNumber
    (sealedUnder (s₀.direction role).encryptionKey s)
  opening : Counted (OpensAt s₀ (s₀.direction !role)) (s.direction !role).sequenceNumber
    (openedUnder (s₀.direction !role).encryptionKey s)

variable {s₀ : SpdmSession}

theorem Tracked.down (h : Tracked role s₀ s) : Tracked role s₀ s.setDefault :=
  ⟨fun h => absurd rfl h, fun h => absurd rfl h, h.single, .nil, .nil⟩

theorem Tracked.counts (h : Tracked role s₀ s) (d : Bool) {u : SpdmSession}
    (hu : { u with sealed := [], opened := [] } =
      { s.advanceDirection d with sealed := [], opened := [] })
    (hseal : Counted (SealedAt (s₀.direction role)) (u.direction role).sequenceNumber
      (sealedUnder (s₀.direction role).encryptionKey u))
    (hopen : Counted (OpensAt s₀ (s₀.direction !role)) (u.direction !role).sequenceNumber
      (openedUnder (s₀.direction !role).encryptionKey u)) : Tracked role s₀ u := by
  have hrest : { u with sealed := [], opened := [] } = { s with
      handshakeSecret := u.handshakeSecret, applicationSecret := u.applicationSecret
      sealed := [], opened := [] } := by
    rw [hu, advanceDirection_rest]
    injection hu with _ _ _ _ _ _ hhandshake happlication
    rw [hhandshake, happlication]
  injection hrest with _ _ _ hstate hcrypto _ _ _ _ hbackup _ htransport
  refine ⟨fun hstarted j => ?_, ?_, hbackup.trans h.single, hseal, hopen⟩
  · have hj := h.keys (hstate ▸ hstarted) j
    have hdir := congrArg (SpdmSession.direction j) hu
    change u.direction j = (s.advanceDirection d).direction j at hdir
    rw [hdir, direction_advanceDirection]
    split <;> exact hj
  · rw [hstate, hcrypto, htransport]
    exact h.terms

theorem Tracked.sends {config : Config} {app : Bytes} {room : Nat}
    (h : Ran (encodeSpdmSecuredMessage config app room role) s t) (hs : Tracked role s₀ s) :
    Tracked role s₀ t := by
  obtain ⟨out, h⟩ | ⟨e, h⟩ := h
  · obtain ⟨hstarted, -, rfl⟩ :=
      (wp_of_ok h).1 (encodeSpdmSecuredMessage_spec config app room role s)
    have hrest := advanceDirection_rest role s
    obtain ⟨hkey, hsalt⟩ := hs.keys hstarted role
    refine hs.counts role rfl ?_ ?_
    · change Counted _ ((s.advanceDirection role).direction role).sequenceNumber
        (((s.advanceDirection role).sealed ++ _).filter _)
      rw [direction_advanceDirection, if_pos rfl, congrArg SpdmSession.sealed hrest]
      exact hs.sealing.use (beq_iff_eq.2 hkey) (congrArg (xorSalt · _) hsalt)
    · change Counted _ ((s.advanceDirection role).direction !role).sequenceNumber
        ((s.advanceDirection role).opened.filter _)
      rw [direction_advanceDirection, if_neg (by cases role <;> decide),
        congrArg SpdmSession.opened hrest]
      exact hs.opening
  · obtain rfl | rfl := (wp_of_err h).1 (encodeSpdmSecuredMessage_spec config app room role s)
    · exact hs
    · exact hs.down

theorem Tracked.receives {config : Config} {packet : Bytes} {room : Nat}
    (h : Ran (decodeSpdmSecuredMessage config packet room (!role)) s t) (hs : Tracked role s₀ s) :
    Tracked role s₀ t := by
  have hrest := advanceDirection_rest (!role) s
  have hnumber : ((s.advanceDirection !role).direction !role).sequenceNumber =
      (s.direction !role).sequenceNumber + 1 := by
    rw [direction_advanceDirection, if_pos rfl]
    rfl
  have hseal : Counted (SealedAt (s₀.direction role))
      ((s.advanceDirection !role).direction role).sequenceNumber
      (sealedUnder (s₀.direction role).encryptionKey (s.advanceDirection !role)) := by
    unfold sealedUnder
    rw [direction_advanceDirection, if_neg (by cases role <;> decide),
      congrArg SpdmSession.sealed hrest]
    exact hs.sealing
  obtain ⟨app, h⟩ | ⟨e, h⟩ := h
  · cases (wp_of_ok h).1 (decodeSpdmSecuredMessage_spec config packet room (!role) s) with
    | backup _ _ hvalid => simp [hs.single] at hvalid
    | current hstarted hdecoded =>
      obtain ⟨hkey, hsalt⟩ := hs.keys hstarted (!role)
      obtain ⟨hcrypto, htransport⟩ := hs.terms hstarted
      refine hs.counts (!role) rfl hseal ?_
      change Counted _ ((s.advanceDirection !role).direction !role).sequenceNumber
        (((s.advanceDirection !role).opened ++ _).filter _)
      rw [hnumber, congrArg SpdmSession.opened hrest]
      have hopens := decodeMsg_opensAt (r := ⟨packet, [], [], app⟩) hdecoded
      unfold OpensAt at hopens
      rw [hcrypto, htransport, hkey, hsalt] at hopens
      exact hs.opening.use (beq_iff_eq.2 hkey) hopens
  · have hend := (wp_of_err h).1 (decodeSpdmSecuredMessage_ends config packet room (!role) s)
    by_cases he : e = .sequenceNumberOverflow
    · rw [if_pos he] at hend
      exact hend ▸ hs.down
    · rw [if_neg he] at hend
      cases hend with
      | idle => exact hs
      | backup _ _ hvalid => simp [hs.single] at hvalid
      | current hstarted =>
        refine hs.counts (!role) rfl hseal ?_
        rw [hnumber, openedUnder, congrArg SpdmSession.opened hrest]
        exact hs.opening.skip

end SpdmSession

namespace SmallBackend

theorem nonceBound_small : SpdmSession.NonceBound := by
  constructor
  intro _ _ nonce nonce' _ _ _ _ _ h h'
  dsimp only [aeadDecrypt, smallCrypto] at h h'
  split_ifs at h h' with htag htag'
  have htags := htag.trans htag'.symm
  unfold smallTag at htag htags
  split_ifs at htag htags with hsizes hsizes'
  simp only [List.append_assoc, Option.some.injEq] at htags
  obtain ⟨-, htags⟩ := List.append_inj htags (by simp)
  rw [← @leBytes_leNat nonce, hsizes.2.2.1, leBytes_injective hsizes.2.2.2.1 hsizes'.2.2.2.1
    (List.append_inj htags (by simp)).1, ← hsizes'.2.2.1, leBytes_leNat]

end SmallBackend

end Spdm
