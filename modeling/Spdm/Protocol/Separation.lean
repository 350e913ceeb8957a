/-
  Spdm.Protocol.Separation — the derivations of the key schedule are kept apart
  (`common/key_schedule.rs`).
-/
import Spdm.Protocol.Laws

namespace Spdm

open Effect Codec

variable {v : SpdmVersion} {n size : Nat} {d : Derivation} {hashAlgo a : Flags} {out : Bytes}

/-! ## §1. An info determines its parts. -/

theorem versionString_injective {v' : SpdmVersion} (h : versionString v = versionString v') :
    v = v' := by
  cases v <;> cases v' <;> first | rfl | exact absurd h (by decide)

theorem binconcat_eq_some {l : KeyLabel} {x : Option Bytes}
    {info : Bytes} (h : binconcat n v l x = some info) :
    info = leBytes 2 n ++ (versionString v ++ (l.bytes ++ x.getD [])) := by
  unfold binconcat at h
  split_ifs at h
  rw [← Option.some.inj h]
  simp only [List.append_assoc]

theorem binconcat_injective {n' : Nat} {v' : SpdmVersion} {l l' : KeyLabel}
    {x x' : Option Bytes} {info : Bytes} (hn : n < 2 ^ 16) (hn' : n' < 2 ^ 16)
    (h : binconcat n v l x = some info) (h' : binconcat n' v' l' x' = some info) :
    n = n' ∧ v = v' ∧ l = l' ∧ x.getD [] = x'.getD [] := by
  obtain rfl := label_eq_of_binconcat h h'
  have heq := (binconcat_eq_some h).symm.trans (binconcat_eq_some h')
  -- fields of known width peel off from the left
  obtain ⟨hlength, heq⟩ := List.append_inj heq (by simp)
  obtain ⟨hversion, heq⟩ := List.append_inj heq (by simp [versionString])
  exact ⟨leBytes_injective hn hn' hlength, versionString_injective hversion, rfl,
    List.append_cancel_left heq⟩

namespace KeyLabel

def takesHash : KeyLabel → Bool
  | reqHsData | rspHsData | reqAppData | rspAppData => true
  | _ => false

end KeyLabel

/-- What a derivation call of the schedule hands to `binconcat`. -/
structure KeyCall where
  length : UInt16
  version : SpdmVersion
  label : KeyLabel
  context : Option Bytes
  context_isSome : context.isSome = label.takesHash

namespace KeyCall

def info (k : KeyCall) : Option Bytes := binconcat k.length.toNat k.version k.label k.context

theorem eq_of_info {k k' : KeyCall} {info : Bytes} (h : k.info = some info)
    (h' : k'.info = some info) : k = k' := by
  obtain ⟨length, version, label, context, hcontext⟩ := k
  obtain ⟨length', version', label', context', hcontext'⟩ := k'
  obtain ⟨hlength, rfl, rfl, hctx⟩ :=
    binconcat_injective length.toNat_lt length'.toNat_lt h h'
  obtain rfl := UInt16.toNat_inj.1 hlength
  -- a context is there or not by the label
  have hsome : context.isSome = context'.isSome := hcontext.trans hcontext'.symm
  have hsame : context = context' := by
    cases context with
    | none => cases context' with
      | none => rfl
      | some y => cases hsome
    | some x => cases context' with
      | none => cases hsome
      | some y => exact congrArg some hctx
  subst hsame
  rfl

end KeyCall

/-! ## §2. The derivations of a session. -/

inductive Side where
  | request
  | response
  deriving Repr, DecidableEq

inductive DirectionSecret where
  | handshake (side : Side)
  | data (side : Side) (updates : Nat)
  deriving Repr, DecidableEq

inductive Derived where
  /-- the salt of the master secret -/
  | salt1
  | secret (x : DirectionSecret)
  | finished (side : Side)
  | key (x : DirectionSecret)
  | iv (x : DirectionSecret)
  | exportMaster
  deriving Repr, DecidableEq

structure KeySession where
  usePsk : Bool
  version : SpdmVersion
  hashAlgo : Flags
  aeadAlgo : Flags
  handshakeSecret : Option Bytes
  masterSecret : Option Bytes
  pskHint : Option Bytes
  th1 : Bytes
  th2 : Bytes

def scheduled {α : Type} (m : Prog Unit Unit (Option α)) : Option α :=
  match m () with
  | .ok a _ => a
  | _ => none

section
variable [Crypto]

namespace DirectionSecret

def dataSecret (ks : KeySession) (side : Side) : Nat → Option Bytes
  | 0 => match side with
    | .request => scheduled (deriveRequestDataSecret ks.usePsk ks.version ks.hashAlgo
        ks.masterSecret ks.pskHint ks.th2)
    | .response => scheduled (deriveResponseDataSecret ks.usePsk ks.version ks.hashAlgo
        ks.masterSecret ks.pskHint ks.th2)
  | n + 1 => (dataSecret ks side n).bind fun secret =>
      scheduled (deriveUpdateSecret ks.version ks.hashAlgo secret)

def value (ks : KeySession) : DirectionSecret → Option Bytes
  | handshake .request => scheduled (deriveRequestHandshakeSecret ks.usePsk ks.version ks.hashAlgo
      ks.handshakeSecret ks.pskHint ks.th1)
  | handshake .response => scheduled (deriveResponseHandshakeSecret ks.usePsk ks.version
      ks.hashAlgo ks.handshakeSecret ks.pskHint ks.th1)
  | data side n => dataSecret ks side n

end DirectionSecret

namespace Derived

def value (ks : KeySession) : Derived → Option Bytes
  | salt1 => (SpdmBaseHashAlgo.size? ks.hashAlgo).bind fun size => ks.handshakeSecret.bind
      fun secret => expandSecret ks.hashAlgo secret (binconcat size ks.version .derived none) size
  | secret x => x.value ks
  | finished side => ((DirectionSecret.handshake side).value ks).bind fun secret =>
      scheduled (deriveFinishedKey ks.version ks.hashAlgo secret)
  | key x => (x.value ks).bind fun secret =>
      (scheduled (deriveAeadKeyIv ks.version ks.hashAlgo ks.aeadAlgo secret)).map Prod.fst
  | iv x => (x.value ks).bind fun secret =>
      (scheduled (deriveAeadKeyIv ks.version ks.hashAlgo ks.aeadAlgo secret)).map Prod.snd
  | exportMaster => scheduled (deriveExportMasterSecret ks.usePsk ks.version ks.hashAlgo
      ks.masterSecret ks.pskHint)

end Derived
end

/-! ## §3. What is handed to the backend. -/

namespace DirectionSecret

def label : DirectionSecret → KeyLabel
  | handshake side => match side with
    | .request => .reqHsData
    | .response => .rspHsData
  | data _ (_ + 1) => .trafficUpd
  | data side 0 => match side with
    | .request => .reqAppData
    | .response => .rspAppData

theorem eq_of_label {x y : DirectionSecret} (h : x.label = y.label) :
    x = y ∨ ∃ side side' n n', x = data side (n + 1) ∧ y = data side' (n' + 1) := by
  rcases x with side | ⟨side, _ | n⟩ <;> rcases y with side' | ⟨side', _ | n'⟩
  case data.succ.data.succ => exact .inr ⟨side, side', n, n', rfl, rfl⟩
  all_goals cases side <;> cases side' <;> first | exact .inl rfl | cases h

end DirectionSecret

namespace Derived

def label : Derived → KeyLabel
  | salt1 => .derived
  | secret x => x.label
  | finished _ => .finished
  | key _ => .key
  | iv _ => .iv
  | exportMaster => .expMaster

def context (ks : KeySession) : Derived → Option Bytes
  | secret (.handshake _) => some ks.th1
  | secret (.data _ 0) => some ks.th2
  | _ => none

theorem context_isSome (ks : KeySession) (x : Derived) :
    (x.context ks).isSome = x.label.takesHash := by
  rcases x with _ | (side | ⟨side, n⟩) | side | x | x | _
  case secret.handshake => cases side <;> rfl
  case secret.data => cases side <;> cases n <;> rfl
  all_goals rfl

def length (ks : KeySession) : Derived → Option Nat
  | key _ => SpdmAeadAlgo.keySize? ks.aeadAlgo
  | iv _ => SpdmAeadAlgo.ivSize? ks.aeadAlgo
  | _ => SpdmBaseHashAlgo.size? ks.hashAlgo

def outputSize (ks : KeySession) : Derived → Option Nat
  | key _ => some spdmMaxAeadKeySize
  | iv _ => some spdmMaxAeadIvSize
  | _ => SpdmBaseHashAlgo.size? ks.hashAlgo

def call (ks : KeySession) (x : Derived) : Option KeyCall :=
  (x.length ks).map fun n =>
    ⟨UInt16.ofNat n, ks.version, x.label, x.context ks, x.context_isSome ks⟩

variable [Crypto]

def parent (ks : KeySession) : Derived → Option Bytes
  | salt1 => ks.handshakeSecret
  | secret (.handshake _) => ks.handshakeSecret
  | secret (.data _ 0) => ks.masterSecret
  | secret (.data side (n + 1)) => (DirectionSecret.data side n).value ks
  | finished side => (DirectionSecret.handshake side).value ks
  | key x => x.value ks
  | iv x => x.value ks
  | exportMaster => ks.masterSecret

def pskCallback (ks : KeySession) (info : Bytes) : Derived → Option Derivation
  | secret (.handshake _) => some (.pskHandshake ks.version ks.hashAlgo (ks.pskHint.getD []) info)
  | secret (.data _ 0) => some (.pskMaster ks.version ks.hashAlgo (ks.pskHint.getD []) info)
  | exportMaster => some (.pskMaster ks.version ks.hashAlgo (ks.pskHint.getD []) info)
  | _ => none

def pskInput (ks : KeySession) (info : Bytes) (x : Derived) : Option Derivation :=
  if ks.usePsk then x.pskCallback ks info else none

def input (ks : KeySession) (x : Derived) : Option Derivation :=
  (x.call ks).bind fun k => k.info.bind fun info => (x.outputSize ks).bind fun size =>
    match x.pskInput ks info with
    | some d => some d
    | none => ((x.parent ks).bind (sized spdmMaxHashSize)).map fun prk =>
        .expand ks.hashAlgo prk info size

/-! ## §4. Derivations with one input are one derivation. -/

inductive Origin : DirectionSecret → Derived → Prop
  | self (z : DirectionSecret) : Origin z (secret z)
  | update {z : DirectionSecret} {side : Side} {n : Nat} :
      Origin z (secret (.data side n)) → Origin z (secret (.data side (n + 1)))
  | finished (side : Side) : Origin (.handshake side) (finished side)
  | key {z p : DirectionSecret} : Origin z (secret p) → Origin z (key p)
  | iv {z p : DirectionSecret} : Origin z (secret p) → Origin z (iv p)

/-- On the way to `x` and to `y`, the backend mapped two different inputs to
one output. -/
def HkdfCollision (ks : KeySession) (x y : Derived) : Prop :=
  ∃ p q d d' out, Origin p x ∧ Origin q y ∧ (secret p).input ks = some d ∧
    (secret q).input ks = some d' ∧ d ≠ d' ∧ d.output = some out ∧ d'.output = some out

variable {ks : KeySession} in
theorem HkdfCollision.later {p q : DirectionSecret} {x y : Derived}
    (h : HkdfCollision ks (secret p) (secret q)) (hx : ∀ z, Origin z (secret p) → Origin z x)
    (hy : ∀ z, Origin z (secret q) → Origin z y) : HkdfCollision ks x y := by
  obtain ⟨p', q', d, d', out, hp, hq, hcollision⟩ := h
  exact ⟨p', q', d, d', out, hx p' hp, hy q' hq, hcollision⟩

end Derived

def Derivation.info : Derivation → Bytes
  | expand _ _ info _ => info
  | pskHandshake _ _ _ info => info
  | pskMaster _ _ _ info => info

namespace Derived

variable [Crypto]

omit [Crypto] in
theorem info_pskInput {ks : KeySession} {info : Bytes} {x : Derived}
    (h : x.pskInput ks info = some d) : d.info = info := by
  unfold pskInput at h
  split_ifs at h
  unfold pskCallback at h
  split at h <;> cases h <;> rfl

theorem call_of_input {ks : KeySession} {x : Derived}
    (h : x.input ks = some d) : ∃ k, x.call ks = some k ∧ k.info = some d.info := by
  obtain ⟨k, hcall, h⟩ := Option.bind_eq_some_iff.1 h
  obtain ⟨info, hinfo, h⟩ := Option.bind_eq_some_iff.1 h
  obtain ⟨size, -, h⟩ := Option.bind_eq_some_iff.1 h
  refine ⟨k, hcall, ?_⟩
  split at h
  · next d' hpsk =>
    obtain rfl := Option.some.inj h
    rw [hinfo, info_pskInput hpsk]
  · obtain ⟨prk, -, rfl⟩ := Option.map_eq_some_iff.1 h
    exact hinfo

omit [Crypto] in
theorem label_of_call {ks : KeySession} {x : Derived} {k : KeyCall} (h : x.call ks = some k) :
    k.label = x.label := by
  obtain ⟨n, -, rfl⟩ := Option.map_eq_some_iff.1 h
  rfl

theorem label_eq_of_input {ks : KeySession} {x y : Derived}
    (hx : x.input ks = some d) (hy : y.input ks = some d) : x.label = y.label := by
  obtain ⟨k, hk, hinfo⟩ := call_of_input hx
  obtain ⟨k', hk', hinfo'⟩ := call_of_input hy
  rw [← label_of_call hk, ← label_of_call hk', KeyCall.eq_of_info hinfo hinfo']

theorem parent_of_input {ks : KeySession} {x : Derived}
    (hpsk : ∀ info, x.pskInput ks info = none) (h : x.input ks = some d) :
    ∃ prk info size, d = .expand ks.hashAlgo prk info size ∧ x.parent ks = some prk := by
  obtain ⟨k, -, h⟩ := Option.bind_eq_some_iff.1 h
  obtain ⟨info, -, h⟩ := Option.bind_eq_some_iff.1 h
  obtain ⟨size, -, h⟩ := Option.bind_eq_some_iff.1 h
  rw [hpsk info] at h
  obtain ⟨prk, hprk, rfl⟩ := Option.map_eq_some_iff.1 h
  obtain ⟨secret, hparent, hsized⟩ := Option.bind_eq_some_iff.1 hprk
  obtain ⟨rfl, -⟩ := sized_eq_some.1 hsized
  exact ⟨prk, info, size, rfl, hparent⟩

theorem parent_eq_of_input {ks : KeySession} {x y : Derived}
    (hpskx : ∀ info, x.pskInput ks info = none) (hpsky : ∀ info, y.pskInput ks info = none)
    (hx : x.input ks = some d) (hy : y.input ks = some d) :
    ∃ prk, x.parent ks = some prk ∧ y.parent ks = some prk := by
  obtain ⟨prk, info, size, rfl, hprk⟩ := parent_of_input hpskx hx
  obtain ⟨prk', info', size', heq, hprk'⟩ := parent_of_input hpsky hy
  cases heq
  exact ⟨prk, hprk, hprk'⟩

/-! ### What is derived comes from its input. -/

theorem expandSecret_eq_some {secret : Bytes} {info : Option Bytes}
    (h : expandSecret hashAlgo secret info size = some out) :
    ∃ i, info = some i ∧ sized spdmMaxHashSize secret = some secret ∧
      hkdfExpand hashAlgo secret i size = some out := by
  obtain ⟨prk, hprk, h⟩ := Option.bind_eq_some_iff.1 h
  obtain ⟨i, hi, hexpand⟩ := Option.bind_eq_some_iff.1 h
  obtain ⟨rfl, -⟩ := sized_eq_some.1 hprk
  exact ⟨i, hi, hprk, hexpand⟩

section
omit [Crypto]

theorem hashSize_lt (h : SpdmBaseHashAlgo.size? a = some n) : n < 2 ^ 16 := by
  unfold SpdmBaseHashAlgo.size? at h
  split_ifs at h <;> cases h <;> decide

theorem keySize_lt (h : SpdmAeadAlgo.keySize? a = some n) : n < 2 ^ 16 := by
  unfold SpdmAeadAlgo.keySize? at h
  split_ifs at h <;> cases h <;> decide

theorem ivSize_lt (h : SpdmAeadAlgo.ivSize? a = some n) : n < 2 ^ 16 := by
  unfold SpdmAeadAlgo.ivSize? at h
  split_ifs at h
  cases h
  decide

end

theorem input_eq {ks : KeySession} {x : Derived} {info : Bytes}
    (hlength : x.length ks = some n) (hlt : n < 2 ^ 16)
    (hinfo : binconcat n ks.version x.label (x.context ks) = some info)
    (hsize : x.outputSize ks = some size) :
    x.input ks = match x.pskInput ks info with
      | some d => some d
      | none => ((x.parent ks).bind (sized spdmMaxHashSize)).map fun prk =>
          .expand ks.hashAlgo prk info size := by
  have hcall : KeyCall.info ⟨UInt16.ofNat n, ks.version, x.label, x.context ks,
      x.context_isSome ks⟩ = some info := by
    unfold KeyCall.info
    rw [UInt16.toNat_ofNat_of_lt' hlt]
    exact hinfo
  unfold input call
  rw [hlength, Option.map_some, Option.bind_some, hcall, Option.bind_some, hsize,
    Option.bind_some]

theorem input_of_expandSecret {ks : KeySession} {x : Derived}
    {secret : Bytes} (hlength : x.length ks = some n) (hlt : n < 2 ^ 16)
    (hsize : x.outputSize ks = some size) (hpsk : ∀ info, x.pskInput ks info = none)
    (hparent : x.parent ks = some secret)
    (h : expandSecret ks.hashAlgo secret (binconcat n ks.version x.label (x.context ks)) size =
      some out) : ∃ d, x.input ks = some d ∧ d.output = some out := by
  obtain ⟨info, hinfo, hsized, hexpand⟩ := expandSecret_eq_some h
  refine ⟨.expand ks.hashAlgo secret info size, ?_, hexpand⟩
  rw [input_eq hlength hlt hinfo hsize, hpsk info, hparent, Option.bind_some, hsized]
  rfl

omit [Crypto] in
theorem scheduled_getSize_bind {α : Type} {f : Nat → Option α} {a : α}
    (h : scheduled (do
      let size ← SpdmBaseHashAlgo.getSize hashAlgo
      ret (f size)) = some a) :
    ∃ size, SpdmBaseHashAlgo.size? hashAlgo = some size ∧ f size = some a := by
  unfold scheduled SpdmBaseHashAlgo.getSize at h
  cases hsize : SpdmBaseHashAlgo.size? hashAlgo with
  | none => rw [hsize] at h; cases h
  | some size =>
    rw [hsize] at h
    exact ⟨size, rfl, h⟩

theorem input_of_directionSecret {ks : KeySession} {x : Derived}
    {pskExpand : SpdmVersion → Flags → Bytes → Bytes → Option Bytes}
    (hlength : x.length ks = SpdmBaseHashAlgo.size? ks.hashAlgo)
    (hsize : x.outputSize ks = SpdmBaseHashAlgo.size? ks.hashAlgo)
    (hpsk : ∀ info, ∃ d, x.pskCallback ks info = some d ∧
      d.output = pskExpand ks.version ks.hashAlgo (ks.pskHint.getD []) info)
    (h : scheduled (deriveDirectionSecret pskExpand x.label ks.usePsk ks.version ks.hashAlgo
      (x.parent ks) ks.pskHint (x.context ks)) = some out) :
    ∃ d, x.input ks = some d ∧ d.output = some out := by
  obtain ⟨size, hhash, h⟩ := scheduled_getSize_bind h
  obtain ⟨info, hinfo, h⟩ := Option.bind_eq_some_iff.1 h
  have hinput := input_eq (hlength.trans hhash) (hashSize_lt hhash) hinfo (hsize.trans hhash)
  obtain ⟨d, hcallback, hout⟩ := hpsk info
  unfold pskInput at hinput
  cases husePsk : ks.usePsk with
  | true =>
    rw [husePsk] at h hinput
    obtain ⟨okm, hokm, hsized⟩ := Option.bind_eq_some_iff.1 h
    obtain ⟨rfl, -⟩ := sized_eq_some.1 hsized
    rw [hcallback] at hinput
    exact ⟨d, hinput, hout.trans hokm⟩
  | false =>
    rw [husePsk] at h hinput
    obtain ⟨secret, hparent, h⟩ := Option.bind_eq_some_iff.1 h
    obtain ⟨okm, hokm, hsized⟩ := Option.bind_eq_some_iff.1 h
    obtain ⟨rfl, -⟩ := sized_eq_some.1 hsized
    obtain ⟨i, hi, hsecret, hexpand⟩ := expandSecret_eq_some hokm
    obtain rfl := Option.some.inj hi
    rw [hparent, Option.bind_some, hsecret] at hinput
    exact ⟨_, hinput, hexpand⟩

theorem input_of_secret {ks : KeySession} {x : DirectionSecret}
    (h : x.value ks = some out) :
    ∃ d, (secret x).input ks = some d ∧ d.output = some out := by
  match x, h with
  | .handshake .request, h =>
    exact input_of_directionSecret rfl rfl (fun _ => ⟨_, rfl, rfl⟩) h
  | .handshake .response, h =>
    exact input_of_directionSecret rfl rfl (fun _ => ⟨_, rfl, rfl⟩) h
  | .data .request 0, h =>
    exact input_of_directionSecret rfl rfl (fun _ => ⟨_, rfl, rfl⟩) h
  | .data .response 0, h =>
    exact input_of_directionSecret rfl rfl (fun _ => ⟨_, rfl, rfl⟩) h
  | .data side (n + 1), h =>
    obtain ⟨secret, hparent, h⟩ := Option.bind_eq_some_iff.1 h
    obtain ⟨size, hhash, h⟩ := scheduled_getSize_bind h
    obtain ⟨okm, hokm, hsized⟩ := Option.bind_eq_some_iff.1 h
    obtain ⟨rfl, -⟩ := sized_eq_some.1 hsized
    refine input_of_expandSecret hhash (hashSize_lt hhash) hhash
      (fun _ => by unfold pskInput; split_ifs <;> rfl) hparent ?_
    cases side <;> exact hokm

theorem aeadKeyIv_eq_some {aeadAlgo : Flags} {secret : Bytes}
    {r : Bytes × Bytes} (h : scheduled (deriveAeadKeyIv v hashAlgo aeadAlgo secret) = some r) :
    ∃ keySize ivSize, SpdmAeadAlgo.keySize? aeadAlgo = some keySize ∧
      SpdmAeadAlgo.ivSize? aeadAlgo = some ivSize ∧
      expandSecret hashAlgo secret (binconcat keySize v .key none) spdmMaxAeadKeySize =
        some r.1 ∧
      expandSecret hashAlgo secret (binconcat ivSize v .iv none) spdmMaxAeadIvSize = some r.2 := by
  unfold scheduled deriveAeadKeyIv at h
  cases hkey : SpdmAeadAlgo.keySize? aeadAlgo with
  | none => rw [hkey] at h; cases h
  | some keySize =>
    cases hiv : SpdmAeadAlgo.ivSize? aeadAlgo with
    | none => rw [hkey, hiv] at h; cases h
    | some ivSize =>
      rw [hkey, hiv] at h
      obtain ⟨keyOkm, hkeyOkm, h⟩ := Option.bind_eq_some_iff.1 h
      obtain ⟨key, hkeySized, h⟩ := Option.bind_eq_some_iff.1 h
      obtain ⟨ivOkm, hivOkm, h⟩ := Option.bind_eq_some_iff.1 h
      obtain ⟨iv, hivSized, hpair⟩ := Option.bind_eq_some_iff.1 h
      obtain ⟨rfl, -⟩ := sized_eq_some.1 hkeySized
      obtain ⟨rfl, -⟩ := sized_eq_some.1 hivSized
      obtain rfl := Option.some.inj hpair
      exact ⟨keySize, ivSize, rfl, rfl, hkeyOkm, hivOkm⟩

theorem input_of_value {ks : KeySession} {x : Derived} (h : x.value ks = some out) :
    ∃ d, x.input ks = some d ∧ d.output = some out := by
  cases x with
  | salt1 =>
    obtain ⟨size, hhash, h⟩ := Option.bind_eq_some_iff.1 h
    obtain ⟨secret, hparent, h⟩ := Option.bind_eq_some_iff.1 h
    exact input_of_expandSecret hhash (hashSize_lt hhash) hhash
      (fun _ => by unfold pskInput; split_ifs <;> rfl) hparent h
  | secret x => exact input_of_secret h
  | finished side =>
    obtain ⟨secret, hparent, h⟩ := Option.bind_eq_some_iff.1 h
    obtain ⟨size, hhash, h⟩ := scheduled_getSize_bind h
    obtain ⟨okm, hokm, hsized⟩ := Option.bind_eq_some_iff.1 h
    obtain ⟨rfl, -⟩ := sized_eq_some.1 hsized
    exact input_of_expandSecret hhash (hashSize_lt hhash) hhash
      (fun _ => by unfold pskInput; split_ifs <;> rfl) hparent hokm
  | key x =>
    obtain ⟨secret, hparent, h⟩ := Option.bind_eq_some_iff.1 h
    obtain ⟨r, hr, rfl⟩ := Option.map_eq_some_iff.1 h
    obtain ⟨keySize, -, hkey, -, hexpand, -⟩ := aeadKeyIv_eq_some hr
    exact input_of_expandSecret hkey (keySize_lt hkey) rfl
      (fun _ => by unfold pskInput; split_ifs <;> rfl) hparent hexpand
  | iv x =>
    obtain ⟨secret, hparent, h⟩ := Option.bind_eq_some_iff.1 h
    obtain ⟨r, hr, rfl⟩ := Option.map_eq_some_iff.1 h
    obtain ⟨-, ivSize, -, hiv, -, hexpand⟩ := aeadKeyIv_eq_some hr
    exact input_of_expandSecret hiv (ivSize_lt hiv) rfl
      (fun _ => by unfold pskInput; split_ifs <;> rfl) hparent hexpand
  | exportMaster => exact input_of_directionSecret rfl rfl (fun _ => ⟨_, rfl, rfl⟩) h

theorem secret_label_eq {ks : KeySession} {x y : DirectionSecret}
    (hx : (secret x).input ks = some d) (hy : (secret y).input ks = some d) :
    x.label = y.label := label_eq_of_input hx hy

theorem secret_eq_or_collision {ks : KeySession} {x y : DirectionSecret} {s : Bytes}
    (hx : x.value ks = some s) (hy : y.value ks = some s) :
    x = y ∨ HkdfCollision ks (secret x) (secret y) := by
  -- over the number of updates on both sides; the last update is undone by
  -- the injectivity of its input
  have hstep : ∀ {x y : DirectionSecret} {s : Bytes}, x.value ks = some s → y.value ks = some s →
      HkdfCollision ks (secret x) (secret y) ∨
        ∃ d, (secret x).input ks = some d ∧ (secret y).input ks = some d := by
    intro x y s hx hy
    obtain ⟨d, hd, hout⟩ := input_of_secret hx
    obtain ⟨d', hd', hout'⟩ := input_of_secret hy
    by_cases hsame : d = d'
    · exact .inr ⟨d, hd, hsame ▸ hd'⟩
    · exact .inl ⟨x, y, d, d', s, .self x, .self y, hd, hd', hsame, hout, hout'⟩
  have hdata : ∀ (n : Nat) (side side' : Side) (n' : Nat) (s : Bytes),
      (DirectionSecret.data side n).value ks = some s →
      (DirectionSecret.data side' n').value ks = some s →
        DirectionSecret.data side n = .data side' n' ∨
          HkdfCollision ks (secret (.data side n)) (secret (.data side' n')) := by
    intro n
    induction n with
    | zero =>
      intro side side' n' s hx hy
      obtain hcollision | ⟨d, hd, hd'⟩ := hstep hx hy
      · exact .inr hcollision
      · obtain heq | ⟨_, _, _, _, hsucc, -⟩ :=
          DirectionSecret.eq_of_label (secret_label_eq hd hd')
        · exact .inl heq
        · cases hsucc
    | succ n ih =>
      intro side side' n' s hx hy
      obtain hcollision | ⟨d, hd, hd'⟩ := hstep hx hy
      · exact .inr hcollision
      · obtain heq | ⟨_, _, _, m, -, hsucc⟩ :=
          DirectionSecret.eq_of_label (secret_label_eq hd hd')
        · exact .inl heq
        · cases hsucc
          obtain ⟨prk, hprk, hprk'⟩ := parent_eq_of_input
            (fun _ => by unfold pskInput; split_ifs <;> rfl)
            (fun _ => by unfold pskInput; split_ifs <;> rfl) hd hd'
          obtain heq | hcollision := ih side side' m prk hprk hprk'
          · cases heq
            exact .inl rfl
          · exact .inr (hcollision.later (fun _ => .update) fun _ => .update)
  obtain hcollision | ⟨d, hd, hd'⟩ := hstep hx hy
  · exact .inr hcollision
  · obtain heq | ⟨side, side', n, n', rfl, rfl⟩ :=
      DirectionSecret.eq_of_label (secret_label_eq hd hd')
    · exact .inl heq
    · exact hdata (n + 1) side side' (n' + 1) s hx hy

theorem parent_secret_eq {ks : KeySession} {x y : Derived} {p q : DirectionSecret}
    (hpskx : ∀ info, x.pskCallback ks info = none)
    (hpsky : ∀ info, y.pskCallback ks info = none) (hp : x.parent ks = p.value ks)
    (hq : y.parent ks = q.value ks) (hx : x.input ks = some d) (hy : y.input ks = some d) :
    p = q ∨ HkdfCollision ks (secret p) (secret q) := by
  have hnone : ∀ {z : Derived}, (∀ info, z.pskCallback ks info = none) →
      ∀ info, z.pskInput ks info = none := by
    intro z h info
    unfold pskInput
    rw [h info, ite_self]
  obtain ⟨prk, hprk, hprk'⟩ := parent_eq_of_input (hnone hpskx) (hnone hpsky) hx hy
  rw [hp] at hprk
  rw [hq] at hprk'
  exact secret_eq_or_collision hprk hprk'

omit [Crypto] in
theorem label_ne_secret {x : Derived} (hx : ∀ z, x ≠ secret z) {z : DirectionSecret} :
    x.label ≠ (secret z).label := by
  rcases z with side | ⟨side, _ | n⟩
  all_goals cases side <;> cases x <;> first | exact absurd rfl (hx _) | nofun

theorem eq_or_collision_of_input {ks : KeySession} {x y : Derived}
    (hx : x.input ks = some d) (hy : y.input ks = some d) : x = y ∨ HkdfCollision ks x y := by
  have hlabel := label_eq_of_input hx hy
  have hmap : ∀ {f : DirectionSecret → Derived} {p q : DirectionSecret},
      (∀ {z r}, Origin z (secret r) → Origin z (f r)) →
      p = q ∨ HkdfCollision ks (secret p) (secret q) → f p = f q ∨
        HkdfCollision ks (f p) (f q) := by
    intro f p q hf h
    exact h.imp (congrArg f) fun h => h.later (fun _ => hf) fun _ => hf
  cases x <;> cases y
  case secret.secret x y =>
    obtain rfl | ⟨side, side', n, n', rfl, rfl⟩ := DirectionSecret.eq_of_label hlabel
    · exact .inl rfl
    · obtain heq | hcollision := parent_secret_eq (p := .data side n) (q := .data side' n')
        (fun _ => rfl) (fun _ => rfl) rfl rfl hx hy
      · cases heq
        exact .inl rfl
      · exact .inr (hcollision.later (fun _ => .update) fun _ => .update)
  case finished.finished side side' =>
    obtain heq | hcollision := parent_secret_eq
      (fun _ => rfl) (fun _ => rfl) rfl rfl hx hy
    · cases heq
      exact .inl rfl
    · have hfinished : ∀ {side : Side} z, Origin z (secret (.handshake side)) →
          Origin z (finished side) := by
        rintro side _ ⟨⟩
        exact .finished side
      exact .inr (hcollision.later hfinished hfinished)
  case key.key => exact hmap .key (parent_secret_eq (fun _ => rfl) (fun _ => rfl) rfl rfl hx hy)
  case iv.iv => exact hmap .iv (parent_secret_eq (fun _ => rfl) (fun _ => rfl) rfl rfl hx hy)
  case salt1.salt1 | exportMaster.exportMaster => exact .inl rfl
  all_goals first
    | exact absurd hlabel (label_ne_secret (by nofun))
    | exact absurd hlabel.symm (label_ne_secret (by nofun))
    | cases hlabel

/-- **The key schedule separates its derivations.**  Calls that differ in
label, length, version or context have different infos; what a session
derives comes from the inputs below; and no two of them have the same
secret and info, unless on the way to them the backend mapped two different
inputs to one output. -/
theorem key_schedule_separates :
    (∀ (k k' : KeyCall) (info info' : Bytes), k ≠ k' → k.info = some info →
        k'.info = some info' → info ≠ info') ∧
      (∀ (ks : KeySession) (x : Derived) (out : Bytes), x.value ks = some out →
        ∃ d k, x.input ks = some d ∧ d.output = some out ∧ x.call ks = some k ∧
          k.info = some d.info) ∧
      (∀ (ks : KeySession) (x y : Derived) (d : Derivation), x ≠ y → x.input ks = some d →
        y.input ks = some d → HkdfCollision ks x y) := by
  refine ⟨?_, ?_, ?_⟩
  · rintro k k' info _ hne h h' rfl
    exact hne (KeyCall.eq_of_info h h')
  · intro ks x out h
    obtain ⟨d, hd, hout⟩ := input_of_value h
    obtain ⟨k, hk, hinfo⟩ := call_of_input hd
    exact ⟨d, k, hd, hout, hk, hinfo⟩
  · intro ks x y d hne hx hy
    exact (eq_or_collision_of_input hx hy).resolve_left hne

end Derived

end Spdm
