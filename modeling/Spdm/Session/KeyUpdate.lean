/-
  Spdm.Session.KeyUpdate — what a key update does to a session, said once.
-/
import Spdm.Session.Steps

namespace Spdm

open Effect Codec

structure DirectionMaterial where
  dataSecret : Bytes
  encryptionKey : Bytes
  salt : Bytes
  deriving Repr, DecidableEq

@[ext] structure KeyMaterial where
  request : DirectionMaterial
  response : DirectionMaterial
  deriving Repr, DecidableEq

namespace SpdmSession

def materialOf (a : SpdmSessionApplicationSecret) : KeyMaterial :=
  { request := ⟨a.requestDataSecret, a.requestDirection.encryptionKey, a.requestDirection.salt⟩
    response := ⟨a.responseDataSecret, a.responseDirection.encryptionKey,
      a.responseDirection.salt⟩ }

def keyMaterial (s : SpdmSession) : KeyMaterial := materialOf s.applicationSecret

def backupMaterial (s : SpdmSession) : KeyMaterial := materialOf s.applicationSecretBackup

variable [Crypto]

def nextDataSecret (v : SpdmVersion) (s : SpdmSession) (secret : Bytes) : Option Bytes := do
  let size ← SpdmBaseHashAlgo.size? s.cryptoParam.baseHashAlgo
  updateSecret v s.cryptoParam.baseHashAlgo size secret

def dataKeyIv (v : SpdmVersion) (s : SpdmSession) (secret : Bytes) : Option (Bytes × Bytes) := do
  let keySize ← SpdmAeadAlgo.keySize? s.cryptoParam.aeadAlgo
  let ivSize ← SpdmAeadAlgo.ivSize? s.cryptoParam.aeadAlgo
  aeadKeyIv v s.cryptoParam.baseHashAlgo keySize ivSize secret

/-! ## §1. Creating an update. -/

structure RequesterCreated (v : SpdmVersion) (s : SpdmSession) (secret key salt : Bytes)
    (t : SpdmSession) : Prop where
  secret_eq : nextDataSecret v s s.applicationSecret.requestDataSecret = some secret
  keyIv_eq : dataKeyIv v s secret = some (key, salt)
  after : t = (s.backupRequester.setRequestDataSecret secret).setRequestDirection ⟨key, salt, 0⟩

inductive RequesterStopped (v : SpdmVersion) (s : SpdmSession) : SpdmSession → Prop
  | noSecret (h : nextDataSecret v s s.applicationSecret.requestDataSecret = none) :
      RequesterStopped v s s.backupRequester
  | noKey (secret : Bytes)
      (hsecret : nextDataSecret v s s.applicationSecret.requestDataSecret = some secret)
      (hkey : dataKeyIv v s secret = none) :
      RequesterStopped v s (s.backupRequester.setRequestDataSecret secret)

structure ResponderCreated (v : SpdmVersion) (s : SpdmSession) (secret key salt : Bytes)
    (t : SpdmSession) : Prop where
  secret_eq : nextDataSecret v s s.applicationSecret.responseDataSecret = some secret
  keyIv_eq : dataKeyIv v s secret = some (key, salt)
  after : t = (s.backupResponder.setResponseDataSecret secret).setResponseDirection ⟨key, salt, 0⟩

inductive ResponderStopped (v : SpdmVersion) (s : SpdmSession) : SpdmSession → Prop
  | noSecret (h : nextDataSecret v s s.applicationSecret.responseDataSecret = none) :
      ResponderStopped v s s.backupResponder
  | noKey (secret : Bytes)
      (hsecret : nextDataSecret v s s.applicationSecret.responseDataSecret = some secret)
      (hkey : dataKeyIv v s secret = none) :
      ResponderStopped v s (s.backupResponder.setResponseDataSecret secret)

theorem wp_deriveUpdateSecret {σ : Type} {Q : Option Bytes → σ → Prop} {E : SpdmStatus → σ → Prop}
    {x : σ} (v : SpdmVersion) (s : SpdmSession) {secret : Bytes}
    (h : Q (nextDataSecret v s secret) x) :
    wp (deriveUpdateSecret v s.cryptoParam.baseHashAlgo secret) Q E x := by
  unfold deriveUpdateSecret SpdmBaseHashAlgo.getSize
  simp only [wp_bind, wp_orAbort, wp_ret]
  intro size hsize
  simpa [nextDataSecret, hsize] using h

theorem wp_deriveAeadKeyIv {σ : Type} {Q : Option (Bytes × Bytes) → σ → Prop}
    {E : SpdmStatus → σ → Prop} {x : σ} (v : SpdmVersion) (s : SpdmSession) (secret : Bytes)
    (h : Q (dataKeyIv v s secret) x) :
    wp (deriveAeadKeyIv v s.cryptoParam.baseHashAlgo s.cryptoParam.aeadAlgo secret) Q E x := by
  unfold deriveAeadKeyIv
  simp only [wp_bind, wp_orAbort, wp_ret]
  intro keySize hkey ivSize hiv
  simpa [dataKeyIv, hkey, hiv] using h

theorem createRequesterUpdate_spec (v : SpdmVersion) (s : SpdmSession) :
    wp (createRequesterUpdate v)
      (fun _ t => ∃ secret key salt, RequesterCreated v s secret key salt t)
      (fun _ t => RequesterStopped v s t) s := by
  unfold createRequesterUpdate
  simp only [wp_bind, wp_update, wp_read]
  refine wp_deriveUpdateSecret v s ?_
  simp only [wp_orFail]
  refine ⟨fun secret hsecret => ?_, fun h => .noSecret h⟩
  simp only [wp_bind, wp_update]
  refine wp_deriveAeadKeyIv v s secret ?_
  simp only [wp_orFail, wp_update]
  exact ⟨fun keyIv hkey => ⟨secret, keyIv.1, keyIv.2, hsecret, hkey, rfl⟩,
    fun h => .noKey secret hsecret h⟩

theorem createResponderUpdate_spec (v : SpdmVersion) (s : SpdmSession) :
    wp (createResponderUpdate v)
      (fun _ t => ∃ secret key salt, ResponderCreated v s secret key salt t)
      (fun _ t => ResponderStopped v s t) s := by
  unfold createResponderUpdate
  simp only [wp_bind, wp_update, wp_read]
  refine wp_deriveUpdateSecret v s ?_
  simp only [wp_orFail]
  refine ⟨fun secret hsecret => ?_, fun h => .noSecret h⟩
  simp only [wp_bind, wp_update]
  refine wp_deriveAeadKeyIv v s secret ?_
  simp only [wp_orFail, wp_update]
  exact ⟨fun keyIv hkey => ⟨secret, keyIv.1, keyIv.2, hsecret, hkey, rfl⟩,
    fun h => .noKey secret hsecret h⟩

end SpdmSession

end Spdm
