/-
  Spdm.Responder.Version — the version of a connection.
-/
import Spdm.Responder.Order
import Spdm.Responder.Service

namespace Spdm

open Effect Codec

variable {c c' : SpdmContext} {code : UInt8} {depth : Nat} {sent : List Bytes}

namespace Responder

open SpdmContext SpdmRequestResponseCode SpdmErrorCode

section
variable [Crypto] [Device]

/-! ## §1. What keeps the version. -/

abbrev versionOf (c : SpdmContext) : SpdmVersion := c.negotiateInfo.spdmVersionSel

structure SameVersion (c c' : SpdmContext) : Prop where
  configInfo : c'.configInfo = c.configInfo
  version : versionOf c' = versionOf c

instance : StepRel SameVersion where
  refl _ := ⟨rfl, rfl⟩
  trans h h' := ⟨h'.configInfo.trans h.configInfo, h'.version.trans h.version⟩

def SameConfig (c c' : SpdmContext) : Prop := c'.configInfo = c.configInfo

instance : StepRel SameConfig where
  refl _ := rfl
  trans h h' := Eq.trans h' h

namespace SameVersion

omit [Crypto] [Device] in
theorem of_steady (h : Steady c c') : SameVersion c c' :=
  ⟨h.configInfo, by rw [versionOf, h.negotiateInfo]⟩

omit [Crypto] [Device] in
theorem of_never {ε α : Type} {m : Prog SpdmContext ε α}
    (h : Within (Steps (MildAct fun _ => False)) m) : Within SameVersion m :=
  h.mono fun _ _ hs => hs.lift fun _ _ hact => of_steady (Steady.mildAct hact)

end SameVersion

theorem sameVersion_handleSpdmAlgorithm (bytes : Bytes) :
    Within SameVersion (handleSpdmAlgorithm bytes) :=
  within_algorithm (fun _ _ h => .of_steady (Steady.mildAct h.mild))
    (fun _ _ h => ⟨by rw [h.rest], h.version⟩) bytes

section
omit [Crypto] [Device]

theorem leads_writeResponse (f : SpdmContext → Bytes) {J : Bytes → SpdmContext → Prop}
    (hJ : ∀ c c', SameVersion c c' → J (f c) c') :
    Leads (fun _ => True) SameVersion J (do
      let c ← read
      let response ← respond (f c)
      appendA response
      ret response : Handler Bytes) := by
  intro c _
  rw [wp_bind, wp_read, wp_bind]
  refine wp_mono (wp_and (within_respond (f c) c)
    (ends_respond (Q := (· = f c)) rfl c)) (fun response c₁ h => ?_) fun _ _ h => h.1
  rw [wp_bind]
  refine wp_mono (SameVersion.of_never (within_appendA response) c₁) (fun _ c' h' => ?_)
    fun _ c' h' => StepRel.trans h.1 h'
  have hsame : SameVersion c c' := StepRel.trans h.1 h'
  refine ⟨hsame, ?_⟩
  rw [h.2]
  exact hJ c c' hsame

theorem leads_handleSpdmVersion (bytes : Bytes) :
    Leads (fun _ => True) SameConfig
      (fun m c' => m = encodeVersionResponse c'.configInfo.spdmVersion)
        (handleSpdmVersion bytes) := by
  have hnever : ∀ {m : Handler Unit}, Within (Steps (MildAct fun _ => False)) m →
      Within SameConfig m := fun hm => (SameVersion.of_never hm).mono fun _ _ h => h.configInfo
  refine .bind (.of_within within_parseRest) fun _ => .bind (.of_within within_expect)
    fun _ => .bind (.of_within (within_demand _ _ _)) fun _ =>
    .bind (.of_within (hnever (.update (mild_resetBuffer fun _ h => by cases h)))) fun _ =>
    .bind (.of_within (within_readPayload _ _ _)) fun _ =>
    .bind (.of_within (.update fun _ => rfl)) fun _ =>
    .bind (.of_within (hnever (within_appendA _))) fun _ => ?_
  exact (leads_writeResponse (fun c => encodeVersionResponse c.configInfo.spdmVersion)
    fun _ _ h => by rw [h.configInfo]).weaken fun _ _ h => h.configInfo

theorem handleSpdmCapability_names (bytes : Bytes) (c : SpdmContext) :
    wp (handleSpdmCapability bytes)
      (fun m c' => connection c = .afterVersion ∧ SameConfig c c' ∧
        m[0]? = some (versionOf c').toByte ∧
        ∃ header rest, parseHeader bytes = .ok header rest ∧ header.version = versionOf c')
      (fun _ c' => SameConfig c c' ∧ (connection c ≠ .afterVersion → c' = c)) c := by
  by_cases hturn : connection c = .afterVersion
  case neg =>
    unfold handleSpdmCapability
    rw [wp_bind]
    exact wp_bind_of_refused (wp_mono (refused_demand (by simpa using hturn)) (fun _ _ h => h)
      fun _ c' h => ⟨h.1 ▸ rfl, fun _ => h.1⟩)
  case pos =>
    unfold handleSpdmCapability
    rw [wp_bind, wp_read, demand, if_pos (by simp [hturn]), wp_bind, wp_ret, wp_bind, wp_parseRest]
    refine ⟨fun header rest hparse => ?_, fun _ _ _ => ⟨rfl, fun h => absurd hturn h⟩⟩
    rw [expect, wp_bind, wp_ret, wp_bind, wp_update]
    -- from here on configuration and version stay
    generalize hc₁ : ({ c with negotiateInfo :=
      { c.negotiateInfo with spdmVersionSel := header.version } }) = c₁
    have hconfig : c₁.configInfo = c.configInfo := by rw [← hc₁]
    have hversion : versionOf c₁ = header.version := by rw [← hc₁]
    have hselect : ∀ p c, SameVersion c (selectCapabilities p c) := fun p c => by
      refine ⟨rfl, ?_⟩
      unfold selectCapabilities
      split <;> rfl
    have hreset : ∀ c, Steps (MildAct fun _ => False) c
        (resetBufferViaRequestCode spdmRequestGetCapabilities none c) :=
      mild_resetBuffer fun _ h => by cases h
    have htail : Leads (fun _ => True) SameVersion
        (fun m c' => m[0]? = some (versionOf c').toByte) _ :=
      .bind (.of_within (SameVersion.of_never (.update hreset))) fun _ =>
      .bind (.of_within .read) fun c => .bind (.of_within (within_readPayload
        (parseGetCapabilities c) rest .invalidMsgField)) fun r =>
      .bind (.of_within (within_demand (!c.build.mandatoryMutAuth ||
        contains r.1.flags SpdmRequestCapabilityFlags.mutAuthCap) .unsupportedCap
        spdmErrorUnexpectedRequest)) fun _ =>
      .bind (.of_within (.update (hselect r.1))) fun _ =>
      .bind (.of_within (SameVersion.of_never (within_appendA (consumed bytes r.2)))) fun _ =>
      leads_writeResponse (fun c => encodeCapabilitiesResponse c.negotiateInfo.spdmVersionSel
        (rspCapabilitiesPayload c)) fun c c' h => by rw [h.version]; rfl
    refine wp_mono (htail c₁ trivial) (fun m c' h => ?_) fun _ c' h => ?_
    · exact ⟨hturn, h.1.configInfo.trans hconfig, h.2, header, rest, hparse,
        (h.1.version.trans hversion).symm⟩
    · exact ⟨h.configInfo.trans hconfig, fun h => absurd hturn h⟩

end

/-! ## §2. Dispatch. -/

structure VersionServed (c : SpdmContext) (sessionId : Option Nat) (bytes : Bytes)
    (response : Option Bytes) (c' : SpdmContext) : Prop where
  configInfo : c'.configInfo = c.configInfo
  version : startsOver sessionId bytes = false → connection c ≠ .afterVersion →
    versionOf c' = versionOf c
  versions : ∀ m, response = some m → codeOf m = some spdmResponseVersion →
    m = encodeVersionResponse c'.configInfo.spdmVersion
  capabilities : ∀ m, response = some m → codeOf m = some spdmResponseCapabilities →
    sessionId = none ∧ m[0]? = some (versionOf c').toByte ∧
      ∃ header rest, parseHeader bytes = .ok header rest ∧
        header.requestResponseCode = spdmRequestGetCapabilities ∧ header.version = versionOf c'

section Served
variable {c c' : SpdmContext} {sessionId : Option Nat} {bytes : Bytes} {response : Option Bytes}

section
omit [Crypto] [Device]

theorem VersionServed.of_spoken (hconfig : c'.configInfo = c.configInfo)
    (hversion : startsOver sessionId bytes = false → connection c ≠ .afterVersion →
      versionOf c' = versionOf c)
    (hspoken : ∀ m, response = some m → Says code m)
    (hcode : code ∉ [spdmResponseVersion, spdmResponseCapabilities]) :
    VersionServed c sessionId bytes response c' := by
  have hother : ∀ k, k ∈ [spdmResponseVersion, spdmResponseCapabilities] → ∀ m, response = some m →
      codeOf m ≠ some k := fun k hk m hm hsaid => by
    obtain rfl | rfl := hspoken m hm k hsaid
    · exact hcode hk
    · exact absurd hk (by decide)
  exact ⟨hconfig, hversion, fun m hm hk => absurd hk (hother _ (by simp) m hm),
    fun m hm hk => absurd hk (hother _ (by simp) m hm)⟩

theorem VersionServed.of_proper {e : Refusal} (hconfig : c'.configInfo = c.configInfo)
    (hversion : startsOver sessionId bytes = false → connection c ≠ .afterVersion →
      versionOf c' = versionOf c) (hproper : Proper e c') :
    VersionServed c sessionId bytes e.2 c' :=
  .of_spoken hconfig hversion (hproper.refusesAs spdmResponseError) (by decide)

theorem served_version (hcode : HasCode bytes spdmRequestGetVersion) :
    wp (handleSpdmVersion bytes) (fun m => VersionServed c none bytes (some m))
      (fun e => VersionServed c none bytes e.2) c := by
  refine wp_mono (wp_and (leads_handleSpdmVersion bytes c trivial)
    (wp_and (handleSpdmVersion_spec hcode c) (replies_handleSpdmVersion bytes c)))
    (fun m c' ⟨⟨hconfig, hm⟩, hover, _⟩ => ?_) fun e c' ⟨hconfig, hspec, hproper⟩ => ?_
  · refine ⟨hconfig, fun hnot => ?_, fun m' hm' _ => Option.some.inj hm' ▸ hm, fun m' hm' hk => ?_⟩
    · rw [startsOver, hover.1] at hnot
      cases hnot
    · rw [← Option.some.inj hm', hm] at hk
      have hcode : codeOf (encodeVersionResponse c'.configInfo.spdmVersion) =
        some spdmResponseVersion := rfl
      exact absurd (hcode.symm.trans hk) (by decide)
  · refine .of_proper hconfig (fun hnot _ => ?_) hproper
    rw [startsOver, Option.isNone_none, Bool.true_and] at hnot
    rw [hnot] at hspec
    exact (SameVersion.of_steady (.of_quiet hspec.1.toQuietStep)).version

theorem served_capability (hcode : HasCode bytes spdmRequestGetCapabilities) :
    wp (handleSpdmCapability bytes) (fun m => VersionServed c none bytes (some m))
      (fun e => VersionServed c none bytes e.2) c := by
  refine wp_mono (wp_and (handleSpdmCapability_names bytes c)
    (replies_handleSpdmCapability bytes c))
    (fun m c' ⟨⟨hturn, hconfig, hfirst, header, rest, hparse, hversion⟩, hspoken⟩ => ?_)
    fun e c' ⟨⟨hconfig, hstay⟩, hproper⟩ => ?_
  · refine ⟨hconfig, fun _ h => absurd hturn h, fun m' hm' hk => ?_, fun m' hm' _ => ?_⟩
    · rw [← Option.some.inj hm'] at hk
      obtain h | h := hspoken _ hk <;> exact absurd h (by decide)
    · rw [← Option.some.inj hm']
      obtain ⟨header', rest', hparse', hcode⟩ := hcode
      rw [hparse] at hparse'
      cases hparse'
      exact ⟨rfl, hfirst, header, rest, hparse, hcode, hversion⟩
  · exact .of_proper hconfig (fun _ h => by rw [hstay h]) hproper

end

end Served

theorem dispatchAt_version (hvendor : VendorAnswers)
    (hchunk : c.build.chunkCap = false) (depth : Nat) (sessionId : Option Nat) (bytes : Bytes) :
    wp (dispatchAt depth sessionId bytes) (VersionServed c sessionId bytes)
      (fun e => VersionServed c sessionId bytes e.2) c := by
  cases depth with
  | zero => trivial
  | succ depth =>
    refine wp_dispatchAt (fun _ => .of_proper rfl (fun _ _ => rfl) fun _ h => by cases h)
      fun service hservice => ?_
    have hchunked := chunked_of_serviceOf hchunk hservice
    have hspoken : Ends _ _ (service.handle (dispatchAt depth) sessionId bytes) :=
      ends_handle hvendor hchunked
    have hother : service.responseCode ∉ [spdmResponseVersion, spdmResponseCapabilities] →
        Within SameVersion (service.handle (dispatchAt depth) sessionId bytes) →
        wp (service.handle (dispatchAt depth) sessionId bytes) (VersionServed c sessionId bytes)
          (fun e => VersionServed c sessionId bytes e.2) c := fun hcode hsame =>
      wp_mono (wp_and (hsame c) (hspoken c))
        (fun _ _ h => .of_spoken h.1.configInfo (fun _ _ => h.1.version) h.2 hcode)
        fun _ _ h => .of_spoken h.1.configInfo (fun _ _ => h.1.version) h.2 hcode
    cases service with
    | version =>
      obtain ⟨rfl, hcode⟩ := routed_of_serviceOf hservice
      change wp (handleSpdmVersion bytes >>= fun m => ret (some m)) _ _ c
      rw [wp_bind]
      exact served_version hcode
    | capability =>
      obtain ⟨rfl, hcode⟩ := routed_of_serviceOf hservice
      change wp (handleSpdmCapability bytes >>= fun m => ret (some m)) _ _ c
      rw [wp_bind]
      exact served_capability hcode
    | algorithm =>
      exact hother (by decide) (.bind (sameVersion_handleSpdmAlgorithm bytes) fun _ => .ret _)
    | chunkSend | chunkGet => cases hchunked
    | _ =>
      exact hother (by dsimp only [Service.responseCode]; decide)
        ((within_handle_steady rfl).mono fun _ _ => .of_steady)

/-! ## §3. One call. -/

def requestedVersion (c : SpdmContext) : Option SpdmVersion :=
  match nextRequest c with
  | .ok (none, bytes, _) _ =>
    match parseHeader bytes with
    | .ok header _ =>
      if header.requestResponseCode = spdmRequestGetCapabilities then some header.version else none
    | _ => none
  | _ => none

structure VersionCalled (c : SpdmContext) (sent : Option Bytes) (c' : SpdmContext) : Prop where
  configInfo : c'.configInfo = c.configInfo
  version : isGetVersion c = false → connection c ≠ .afterVersion → versionOf c' = versionOf c
  versions : isAppMessage c = false → ∀ m, sent = some m → codeOf m = some spdmResponseVersion →
    m = encodeVersionResponse c'.configInfo.spdmVersion
  capabilities : isAppMessage c = false → ∀ m, sent = some m →
    codeOf m = some spdmResponseCapabilities →
    m[0]? = some (versionOf c').toByte ∧ requestedVersion c = some (versionOf c')

omit [Device] in
theorem sameVersion_sendMessage {sessionId : Option Nat} {response : Bytes} {isApp : Bool} :
    Within SameVersion (sendMessage sessionId response isApp) := by
  rw [sendMessage_eq]
  exact .bind (within_sealAndSend_steady (fun _ _ => .of_steady)
    (fun _ _ => ⟨rfl, rfl⟩) sessionId response isApp) fun m =>
    within_settleSent_steady (fun _ _ => .of_steady) (fun _ _ => ⟨rfl, rfl⟩)
      sessionId m

/-- **One call.** -/
theorem processMessage_version (hvendor : VendorAnswers)
    (hchunk : c.build.chunkCap = false) (hran : Ran (processMessage depth) c c') :
    VersionCalled c (sentMessage depth c) c' := by
  have hnext : Within SameVersion nextRequest :=
    within_nextRequest (fun _ _ => .of_steady) fun _ => ⟨rfl, rfl⟩
  obtain ⟨e, hrequest, hsent⟩ | ⟨⟨sessionId, bytes, isApp⟩, c₁, a, c₂, hrequest, hanswer, hsends⟩ :=
    processMessage_parts hran
  · have hsame := hnext.ran (.inr ⟨e, hrequest⟩)
    rw [hsent]
    exact ⟨hsame.configInfo, fun _ _ => hsame.version, fun _ _ h => (by cases h),
      fun _ _ h => by cases h⟩
  · have hsame₁ : SameVersion c c₁ := hnext.ran (.inl ⟨_, hrequest⟩)
    have hconnection : connection c₁ = connection c :=
      sameConnection_nextRequest.ran (.inl ⟨_, hrequest⟩)
    have hchunk₁ : c₁.build.chunkCap = false := by
      have hbuild := within_nextRequest (R := SameBuild) (fun _ _ h => h.build) fun _ => rfl
      rw [show c₁.build = c.build from hbuild.ran (.inl ⟨_, hrequest⟩), hchunk]
    -- sending keeps the version, and sends the response or an ERROR
    have hsame₂ : SameVersion c₂ c' := by
      obtain ⟨-, rfl, -⟩ | ⟨response, -, hsend, -⟩ := hsends
      · exact StepRel.refl _
      · exact sameVersion_sendMessage.ran hsend
    have hresponse : ∀ m, sentMessage depth c = some m → codeOf m ≠ some spdmResponseError →
        a.response = some m := by
      intro m hm hcode
      obtain ⟨-, -, hsent⟩ | ⟨response, hresponse, -, hsent⟩ := hsends
      · cases hsent.symm.trans hm
      · obtain ⟨c₃, hseal⟩ := Outcome.returned_eq_some.1 (hsent.symm.trans hm)
        obtain rfl | herror := wp_ok (ends_sealAndSend a.sessionId response a.isApp c₂) hseal
        · exact hresponse
        · exact absurd herror hcode
    have hover : isGetVersion c = startsOver sessionId bytes := by rw [isGetVersion, hrequest]
    have happ : isAppMessage c = isApp := by rw [isAppMessage, hrequest]
    have hserved : VersionServed c₁ sessionId bytes a.response c₂ ∨ isApp = true ∧
      SameVersion c₁ c₂ := by
      have hplain : ∀ sessionId, answerNext depth (sessionId, bytes, false) c₁ = .ok a c₂ →
          VersionServed c₁ sessionId bytes a.response c₂ := fun sessionId h =>
        (wp_ok (answerNext_of_dispatch hchunk₁
          (dispatchAt_version hvendor hchunk₁ depth sessionId bytes)) h).2
      cases sessionId with
      | none => exact .inl (hplain none hanswer)
      | some id =>
        cases isApp with
        | false => exact .inl (hplain (some id) hanswer)
        | true =>
          cases hanswer
          exact .inr ⟨rfl, rfl, rfl⟩
    obtain hserved | ⟨rfl, hsame⟩ := hserved
    · have hconfig : c'.configInfo = c₂.configInfo := hsame₂.configInfo
      refine ⟨hconfig.trans (hserved.configInfo.trans hsame₁.configInfo), fun hnot hturn => ?_,
        fun _ m hm hcode => ?_, fun _ m hm hcode => ?_⟩
      · rw [hsame₂.version, hserved.version (hover ▸ hnot) (hconnection ▸ hturn), hsame₁.version]
      · rw [hconfig]
        refine hserved.versions m (hresponse m hm fun h => ?_) hcode
        exact absurd (hcode.symm.trans h) (by decide)
      · have hsaid := hresponse m hm fun h => absurd (hcode.symm.trans h) (by decide)
        obtain ⟨rfl, hfirst, header, rest, hparse, hrequested, hversion⟩ :=
          hserved.capabilities m hsaid hcode
        rw [hsame₂.version, requestedVersion, hrequest]
        refine ⟨hfirst, ?_⟩
        dsimp only
        rw [hparse]
        dsimp only
        rw [if_pos hrequested, hversion]
    · have hsame' : SameVersion c c' := StepRel.trans hsame₁
        (StepRel.trans hsame hsame₂)
      exact ⟨hsame'.configInfo, fun _ _ => hsame'.version, fun h => absurd (happ.symm.trans h)
        (by decide), fun h => absurd (happ.symm.trans h) (by decide)⟩

theorem processMessage_advances
    (hchunk : c.build.chunkCap = false) (happ : isAppMessage c = true)
    (hran : Ran (processMessage depth) c c') :
    Advances (sentMessage depth c) (connection c) c' := by
  obtain ⟨id, bytes, c₁, hrequest⟩ := nextRequest_of_isAppMessage happ
  have hconnection : connection c₁ = connection c :=
    sameConnection_nextRequest.ran (.inl ⟨_, hrequest⟩)
  have hchunk₁ : c₁.build.chunkCap = false := by
    have hbuild := within_nextRequest (R := SameBuild) (fun _ _ h => h.build) fun _ => rfl
    rw [show c₁.build = c.build from hbuild.ran (.inl ⟨_, hrequest⟩), hchunk]
  obtain ⟨e, h, -⟩ | ⟨r, c₁', a, c₂, h, hanswer, hsends⟩ := processMessage_parts hran
  · cases hrequest.symm.trans h
  · cases hrequest.symm.trans h
    cases hanswer
    obtain ⟨-, rfl, hsent⟩ | ⟨response, -, hsend, hsent⟩ := hsends
    · rw [hsent]
      exact ⟨fun _ => hconnection, fun _ h => by cases h⟩
    · rw [hsent, ← hconnection]
      exact hsend.of_wp (sendMessage_advances hchunk₁)

/-! ## §4. Runs. -/

def Listed (sent : List Bytes) (v : SpdmVersion) : Prop :=
  ∃ versions, encodeVersionResponse versions ∈ sent ∧ v ∈ versions

structure ListedCall (c : SpdmContext) (sent : List Bytes) : Prop where
  requested : connection c = .afterVersion → isGetVersion c = false →
    ∀ v, requestedVersion c = some v → Listed sent v
  application : (appAnswer c).bind codeOf ≠ some spdmResponseVersion

def noteSent (depth : Nat) (c : SpdmContext) (sent : List Bytes) : List Bytes :=
  (if isGetVersion c then [] else sent) ++
    (if isAppMessage c then [] else (sentMessage depth c).toList)

/-- **A run of a responder without chunks** whose calls keep to the version
list, with the SPDM messages of the connection. -/
inductive ListedRun : SpdmContext → List Bytes → Prop
  | start {c : SpdmContext} (started : Started c) (chunkCap : c.build.chunkCap = false) :
      ListedRun c []
  | call {c c' : SpdmContext} {sent : List Bytes} (depth : Nat) (run : ListedRun c sent)
      (listed : ListedCall c sent) (ran : Ran (processMessage depth) c c') :
      ListedRun c' (noteSent depth c sent)
  | move {c c' : SpdmContext} {sent : List Bytes} (run : ListedRun c sent)
      (moved : Surroundings c c') : ListedRun c' sent

/-- **The version is settled**: the connection has one VERSION response, and
once CAPABILITIES is sent the version of the connection is the one it
announced, and one that VERSION listed. -/
structure Settled (c : SpdmContext) (sent : List Bytes) : Prop where
  single : ∀ m ∈ sent, ∀ m' ∈ sent, codeOf m = some spdmResponseVersion →
    codeOf m' = some spdmResponseVersion → m = m'
  capabilities : ∀ m ∈ sent, codeOf m = some spdmResponseCapabilities →
    m[0]? = some (versionOf c).toByte ∧ Listed sent (versionOf c)

omit [Crypto] [Device] in
theorem Settled.append {m : Bytes}
    (h : Settled c sent) (hcode : codeOf m = some code)
    (hversion : code = spdmResponseVersion → sent = [])
    (hcapabilities : code = spdmResponseCapabilities →
      m[0]? = some (versionOf c).toByte ∧ Listed sent (versionOf c)) : Settled c (sent ++ [m]) := by
  have hsaid : ∀ {k}, codeOf m = some k → code = k := fun hk =>
    Option.some.inj (hcode.symm.trans hk)
  have hlisted : ∀ {v}, Listed sent v → Listed (sent ++ [m]) v := fun ⟨versions, hin, hv⟩ =>
    ⟨versions, List.mem_append_left _ hin, hv⟩
  refine ⟨fun m₁ h₁ m₂ h₂ hk₁ hk₂ => ?_, fun m₁ h₁ hk => ?_⟩
  · rcases List.mem_append.1 h₁ with h₁ | h₁ <;> rcases List.mem_append.1 h₂ with h₂ | h₂
    · exact h.single m₁ h₁ m₂ h₂ hk₁ hk₂
    · -- VERSION begins the log
      rw [List.mem_singleton.1 h₂] at hk₂
      rw [hversion (hsaid hk₂)] at h₁
      cases h₁
    · rw [List.mem_singleton.1 h₁] at hk₁
      rw [hversion (hsaid hk₁)] at h₂
      cases h₂
    · rw [List.mem_singleton.1 h₁, List.mem_singleton.1 h₂]
  · rcases List.mem_append.1 h₁ with h₁ | h₁
    · obtain ⟨hfirst, hin⟩ := h.capabilities m₁ h₁ hk
      exact ⟨hfirst, hlisted hin⟩
    · rw [List.mem_singleton.1 h₁] at hk ⊢
      obtain ⟨hfirst, hin⟩ := hcapabilities (hsaid hk)
      exact ⟨hfirst, hlisted hin⟩

def opening : SpdmConnectionState → Bool
  | .notStarted => true
  | .afterVersion => true
  | _ => false

structure Settling (c : SpdmContext) (sent : List Bytes) : Prop extends Settled c sent where
  table : Table false c
  chunkCap : c.build.chunkCap = false
  free : opening (connection c) = true → AllFree c
  unsaid : opening (connection c) = true → ∀ m ∈ sent, codeOf m ≠ some spdmResponseCapabilities

omit [Crypto] [Device] in
theorem advance_opening {st : SpdmConnectionState} (hcode : code ≠ spdmResponseVersion)
    (h : opening (advance st code) = true) :
    advance st code = st ∧ code ≠ spdmResponseCapabilities := by
  have hraised : ∀ next : SpdmConnectionState, opening next = false →
      opening (raised st next) = true → raised st next = st := by
    intro next hnext
    unfold raised
    split
    · simp [hnext]
    · exact fun _ => rfl
  unfold advance at h ⊢
  rw [if_neg hcode] at h ⊢
  split_ifs at h ⊢ with hcap
  · cases h
  · cases h
  · exact ⟨hraised _ rfl h, hcap⟩
  · exact ⟨hraised _ rfl h, hcap⟩
  · cases h
  · exact ⟨rfl, hcap⟩

omit [Crypto] [Device] in
theorem before_of_opening {st : SpdmConnectionState} (h : opening st = true) :
    st.before .negotiated = true := by
  cases st <;> first | rfl | cases h

namespace Settling
variable {c c' : SpdmContext} {sent : List Bytes}

omit [Crypto] [Device] in
theorem of_started (h : Started c) (hchunk : c.build.chunkCap = false) : Settling c [] := by
  have hprogress : Progress c {} := .of_started h hchunk
  have hnil : ∀ (P : Bytes → Prop), ∀ m ∈ ([]), P m := fun _ m hm => by cases hm
  refine ⟨⟨hnil _, hnil _⟩, hprogress.table, hchunk, fun _ => hprogress.free ?_, fun _ => hnil _⟩
  obtain ⟨_, _, _, _, -, rfl⟩ := h
  rfl

omit [Crypto] [Device] in
theorem surroundings (h : Settling c sent) (hmove : Surroundings c c') : Settling c' sent := by
  have htable := h.table.surroundings hmove
  generalize hc' : c' = c'' at hmove htable ⊢
  rw [hmove] at htable ⊢
  exact ⟨⟨h.single, h.capabilities⟩, htable, h.chunkCap, h.free, h.unsaid⟩

theorem call_application (hvendor : VendorAnswers) (h : Settling c sent)
    (hlisted : ListedCall c sent) (happ : isAppMessage c = true)
    (hran : Ran (processMessage depth) c c') : Settling c' (noteSent depth c sent) := by
  have hcalled := processMessage_version hvendor h.chunkCap hran
  have hover := isGetVersion_of_isAppMessage happ
  have hadvances := processMessage_advances h.chunkCap happ hran
  obtain ⟨htable, hchunk⟩ := table_processMessage h.table h.chunkCap hran
  have hopen : opening (connection c) = false := by
    by_contra hopen
    obtain ⟨id, bytes, c₁, hrequest⟩ := nextRequest_of_isAppMessage happ
    have hfree := wp_ok (nextRequest_free h.table (h.free (by simpa using hopen))) hrequest
    cases hfree.1
  have hopen' : opening (connection c') = false := by
    cases hsent : sentMessage depth c with
    | none => rw [hadvances.silent hsent, hopen]
    | some m =>
      obtain ⟨code, hcode, hmoved⟩ := hadvances.speaks m hsent
      have hnot : code ≠ spdmResponseVersion := by
        rintro rfl
        exact sentMessage_ne_of_app happ (by decide) hlisted.application
          (by rw [hsent]; exact hcode)
      by_contra hopen'
      rw [Bool.not_eq_false, hmoved] at hopen'
      rw [(advance_opening hnot hopen').1, hopen] at hopen'
      cases hopen'
  have hversion : versionOf c' = versionOf c := by
    refine hcalled.version hover fun hturn => ?_
    rw [hturn] at hopen
    cases hopen
  have hnote : noteSent depth c sent = sent := by simp [noteSent, hover, happ]
  have hnever : ∀ {P : Prop}, opening (connection c') = true → P := fun h => by
    rw [hopen'] at h
    cases h
  rw [hnote]
  refine ⟨⟨h.single, ?_⟩, htable, hchunk, fun h => hnever h, fun h => hnever h⟩
  rw [hversion]
  exact h.capabilities

theorem resume (h : Settling c sent)
    (hcalled : VersionCalled c (sentMessage depth c) c')
    (hmoves : CallMoves (isGetVersion c) (sentMessage depth c) c c') :
    let kept := if isGetVersion c then [] else sent
    Settled c' kept ∧ (opening (resumes (isGetVersion c) c) = true →
      AllFree c' ∧ ∀ m ∈ kept, codeOf m ≠ some spdmResponseCapabilities) := by
  have hfree := hmoves.free
  have hversion := hcalled.version
  cases hover : isGetVersion c with
  | true =>
    rw [hover] at hfree
    exact ⟨⟨fun _ h => (by cases h), fun _ h => by cases h⟩,
      fun _ => ⟨hfree (.inl rfl), fun _ h => by cases h⟩⟩
  | false =>
    refine ⟨⟨h.single, fun m hm hcode => ?_⟩, fun hopen => ⟨hfree (.inr ⟨?_, h.free hopen⟩),
      h.unsaid hopen⟩⟩
    · rw [hversion hover fun hturn => h.unsaid (by rw [hturn]; rfl) m hm hcode]
      exact h.capabilities m hm hcode
    · exact before_of_opening hopen

theorem call_request (hvendor : VendorAnswers) (h : Settling c sent)
    (hlisted : ListedCall c sent) (happ : isAppMessage c = false)
    (hran : Ran (processMessage depth) c c') : Settling c' (noteSent depth c sent) := by
  have hcalled := processMessage_version hvendor h.chunkCap hran
  have hmoves := processMessage_moves hvendor h.table h.chunkCap happ hran
  obtain ⟨htable, hchunk⟩ := table_processMessage h.table h.chunkCap hran
  obtain ⟨hkept, hopens⟩ := h.resume hcalled hmoves
  have hnote : noteSent depth c sent =
      (if isGetVersion c then [] else sent) ++
        (sentMessage depth c).toList := by simp [noteSent, happ]
  rw [hnote]
  cases hsent : sentMessage depth c with
  | none =>
    have hstay := hmoves.silent hsent
    rw [Option.toList_none, List.append_nil]
    exact ⟨hkept, htable, hchunk, fun hopen => (hopens (hstay ▸ hopen)).1,
      fun hopen => (hopens (hstay ▸ hopen)).2⟩
  | some m =>
    obtain ⟨code, hcode, hpermits, hmoved⟩ := hmoves.speaks m hsent
    -- VERSION starts over, CAPABILITIES comes in its turn and for a version of the list
    have hversion : code = spdmResponseVersion → (if isGetVersion c then [] else sent) = [] := by
      intro hk
      rw [hpermits.version hk]
      rfl
    have hcapabilities : code = spdmResponseCapabilities → m[0]? = some (versionOf c').toByte ∧
        Listed (if isGetVersion c then [] else sent) (versionOf c') := by
      rintro rfl
      have hover : isGetVersion c = false := by
        by_contra hover
        obtain h | h := hpermits.anew (by simpa using hover) <;> exact absurd h (by decide)
      obtain ⟨hfirst, hrequested⟩ := hcalled.capabilities happ m hsent hcode
      have hasked := hlisted.requested (hpermits.capabilities rfl) hover _ hrequested
      rw [hover]
      exact ⟨hfirst, hasked⟩
    refine ⟨hkept.append hcode hversion hcapabilities, htable, hchunk, fun hopen => ?_,
      fun hopen m' hm' hk => ?_⟩
    · by_cases hk : code = spdmResponseVersion
      · exact hmoves.free (.inl (hpermits.version hk))
      · rw [hmoved] at hopen
        exact (hopens ((advance_opening hk hopen).1 ▸ hopen)).1
    · rw [hmoved] at hopen
      by_cases hversion' : code = spdmResponseVersion
      · rw [hversion hversion', List.nil_append, Option.toList_some, List.mem_singleton] at hm'
        rw [hm', hcode, hversion'] at hk
        exact absurd hk (by decide)
      · obtain ⟨hstay, hother⟩ := advance_opening hversion' hopen
        obtain hm' | hm' := List.mem_append.1 hm'
        · exact (hopens (hstay ▸ hopen)).2 m' hm' hk
        · rw [List.mem_singleton.1 hm', hcode] at hk
          exact hother (Option.some.inj hk)

theorem call (hvendor : VendorAnswers) (h : Settling c sent)
    (hlisted : ListedCall c sent) (hran : Ran (processMessage depth) c c') :
    Settling c' (noteSent depth c sent) := by
  cases happ : isAppMessage c with
  | true => exact h.call_application hvendor hlisted happ hran
  | false => exact h.call_request hvendor hlisted happ hran

end Settling

/-- **Once CAPABILITIES is sent the version stays**, and VERSION listed it. -/
theorem version_settled (hvendor : VendorAnswers) {c : SpdmContext} {sent : List Bytes}
    (h : ListedRun c sent) : Settled c sent := by
  suffices hsettling : Settling c sent from hsettling.toSettled
  induction h with
  | start hstart hchunk => exact .of_started hstart hchunk
  | call depth _ hlisted hran ih => exact ih.call hvendor hlisted hran
  | move _ hmove ih => exact ih.surroundings hmove

end

namespace SmallRun

open SmallBackend

def keepsToList (c : SpdmContext) (sent : List Bytes) : Bool :=
  (requestedVersion c).all (fun v => v == .spdmVersion12 &&
      decide (encodeVersionResponse [.spdmVersion12] ∈ sent)) &&
    (appAnswer c).bind codeOf != some spdmResponseVersion

theorem listedCall_of_keepsToList
    (h : keepsToList c sent = true) : ListedCall c sent := by
  unfold keepsToList at h
  rw [Bool.and_eq_true, Option.all_eq_true] at h
  refine ⟨fun _ _ v hv => ?_, by simpa using h.2⟩
  have hlisted := h.1 v hv
  simp only [Bool.and_eq_true, beq_iff_eq, decide_eq_true_eq] at hlisted
  exact ⟨_, hlisted.2, by rw [hlisted.1]; exact List.mem_singleton_self _⟩

def serveListed : List (SpdmContext → Bytes) → SpdmContext → List Bytes →
    Option (SpdmContext × List Bytes) :=
  serveNoting (fun c _ sent => if keepsToList c sent then some (noteSent 3 c sent) else none) [[1]]

theorem listedRun_serveListed {packets : List (SpdmContext → Bytes)}
    {sent' : List Bytes} (hrun : ListedRun c sent)
    (h : serveListed packets c sent = some (c', sent')) : ListedRun c' sent' := by
  refine serveNoting_keep (fun _ hrun => hrun.move rfl) (fun hrun hran hnote => ?_) hrun h
  obtain ⟨hkeeps, hnoted⟩ := Option.ite_none_right_eq_some.1 hnote
  cases hnoted
  exact hrun.call 3 (listedCall_of_keepsToList hkeeps) hran

theorem settled_psk : ∃ c sent, ListedRun c sent ∧ Settled c sent ∧
    sent.filterMap codeOf = [spdmResponseVersion, spdmResponseCapabilities,
      spdmResponseAlgorithms, spdmResponsePskExchangeRsp] ∧ c.world.delivered.length = 1 := by
  have hserve : ((serveListed earlyPackets pskWithoutContextResponder []).map fun r =>
      (r.2.filterMap codeOf, r.1.world.delivered.length)) = some ([spdmResponseVersion,
        spdmResponseCapabilities, spdmResponseAlgorithms, spdmResponsePskExchangeRsp], 1) := by
    decide +kernel
  obtain ⟨⟨c, sent⟩, hserve, hfacts⟩ := Option.map_eq_some_iff.1 hserve
  have hrun : ListedRun c sent :=
    listedRun_serveListed (.start (started_smallResponder _ _) rfl) hserve
  simp only [Prod.mk.injEq] at hfacts
  exact ⟨c, sent, hrun, version_settled (fun _ h => by cases h) hrun, hfacts⟩

def otherCapabilities : SpdmContext → Bytes :=
  inClear (encodeGetCapabilities .spdmVersion11 { flags := pskPeerCapabilities })

theorem unlisted_version :
    (∃ c e, Run c e ∧ e.codes = [spdmResponseVersion, spdmResponseCapabilities] ∧
      encodeVersionResponse [.spdmVersion12] ∈ e.sent ∧ versionOf c = .spdmVersion11) ∧
    ∃ c c', Reachable c ∧ connection c = .negotiated ∧ versionOf c = .spdmVersion12 ∧
      Steps (StepIf fun c => isGetVersion c = false) c c' ∧ versionOf c' = .spdmVersion11 := by
  constructor
  · have hserve : ((serveNoted ((smallNegotiation 0 136).take 1 ++ [otherCapabilities])
        pskWithContextResponder {}).map fun r => (r.2.codes,
          decide (encodeVersionResponse [.spdmVersion12] ∈ r.2.sent), versionOf r.1)) =
        some ([spdmResponseVersion, spdmResponseCapabilities], true, .spdmVersion11) := by
      decide +kernel
    obtain ⟨⟨c, e⟩, hserve, hfacts⟩ := Option.map_eq_some_iff.1 hserve
    simp only [Prod.mk.injEq, decide_eq_true_eq] at hfacts
    exact ⟨c, e, run_serveNoted (.start (started_smallResponder _ _) rfl) hserve, hfacts⟩
  · have hserve : ((serveAll (fun _ => true) [[1]]
        (smallNegotiation pskPeerCapabilities 136 ++ [smallPskExchange])
          pskWithContextResponder).map
        fun c => (connection c, versionOf c, (serveAll (fun c => !isGetVersion c) [[1]]
          [inSession true [5, spdmResponseVersion, 5], otherCapabilities] c).map versionOf)) =
        some (.negotiated, .spdmVersion12, some .spdmVersion11) := by
      decide +kernel
    obtain ⟨c, hc, hfacts⟩ := Option.map_eq_some_iff.1 hserve
    simp only [Prod.mk.injEq] at hfacts
    obtain ⟨c', hc', hversion⟩ := Option.map_eq_some_iff.1 hfacts.2.2
    refine ⟨c, c', reachable_serveAll ⟨_, started_smallResponder _ _, .refl⟩ hc, hfacts.1,
      hfacts.2.1, (steps_serveAll hc').lift fun _ _ hstep => ?_, hversion⟩
    exact .single (hstep.imp_left fun h => ⟨h.1, by simpa using h.2⟩)

end SmallRun

end Responder

end Spdm
