/-
  Spdm.Requester.Version — which version a requester settles on (`requester/get_version_req.rs`,
  `message/version.rs`).
-/
import Spdm.Requester.Negotiation

namespace Spdm

open Effect Codec SpdmContext SpdmRequestResponseCode

namespace Requester

/-! ## §1. The newest common version. -/

instance : Std.Total newestFirst := ⟨fun a b => UInt8.le_total b.toByte a.toByte⟩

instance : IsTrans SpdmVersion newestFirst := ⟨fun _ _ _ hab hbc => UInt8.le_trans hbc hab⟩

theorem toByte_injective {a b : SpdmVersion} (h : a.toByte = b.toByte) : a = b := by
  have hread := SpdmVersion.ofByte?_toByte a
  rw [h, SpdmVersion.ofByte?_toByte] at hread
  exact (Option.some.inj hread).symm

instance : Std.Antisymm newestFirst :=
  ⟨fun _ _ hab hba => toByte_injective (UInt8.le_antisymm hba hab)⟩

theorem newestFirst_oldest (v : SpdmVersion) : newestFirst v .spdmVersion10 := by
  cases v <;> decide

theorem insertionSort_padded {offered : List SpdmVersion} :
    (paddedVersions offered).insertionSort newestFirst =
      offered.insertionSort newestFirst ++
        List.replicate (maxSpdmVersionCount - offered.length) .spdmVersion10 := by
  refine List.Perm.eq_of_pairwise' (List.pairwise_insertionSort newestFirst _) ?_ ?_
  · rw [List.pairwise_append]
    refine ⟨List.pairwise_insertionSort newestFirst _, ?_, ?_⟩
    · exact List.pairwise_replicate.2 (Or.inr (UInt8.le_refl _))
    · intro v _ w hw
      rw [List.eq_of_mem_replicate hw]
      exact newestFirst_oldest v
  · exact (List.perm_insertionSort _ _).trans
      ((List.perm_insertionSort newestFirst offered).symm.append_right _)

theorem find_newest {l : List SpdmVersion} {p : SpdmVersion → Bool} {v : SpdmVersion}
    (hsorted : l.Pairwise newestFirst) :
    l.find? p = some v ↔ v ∈ l ∧ p v = true ∧ ∀ w ∈ l, p w = true → newestFirst v w := by
  induction l with
  | nil => simp
  | cons x xs ih =>
    obtain ⟨hx, hxs⟩ := List.pairwise_cons.1 hsorted
    rw [List.find?_cons]
    cases hp : p x with
    | true =>
      -- the head matches: nothing after it is newer
      constructor
      · rintro hfound
        obtain rfl : x = v := Option.some.inj hfound
        refine ⟨List.mem_cons_self, hp, fun w hw _ => ?_⟩
        obtain rfl | hw := List.mem_cons.1 hw
        · exact UInt8.le_refl _
        · exact hx w hw
      · rintro ⟨hmem, -, hnewest⟩
        obtain rfl | hmem := List.mem_cons.1 hmem
        · rfl
        · exact congrArg some (antisymm (hx v hmem) (hnewest x List.mem_cons_self hp))
    | false =>
      rw [ih hxs]
      constructor
      · rintro ⟨hmem, hv, hnewest⟩
        refine ⟨List.mem_cons_of_mem _ hmem, hv, fun w hw hpw => ?_⟩
        obtain rfl | hw := List.mem_cons.1 hw
        · rw [hp] at hpw
          cases hpw
        · exact hnewest w hw hpw
      · rintro ⟨hmem, hv, hnewest⟩
        obtain rfl | hmem := List.mem_cons.1 hmem
        · rw [hp] at hv
          cases hv
        · exact ⟨hmem, hv, fun w hw => hnewest w (List.mem_cons_of_mem _ hw)⟩

theorem negotiateVersion_eq_some_iff {configured offered : List SpdmVersion} (v : SpdmVersion) :
    negotiateVersion configured offered = some v ↔
      v ∈ offered ∧ v ∈ configured ∧ ∀ w ∈ offered, w ∈ configured → newestFirst v w := by
  have htake : ((paddedVersions offered).insertionSort newestFirst).take offered.length =
      offered.insertionSort newestFirst := by
    rw [insertionSort_padded, List.take_append_of_le_length (by rw [List.length_insertionSort]),
      List.take_of_length_le (by rw [List.length_insertionSort])]
  rw [negotiateVersion, htake, find_newest (List.pairwise_insertionSort newestFirst _)]
  simp only [List.mem_insertionSort, List.contains_iff_mem]

theorem negotiateVersion_isSome_iff (configured offered : List SpdmVersion) :
    (∃ v, negotiateVersion configured offered = some v) ↔ ∃ v ∈ configured, v ∈ offered := by
  constructor
  · rintro ⟨v, hv⟩
    obtain ⟨hoffered, hconfigured, -⟩ := (negotiateVersion_eq_some_iff v).1 hv
    exact ⟨v, hconfigured, hoffered⟩
  · rintro ⟨v, hconfigured, hoffered⟩
    cases hn : negotiateVersion configured offered with
    | some w => exact ⟨w, rfl⟩
    | none =>
      -- `v` is among the entries that were searched
      have hnone := List.find?_eq_none.1 hn v (by
        rw [insertionSort_padded, List.take_append_of_le_length
          (by rw [List.length_insertionSort]), List.take_of_length_le
          (by rw [List.length_insertionSort]), List.mem_insertionSort]
        exact hoffered)
      exact absurd (List.contains_iff_mem.2 hconfigured) hnone

/-! ## §2. The bytes of VERSION. -/

def EntryRead (entry : UInt8 × UInt8) : Prop :=
  (SpdmVersion.ofByte? entry.2).isSome ∨ ¬ entry.2 < 0x10

/-- A VERSION response that parses: any header version, any reserved bytes,
one entry at least and none older than 1.0.  The first byte of an entry is
its update number, the second its version. -/
structure VersionResponse where
  version : SpdmVersion
  param1 : UInt8
  param2 : UInt8
  reserved : UInt8
  count : UInt8
  entries : List (UInt8 × UInt8)
  trailing : Bytes
  count_ne : count ≠ 0
  count_eq : count.toNat = entries.length
  entries_read : ∀ entry ∈ entries, EntryRead entry

def entryBytes (entries : List (UInt8 × UInt8)) : Bytes :=
  entries.flatMap fun entry => [entry.1, entry.2]

namespace VersionResponse

def body (r : VersionResponse) : Bytes :=
  encodeHeader r.version spdmResponseVersion ++
    ([r.param1, r.param2, r.reserved, r.count] ++ entryBytes r.entries)

def bytes (r : VersionResponse) : Bytes := r.body ++ r.trailing

def Names (r : VersionResponse) (v : SpdmVersion) : Prop := v.toByte ∈ r.entries.map Prod.snd

end VersionResponse

theorem entryBytes_length (entries : List (UInt8 × UInt8)) :
    (entryBytes entries).length = entries.length * 2 := by
  simp [entryBytes, List.length_flatMap]

theorem exists_entries {n : Nat} (bs : Bytes) (h : bs.length = n * 2) :
    ∃ entries : List (UInt8 × UInt8), entries.length = n ∧ bs = entryBytes entries := by
  induction n generalizing bs with
  | zero => exact ⟨[], rfl, List.eq_nil_of_length_eq_zero (by omega)⟩
  | succ n ih =>
    match bs with
    | [] => simp at h
    | [_] =>
      simp only [List.length_singleton] at h
      omega
    | a :: b :: bs =>
      obtain ⟨entries, hlength, hbs⟩ := ih bs (by simp only [List.length_cons] at h; omega)
      exact ⟨(a, b) :: entries, by rw [List.length_cons, hlength], by rw [hbs]; rfl⟩

theorem mem_collectVersions (entries : List (UInt8 × UInt8)) (seen versions : List SpdmVersion)
    (h : collectVersions seen (entryBytes entries) = some versions) :
    (∀ entry ∈ entries, EntryRead entry) ∧
      ∀ v, v ∈ versions ↔ v ∈ seen ∨ v.toByte ∈ entries.map Prod.snd := by
  induction entries generalizing seen with
  | nil =>
    obtain rfl : seen = versions := Option.some.inj h
    simp
  | cons entry entries ih =>
    obtain ⟨update, b⟩ := entry
    replace h : collectVersions seen (update :: b :: entryBytes entries) = some versions := h
    rw [collectVersions] at h
    cases hb : SpdmVersion.ofByte? b with
    | some w =>
      rw [hb] at h
      obtain ⟨hread, hmem⟩ := ih _ h
      refine ⟨List.forall_mem_cons.2 ⟨Or.inl (by rw [hb]; rfl), hread⟩, fun v => ?_⟩
      have hw : v.toByte = b ↔ v = w := by
        rw [← SpdmVersion.toByte_of_ofByte? hb]
        exact ⟨toByte_injective, congrArg _⟩
      rw [hmem, List.map_cons, List.mem_cons, hw]
      by_cases hseen : w ∈ seen
      · rw [if_pos hseen]
        constructor
        · rintro (hv | hv)
          · exact Or.inl hv
          · exact Or.inr (Or.inr hv)
        · rintro (hv | rfl | hv)
          · exact Or.inl hv
          · exact Or.inl hseen
          · exact Or.inr hv
      · rw [if_neg hseen, List.mem_append, List.mem_singleton, or_assoc]
    | none =>
      rw [hb] at h
      by_cases hold : b < 0x10
      · simp [hold] at h
      · obtain ⟨hread, hmem⟩ := ih seen (by simpa [hold] using h)
        refine ⟨List.forall_mem_cons.2 ⟨Or.inr hold, hread⟩, fun v => ?_⟩
        -- a skipped entry is for no version
        have hv : v.toByte ≠ b := by
          rintro rfl
          rw [SpdmVersion.ofByte?_toByte] at hb
          cases hb
        rw [hmem, List.map_cons, List.mem_cons, or_iff_right hv]

theorem collectVersions_isSome (entries : List (UInt8 × UInt8)) (seen : List SpdmVersion)
    (h : ∀ entry ∈ entries, EntryRead entry) :
    ∃ versions, collectVersions seen (entryBytes entries) = some versions := by
  induction entries generalizing seen with
  | nil => exact ⟨seen, rfl⟩
  | cons entry entries ih =>
    obtain ⟨hentry, hentries⟩ := List.forall_mem_cons.1 h
    show ∃ versions, collectVersions seen (entry.1 :: entry.2 :: entryBytes entries) = some versions
    rw [collectVersions]
    cases hb : SpdmVersion.ofByte? entry.2 with
    | some w => exact ih _ hentries
    | none =>
      have hnew : ¬ entry.2 < 0x10 := by
        rcases hentry with hsome | hnew
        · rw [hb] at hsome
          cases hsome
        · exact hnew
      simpa only [if_neg hnew] using ih seen hentries

theorem parseVersionResponse_bytes (r : VersionResponse) :
    ∃ versions, parseVersionResponse (r.body.drop 2 ++ r.trailing) = .ok versions r.trailing ∧
      ∀ v, v ∈ versions ↔ r.Names v := by
  obtain ⟨versions, hcollect⟩ := collectVersions_isSome r.entries [] r.entries_read
  refine ⟨versions, ?_, fun v => ?_⟩
  · have hskip : skipBytes 3 (r.body.drop 2 ++ r.trailing) =
        .ok () (r.count :: (entryBytes r.entries ++ r.trailing)) :=
      @skipBytes_append 3 [r.param1, r.param2, r.reserved] _ rfl
    unfold parseVersionResponse
    rw [bind_of_ok hskip, bind_of_ok (u8_cons _ _), require, bind_of_ok
      (guardElse_of (bne_iff_ne.2 r.count_ne)), bind_of_ok
      (takeBytes_append (by rw [entryBytes_length, r.count_eq])), hcollect]
    rfl
  · rw [(mem_collectVersions r.entries [] versions hcollect).2 v]
    simp [VersionResponse.Names]

theorem exists_versionResponse {v : SpdmVersion} {rest left : Bytes} {versions : List SpdmVersion}
    (h : parseVersionResponse rest = .ok versions left) :
    ∃ r : VersionResponse,
      encodeHeader v spdmResponseVersion ++ rest = r.bytes := by
  obtain ⟨_, rest₁, hskip, hread₁⟩ := bind_eq_ok.1 h
  obtain ⟨skipped, hthree, rfl⟩ := skipBytes_eq_ok hskip
  obtain ⟨a, b, c, rfl⟩ := List.length_eq_three.1 hthree
  obtain ⟨count, rest₂, hcount, hread₂⟩ := bind_eq_ok.1 hread₁
  obtain rfl := u8_eq_ok hcount
  obtain ⟨_, _, hrequire, hread₃⟩ := bind_eq_ok.1 hread₂
  obtain ⟨hne, rfl⟩ := guardElse_eq_ok.1 hrequire
  obtain ⟨taken, rest₃, htake, hread⟩ := bind_eq_ok.1 hread₃
  obtain ⟨hlength, rfl⟩ := takeBytes_eq_ok htake
  obtain ⟨entries, hentries, rfl⟩ := exists_entries taken hlength
  cases hcollect : collectVersions [] (entryBytes entries) with
  | none =>
    rw [hcollect] at hread
    cases hread
  | some vs =>
    refine ⟨⟨v, a, b, c, count, entries, rest₃, bne_iff_ne.1 hne, hentries.symm,
      (mem_collectVersions entries [] vs hcollect).1⟩, ?_⟩
    simp [VersionResponse.bytes, VersionResponse.body]

/-! ## §3. The handler. -/

def NewestCommon (configured : List SpdmVersion) (r : VersionResponse) (v : SpdmVersion) : Prop :=
  v ∈ configured ∧ r.Names v ∧ ∀ w ∈ configured, r.Names w → newestFirst v w

theorem NewestCommon.unique {configured : List SpdmVersion} {r r' : VersionResponse}
    (hnames : ∀ v ∈ configured, r.Names v ↔ r'.Names v) {v v' : SpdmVersion}
    (hv : NewestCommon configured r v) (hv' : NewestCommon configured r' v') : v = v' := by
  obtain ⟨hmem, hnamed, hnewest⟩ := hv
  obtain ⟨hmem', hnamed', hnewest'⟩ := hv'
  exact antisymm (hnewest v' hmem' ((hnames v' hmem').2 hnamed'))
    (hnewest' v hmem ((hnames v hmem).1 hnamed))

theorem VersionResponse.body_length (r : VersionResponse) : r.body.length ≤ 516 := by
  have hcount := r.count_eq
  have hbyte := r.count.toNat_lt
  have hentries := entryBytes_length r.entries
  have hbody : r.body.length = 6 + (entryBytes r.entries).length := by
    simp [VersionResponse.body, encodeHeader]
    omega
  omega

theorem version_fits {r : VersionResponse} :
    appendMessage maxManagedBufferASize encodeGetVersion r.body =
      some (encodeGetVersion ++ r.body) := by
  have hbody := r.body_length
  have hrequest : encodeGetVersion.length = 4 := rfl
  have hmax : maxManagedBufferASize = 660 := rfl
  rw [appendMessage, if_pos (by omega)]

theorem handleSpdmVersionResponse_bytes (r : VersionResponse) (c : SpdmContext) :
    ∃ versions, (∀ v, v ∈ versions ↔ r.Names v) ∧
      handleSpdmVersionResponse encodeGetVersion r.bytes c =
        match negotiateVersion c.configInfo.spdmVersion versions with
        | none => .err .negotiationFail c
        | some v => .ok () { c with
            negotiateInfo := { c.negotiateInfo with spdmVersionSel := v }
            runtimeInfo := { messageA := encodeGetVersion ++ r.body } } := by
  obtain ⟨versions, hparse, hnames⟩ := parseVersionResponse_bytes r
  refine ⟨versions, hnames, ?_⟩
  have hsplit : r.bytes =
      encodeHeader r.version spdmResponseVersion ++ (r.body.drop 2 ++ r.trailing) := by
    simp [VersionResponse.bytes, VersionResponse.body, encodeHeader]
  have hheader := parseHeader_encodeHeader r.version spdmResponseVersion
    (r.body.drop 2 ++ r.trailing)
  rw [← hsplit] at hheader
  have hread : readResponse parseVersionResponse (r.body.drop 2 ++ r.trailing) c =
      .ok (versions, r.trailing) c := by
    unfold readResponse
    rw [bind_of_ok (parseRest_of_ok hparse)]
    rfl
  have hused : consumed r.bytes r.trailing = r.body := consumed_append
  unfold handleSpdmVersionResponse
  rw [bind_of_ok (parseRest_of_ok hheader), bind_of_ok (orFail_eq_ok.2 ⟨rfl, rfl⟩)]
  show onResponseCode (some 0) spdmResponseVersion r.bytes ⟨r.version, spdmResponseVersion⟩
    _ _ c = _
  rw [onResponseCode, if_pos rfl, bind_of_ok hread]
  dsimp only
  rw [read_bind]
  cases hn : negotiateVersion c.configInfo.spdmVersion versions with
  | none => rfl
  | some v =>
    -- message A starts empty: both messages fit
    have hrequest : appendMessageA encodeGetVersion { c with
        negotiateInfo := { c.negotiateInfo with spdmVersionSel := v }, runtimeInfo := {} } =
        .ok () { c with
          negotiateInfo := { c.negotiateInfo with spdmVersionSel := v }
          runtimeInfo := { messageA := encodeGetVersion } } := rfl
    rw [bind_of_ok (orFail_eq_ok.2 ⟨rfl, rfl⟩), update_bind, bind_of_ok hrequest, hused]
    unfold appendMessageA
    rw [read_bind, version_fits]
    rfl

theorem parses_of_taken {request response : Bytes} {c c' : SpdmContext} {u : Unit}
    (h : handleSpdmVersionResponse request response c = .ok u c') :
    ∃ r : VersionResponse, response = r.bytes := by
  obtain ⟨parsed, _, hparse, hrest⟩ := bind_eq_ok.1 h
  obtain ⟨rfl, hheader⟩ := parseRest_eq_ok hparse
  obtain ⟨⟨header, rest⟩, _, hsome, hcode⟩ := bind_eq_ok.1 hrest
  obtain ⟨rfl, rfl⟩ := orFail_eq_ok.1 hsome
  have hbytes := parseHeader_eq_ok (hheader header rest rfl)
  replace hcode : onResponseCode (some 0) spdmResponseVersion response header rest _ c = .ok u c' :=
    hcode
  unfold onResponseCode at hcode
  split_ifs at hcode with hversion herror
  · obtain ⟨⟨versions, left⟩, _, hread, -⟩ := bind_eq_ok.1 hcode
    obtain ⟨hpayload, rfl⟩ := readResponse_eq_ok hread
    rw [hbytes, hversion]
    exact exists_versionResponse hpayload
  · obtain ⟨_, _, -, hfail⟩ := bind_eq_ok.1 hcode
    cases hfail
  · cases hcode

theorem taken_iff (r : VersionResponse) (c : SpdmContext) :
    (∃ c', handleSpdmVersionResponse encodeGetVersion r.bytes c = .ok () c') ↔
      ∃ v ∈ c.configInfo.spdmVersion, r.Names v := by
  obtain ⟨versions, hnames, hhandle⟩ := handleSpdmVersionResponse_bytes r c
  have hsome := negotiateVersion_isSome_iff c.configInfo.spdmVersion versions
  simp only [hnames] at hsome
  rw [← hsome, hhandle]
  cases negotiateVersion c.configInfo.spdmVersion versions <;> simp

theorem settled_of_taken {r : VersionResponse} {c c' : SpdmContext}
    (h : handleSpdmVersionResponse encodeGetVersion r.bytes c = .ok () c') :
    ∃ v, NewestCommon c.configInfo.spdmVersion r v ∧
      c'.negotiateInfo = { c.negotiateInfo with spdmVersionSel := v } := by
  obtain ⟨versions, hnames, hhandle⟩ := handleSpdmVersionResponse_bytes r c
  rw [hhandle] at h
  cases hn : negotiateVersion c.configInfo.spdmVersion versions with
  | none =>
    rw [hn] at h
    cases h
  | some v =>
    rw [hn] at h
    cases h
    obtain ⟨hoffered, hconfigured, hnewest⟩ := (negotiateVersion_eq_some_iff v).1 hn
    exact ⟨v, ⟨hconfigured, (hnames v).1 hoffered,
      fun w hw hnamed => hnewest w ((hnames w).2 hnamed) hw⟩, rfl⟩

/-- **Version negotiation.**  VERSION is taken exactly when it parses and
names a configured version, and then the newest common one is selected.  Of
the entries only the configured versions they name matter: not the unknown
ones, not the repetitions, not their order or number. -/
theorem version_negotiation (c : SpdmContext) (response : Bytes) :
    ((∃ c', handleSpdmVersionResponse encodeGetVersion response c = .ok () c') ↔
      ∃ r : VersionResponse, response = r.bytes ∧ ∃ v ∈ c.configInfo.spdmVersion, r.Names v) ∧
    (∀ (r : VersionResponse) (c' : SpdmContext), response = r.bytes →
      handleSpdmVersionResponse encodeGetVersion response c = .ok () c' →
      NewestCommon c.configInfo.spdmVersion r c'.negotiateInfo.spdmVersionSel) ∧
    (∀ r r' : VersionResponse, response = r.bytes →
      (∀ v ∈ c.configInfo.spdmVersion, r.Names v ↔ r'.Names v) →
      ((∃ c', handleSpdmVersionResponse encodeGetVersion response c = .ok () c') ↔
        ∃ c', handleSpdmVersionResponse encodeGetVersion r'.bytes c = .ok () c') ∧
      ∀ c₁ c₂, handleSpdmVersionResponse encodeGetVersion response c = .ok () c₁ →
        handleSpdmVersionResponse encodeGetVersion r'.bytes c = .ok () c₂ →
        c₁.negotiateInfo = c₂.negotiateInfo) := by
  refine ⟨⟨?_, ?_⟩, ?_, ?_⟩
  · rintro ⟨c', h⟩
    obtain ⟨r, rfl⟩ := parses_of_taken h
    exact ⟨r, rfl, (taken_iff r c).1 ⟨c', h⟩⟩
  · rintro ⟨r, rfl, hnamed⟩
    exact (taken_iff r c).2 hnamed
  · rintro r c' rfl h
    obtain ⟨v, hv, hsel⟩ := settled_of_taken h
    rw [hsel]
    exact hv
  · rintro r r' rfl hnames
    constructor
    · rw [taken_iff, taken_iff]
      exact exists_congr fun v => and_congr_right fun hv => hnames v hv
    · intro c₁ c₂ h₁ h₂
      obtain ⟨v₁, hv₁, hsel₁⟩ := settled_of_taken h₁
      obtain ⟨v₂, hv₂, hsel₂⟩ := settled_of_taken h₂
      rw [hsel₁, hsel₂, hv₁.unique hnames hv₂]

end Requester

end Spdm
