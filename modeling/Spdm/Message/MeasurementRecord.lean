/-
  Spdm.Message.MeasurementRecord — the grammar of a measurement record (`common/spdm_codec.rs`).
-/
import Spdm.Message.Attestation
import Spdm.Context.Small

namespace Spdm

open Effect Codec

variable {rest bs : Bytes} {c : SpdmContext} {n : Nat}

/-! ## §1. Blocks. -/

structure MeasurementBlock where
  index : UInt8
  specification : UInt8
  final : UInt8
  value : Bytes
  deriving Repr, DecidableEq

namespace MeasurementBlock

def rawBit (b : MeasurementBlock) : Bool := b.final &&& 0x80 != 0

def bytes (b : MeasurementBlock) : Bytes :=
  b.index :: b.specification :: (leBytes 2 (3 + b.value.length) ++
    b.final :: (leBytes 2 b.value.length ++ b.value))

structure WellFormed (c : SpdmContext) (b : MeasurementBlock) : Prop where
  specification_eq :
    b.specification.toNat &&& SpdmMeasurementSpecification.validMask =
      SpdmMeasurementSpecification.dmtf
  size_lt : 3 + b.value.length < 2 ^ 16
  representation : representationValid (b.final &&& 0x7f).toNat b.rawBit = true
  digest : b.rawBit = false →
    SpdmMeasurementHashAlgo.size? c.negotiateInfo.measurementHashSel = some b.value.length ∧
      c.negotiateInfo.measurementHashSel ≠ SpdmMeasurementHashAlgo.rawBitStream

def Fits (c : SpdmContext) (b : MeasurementBlock) : Prop :=
  b.value.length ≤ c.build.config.maxSpdmMeasurementValueLen

end MeasurementBlock

theorem flagsLe_cons {mask : Flags} {b : UInt8} :
    flagsLe 1 mask (b :: rest) = .ok (b.toNat &&& mask) rest := by
  have hread : uintLe 1 (b :: rest) = .ok b.toNat rest := by
    have hbytes : leBytes 1 b.toNat ++ rest = b :: rest := by simp [leBytes]
    rw [← hbytes]
    exact uintLe_append rest (by have := b.toNat_lt; omega)
  unfold flagsLe
  rfl

theorem flagsLe_eq_ok {mask flags : Flags}
    (h : flagsLe 1 mask bs = .ok flags rest) :
    ∃ b : UInt8, bs = b :: rest ∧ flags = b.toNat &&& mask := by
  cases bs with
  | nil => cases h
  | cons b bs =>
    cases h
    exact ⟨b, rfl, rfl⟩

/-! ## §2. One block. -/

def checkDigest (c : SpdmContext) (rawBit : Bool) (valueSize : Nat) : Parser Unit :=
  if rawBit then ret () else do
    let hashSize ← orAbort (SpdmMeasurementHashAlgo.size? c.negotiateInfo.measurementHashSel)
    require (valueSize == hashSize &&
      c.negotiateInfo.measurementHashSel != SpdmMeasurementHashAlgo.rawBitStream)

theorem checkDigest_eq_ok {rawBit : Bool} {valueSize : Nat} {u : Unit} :
    checkDigest c rawBit valueSize bs = .ok u rest ↔
      bs = rest ∧ (rawBit = false →
        SpdmMeasurementHashAlgo.size? c.negotiateInfo.measurementHashSel = some valueSize ∧
          c.negotiateInfo.measurementHashSel ≠ SpdmMeasurementHashAlgo.rawBitStream) := by
  cases rawBit with
  | true => simp [checkDigest]
  | false =>
    unfold checkDigest
    constructor
    · intro h
      obtain ⟨size, _, hsize, hrequire⟩ := bind_eq_ok.1 h
      obtain ⟨hsome, rfl⟩ := orAbort_eq_ok.1 hsize
      obtain ⟨hcheck, rfl⟩ := guardElse_eq_ok.1 hrequire
      obtain ⟨heq, hne⟩ := Bool.and_eq_true_iff.1 hcheck
      exact ⟨rfl, fun _ => ⟨by rw [hsome, beq_iff_eq.1 heq], bne_iff_ne.1 hne⟩⟩
    · rintro ⟨rfl, hdigest⟩
      obtain ⟨hsome, hne⟩ := hdigest rfl
      refine bind_eq_ok.2 ⟨valueSize, bs, orAbort_eq_ok.2 ⟨hsome, rfl⟩, guardElse_eq_ok.2 ⟨?_, rfl⟩⟩
      rw [beq_self_eq_true]
      exact bne_iff_ne.2 hne

theorem parseDmtfMeasurement_eq_ok {valueSize : Nat} :
    parseDmtfMeasurement c bs = .ok valueSize rest ↔
      ∃ (final : UInt8) (value : Bytes),
        bs = final :: (leBytes 2 value.length ++ value) ++ rest ∧ value.length = valueSize ∧
        valueSize < 2 ^ 16 ∧ valueSize ≤ c.build.config.maxSpdmMeasurementValueLen ∧
        representationValid (final &&& 0x7f).toNat (final &&& 0x80 != 0) = true ∧
        ((final &&& 0x80 != 0) = false →
          SpdmMeasurementHashAlgo.size? c.negotiateInfo.measurementHashSel = some valueSize ∧
            c.negotiateInfo.measurementHashSel ≠ SpdmMeasurementHashAlgo.rawBitStream) := by
  constructor
  · intro h
    obtain ⟨final, bs₁, hfinal, h₁⟩ := bind_eq_ok.1 h
    obtain rfl := u8_eq_ok hfinal
    obtain ⟨_, _, hkind, h₂⟩ := bind_eq_ok.1 h₁
    obtain ⟨hrepresentation, rfl⟩ := guardElse_eq_ok.1 hkind
    obtain ⟨size, bs₂, hsize, h₃⟩ := bind_eq_ok.1 h₂
    obtain rfl := uintLe_eq_ok hsize
    obtain ⟨_, _, hmax, h₄⟩ := bind_eq_ok.1 h₃
    obtain ⟨hle, rfl⟩ := guardElse_eq_ok.1 hmax
    obtain ⟨_, _, hcheck, h₅⟩ := bind_eq_ok.1 h₄
    obtain ⟨rfl, hdigest⟩ := (checkDigest_eq_ok).1 hcheck
    obtain ⟨_, bs₃, hskip, hret⟩ := bind_eq_ok.1 h₅
    obtain ⟨rfl, rfl⟩ := ret_eq_ok.1 hret
    obtain ⟨value, hvalue, rfl⟩ := skipBytes_eq_ok hskip
    exact ⟨final, value, by simp [hvalue], hvalue, uintLe_lt hsize, of_decide_eq_true hle,
      hrepresentation, hdigest⟩
  · rintro ⟨final, value, rfl, rfl, hlt, hle, hrepresentation, hdigest⟩
    have hskip : skipBytes value.length (value ++ rest) = .ok () rest := skipBytes_append rfl
    unfold parseDmtfMeasurement
    rw [List.cons_append, List.append_assoc, bind_of_ok (u8_cons _ _), require,
      bind_of_ok (guardElse_of hrepresentation), bind_of_ok (uintLe_append _ hlt), require,
      bind_of_ok (guardElse_of (decide_eq_true hle))]
    refine bind_eq_ok.2 ⟨(), value ++ rest, (checkDigest_eq_ok).2 ⟨rfl, hdigest⟩, ?_⟩
    rw [bind_of_ok hskip]
    rfl

theorem parseMeasurementBlock_iff {c : SpdmContext} {bs rest : Bytes} {index : UInt8} :
    parseMeasurementBlock c bs = .ok index rest ↔
      ∃ b : MeasurementBlock, bs = b.bytes ++ rest ∧ b.index = index ∧ b.WellFormed c ∧
        b.Fits c := by
  constructor
  · intro h
    obtain ⟨index', bs₁, hindex, h₁⟩ := bind_eq_ok.1 h
    obtain rfl := u8_eq_ok hindex
    obtain ⟨flags, bs₂, hflags, h₂⟩ := bind_eq_ok.1 h₁
    obtain ⟨specification, rfl, rfl⟩ := flagsLe_eq_ok hflags
    obtain ⟨_, _, hdmtf, h₃⟩ := bind_eq_ok.1 h₂
    obtain ⟨hspecification, rfl⟩ := guardElse_eq_ok.1 hdmtf
    obtain ⟨size, bs₃, hsize, h₄⟩ := bind_eq_ok.1 h₃
    obtain rfl := uintLe_eq_ok hsize
    obtain ⟨_, _, hmax, h₅⟩ := bind_eq_ok.1 h₄
    obtain ⟨-, rfl⟩ := guardElse_eq_ok.1 hmax
    obtain ⟨valueSize, bs₄, hvalue, h₆⟩ := bind_eq_ok.1 h₅
    obtain ⟨final, value, rfl, rfl, -, hle, hrepresentation, hdigest⟩ :=
      parseDmtfMeasurement_eq_ok.1 hvalue
    obtain ⟨_, _, hequal, hret⟩ := bind_eq_ok.1 h₆
    obtain ⟨hsizes, rfl⟩ := guardElse_eq_ok.1 hequal
    obtain ⟨rfl, rfl⟩ := ret_eq_ok.1 hret
    -- the build leaves room for the outer length: the addition does not wrap
    have hbuild := c.build.measurement_le.2.1
    have hlt : 3 + value.length < 2 ^ 16 := by omega
    have hsize' : size = 3 + value.length := by
      rw [beq_iff_eq.1 hsizes, Nat.mod_eq_of_lt hlt]
    refine ⟨⟨index', specification, final, value⟩, ?_, rfl,
      ⟨beq_iff_eq.1 hspecification, hlt, hrepresentation, hdigest⟩, hle⟩
    rw [hsize']
    simp [MeasurementBlock.bytes]
  · rintro ⟨b, rfl, rfl, hwell, hfits⟩
    obtain ⟨hspecification, hlt, hrepresentation, hdigest⟩ := hwell
    have hvalue : parseDmtfMeasurement c
        (b.final :: (leBytes 2 b.value.length ++ b.value) ++ rest) = .ok b.value.length rest :=
      parseDmtfMeasurement_eq_ok.2
        ⟨b.final, b.value, rfl, rfl, by omega, hfits, hrepresentation, hdigest⟩
    have hmax : 3 + b.value.length ≤ 3 + c.build.config.maxSpdmMeasurementValueLen :=
      Nat.add_le_add_left hfits 3
    have hequal : (3 + b.value.length == (3 + b.value.length) % 2 ^ 16) = true := by
      rw [Nat.mod_eq_of_lt hlt]
      exact beq_self_eq_true _
    unfold parseMeasurementBlock
    rw [MeasurementBlock.bytes, List.cons_append, bind_of_ok (u8_cons _ _), List.cons_append,
      bind_of_ok flagsLe_cons, require,
      bind_of_ok (guardElse_of (beq_iff_eq.2 hspecification)), List.append_assoc,
      bind_of_ok (uintLe_append _ hlt), require, bind_of_ok (guardElse_of (decide_eq_true hmax)),
      bind_of_ok hvalue, require, bind_of_ok (guardElse_of hequal)]
    rfl

/-! ## §3. The walk. -/

def IncreasingFrom (current : UInt8) (blocks : List MeasurementBlock) : Prop :=
  (∀ b ∈ blocks, current < b.index) ∧ (blocks.map MeasurementBlock.index).Pairwise (· < ·)

theorem increasingFrom_cons {current : UInt8} {b : MeasurementBlock}
    {blocks : List MeasurementBlock} :
    IncreasingFrom current (b :: blocks) ↔ current < b.index ∧ IncreasingFrom b.index blocks := by
  unfold IncreasingFrom
  rw [List.forall_mem_cons, List.map_cons, List.pairwise_cons, List.forall_mem_map]
  constructor
  · rintro ⟨⟨hcurrent, -⟩, hindex, hpairwise⟩
    exact ⟨hcurrent, hindex, hpairwise⟩
  · rintro ⟨hcurrent, hindex, hpairwise⟩
    refine ⟨⟨hcurrent, fun b' hb' => ?_⟩, hindex, hpairwise⟩
    exact UInt8.lt_trans hcurrent (hindex b' hb')

theorem parseMeasurementBlocks_iff {current : UInt8} :
    parseMeasurementBlocks c n current bs = .ok () rest ↔
      ∃ blocks : List MeasurementBlock, blocks.length = n ∧
        bs = blocks.flatMap MeasurementBlock.bytes ++ rest ∧ IncreasingFrom current blocks ∧
        ∀ b ∈ blocks, b.WellFormed c ∧ b.Fits c := by
  induction n generalizing current bs with
  | zero =>
    constructor
    · intro h
      obtain ⟨-, rfl⟩ := ret_eq_ok.1 h
      exact ⟨[], rfl, rfl, ⟨by simp, by simp⟩, by simp⟩
    · rintro ⟨blocks, hlength, rfl, -, -⟩
      obtain rfl := List.eq_nil_of_length_eq_zero hlength
      rfl
  | succ n ih =>
    constructor
    · intro h
      obtain ⟨index, mid, hblock, h₁⟩ := bind_eq_ok.1 h
      obtain ⟨b, rfl, rfl, hwell, hfits⟩ := parseMeasurementBlock_iff.1 hblock
      obtain ⟨_, _, hrequire, h₂⟩ := bind_eq_ok.1 h₁
      obtain ⟨hlt, rfl⟩ := guardElse_eq_ok.1 hrequire
      obtain ⟨blocks, rfl, rfl, hincreasing, hblocks⟩ := ih.1 h₂
      refine ⟨b :: blocks, rfl, ?_, increasingFrom_cons.2 ⟨of_decide_eq_true hlt, hincreasing⟩, ?_⟩
      · rw [List.flatMap_cons, List.append_assoc]
      · exact List.forall_mem_cons.2 ⟨⟨hwell, hfits⟩, hblocks⟩
    · rintro ⟨blocks, hlength, rfl, hincreasing, hblocks⟩
      obtain ⟨b, blocks, rfl⟩ := List.exists_cons_of_length_eq_add_one hlength
      obtain ⟨hlt, hincreasing⟩ := increasingFrom_cons.1 hincreasing
      obtain ⟨⟨hwell, hfits⟩, hblocks⟩ := List.forall_mem_cons.1 hblocks
      have hblock := (@parseMeasurementBlock_iff c _ (blocks.flatMap MeasurementBlock.bytes ++ rest)
        _).2 ⟨b, rfl, rfl, hwell, hfits⟩
      unfold parseMeasurementBlocks
      rw [List.flatMap_cons, List.append_assoc, bind_of_ok hblock, require,
        bind_of_ok (guardElse_of (decide_eq_true hlt))]
      exact ih.2 ⟨blocks, by simpa using hlength, rfl, hincreasing, hblocks⟩

/-! ## §4. The record. -/

/-- A record of `n` blocks: they fill it, and their indices increase from
one on. -/
def RecordOf (c : SpdmContext) (n : Nat) (blocks : List MeasurementBlock) (record : Bytes) : Prop :=
  blocks.length = n ∧ record = blocks.flatMap MeasurementBlock.bytes ∧ IncreasingFrom 0 blocks ∧
    ∀ b ∈ blocks, b.WellFormed c

theorem parseMeasurementBlocks_all {record : Bytes} :
    parseMeasurementBlocks c n 0 record = .ok () [] ↔
      ∃ blocks, RecordOf c n blocks record ∧ ∀ b ∈ blocks, b.Fits c := by
  rw [parseMeasurementBlocks_iff]
  refine exists_congr fun blocks => ?_
  rw [List.append_nil, RecordOf, forall₂_and, and_assoc, and_assoc, and_assoc]

theorem verifyMeasurementRecord_eq_ok {record : Bytes}
    {u : Unit} :
    verifyMeasurementRecord c n record bs = .ok u rest ↔
      bs = rest ∧ ∃ blocks, RecordOf c n blocks record ∧ ∀ b ∈ blocks, b.Fits c := by
  rw [← parseMeasurementBlocks_all]
  unfold verifyMeasurementRecord
  cases hwalk : parseMeasurementBlocks c n 0 record with
  | ok v left =>
    constructor
    · intro h
      obtain ⟨hempty, rfl⟩ := guardElse_eq_ok.1 h
      exact ⟨rfl, by rw [List.isEmpty_iff.1 hempty]⟩
    · rintro ⟨rfl, hleft⟩
      cases hleft
      rfl
  | err e left => simp [reject]
  | panic => simp

/-- **A record is accepted exactly when it is well formed and within the
sizes the party was built for**; what was accepted, written again, is what
was read. -/
theorem parseMeasurementRecord_iff (c : SpdmContext) (bs rest : Bytes)
    (r : SpdmMeasurementRecordStructure) :
    parseMeasurementRecord c bs = .ok r rest ↔
      bs = encodeMeasurementRecord r ++ rest ∧
      r.measurementRecord.length ≤ c.build.config.maxSpdmMeasurementRecordSize ∧
      ∃ blocks, RecordOf c r.numberOfBlocks.toNat blocks r.measurementRecord ∧
        ∀ b ∈ blocks, b.Fits c := by
  constructor
  · intro h
    unfold parseMeasurementRecord at h
    obtain ⟨n, bs₁, hn, h₁⟩ := bind_eq_ok.1 h
    obtain rfl := u8_eq_ok hn
    obtain ⟨length, bs₂, hlength, h₂⟩ := bind_eq_ok.1 h₁
    obtain rfl := uintLe_eq_ok hlength
    obtain ⟨_, _, hmax, h₃⟩ := bind_eq_ok.1 h₂
    obtain ⟨hle, rfl⟩ := guardElse_eq_ok.1 hmax
    obtain ⟨record, bs₃, htake, h₄⟩ := bind_eq_ok.1 h₃
    obtain ⟨rfl, rfl⟩ := takeBytes_eq_ok htake
    obtain ⟨_, _, hverify, hret⟩ := bind_eq_ok.1 h₄
    obtain ⟨rfl, hblocks⟩ := verifyMeasurementRecord_eq_ok.1 hverify
    obtain ⟨rfl, rfl⟩ := ret_eq_ok.1 hret
    exact ⟨by simp [encodeMeasurementRecord], of_decide_eq_true hle, hblocks⟩
  · rintro ⟨rfl, hle, hblocks⟩
    have hlt : r.measurementRecord.length < 256 ^ 3 := by
      have hbuild := c.build.measurement_le.1
      omega
    have htake : takeBytes r.measurementRecord.length (r.measurementRecord ++ rest) =
        .ok r.measurementRecord rest := takeBytes_append rfl
    unfold parseMeasurementRecord
    rw [encodeMeasurementRecord, List.append_assoc, List.append_assoc, List.singleton_append,
      bind_of_ok (u8_cons _ _), bind_of_ok (uintLe_append _ hlt), require,
      bind_of_ok (guardElse_of (decide_eq_true hle)), bind_of_ok htake,
      bind_of_ok ((verifyMeasurementRecord_eq_ok (u := ())).2 ⟨rfl, hblocks⟩)]
    rfl

namespace SmallBackend

def longBlock : MeasurementBlock := ⟨1, 1, 0x80, List.replicate 33 0⟩

theorem long_value_refused :
    RecordOf (smallResponder false 0) 1 [longBlock] longBlock.bytes ∧
      longBlock.bytes.length ≤ (smallResponder false 0).build.config.maxSpdmMeasurementRecordSize ∧
      ¬ ∃ r rest, parseMeasurementRecord (smallResponder false 0)
        (encodeMeasurementRecord ⟨1, longBlock.bytes⟩) = .ok r rest := by
  refine ⟨⟨rfl, by simp, ⟨by simp [longBlock], by simp⟩, ?_⟩, by decide, ?_⟩
  · intro b hb
    obtain rfl := List.mem_singleton.1 hb
    exact ⟨by decide, by decide, by decide, by decide⟩
  · rintro ⟨r, rest, h⟩
    have hrefused : parseMeasurementRecord (smallResponder false 0)
        (encodeMeasurementRecord ⟨1, longBlock.bytes⟩) = .err () [] := by decide +kernel
    rw [hrefused] at h
    cases h

end SmallBackend

end Spdm
