/-
  Spdm.Message.Total — readers and writers that do not abort.
-/
import Spdm.Lib.Total
import Spdm.Message.Chunk

namespace Spdm

open Effect Codec

variable {σ ε β : Type} {a b : Nat} {bs : Bytes} {large : Bool} {p : ChunkPayload}

theorem wordSub_eq_mod (h : b ≤ a) : wordSub a b = (a - b) % 2 ^ 64 := by
  unfold wordSub
  omega

theorem wordSub_le (h : b ≤ a) : wordSub a b ≤ a - b := by
  rw [wordSub_eq_mod h]
  exact Nat.mod_le _ _

theorem wordSub_eq (h : b ≤ a) (ha : a < 2 ^ 64) : wordSub a b = a - b := by
  rw [wordSub_eq_mod h]
  exact Nat.mod_eq_of_lt (by omega)

theorem twp_liftResult {α : Type} {Q : α → σ → Prop} {E : ε → σ → Prop} {s : σ}
    {r : Except ε α} (h : ∀ a, r = .ok a → Q a s) (hE : ∀ e, r = .error e → E e s) :
    twp (liftResult r) Q E s := by
  cases r with
  | ok a => exact h a rfl
  | error e => exact hE e rfl

theorem twp_liftCall {α : Type} {Q : α → σ → Prop} {E : ε → σ → Prop} {s : σ}
    {r : Option (Except ε α)} (hr : r ≠ none) (h : ∀ a, r = some (.ok a) → Q a s)
    (hE : ∀ e, r = some (.error e) → E e s) : twp (liftCall r) Q E s := by
  obtain ⟨r, rfl⟩ := Option.ne_none_iff_exists'.1 hr
  cases r with
  | ok a => exact h a rfl
  | error e => exact hE e rfl

theorem twp_parse {Q : Option β → σ → Prop} {E : ε → σ → Prop} {s : σ}
    {p : Parser β} (hp : Total p)
    (hok : ∀ a rest, p bs = .ok a rest → Q (some a) s)
    (hnone : ∀ e rest, p bs = .err e rest → Q none s) : twp (parse p bs) Q E s := by
  unfold parse
  cases hrun : p bs with
  | ok a rest => exact hok a rest hrun
  | err e rest => exact hnone e rest hrun
  | panic => exact hp bs hrun

theorem twp_parseRest {Q : Option (β × Bytes) → σ → Prop} {E : ε → σ → Prop} {s : σ}
    {p : Parser β} (hp : Total p)
    (hok : ∀ a rest, p bs = .ok a rest → Q (some (a, rest)) s) (hnone : Q none s) :
    twp (parseRest p bs) Q E s := by
  unfold parseRest
  cases hrun : p bs with
  | ok a rest => exact hok a rest hrun
  | err e rest => exact hnone
  | panic => exact hp bs hrun

theorem total_parseRest {p : Parser β} (hp : Total p) :
    Total (parseRest p bs : Prog σ ε (Option (β × Bytes))) := by
  intro s hpanic
  unfold parseRest at hpanic
  cases hrun : p bs with
  | ok a rest => rw [hrun] at hpanic; cases hpanic
  | err e rest => rw [hrun] at hpanic; cases hpanic
  | panic => exact hp bs hrun

theorem twp_writeInto {Q : Bytes → σ → Prop} {E : SpdmStatus → σ → Prop} {s : σ}
    {room : Nat} {m : Bytes} (h : m.length ≤ room → Q m s) (hE : E .bufferFull s) :
    twp (writeInto room m) Q E s := by
  refine twp_seq (twp_ite (fun hroom => h ?_) fun _ => hE)
  simpa using hroom

theorem total_parseHeader : Total parseHeader := by
  refine .bind total_u8 fun b => ?_
  cases SpdmVersion.ofByte? b with
  | none => exact fun _ h => by cases h
  | some v => exact .bind total_u8 fun _ => .ret _

theorem total_parseGeneralPayload : Total parseGeneralPayload :=
  .bind total_u8 fun _ => .bind total_u8 fun _ => .ret _

theorem total_parseChunkHead (large : Bool) : Total (parseChunkHead large) := by
  refine .bind total_u8 fun _ => .bind total_u8 fun _ => .bind ?_ fun _ =>
    .bind (total_uintLe 4) fun _ => .ret _
  cases large with
  | true => exact total_uintLe 4
  | false => exact .bind (total_uintLe 2) fun _ => .bind (total_uintLe 2) fun _ => .ret _

theorem total_optionalUintLe (n : Nat) : Total (optionalUintLe n) := by
  intro bs h
  unfold optionalUintLe at h
  cases hrun : uintLe n bs with
  | ok v rest => rw [hrun] at h; cases h
  | err e rest => rw [hrun] at h; cases h
  | panic => exact total_uintLe n bs hrun

theorem total_parseChunkResponse : Total (parseChunkResponse large) := by
  refine .bind (total_parseChunkHead large) fun ⟨_, _, seq, _⟩ => .bind ?_ fun _ =>
    .bind (total_takeBytes _) fun _ => .ret _
  split
  · exact .bind (total_uintLe 4) fun _ => .ret _
  · exact .ret _

theorem parseChunkResponse_length {left data : Bytes}
    (h : parseChunkResponse large bs = .ok (p, data) left) : data.length = p.chunkSize := by
  obtain ⟨⟨_, _, seq, size⟩, _, -, hsize⟩ := bind_eq_ok.1 h
  obtain ⟨announced, _, -, hdata⟩ := bind_eq_ok.1 hsize
  obtain ⟨bytes, _, htake, hret⟩ := bind_eq_ok.1 hdata
  obtain ⟨hpair, -⟩ := ret_eq_ok.1 hret
  obtain ⟨rfl, rfl⟩ := Prod.mk.inj hpair
  exact (takeBytes_eq_ok htake).1

theorem total_parseChunkSeqNum (large : Bool) : Total (parseChunkSeqNum large) := by
  cases large with
  | true => exact total_uintLe 4
  | false => exact total_uintLe 2

theorem total_parseAckHead : Total (parseAckHead large) :=
  .bind total_u8 fun _ => .bind total_u8 fun _ => .bind (total_parseChunkSeqNum large) fun _ =>
    .ret _

theorem total_parseChunkGet : Total (parseChunkGet large) :=
  .bind total_u8 fun _ => .bind total_u8 fun _ => .bind (total_parseChunkSeqNum large) fun _ =>
    .ret _

theorem encodeChunkHead_length :
    (encodeChunkHead large p).length = 10 + if p.largeMessageSize.isSome then 4 else 0 := by
  unfold encodeChunkHead
  cases large <;> cases p.largeMessageSize <;> simp

namespace SpdmContext

theorem wp_sizeSub {Q : Nat → SpdmContext → Prop} {E : ε → SpdmContext → Prop} {c : SpdmContext}
    {a b : Nat} (h : Q (wordSub a b) c) : wp (sizeSub a b) Q E c := by
  unfold sizeSub
  simp only [wp_bind, wp_read, wp_assert, wp_ret]
  exact fun _ => h

theorem twp_sizeSub {Q : Nat → SpdmContext → Prop} {E : ε → SpdmContext → Prop}
    {c : SpdmContext} (hab : b ≤ a) (h : Q (wordSub a b) c) : twp (sizeSub a b) Q E c := by
  unfold sizeSub
  simp only [twp_bind, twp_read, twp_assert, twp_ret]
  exact ⟨by simp [hab], h⟩

theorem twp_encodeChunk {c : SpdmContext} {code : UInt8} {room : Nat}
    {Q : Bytes → SpdmContext → Prop} {E : SpdmStatus → SpdmContext → Prop}
    (hbuf : c.chunkContext.transferredSize + p.chunkSize ≤ c.build.config.maxSpdmMsgSize)
    (hroom : 12 + (if p.largeMessageSize.isSome then 4 else 0) + p.chunkSize ≤ room)
    (hQ : ∀ response, response.length ≤ room → Q response { c with chunkContext :=
      { c.chunkContext with transferredSize := c.chunkContext.transferredSize + p.chunkSize } })
    (hE : E .bufferFull c) : twp (encodeChunk code p room) Q E c := by
  refine twp_seq (twp_seq (twp_writeInto (fun _ => ?_) hE))
  refine twp_seq (twp_seq (twp_seq (twp_assert.2 ⟨by simpa using hbuf, ?_⟩)))
  refine twp_seq (twp_seq ((fun h => twp_assert.2 ⟨decide_eq_true h, hQ _ (by
    rwa [List.length_append])⟩) ?_))
  simp only [List.length_append, encodeChunkHead_length, encodeHeader, List.length_drop,
    bufTake_length, List.length_cons, List.length_nil]
  omega

end SpdmContext

end Spdm
