/-
  Spdm.Lib.Buffer — writing into a caller's buffer.
-/
import Spdm.Lib.Codec
import Spdm.Lib.Total

namespace Codec

open Effect

def overwrite (offs : Nat) (field buf : List UInt8) : List UInt8 :=
  buf.take offs ++ field ++ buf.drop (offs + field.length)

def put (offs : Nat) (field : List UInt8) : Prog (List UInt8) Unit Nat := do
  let buf ← read
  guardElse (decide (offs + field.length ≤ buf.length)) ()
  update (overwrite offs field)
  ret (offs + field.length)

theorem overwrite_append (written field left : List UInt8) :
    overwrite written.length field (written ++ left) =
      written ++ field ++ left.drop field.length := by
  unfold overwrite
  rw [List.take_left, List.drop_append, List.drop_eq_nil_of_le (by omega), List.nil_append,
    Nat.add_sub_cancel_left]

theorem put_append {written field left : List UInt8} (h : field.length ≤ left.length) :
    put written.length field (written ++ left) =
      .ok (written ++ field).length (written ++ field ++ left.drop field.length) := by
  have hroom : decide (written.length + field.length ≤ (written ++ left).length) = true := by
    simp only [List.length_append, decide_eq_true_eq]
    omega
  unfold put
  rw [read_bind, bind_of_ok (guardElse_of hroom), update_bind, overwrite_append,
    List.length_append]
  rfl

theorem put_zero {field buf : List UInt8} (h : field.length ≤ buf.length) :
    put 0 field buf = .ok field.length (field ++ buf.drop field.length) := by
  have hput := @put_append [] field buf h
  simpa using hput

end Codec
