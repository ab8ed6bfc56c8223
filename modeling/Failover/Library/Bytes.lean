import Mathlib.Data.List.Basic
import Mathlib.Tactic.Linarith
import Mathlib.Tactic.Ring

/-!
# Big-endian numbers and a byte cursor that can fail

A cursor is the list of bytes not yet read. A read past its end is the outcome
`panicked`, which is kept apart from an error that the reader itself returns.
-/

namespace Failover.Library

set_option autoImplicit false

inductive Outcome (Error Value : Type) where
  | ok (value : Value)
  | err (error : Error)
  | panicked
  deriving DecidableEq, Repr

namespace Outcome

variable {Error Value Next : Type}

protected def bind (outcome : Outcome Error Value) (next : Value → Outcome Error Next) :
    Outcome Error Next :=
  match outcome with
  | ok value => next value
  | err error => err error
  | panicked => panicked

instance : Monad (Outcome Error) where
  pure := ok
  bind := Outcome.bind

@[simp] theorem ok_bind (value : Value) (next : Value → Outcome Error Next) :
    (ok value >>= next) = next value := rfl

@[simp] theorem err_bind (error : Error) (next : Value → Outcome Error Next) :
    ((err error : Outcome Error Value) >>= next) = err error := rfl

@[simp] theorem panicked_bind (next : Value → Outcome Error Next) :
    ((panicked : Outcome Error Value) >>= next) = panicked := rfl

theorem bind_assoc {Later : Type} (outcome : Outcome Error Value)
    (next : Value → Outcome Error Next) (later : Next → Outcome Error Later) :
    (outcome >>= next) >>= later = outcome >>= fun value => next value >>= later := by
  cases outcome <;> rfl

@[simp] theorem pure_eq (value : Value) : (pure value : Outcome Error Value) = ok value := rfl

end Outcome

/-- The bytes of `value` in the given width, most significant byte first. -/
def toBytes : Nat → Nat → List UInt8
  | 0, _ => []
  | width + 1, value => UInt8.ofNat (value / 256 ^ width) :: toBytes width value

def ofBytes : List UInt8 → Nat
  | [] => 0
  | byte :: rest => byte.toNat * 256 ^ rest.length + ofBytes rest

@[simp] theorem to_bytes_length (width value : Nat) : (toBytes width value).length = width := by
  induction width with
  | zero => rfl
  | succ width ih => simp [toBytes, ih]

theorem of_bytes_lt (bytes : List UInt8) : ofBytes bytes < 256 ^ bytes.length := by
  induction bytes with
  | nil => simp [ofBytes]
  | cons byte rest ih =>
      have bounded := byte.toNat_lt
      simp only [ofBytes, List.length_cons, pow_succ]
      nlinarith

theorem of_bytes_to_bytes (width value : Nat) :
    ofBytes (toBytes width value) = value % 256 ^ width := by
  induction width with
  | zero => simp [toBytes, ofBytes, Nat.mod_one]
  | succ width ih =>
      simp only [toBytes, ofBytes, to_bytes_length, ih, UInt8.toNat_ofNat']
      rw [pow_succ 256 width, Nat.mod_mul, Nat.add_comm, Nat.mul_comm]

theorem to_bytes_mod (width extra value : Nat) :
    toBytes width (value % 256 ^ (width + extra)) = toBytes width value := by
  induction width generalizing extra with
  | zero => rfl
  | succ width ih =>
      have lower := ih (extra + 1)
      rw [show width + (extra + 1) = width + 1 + extra by omega] at lower
      simp only [toBytes, lower]
      congr 1
      apply UInt8.toNat_inj.mp
      simp only [UInt8.toNat_ofNat']
      rw [show width + 1 + extra = width + (1 + extra) by omega, pow_add, Nat.mod_mul_right_div_self,
        pow_add, pow_one, Nat.mod_mul_right_mod]

theorem to_bytes_of_bytes (bytes : List UInt8) :
    toBytes bytes.length (ofBytes bytes) = bytes := by
  induction bytes with
  | nil => rfl
  | cons byte rest ih =>
      have bounded := of_bytes_lt rest
      have positive : 0 < 256 ^ rest.length := Nat.pow_pos (by decide)
      have head : (byte.toNat * 256 ^ rest.length + ofBytes rest) / 256 ^ rest.length =
          byte.toNat := by
        rw [Nat.mul_comm, Nat.mul_add_div positive, Nat.div_eq_of_lt bounded, Nat.add_zero]
      have tail : toBytes rest.length (byte.toNat * 256 ^ rest.length + ofBytes rest) = rest := by
        have reduced := to_bytes_mod rest.length 0 (byte.toNat * 256 ^ rest.length + ofBytes rest)
        rw [Nat.add_zero, Nat.mul_comm, Nat.mul_add_mod, Nat.mod_eq_of_lt bounded, ih] at reduced
        rw [Nat.mul_comm]
        exact reduced.symm
      simp only [List.length_cons, ofBytes, toBytes, head, tail, UInt8.ofNat_toNat]

section Cursor

variable {Error : Type}

def getBytes (count : Nat) (buf : List UInt8) : Outcome Error (List UInt8 × List UInt8) :=
  if count ≤ buf.length then .ok (buf.take count, buf.drop count) else .panicked

def getU8 : List UInt8 → Outcome Error (UInt8 × List UInt8)
  | [] => .panicked
  | byte :: rest => .ok (byte, rest)

def getUint (width : Nat) (buf : List UInt8) : Outcome Error (Nat × List UInt8) := do
  let (bytes, rest) ← getBytes width buf
  .ok (ofBytes bytes, rest)

/-- The same fixed-width read, `count` times. -/
def getUints (width : Nat) : Nat → List UInt8 → Outcome Error (List Nat × List UInt8)
  | 0, buf => .ok ([], buf)
  | count + 1, buf => do
      let (value, afterValue) ← getUint width buf
      let (values, rest) ← getUints width count afterValue
      .ok (value :: values, rest)

@[simp] theorem get_u8_cons (byte : UInt8) (rest : List UInt8) :
    (getU8 (byte :: rest) : Outcome Error _) = .ok (byte, rest) := rfl

theorem get_u8_of_pos {buf : List UInt8} (enough : 0 < buf.length) :
    (getU8 buf : Outcome Error _) = .ok (buf.headD 0, buf.drop 1) := by
  cases buf with
  | nil => simp at enough
  | cons byte rest => rfl

theorem get_uint_of_le {width : Nat} {buf : List UInt8} (enough : width ≤ buf.length) :
    (getUint width buf : Outcome Error _) = .ok (ofBytes (buf.take width), buf.drop width) := by
  simp only [getUint, getBytes, if_pos enough, Outcome.ok_bind]

theorem get_bytes_append {count : Nat} {bytes : List UInt8} (length : bytes.length = count)
    (rest : List UInt8) :
    (getBytes count (bytes ++ rest) : Outcome Error _) = .ok (bytes, rest) := by
  simp [getBytes, ← length]

theorem get_uint_append {width : Nat} {bytes : List UInt8} (length : bytes.length = width)
    (rest : List UInt8) :
    (getUint width (bytes ++ rest) : Outcome Error _) = .ok (ofBytes bytes, rest) := by
  simp only [getUint, get_bytes_append length, Outcome.ok_bind]

@[simp] theorem get_uint_two (high low : UInt8) (rest : List UInt8) :
    (getUint 2 (high :: low :: rest) : Outcome Error _) =
      .ok (high.toNat * 256 + low.toNat, rest) := by
  have read : (getUint 2 ([high, low] ++ rest) : Outcome Error _) =
      .ok (ofBytes [high, low], rest) := get_uint_append (by rfl) rest
  simpa [ofBytes] using read

theorem get_uints_flat_map {width count : Nat} {values : List Nat}
    (bounded : ∀ value ∈ values, value < 256 ^ width) (length : values.length = count)
    (rest : List UInt8) :
    (getUints width count (values.flatMap (toBytes width) ++ rest) : Outcome Error _) =
      .ok (values, rest) := by
  induction values generalizing count with
  | nil =>
      subst length
      rfl
  | cons value values ih =>
      subst length
      have valueBound := bounded value (by simp)
      have later := ih (fun item member => bounded item (by simp [member])) rfl
      simp only [List.flatMap_cons, List.append_assoc, List.length_cons, getUints,
        get_uint_append (to_bytes_length width value), Outcome.ok_bind, later,
        of_bytes_to_bytes, Nat.mod_eq_of_lt valueBound]

theorem get_uints_total (Error : Type) (width count : Nat) (buf : List UInt8)
    (enough : width * count ≤ buf.length) :
    ∃ values, (getUints width count buf : Outcome Error _) =
        .ok (values, buf.drop (width * count)) ∧
      values.length = count ∧ buf.take (width * count) = values.flatMap (toBytes width) := by
  induction count generalizing buf with
  | zero => exact ⟨[], rfl, rfl, rfl⟩
  | succ count ih =>
      rw [Nat.mul_succ] at enough
      have head : width ≤ buf.length := by omega
      have taken : (buf.take width).length = width := by simp [head]
      obtain ⟨values, read, length, bytes⟩ := ih (buf.drop width) (by simp; omega)
      refine ⟨ofBytes (buf.take width) :: values, ?_, by simp [length], ?_⟩
      · simp only [getUints, get_uint_of_le head, Outcome.ok_bind, read, List.drop_drop]
        rw [Nat.mul_succ, Nat.add_comm]
      · have restored := to_bytes_of_bytes (buf.take width)
        rw [taken] at restored
        rw [List.flatMap_cons, restored, ← bytes, Nat.mul_succ, Nat.add_comm, List.take_add]

end Cursor

end Failover.Library
