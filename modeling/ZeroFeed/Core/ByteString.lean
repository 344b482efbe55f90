import Mathlib

/-!
# Byte strings, fixed-width arrays and big-endian integers

Wire formats are built from three ingredients: byte strings, byte arrays of a
length fixed by their type, and unsigned integers written most-significant
byte first.  Everything here is independent of any particular format.
-/

namespace ZeroFeed.ByteString

abbrev Byte := UInt8
abbrev Bytes := List Byte

/-- A byte array whose length is part of its type. -/
abbrev FixedBytes (width : ℕ) := {bytes : Bytes // bytes.length = width}

/-- Copying a slice into a zeroed array of `width` bytes: excess bytes are
ignored and missing bytes stay zero. -/
def copyFixed (width : ℕ) (bytes : Bytes) : FixedBytes width :=
  ⟨bytes.takeD width 0, List.takeD_length width bytes 0⟩

theorem takeD_eq_take {width : ℕ} {bytes : Bytes} (hlength : width ≤ bytes.length) :
    bytes.takeD width 0 = bytes.take width :=
  List.takeD_eq_take 0 hlength

theorem copyFixed_append {width : ℕ} (bytes : FixedBytes width) (suffix : Bytes) :
    copyFixed width (bytes.val ++ suffix) = bytes := by
  apply Subtype.ext
  change (bytes.val ++ suffix).takeD width 0 = bytes.val
  rw [takeD_eq_take (by simp [bytes.property])]
  simp [bytes.property]

/-! ## Big-endian integers -/

/-- The `width` low-order base-256 digits of `value`, most significant first. -/
def bigEndian : ℕ → ℕ → Bytes
  | 0, _ => []
  | width + 1, value => bigEndian width (value / 256) ++ [UInt8.ofNat value]

/-- The integer a byte string denotes when read most significant byte first. -/
def bigEndianValue (bytes : Bytes) : ℕ :=
  bytes.foldl (fun value byte => value * 256 + byte.toNat) 0

@[simp]
theorem length_bigEndian (width value : ℕ) :
    (bigEndian width value).length = width := by
  induction width generalizing value with
  | zero => rfl
  | succ width ih => simp [bigEndian, ih]

@[simp]
theorem bigEndianValue_nil : bigEndianValue [] = 0 := rfl

theorem bigEndianValue_concat (bytes : Bytes) (byte : Byte) :
    bigEndianValue (bytes ++ [byte]) = bigEndianValue bytes * 256 + byte.toNat := by
  simp [bigEndianValue]

/-- Writing truncates to the field width, reading back recovers the rest. -/
theorem bigEndianValue_bigEndian (width value : ℕ) :
    bigEndianValue (bigEndian width value) = value % 256 ^ width := by
  induction width generalizing value with
  | zero => simp [bigEndian, Nat.mod_one]
  | succ width ih =>
      have hsplit : value % 256 ^ (width + 1) =
          value % 256 + 256 * (value / 256 % 256 ^ width) := by
        rw [pow_succ', Nat.mod_mul]
      rw [bigEndian, bigEndianValue_concat, ih, UInt8.toNat_ofNat', hsplit]
      omega

theorem bigEndianValue_bigEndian_of_lt {width value : ℕ}
    (hvalue : value < 256 ^ width) :
    bigEndianValue (bigEndian width value) = value := by
  rw [bigEndianValue_bigEndian, Nat.mod_eq_of_lt hvalue]

theorem bigEndianValue_lt (bytes : Bytes) :
    bigEndianValue bytes < 256 ^ bytes.length := by
  induction bytes using List.reverseRecOn with
  | nil => simp
  | append_singleton bytes byte ih =>
      rw [bigEndianValue_concat, List.length_append, List.length_singleton, pow_succ]
      have hbyte : byte.toNat < 256 := byte.toNat_lt
      omega

/-- Reading and writing are inverse on fields of matching width. -/
theorem bigEndian_bigEndianValue (bytes : Bytes) :
    bigEndian bytes.length (bigEndianValue bytes) = bytes := by
  induction bytes using List.reverseRecOn with
  | nil => rfl
  | append_singleton bytes byte ih =>
      have hbyte : byte.toNat < 256 := byte.toNat_lt
      have hdiv : bigEndianValue (bytes ++ [byte]) / 256 = bigEndianValue bytes := by
        rw [bigEndianValue_concat]
        omega
      have hlow : UInt8.ofNat (bigEndianValue (bytes ++ [byte])) = byte := by
        apply UInt8.toNat_inj.mp
        rw [UInt8.toNat_ofNat', bigEndianValue_concat]
        omega
      rw [List.length_append, List.length_singleton, bigEndian, hdiv, hlow, ih]

/-- Fields of equal width agree exactly when their values agree modulo the
field's range. -/
theorem bigEndian_inj {width left right : ℕ} :
    bigEndian width left = bigEndian width right ↔
      left % 256 ^ width = right % 256 ^ width := by
  constructor
  · intro heq
    rw [← bigEndianValue_bigEndian, ← bigEndianValue_bigEndian, heq]
  · intro heq
    have hleft := bigEndian_bigEndianValue (bigEndian width left)
    have hright := bigEndian_bigEndianValue (bigEndian width right)
    rw [length_bigEndian, bigEndianValue_bigEndian] at hleft hright
    rw [← hleft, ← hright, heq]

/-- Two strings that begin with fields of the same width agree exactly when
the fields and the remainders agree. -/
theorem append_inj_of_width {width : ℕ} (left right : FixedBytes width)
    {leftRest rightRest : Bytes} :
    left.val ++ leftRest = right.val ++ rightRest ↔
      left = right ∧ leftRest = rightRest := by
  constructor
  · intro heq
    have hlength : left.val.length = right.val.length := by
      rw [left.property, right.property]
    obtain ⟨hfield, hrest⟩ := List.append_inj heq hlength
    exact ⟨Subtype.ext hfield, hrest⟩
  · rintro ⟨rfl, rfl⟩
    rfl

end ZeroFeed.ByteString
