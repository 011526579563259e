/-!
# Bytes and big-endian words

Everything on the wire is a list of bytes, and every number on the wire is a big-endian word of
a fixed width. `bigEndian` writes the base-256 digits of a number most significant first and
`ofBigEndian` reads them; each undoes the other on words of one width
(`ofBigEndian_bigEndian`, `bigEndian_ofBigEndian`).
-/

namespace Cmpp

/-- Bytes in wire order. -/
abbrev Bytes := List UInt8

/-- The lowest `width` base-256 digits of a number, most significant first. -/
def bigEndian : (width : Nat) → (value : Nat) → Bytes
  | 0, _ => []
  | width + 1, value => bigEndian width (value / 256) ++ [UInt8.ofNat value]

/-- The number whose base-256 digits, most significant first, are the given bytes. -/
def ofBigEndian (bytes : Bytes) : Nat :=
  bytes.foldl (fun value byte => value * 256 + byte.toNat) 0

/-- How many numbers a word of a width can hold. -/
def wordRange : (width : Nat) → Nat
  | 0 => 1
  | width + 1 => 256 * wordRange width

/-- A word has as many bytes as its width says. -/
@[simp] theorem length_bigEndian (width value : Nat) : (bigEndian width value).length = width := by
  induction width generalizing value with
  | zero => rfl
  | succ width ih => simp [bigEndian, ih]

/-- The last byte is the lowest digit. -/
theorem ofBigEndian_concat (bytes : Bytes) (last : UInt8) :
    ofBigEndian (bytes ++ [last]) = ofBigEndian bytes * 256 + last.toNat := by
  simp [ofBigEndian]

/-- Reading a written word gives the number, reduced to what the width can hold. -/
theorem ofBigEndian_bigEndian (width value : Nat) :
    ofBigEndian (bigEndian width value) = value % wordRange width := by
  induction width generalizing value with
  | zero => simp [bigEndian, ofBigEndian, wordRange, Nat.mod_one]
  | succ width ih =>
    have digit : (UInt8.ofNat value).toNat = value % 256 := by simp
    rw [bigEndian, ofBigEndian_concat, ih, digit, wordRange, Nat.mod_mul]
    omega

/-- Writing what was read at the same width gives the same bytes. -/
theorem bigEndian_ofBigEndian (bytes : Bytes) :
    bigEndian bytes.length (ofBigEndian bytes) = bytes := by
  suffices reversed : ∀ bytes : Bytes,
      bigEndian bytes.reverse.length (ofBigEndian bytes.reverse) = bytes.reverse by
    simpa using reversed bytes.reverse
  intro bytes
  induction bytes with
  | nil => rfl
  | cons last bytes ih =>
    have small := last.toNat_lt
    have quotient : (ofBigEndian bytes.reverse * 256 + last.toNat) / 256 =
        ofBigEndian bytes.reverse := by omega
    have digit : UInt8.ofNat (ofBigEndian bytes.reverse * 256 + last.toNat) = last := by
      apply UInt8.toNat_inj.mp
      rw [UInt8.toNat_ofNat']
      omega
    simp only [List.reverse_cons, List.length_append, List.length_singleton, bigEndian,
      ofBigEndian_concat, quotient, digit, ih]

/-- What a word reads as is a number that its width can hold. -/
theorem ofBigEndian_lt (bytes : Bytes) : ofBigEndian bytes < wordRange bytes.length := by
  suffices reversed : ∀ bytes : Bytes,
      ofBigEndian bytes.reverse < wordRange bytes.reverse.length by
    simpa using reversed bytes.reverse
  intro bytes
  induction bytes with
  | nil => decide
  | cons last bytes ih =>
    have small := last.toNat_lt
    simp only [List.length_reverse] at ih
    simp only [List.reverse_cons, ofBigEndian_concat, List.length_append, List.length_reverse,
      List.length_singleton, wordRange]
    omega

/-- The four bytes of a 32-bit word. -/
def word (value : UInt32) : Bytes := bigEndian 4 value.toNat

/-- The 32-bit word with the given bytes. -/
def ofWord (bytes : Bytes) : UInt32 := UInt32.ofNat (ofBigEndian bytes)

/-- A word takes four bytes. -/
@[simp] theorem length_word (value : UInt32) : (word value).length = 4 := length_bigEndian ..

/-- A written word reads back. -/
@[simp] theorem ofWord_word (value : UInt32) : ofWord (word value) = value := by
  apply UInt32.toNat_inj.mp
  have small := value.toNat_lt
  rw [ofWord, word, ofBigEndian_bigEndian, UInt32.toNat_ofNat']
  simp only [wordRange]
  omega

/-- Four bytes are the word they read as. -/
theorem word_ofWord {bytes : Bytes} (four : bytes.length = 4) : word (ofWord bytes) = bytes := by
  have small := ofBigEndian_lt bytes
  rw [four] at small
  simp only [wordRange] at small
  rw [word, ofWord, UInt32.toNat_ofNat', Nat.mod_eq_of_lt (by omega), ← four,
    bigEndian_ofBigEndian]

/-- The eight bytes of a 64-bit word. -/
def long (value : UInt64) : Bytes := bigEndian 8 value.toNat

/-- The 64-bit word with the given bytes. -/
def ofLong (bytes : Bytes) : UInt64 := UInt64.ofNat (ofBigEndian bytes)

/-- A long word takes eight bytes. -/
@[simp] theorem length_long (value : UInt64) : (long value).length = 8 := length_bigEndian ..

/-- A written long word reads back. -/
@[simp] theorem ofLong_long (value : UInt64) : ofLong (long value) = value := by
  apply UInt64.toNat_inj.mp
  have small := value.toNat_lt
  rw [ofLong, long, ofBigEndian_bigEndian, UInt64.toNat_ofNat']
  simp only [wordRange]
  omega

/-- Eight bytes are the long word they read as. -/
theorem long_ofLong {bytes : Bytes} (eight : bytes.length = 8) : long (ofLong bytes) = bytes := by
  have small := ofBigEndian_lt bytes
  rw [eight] at small
  simp only [wordRange] at small
  rw [long, ofLong, UInt64.toNat_ofNat', Nat.mod_eq_of_lt (by omega), ← eight,
    bigEndian_ofBigEndian]

end Cmpp
