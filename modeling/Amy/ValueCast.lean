import Mathlib.Algebra.Order.Ring.Int
import Amy.Base.CText
import Amy.ResultSet

/-!
# Reading a field as a number

`value_cast` reads the bytes of a field with the `strto` function of a wider
type and narrows what it gets; `uint16_t` is narrowed through `int16_t` first.
The widths of `long` and what `int64_t` names differ between platforms
(`CTypes`); whatever they are, a column decodes to the number that was sent
(`valueCast_decimal`).
-/

namespace Amy

open Base

/-- The integer types `value_cast` is specialised for. -/
inductive IntType where
  | longLong
  | long
  | int32
  | int16
  | int8
  | unsignedLongLong
  | unsignedLong
  | uint32
  | uint16
  | uint8
  deriving DecidableEq, Repr

/-- What the platform decides about the integer types. -/
structure CTypes where
  longBits : Nat
  int64IsLong : Bool
  uint64IsUnsignedLong : Bool
  long_bits : longBits = 32 ∨ longBits = 64
  int64_bits : int64IsLong → longBits = 64
  uint64_bits : uint64IsUnsignedLong → longBits = 64

def strtol (c : CTypes) (s : List UInt8) : Option Int := strtoSigned c.longBits s

def strtoul (c : CTypes) (s : List UInt8) : Option Int := strtoUnsigned c.longBits s

def strtoll (s : List UInt8) : Option Int := strtoSigned 64 s

def strtoull (s : List UInt8) : Option Int := strtoUnsigned 64 s

def toSigned (w : Nat) (v : Int) : Int := v.bmod (2 ^ w)

def toUnsigned (w : Nat) (v : Int) : Int := v % 2 ^ w

/-- `value_cast<T>(s, l)`, `s` the memory at the pointer; a read past it has no result. -/
def valueCast (c : CTypes) : IntType → List UInt8 → Nat → Option Int
  | .longLong, s, _ => strtoll s
  | .long, s, _ => strtol c s
  | .int32, s, _ => (strtol c s).map (toSigned 32)
  | .int16, s, _ => (strtol c s).map (toSigned 16)
  | .int8, s, _ => (strtol c s).map (toSigned 8)
  | .unsignedLongLong, s, _ => strtoull s
  | .unsignedLong, s, _ => strtoul c s
  | .uint32, s, _ => (strtoul c s).map (toUnsigned 32)
  -- cast to `int16_t`, and from there to the `uint16_t` it returns
  | .uint16, s, _ => (strtoul c s).map fun v => toUnsigned 16 (toSigned 16 v)
  | .uint8, s, _ => (strtoul c s).map (toUnsigned 8)

def valueCastBool (c : CTypes) (s : List UInt8) (_ : Nat) : Option Bool :=
  (strtol c s).map (· != 0)

/-- `value_cast<std::string>(s, l)`: the `l` bytes at `s`. -/
def valueCastString (s : List UInt8) (l : Nat) : Option (List UInt8) :=
  if l ≤ s.length then some (s.take l) else none

/-- `field::as<T>()`, with the assertion that the field is not null. -/
def Field.as {α : Type} (cast : List UInt8 → Nat → Option α) (f : Field) : Option α :=
  f.valueStr.bind fun s => cast s f.length

/-! ## The SQL types -/

/-- The integer types of `sql_types.hpp`. -/
inductive SqlInt where
  | tinyint
  | tinyintUnsigned
  | smallint
  | smallintUnsigned
  | int
  | intUnsigned
  | mediumint
  | mediumintUnsigned
  | bigint
  | bigintUnsigned
  deriving DecidableEq, Repr

namespace SqlInt

/-- The C type each is a name of. -/
def type (c : CTypes) : SqlInt → IntType
  | tinyint => .int8
  | tinyintUnsigned => .uint8
  | smallint => .int16
  | smallintUnsigned => .uint16
  | int => .int32
  | intUnsigned => .uint32
  | mediumint => .int32
  | mediumintUnsigned => .uint32
  | bigint => if c.int64IsLong then .long else .longLong
  | bigintUnsigned => if c.uint64IsUnsignedLong then .unsignedLong else .unsignedLongLong

def bits : SqlInt → Nat
  | tinyint | tinyintUnsigned => 8
  | smallint | smallintUnsigned => 16
  | int | intUnsigned | mediumint | mediumintUnsigned => 32
  | bigint | bigintUnsigned => 64

def signed : SqlInt → Bool
  | tinyint | smallint | int | mediumint | bigint => true
  | tinyintUnsigned | smallintUnsigned | intUnsigned | mediumintUnsigned | bigintUnsigned => false

def InRange (T : SqlInt) (n : Int) : Prop :=
  if T.signed then -2 ^ (T.bits - 1) ≤ n ∧ n < 2 ^ (T.bits - 1) else 0 ≤ n ∧ n < 2 ^ T.bits

instance (T : SqlInt) (n : Int) : Decidable (T.InRange n) :=
  inferInstanceAs (Decidable (if T.signed then -2 ^ (T.bits - 1) ≤ n ∧ n < 2 ^ (T.bits - 1)
    else 0 ≤ n ∧ n < 2 ^ T.bits))

end SqlInt

/-! ## Narrowing -/

theorem toSigned_eq {w : Nat} {v : Int} (hw : 0 < w) (hlo : -2 ^ (w - 1) ≤ v)
    (hhi : v < 2 ^ (w - 1)) : toSigned w v = v := by
  obtain ⟨k, rfl⟩ : ∃ k, w = k + 1 := ⟨w - 1, by omega⟩
  have hpow : ((2 ^ (k + 1) : Nat) : Int) = 2 * 2 ^ k := by push_cast; ring
  rw [Nat.add_sub_cancel] at hlo hhi
  unfold toSigned
  apply Int.bmod_eq_of_le
  · rw [hpow]
    omega
  · rw [hpow]
    omega

theorem toUnsigned_eq {w : Nat} {v : Int} (hlo : 0 ≤ v) (hhi : v < 2 ^ w) :
    toUnsigned w v = v := Int.emod_eq_of_lt hlo hhi

/-- Narrowing to the signed type first loses nothing: both agree modulo `2 ^ w`. -/
theorem toUnsigned_toSigned (w : Nat) (v : Int) :
    toUnsigned w (toSigned w v) = toUnsigned w v := by
  have hpow : ((2 ^ w : Nat) : Int) = 2 ^ w := by norm_cast
  unfold toUnsigned toSigned
  rw [← hpow]
  exact Int.bmod_emod

/-! ## What a column decodes to -/

section

variable (c : CTypes) {n : Int} {text : List UInt8} (ht : Decimal n text) (rest : List UInt8)

include ht

/-- A number of a signed type no wider than 32 bits is a `long`'s on every platform. -/
theorem strtol_narrow {w : Nat} (hw : 0 < w) (hw32 : w ≤ 32) (hlo : -2 ^ (w - 1) ≤ n)
    (hhi : n < 2 ^ (w - 1)) :
    (strtol c (text ++ 0 :: rest)).map (toSigned w) = some n := by
  have hlong : w ≤ c.longBits := by
    have := c.long_bits
    omega
  have hpow : (2 : Int) ^ (w - 1) ≤ 2 ^ (c.longBits - 1) :=
    pow_le_pow_right₀ (by decide) (by omega)
  rw [strtol, strtoSigned_decimal ht (by omega) (by omega) (by decide) rest, Option.map_some,
    toSigned_eq hw hlo hhi]

theorem strtoul_narrow {w : Nat} (hw32 : w ≤ 32) (hlo : 0 ≤ n) (hhi : n < 2 ^ w) :
    (strtoul c (text ++ 0 :: rest)).map (toUnsigned w) = some n := by
  have hlong : w ≤ c.longBits := by
    have := c.long_bits
    omega
  have hpow : (2 : Int) ^ w ≤ 2 ^ c.longBits := pow_le_pow_right₀ (by decide) hlong
  rw [strtoul, strtoUnsigned_decimal ht hlo (by omega) (by decide) rest, Option.map_some,
    toUnsigned_eq hlo hhi]

theorem valueCast_bigint (l : Nat) (hlo : -2 ^ 63 ≤ n) (hhi : n < 2 ^ 63) :
    valueCast c (SqlInt.bigint.type c) (text ++ 0 :: rest) l = some n := by
  simp only [SqlInt.type]
  split
  · rename_i hlong
    have hbits : c.longBits = 64 := c.int64_bits hlong
    rw [valueCast, strtol, hbits]
    exact strtoSigned_decimal ht hlo hhi (by decide) rest
  · exact strtoSigned_decimal ht hlo hhi (by decide) rest

theorem valueCast_bigintUnsigned (l : Nat) (hlo : 0 ≤ n) (hhi : n < 2 ^ 64) :
    valueCast c (SqlInt.bigintUnsigned.type c) (text ++ 0 :: rest) l = some n := by
  simp only [SqlInt.type]
  split
  · rename_i hlong
    have hbits : c.longBits = 64 := c.uint64_bits hlong
    rw [valueCast, strtoul, hbits]
    exact strtoUnsigned_decimal ht hlo hhi (by decide) rest
  · exact strtoUnsigned_decimal ht hlo hhi (by decide) rest

end

/-- **Integer columns decode to the value that was sent**: a decimal text of a
number of the type, with a zero byte after it, is read as that number. -/
theorem valueCast_decimal (c : CTypes) (T : SqlInt) (n : Int) (text rest : List UInt8) (l : Nat)
    (hn : T.InRange n) (ht : Decimal n text) :
    valueCast c (T.type c) (text ++ 0 :: rest) l = some n := by
  cases T with
  | tinyint => exact strtol_narrow c ht rest (by decide) (by decide) hn.1 hn.2
  | smallint => exact strtol_narrow c ht rest (by decide) (by decide) hn.1 hn.2
  | int => exact strtol_narrow c ht rest (by decide) (by decide) hn.1 hn.2
  | mediumint => exact strtol_narrow c ht rest (by decide) (by decide) hn.1 hn.2
  | bigint => exact valueCast_bigint c ht rest l hn.1 hn.2
  | tinyintUnsigned => exact strtoul_narrow c ht rest (by decide) hn.1 hn.2
  | smallintUnsigned =>
    simp only [SqlInt.type, valueCast, toUnsigned_toSigned]
    exact strtoul_narrow c ht rest (by decide) hn.1 hn.2
  | intUnsigned => exact strtoul_narrow c ht rest (by decide) hn.1 hn.2
  | mediumintUnsigned => exact strtoul_narrow c ht rest (by decide) hn.1 hn.2
  | bigintUnsigned => exact valueCast_bigintUnsigned c ht rest l hn.1 hn.2

theorem valueCast_uint16_max :
    valueCast ⟨32, false, false, .inl rfl, by decide, by decide⟩ .uint16
      [48, 48, 54, 53, 53, 51, 53, 0] 7 = some 65535 :=
  valueCast_decimal ⟨32, false, false, .inl rfl, by decide, by decide⟩ .smallintUnsigned 65535
    [48, 48, 54, 53, 53, 51, 53] [] 7 (by decide)
    (.plain [48, 48, 54, 53, 53, 51, 53] (by decide) (by simp [isDigit]))

end Amy
