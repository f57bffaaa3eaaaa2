import Amy.ValueCast
import Mathlib.Data.Int.ModEq

/-!
# Numbers the type has no room for

`as<T>()` may be asked for a type that has no room for the number in the column.
`strtol` clamps the number to the range of `long`, whose width is the
platform's, or negates within `unsigned long`; the cast keeps the low bits of
that. `IntType.read` is what is left of the number by then, and
`valueCast_wraps` says that the value is that number modulo the type's size.
-/

namespace Amy

open Base

namespace IntType

variable (c : CTypes)

/-- The bits of the type that the `strto` function returns. -/
def readBits : IntType → Nat
  | .longLong | .unsignedLongLong => 64
  | _ => c.longBits

def bits : IntType → Nat
  | .longLong | .unsignedLongLong => 64
  | .long | .unsignedLong => c.longBits
  | .int32 | .uint32 => 32
  | .int16 | .uint16 => 16
  | .int8 | .uint8 => 8

def signed : IntType → Bool
  | .longLong | .long | .int32 | .int16 | .int8 => true
  | .unsignedLongLong | .unsignedLong | .uint32 | .uint16 | .uint8 => false

def InRange (T : IntType) (v : Int) : Prop :=
  if T.signed then -2 ^ (T.bits c - 1) ≤ v ∧ v < 2 ^ (T.bits c - 1)
  else 0 ≤ v ∧ v < 2 ^ T.bits c

/-- What the `strto` function makes of a number, up to a multiple of its type's size. -/
def read (T : IntType) (n : Int) : Int :=
  if T.signed then
    if -2 ^ (T.readBits c - 1) ≤ n ∧ n < 2 ^ (T.readBits c - 1) then n
    else if n < 0 then -2 ^ (T.readBits c - 1) else 2 ^ (T.readBits c - 1) - 1
  else if -2 ^ T.readBits c < n ∧ n < 2 ^ T.readBits c then n else 2 ^ T.readBits c - 1

theorem longBits_pos : 0 < c.longBits := by
  have := c.long_bits
  omega

theorem bits_pos (T : IntType) : 0 < T.bits c := by
  have := longBits_pos c
  cases T <;> simp only [bits] <;> omega

theorem bits_le (T : IntType) : T.bits c ≤ T.readBits c := by
  have := c.long_bits
  cases T <;> simp only [bits, readBits] <;> omega

theorem InRange.unique {T : IntType} {v n : Int} (hv : T.InRange c v) (hn : T.InRange c n)
    (h : v ≡ n [ZMOD 2 ^ T.bits c]) : v = n := by
  obtain ⟨k, hk⟩ : ∃ k, T.bits c = k + 1 := ⟨T.bits c - 1, by have := T.bits_pos c; omega⟩
  have hpow : (2 : Int) ^ (k + 1) = 2 * 2 ^ k := by ring
  unfold InRange at hv hn
  rw [hk] at hv hn h
  rw [Nat.add_sub_cancel] at hv hn
  have habs : |n - v| < 2 ^ (k + 1) := by
    rw [abs_lt]
    split_ifs at hv hn <;> omega
  have := Int.eq_zero_of_abs_lt_dvd h.dvd habs
  omega

/-- A number that the type has room for gets through the `strto` function. -/
theorem read_eq {T : IntType} {n : Int} (hn : T.InRange c n) : T.read c n = n := by
  have hsigned : (2 : Int) ^ (T.bits c - 1) ≤ 2 ^ (T.readBits c - 1) :=
    pow_le_pow_right₀ (by decide) (Nat.sub_le_sub_right (T.bits_le c) 1)
  have hunsigned : (2 : Int) ^ T.bits c ≤ 2 ^ T.readBits c :=
    pow_le_pow_right₀ (by decide) (T.bits_le c)
  have hpos : (0 : Int) < 2 ^ T.readBits c := Int.pow_pos (by decide)
  unfold InRange at hn
  unfold read
  split_ifs at hn ⊢ <;> omega

end IntType

/-! ## The casts -/

theorem toSigned_modEq (w : Nat) (v : Int) : toSigned w v ≡ v [ZMOD 2 ^ w] := by
  have hpow : ((2 ^ w : Nat) : Int) = 2 ^ w := by norm_cast
  unfold Int.ModEq toSigned
  rw [← hpow]
  exact Int.bmod_emod

theorem toSigned_range {w : Nat} (hw : 0 < w) (v : Int) :
    -2 ^ (w - 1) ≤ toSigned w v ∧ toSigned w v < 2 ^ (w - 1) := by
  obtain ⟨k, rfl⟩ : ∃ k, w = k + 1 := ⟨w - 1, by omega⟩
  have hpow : ((2 ^ (k + 1) : Nat) : Int) = 2 * 2 ^ k := by push_cast; ring
  have hpos : 0 < 2 ^ (k + 1) := Nat.two_pow_pos _
  have hlo := Int.le_bmod (x := v) hpos
  have hhi := Int.bmod_lt (x := v) hpos
  rw [hpow] at hlo hhi
  rw [Nat.add_sub_cancel]
  unfold toSigned
  omega

theorem toUnsigned_modEq (w : Nat) (v : Int) : toUnsigned w v ≡ v [ZMOD 2 ^ w] :=
  Int.mod_modEq v (2 ^ w)

theorem toUnsigned_range (w : Nat) (v : Int) : 0 ≤ toUnsigned w v ∧ toUnsigned w v < 2 ^ w :=
  have hpos : (0 : Int) < 2 ^ w := Int.pow_pos (by decide)
  ⟨Int.emod_nonneg v hpos.ne', Int.emod_lt_of_pos v hpos⟩

/-- A cast to `w` bits of a number read modulo more. -/
theorem modEq_narrow {w r : Nat} (h : w ≤ r) {a b : Int} (hab : a ≡ b [ZMOD 2 ^ r]) :
    a ≡ b [ZMOD 2 ^ w] := hab.of_dvd (pow_dvd_pow 2 h)

/-! ## What a column decodes to -/

section

variable (c : CTypes) {T : IntType} {n : Int} {text : List UInt8} (ht : Decimal n text)
  (rest : List UInt8)

theorem read_range (hT : T.signed = true) (n : Int) :
    -2 ^ (T.readBits c - 1) ≤ T.read c n ∧ T.read c n < 2 ^ (T.readBits c - 1) := by
  have hpos : (0 : Int) < 2 ^ (T.readBits c - 1) := Int.pow_pos (by decide)
  unfold IntType.read
  rw [if_pos hT]
  split_ifs with hin hneg
  · exact hin
  · omega
  · omega

theorem signed_wraps (hT : T.signed = true) {v : Int}
    (hv : v = toSigned (T.bits c) (T.read c n) ∨ T.bits c = T.readBits c ∧ v = T.read c n) :
    T.InRange c v ∧ v ≡ T.read c n [ZMOD 2 ^ T.bits c] := by
  unfold IntType.InRange
  rw [if_pos hT]
  rcases hv with rfl | ⟨heq, rfl⟩
  · exact ⟨toSigned_range (T.bits_pos c) _, toSigned_modEq _ _⟩
  · rw [heq]
    exact ⟨read_range c hT n, rfl⟩

theorem unsigned_wraps (hT : T.signed = false) {v : Int}
    (hv : v = toUnsigned (T.bits c) (toUnsigned (T.readBits c) (T.read c n)) ∨
      T.bits c = T.readBits c ∧ v = toUnsigned (T.readBits c) (T.read c n)) :
    T.InRange c v ∧ v ≡ T.read c n [ZMOD 2 ^ T.bits c] := by
  have hread := modEq_narrow (T.bits_le c) (toUnsigned_modEq (T.readBits c) (T.read c n))
  unfold IntType.InRange
  rw [hT, if_neg Bool.false_ne_true]
  rcases hv with rfl | ⟨heq, rfl⟩
  · exact ⟨toUnsigned_range _ _, (toUnsigned_modEq _ _).trans hread⟩
  · rw [heq] at hread ⊢
    exact ⟨toUnsigned_range _ _, hread⟩

include ht

theorem strtoSigned_read (hT : T.signed = true) :
    strtoSigned (T.readBits c) (text ++ 0 :: rest) = some (T.read c n) := by
  rw [strtoSigned_clamped _ ht (by decide), IntType.read, if_pos hT]

theorem strtoUnsigned_read (hT : T.signed = false) :
    strtoUnsigned (T.readBits c) (text ++ 0 :: rest) =
      some (toUnsigned (T.readBits c) (T.read c n)) := by
  have hpos : (0 : Int) < 2 ^ T.readBits c := Int.pow_pos (by decide)
  have hread : T.read c n =
      if -2 ^ T.readBits c < n ∧ n < 2 ^ T.readBits c then n else 2 ^ T.readBits c - 1 := by
    unfold IntType.read
    rw [hT, if_neg Bool.false_ne_true]
  rw [strtoUnsigned_clamped _ ht (by decide), hread]
  split_ifs
  · rfl
  · rw [toUnsigned_eq (by omega) (by omega)]

end

/-- The value is the one number of the type that is what was read modulo its size. -/
theorem valueCast_read (c : CTypes) (T : IntType) {n : Int} {text : List UInt8}
    (ht : Decimal n text) (rest : List UInt8) (l : Nat) :
    ∃ v, valueCast c T (text ++ 0 :: rest) l = some v ∧ T.InRange c v ∧
      v ≡ T.read c n [ZMOD 2 ^ T.bits c] := by
  have hs := fun hT : T.signed = true => strtoSigned_read c ht rest hT
  have hu := fun hT : T.signed = false => strtoUnsigned_read c ht rest hT
  cases T with
  | longLong => exact ⟨_, hs rfl, signed_wraps c rfl (.inr ⟨rfl, rfl⟩)⟩
  | long => exact ⟨_, hs rfl, signed_wraps c rfl (.inr ⟨rfl, rfl⟩)⟩
  | int32 =>
    exact ⟨_, congrArg (Option.map (toSigned 32)) (hs rfl), signed_wraps c rfl (.inl rfl)⟩
  | int16 =>
    exact ⟨_, congrArg (Option.map (toSigned 16)) (hs rfl), signed_wraps c rfl (.inl rfl)⟩
  | int8 =>
    exact ⟨_, congrArg (Option.map (toSigned 8)) (hs rfl), signed_wraps c rfl (.inl rfl)⟩
  | unsignedLongLong => exact ⟨_, hu rfl, unsigned_wraps c rfl (.inr ⟨rfl, rfl⟩)⟩
  | unsignedLong => exact ⟨_, hu rfl, unsigned_wraps c rfl (.inr ⟨rfl, rfl⟩)⟩
  | uint32 =>
    exact ⟨_, congrArg (Option.map (toUnsigned 32)) (hu rfl), unsigned_wraps c rfl (.inl rfl)⟩
  | uint16 =>
    refine ⟨_, congrArg (Option.map fun v => toUnsigned 16 (toSigned 16 v)) (hu rfl),
      unsigned_wraps c rfl (.inl ?_)⟩
    exact toUnsigned_toSigned 16 _
  | uint8 =>
    exact ⟨_, congrArg (Option.map (toUnsigned 8)) (hu rfl), unsigned_wraps c rfl (.inl rfl)⟩

/-- **What any integer type makes of any number's text**: a number of that type,
which modulo the type's size is what `long` made of the text, and which is the
number itself exactly when the type has room for it. -/
theorem valueCast_wraps (c : CTypes) (T : IntType) (n : Int) (text rest : List UInt8) (l : Nat)
    (ht : Decimal n text) :
    ∃ v, valueCast c T (text ++ 0 :: rest) l = some v ∧ T.InRange c v ∧
      v ≡ T.read c n [ZMOD 2 ^ T.bits c] ∧ (v = n ↔ T.InRange c n) := by
  obtain ⟨v, hv, hrange, hmod⟩ := valueCast_read c T ht rest l
  refine ⟨v, hv, hrange, hmod, fun h => h ▸ hrange, fun hn => ?_⟩
  exact hrange.unique c hn (IntType.read_eq c hn ▸ hmod)

/-- `300` has no room in a `tinyint`, and its low bits are those of `44`. -/
theorem valueCast_wraps_tinyint :
    ∃ v, valueCast ⟨32, false, false, .inl rfl, by decide, by decide⟩ .int8
        ([51, 48, 48] ++ 0 :: []) 3 = some v ∧
      IntType.int8.InRange ⟨32, false, false, .inl rfl, by decide, by decide⟩ v ∧
      v ≡ IntType.int8.read ⟨32, false, false, .inl rfl, by decide, by decide⟩ 300 [ZMOD 2 ^ 8] ∧
      (v = 300 ↔ IntType.int8.InRange ⟨32, false, false, .inl rfl, by decide, by decide⟩ 300) :=
  valueCast_wraps ⟨32, false, false, .inl rfl, by decide, by decide⟩ .int8 300 [51, 48, 48] [] 3
    (.plain [51, 48, 48] (by decide) (by simp [isDigit]))

end Amy
