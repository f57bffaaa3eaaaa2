import Mathlib.Data.List.Basic
import Mathlib.Tactic.Ring

/-!
# C text in memory

A reader sees the memory from its pointer on as a list of bytes, and a read past
the list's end has no result. `scanInteger` is what `strtol` and its siblings do
in base 10: white space is skipped, a sign is taken if there is one, and digits
are read up to the first byte that is none. `strtoSigned` and `strtoUnsigned`
are the two ways the number read becomes a value of a type of `w` bits. `cString`
is the zero-terminated string.

`Decimal n text` says that `text` is a number's decimal text, with any number of
leading zeros; it is read as `n` whatever follows it, once that is no digit
(`scanInteger_decimal`). `Settled read m` says that what follows `m` has no part
in what is read.
-/

namespace Amy.Base

/-- `isspace` in the C locale. -/
def isSpace (b : UInt8) : Bool := b == 32 || (9 ≤ b && b ≤ 13)

def isDigit (b : UInt8) : Bool := 48 ≤ b && b ≤ 57

def skipSpace : List UInt8 → Option (List UInt8)
  | [] => none
  | b :: m => if isSpace b then skipSpace m else some (b :: m)

/-- Whether a minus sign was taken, and the memory after the sign. -/
def takeSign : List UInt8 → Option (Bool × List UInt8)
  | [] => none
  | b :: m => some (if b = 45 then (true, m) else if b = 43 then (false, m) else (false, b :: m))

def scanDigits (n : Nat) : List UInt8 → Option Nat
  | [] => none
  | b :: m => if isDigit b then scanDigits (10 * n + (b.toNat - 48)) m else some n

/-- The sign and the magnitude of the number the memory begins with; no digits are 0. -/
def scanInteger (m : List UInt8) : Option (Bool × Nat) :=
  (skipSpace m).bind fun m => (takeSign m).bind fun s => (scanDigits 0 s.2).map fun n => (s.1, n)

/-- The value of a signed type of `w` bits: a number out of range is clamped to its limits. -/
def clampSigned (w : Nat) (s : Bool × Nat) : Int :=
  if s.1 then max (-(s.2 : Int)) (-2 ^ (w - 1)) else min (s.2 : Int) (2 ^ (w - 1) - 1)

/-- The value of an unsigned type of `w` bits: a number out of range gives the
greatest value, and a minus sign negates within the type. -/
def clampUnsigned (w : Nat) (s : Bool × Nat) : Int :=
  if 2 ^ w ≤ s.2 then 2 ^ w - 1 else if s.1 then -(s.2 : Int) % 2 ^ w else s.2

def strtoSigned (w : Nat) (m : List UInt8) : Option Int := (scanInteger m).map (clampSigned w)

def strtoUnsigned (w : Nat) (m : List UInt8) : Option Int := (scanInteger m).map (clampUnsigned w)

/-! ## Texts -/

def digitsValue (n : Nat) (ds : List UInt8) : Nat :=
  ds.foldl (fun n d => 10 * n + (d.toNat - 48)) n

/-- An optional minus sign and digits that denote `n`. -/
inductive Decimal : Int → List UInt8 → Prop
  | plain (ds : List UInt8) : ds ≠ [] → (∀ d ∈ ds, isDigit d) → Decimal (digitsValue 0 ds) ds
  | minus (ds : List UInt8) : ds ≠ [] → (∀ d ∈ ds, isDigit d) →
      Decimal (-(digitsValue 0 ds)) (45 :: ds)

theorem scanDigits_append {ds : List UInt8} (h : ∀ d ∈ ds, isDigit d) (n : Nat) {b : UInt8}
    (hb : isDigit b = false) (rest : List UInt8) :
    scanDigits n (ds ++ b :: rest) = some (digitsValue n ds) := by
  induction ds generalizing n with
  | nil => simp [scanDigits, digitsValue, hb]
  | cons d ds ih =>
    have hd : isDigit d := h d (by simp)
    have hds := ih (fun d' h' => h d' (by simp [h'])) (10 * n + (d.toNat - 48))
    simpa [scanDigits, digitsValue, hd] using hds

theorem isDigit_not_space {b : UInt8} (h : isDigit b) : isSpace b = false := by
  simp only [isDigit, isSpace, Bool.and_eq_true, decide_eq_true_eq, Bool.or_eq_false_iff,
    beq_eq_false_iff_ne, ne_eq, Bool.and_eq_false_iff, decide_eq_false_iff_not,
    UInt8.le_iff_toNat_le, UInt8.ext_iff] at h ⊢
  have : UInt8.toNat 48 = 48 := rfl
  have : UInt8.toNat 32 = 32 := rfl
  have : UInt8.toNat 13 = 13 := rfl
  omega

theorem isDigit_not_sign {b : UInt8} (h : isDigit b) : b ≠ 45 ∧ b ≠ 43 := by
  constructor <;> rintro rfl <;> exact absurd h (by decide)

/-- **A decimal text is read as its number**, whatever follows the byte that ends it. -/
theorem scanInteger_decimal {n : Int} {text : List UInt8} (h : Decimal n text) {b : UInt8}
    (hb : isDigit b = false) (rest : List UInt8) :
    ∃ s, scanInteger (text ++ b :: rest) = some s ∧ n = if s.1 then -(s.2 : Int) else s.2 := by
  cases h with
  | plain _ hne hds =>
    obtain ⟨d, ds, rfl⟩ := List.exists_cons_of_ne_nil hne
    have hd : isDigit d := hds d (by simp)
    obtain ⟨h45, h43⟩ := isDigit_not_sign hd
    have hscan := scanDigits_append hds 0 hb rest
    refine ⟨(false, digitsValue 0 (d :: ds)), ?_, by simp⟩
    simp only [List.cons_append] at hscan ⊢
    simp [scanInteger, skipSpace, isDigit_not_space hd, takeSign, h45, h43, hscan]
  | minus ds hne hds =>
    have hscan := scanDigits_append hds 0 hb rest
    refine ⟨(true, digitsValue 0 ds), ?_, by simp⟩
    have hsp : isSpace 45 = false := by decide
    simp [scanInteger, skipSpace, hsp, takeSign, hscan]

/-! ## Values in range -/

theorem clampSigned_eq {w : Nat} {s : Bool × Nat} {n : Int}
    (hn : n = if s.1 then -(s.2 : Int) else s.2) (hlo : -2 ^ (w - 1) ≤ n)
    (hhi : n < 2 ^ (w - 1)) : clampSigned w s = n := by
  unfold clampSigned
  split
  · rename_i hs
    rw [if_pos hs] at hn
    omega
  · rename_i hs
    rw [if_neg hs] at hn
    omega

theorem clampUnsigned_eq {w : Nat} {s : Bool × Nat} {n : Int}
    (hn : n = if s.1 then -(s.2 : Int) else s.2) (hlo : 0 ≤ n) (hhi : n < 2 ^ w) :
    clampUnsigned w s = n := by
  have hpow : ((2 ^ w : Nat) : Int) = 2 ^ w := by norm_cast
  have hmag : (s.2 : Int) = n := by split at hn <;> omega
  have hlt : ¬ 2 ^ w ≤ s.2 := by omega
  unfold clampUnsigned
  rw [if_neg hlt]
  split
  · -- a negated text of a number in range is a text of zero
    rename_i hs
    rw [if_pos hs] at hn
    have h0 : s.2 = 0 := by omega
    simp [h0] at hmag ⊢
    exact hmag
  · exact hmag

/-- **`strtol` gives back every number of its type**, from any decimal text of it. -/
theorem strtoSigned_decimal {w : Nat} {n : Int} {text : List UInt8} (h : Decimal n text)
    (hlo : -2 ^ (w - 1) ≤ n) (hhi : n < 2 ^ (w - 1)) {b : UInt8} (hb : isDigit b = false)
    (rest : List UInt8) : strtoSigned w (text ++ b :: rest) = some n := by
  obtain ⟨s, hs, hn⟩ := scanInteger_decimal h hb rest
  rw [strtoSigned, hs, Option.map_some, clampSigned_eq hn hlo hhi]

/-- **`strtoul` gives back every number of its type**, from any decimal text of it. -/
theorem strtoUnsigned_decimal {w : Nat} {n : Int} {text : List UInt8} (h : Decimal n text)
    (hlo : 0 ≤ n) (hhi : n < 2 ^ w) {b : UInt8} (hb : isDigit b = false)
    (rest : List UInt8) : strtoUnsigned w (text ++ b :: rest) = some n := by
  obtain ⟨s, hs, hn⟩ := scanInteger_decimal h hb rest
  rw [strtoUnsigned, hs, Option.map_some, clampUnsigned_eq hn hlo hhi]

/-! ## Values out of range -/

theorem strtoSigned_clamped (w : Nat) {n : Int} {text : List UInt8} (h : Decimal n text) {b : UInt8}
    (hb : isDigit b = false) (rest : List UInt8) :
    strtoSigned w (text ++ b :: rest) = some
      (if -2 ^ (w - 1) ≤ n ∧ n < 2 ^ (w - 1) then n
        else if n < 0 then -2 ^ (w - 1) else 2 ^ (w - 1) - 1) := by
  obtain ⟨s, hs, hn⟩ := scanInteger_decimal h hb rest
  have hpos : (0 : Int) < 2 ^ (w - 1) := Int.pow_pos (by decide)
  rw [strtoSigned, hs, Option.map_some, Option.some_inj]
  split
  · rename_i hin
    exact clampSigned_eq hn hin.1 hin.2
  · unfold clampSigned
    generalize (2 : Int) ^ (w - 1) = limit at *
    cases hminus : s.1 with
    | true =>
      rw [hminus, if_pos rfl] at hn
      rw [if_pos rfl, if_pos (by omega)]
      omega
    | false =>
      rw [hminus, if_neg Bool.false_ne_true] at hn
      rw [if_neg Bool.false_ne_true, if_neg (by omega)]
      omega

theorem strtoUnsigned_clamped (w : Nat) {n : Int} {text : List UInt8} (h : Decimal n text)
    {b : UInt8} (hb : isDigit b = false) (rest : List UInt8) :
    strtoUnsigned w (text ++ b :: rest) = some
      (if -2 ^ w < n ∧ n < 2 ^ w then n % 2 ^ w else 2 ^ w - 1) := by
  obtain ⟨s, hs, hn⟩ := scanInteger_decimal h hb rest
  have hpow : ((2 ^ w : Nat) : Int) = 2 ^ w := by norm_cast
  rw [strtoUnsigned, hs, Option.map_some, Option.some_inj]
  unfold clampUnsigned
  have hmag : n = -(s.2 : Int) ∨ n = s.2 := by split at hn <;> simp [hn]
  have hfits : (-2 ^ w < n ∧ n < 2 ^ w) ↔ ¬ 2 ^ w ≤ s.2 := by omega
  by_cases hbig : 2 ^ w ≤ s.2
  · rw [if_pos hbig, if_neg fun hin => hfits.mp hin hbig]
  · rw [if_neg hbig, if_pos (hfits.mpr hbig), hn]
    split
    · rfl
    · exact (Int.emod_eq_of_lt (by omega) (by omega)).symm

/-! ## Where the reading ends -/

theorem skipSpace_append {m m' : List UInt8} (h : skipSpace m = some m') (rest : List UInt8) :
    skipSpace (m ++ rest) = some (m' ++ rest) := by
  induction m with
  | nil => cases h
  | cons b m ih =>
    simp only [skipSpace, List.cons_append] at h ⊢
    split
    · rename_i hb
      rw [if_pos hb] at h
      exact ih h
    · rename_i hb
      rw [if_neg hb] at h
      obtain rfl := Option.some.inj h
      rfl

theorem takeSign_append {m : List UInt8} {s : Bool × List UInt8} (h : takeSign m = some s)
    (rest : List UInt8) : takeSign (m ++ rest) = some (s.1, s.2 ++ rest) := by
  cases m with
  | nil => cases h
  | cons b m =>
    obtain rfl := Option.some.inj h
    simp only [takeSign, List.cons_append]
    split
    · rfl
    · split <;> rfl

theorem scanDigits_append_some {m : List UInt8} {n v : Nat} (h : scanDigits n m = some v)
    (rest : List UInt8) : scanDigits n (m ++ rest) = some v := by
  induction m generalizing n with
  | nil => cases h
  | cons b m ih =>
    simp only [scanDigits, List.cons_append] at h ⊢
    split
    · rename_i hb
      rw [if_pos hb] at h
      exact ih h
    · rename_i hb
      rwa [if_neg hb] at h

theorem scanInteger_append {m : List UInt8} {s : Bool × Nat} (h : scanInteger m = some s)
    (rest : List UInt8) : scanInteger (m ++ rest) = some s := by
  simp only [scanInteger, Option.bind_eq_some_iff, Option.map_eq_some_iff] at h
  obtain ⟨m', hsp, t, hsign, n, hdig, rfl⟩ := h
  simp [scanInteger, skipSpace_append hsp, takeSign_append hsign, scanDigits_append_some hdig]

theorem scanDigits_zero (n : Nat) (m : List UInt8) : ∃ v, scanDigits n (m ++ [0]) = some v := by
  induction m generalizing n with
  | nil => exact ⟨n, rfl⟩
  | cons b m ih =>
    simp only [scanDigits, List.cons_append]
    split
    · exact ih _
    · exact ⟨n, rfl⟩

theorem skipSpace_zero (m : List UInt8) : ∃ m', skipSpace (m ++ [0]) = some (m' ++ [0]) := by
  induction m with
  | nil => exact ⟨[], rfl⟩
  | cons b m ih =>
    simp only [skipSpace, List.cons_append]
    split
    · exact ih
    · exact ⟨b :: m, rfl⟩

theorem takeSign_zero (m : List UInt8) :
    ∃ neg m', takeSign (m ++ [0]) = some (neg, m' ++ [0]) := by
  cases m with
  | nil => exact ⟨false, [], rfl⟩
  | cons b m =>
    simp only [takeSign, List.cons_append]
    split
    · exact ⟨true, m, rfl⟩
    · split
      · exact ⟨false, m, rfl⟩
      · exact ⟨false, b :: m, rfl⟩

theorem scanInteger_zero (m : List UInt8) : ∃ s, scanInteger (m ++ [0]) = some s := by
  obtain ⟨m₁, h₁⟩ := skipSpace_zero m
  obtain ⟨neg, m₂, h₂⟩ := takeSign_zero m₁
  obtain ⟨n, h₃⟩ := scanDigits_zero 0 m₂
  exact ⟨(neg, n), by simp [scanInteger, h₁, h₂, h₃]⟩

/-- What is read is settled by `m`, whatever follows it in memory. -/
def Settled {α : Type} (read : List UInt8 → α) (m : List UInt8) : Prop :=
  ∀ rest rest', read (m ++ rest) = read (m ++ rest')

/-- A reading that ends inside `m` if it ends at all is settled exactly if it ends there. -/
theorem settled_iff {α : Type} {read : List UInt8 → Option α} {m : List UInt8}
    (hmono : ∀ a, read m = some a → ∀ rest, read (m ++ rest) = some a)
    (hzero : ∃ a, read (m ++ [0]) = some a) : Settled read m ↔ (read m).isSome := by
  constructor
  · intro h
    obtain ⟨a, ha⟩ := hzero
    have hnil := h [] [0]
    rw [List.append_nil, ha] at hnil
    simp [hnil]
  · intro h rest rest'
    obtain ⟨a, ha⟩ := Option.isSome_iff_exists.mp h
    rw [hmono a ha, hmono a ha]

/-- The bytes left once white space, a sign and digits are dropped. -/
def afterNumber (m : List UInt8) : List UInt8 :=
  (match m.dropWhile isSpace with
    | [] => []
    | b :: m => if b = 45 ∨ b = 43 then m else b :: m).dropWhile isDigit

theorem skipSpace_eq (m : List UInt8) :
    skipSpace m = if m.dropWhile isSpace = [] then none else some (m.dropWhile isSpace) := by
  induction m with
  | nil => rfl
  | cons b m ih =>
    by_cases hb : isSpace b <;> simp [skipSpace, hb, ih]

theorem scanDigits_isSome (n : Nat) (m : List UInt8) :
    (scanDigits n m).isSome ↔ m.dropWhile isDigit ≠ [] := by
  induction m generalizing n with
  | nil => simp [scanDigits]
  | cons b m ih =>
    by_cases hb : isDigit b <;> simp [scanDigits, hb, ih]

/-- **The number ends inside the memory** if and only if a byte is left after it. -/
theorem scanInteger_isSome (m : List UInt8) : (scanInteger m).isSome ↔ afterNumber m ≠ [] := by
  simp only [scanInteger, afterNumber, skipSpace_eq]
  cases m.dropWhile isSpace with
  | nil => simp
  | cons b m' =>
    simp only [reduceCtorEq, ↓reduceIte, Option.bind_some, takeSign, Option.isSome_map,
      scanDigits_isSome]
    by_cases h45 : b = 45
    · simp [h45]
    · by_cases h43 : b = 43 <;> simp [h45, h43]

/-- **What follows the memory does not matter if and only if the number ends inside it**,
whatever is made of the sign and the value. -/
theorem scanInteger_map_settled {α : Type} (f : Bool × Nat → α) (m : List UInt8) :
    Settled (fun s => (scanInteger s).map f) m ↔ afterNumber m ≠ [] := by
  rw [← scanInteger_isSome, settled_iff, Option.isSome_map]
  · intro a ha rest
    obtain ⟨s, hs, rfl⟩ := Option.map_eq_some_iff.mp ha
    rw [scanInteger_append hs, Option.map_some]
  · obtain ⟨s, hs⟩ := scanInteger_zero m
    exact ⟨f s, by rw [hs, Option.map_some]⟩

/-! ## Zero-terminated strings -/

def cString : List UInt8 → Option (List UInt8)
  | [] => none
  | b :: m => if b = 0 then some [] else (cString m).map (b :: ·)

theorem cString_append {m s : List UInt8} (h : cString m = some s) (rest : List UInt8) :
    cString (m ++ rest) = some s := by
  induction m generalizing s with
  | nil => cases h
  | cons b m ih =>
    simp only [cString, List.cons_append] at h ⊢
    split
    · rename_i hb
      rwa [if_pos hb] at h
    · rename_i hb
      rw [if_neg hb] at h
      obtain ⟨s', hs', rfl⟩ := Option.map_eq_some_iff.mp h
      rw [ih hs', Option.map_some]

theorem cString_isSome (m : List UInt8) : (cString m).isSome ↔ 0 ∈ m := by
  induction m with
  | nil => simp [cString]
  | cons b m ih =>
    by_cases hb : b = 0
    · simp [cString, hb]
    · simp [cString, hb, ih, Ne.symm hb]

theorem cString_settled (m : List UInt8) : Settled cString m ↔ 0 ∈ m := by
  have hzero : ∃ s, cString (m ++ [0]) = some s :=
    Option.isSome_iff_exists.mp ((cString_isSome _).mpr (by simp))
  rw [settled_iff (fun s hs rest => cString_append hs rest) hzero, cString_isSome]

theorem cString_eq_iff (m rest : List UInt8) :
    cString (m ++ rest) = some m ↔ 0 ∉ m ∧ rest.head? = some 0 := by
  induction m with
  | nil =>
    cases rest with
    | nil => simp [cString]
    | cons b rest => by_cases hb : b = 0 <;> simp [cString, hb]
  | cons b m ih =>
    by_cases hb : b = 0
    · simp [cString, hb]
    · simp [cString, hb, ih, Ne.symm hb]

end Amy.Base
