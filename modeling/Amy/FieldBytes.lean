import Amy.ValueCast

/-!
# Which bytes a field's readers look at

A `field` is a pointer and a length. `as<std::string>` goes by the length; the
`strtol` family reads on until a byte ends the number; `operator<<` writes the
zero-terminated string at the pointer. So what a reader gives is a matter of the
field's own bytes only where those settle it (`fieldReaders_iff`).
-/

namespace Amy

open Base

/-- `operator<<(field)`: the bytes written. -/
def Field.print (f : Field) : Option (List UInt8) :=
  match f.valueStr with
  -- "null"
  | none => some [110, 117, 108, 108]
  | some s => cString s

/-- `operator<<(row)`: each field and a blank; `size` is what `mysql_num_fields` answers. -/
def Row.print (size : Nat) (r : Row) : Option (List UInt8) :=
  ((List.range size).mapM fun i => r.fields[i]?.bind fun f => f.print.map (· ++ [32])).map
    List.flatten

/-- The field built over the bytes `p` of a buffer that goes on with `rest`. -/
def Field.over (p rest : List UInt8) : Field := ⟨some (p ++ rest), p.length⟩

/-- Two fields over the same bytes are read alike, whatever follows in memory. -/
def ReadsOwnBytes {α : Type} (read : Field → α) (p : List UInt8) : Prop :=
  ∀ rest rest', read (.over p rest) = read (.over p rest')

theorem readsOwnBytes_as {α : Type} (cast : List UInt8 → Nat → Option α) (p : List UInt8) :
    ReadsOwnBytes (Field.as cast) p ↔ Base.Settled (fun s => cast s p.length) p := Iff.rfl

theorem readsOwnBytes_print (p : List UInt8) : ReadsOwnBytes Field.print p ↔ Base.Settled cString p :=
  Iff.rfl

/-- Every specialisation scans a number, and has a result exactly if the number ends. -/
theorem valueCast_scan (c : CTypes) (T : IntType) :
    ∃ f : Bool × Nat → Int, ∀ s l, valueCast c T s l = (scanInteger s).map f := by
  cases T with
  | longLong => exact ⟨_, fun s l => rfl⟩
  | long => exact ⟨_, fun s l => rfl⟩
  | unsignedLongLong => exact ⟨_, fun s l => rfl⟩
  | unsignedLong => exact ⟨_, fun s l => rfl⟩
  | _ => exact ⟨_, fun s l => Option.map_map _ _ _⟩

theorem valueCastString_over (p rest : List UInt8) :
    Field.as valueCastString (.over p rest) = some p := by
  simp [Field.as, Field.over, valueCastString]

/-- **Which readers look at the field's own bytes only**: `as<std::string>` always,
the numbers exactly if the number ends inside them, `operator<<` exactly if they
hold a zero byte, and it writes them all exactly if they do not and one follows. -/
theorem fieldReaders_iff (c : CTypes) (p : List UInt8) :
    (∀ T, ReadsOwnBytes (Field.as (valueCast c T)) p ↔ afterNumber p ≠ []) ∧
      (ReadsOwnBytes (Field.as (valueCastBool c)) p ↔ afterNumber p ≠ []) ∧
      ReadsOwnBytes (Field.as valueCastString) p ∧
      (ReadsOwnBytes Field.print p ↔ 0 ∈ p) ∧
      ∀ rest, Field.print (.over p rest) = Field.as valueCastString (.over p rest) ↔
        0 ∉ p ∧ rest.head? = some 0 := by
  refine ⟨?_, ?_, ?_, ?_, ?_⟩
  · intro T
    obtain ⟨f, hf⟩ := valueCast_scan c T
    simp only [readsOwnBytes_as, hf]
    exact scanInteger_map_settled f p
  · simp only [readsOwnBytes_as, valueCastBool, strtol, strtoSigned, Option.map_map]
    exact scanInteger_map_settled _ p
  · intro rest rest'
    rw [valueCastString_over, valueCastString_over]
  · rw [readsOwnBytes_print, cString_settled]
  · intro rest
    rw [valueCastString_over]
    exact cString_eq_iff p rest

/-- The text `12` of a longer buffer: with a zero byte behind it it is 12, with
another digit 123, and `operator<<` writes that too; a zero byte inside cuts it. -/
theorem fieldReaders_overread :
    let c : CTypes := ⟨64, true, true, .inr rfl, by decide, by decide⟩
    Field.as (valueCast c .int32) (.over [49, 50] [0]) = some 12 ∧
      Field.as (valueCast c .int32) (.over [49, 50] [51, 0]) = some 123 ∧
      Field.print (.over [49, 50] [0]) = some [49, 50] ∧
      Field.print (.over [49, 50] [51, 0]) = some [49, 50, 51] ∧
      Field.print (.over [49, 0, 50] [0]) = some [49] ∧
      Field.as valueCastString (.over [49, 0, 50] [0]) = some [49, 0, 50] := by
  decide

/-! ## Rows -/

theorem printFields_eq {fields : List Field} {text : Field → List UInt8}
    (h : ∀ f ∈ fields, f.print = some (text f)) :
    (List.range fields.length).mapM (fun i => fields[i]?.bind fun f => f.print.map (· ++ [32])) =
      some (fields.map fun f => text f ++ [32]) := by
  induction fields with
  | nil => rfl
  | cons f fields ih =>
    have hf : f.print = some (text f) := h f (by simp)
    have hrest := ih fun f' hf' => h f' (by simp [hf'])
    rw [List.length_cons, List.range_succ_eq_map, List.mapM_cons, List.mapM_map]
    simp [Function.comp_def, hf, hrest]

theorem Row.print_eq (r : Row) (text : Field → List UInt8)
    (h : ∀ f ∈ r.fields, f.print = some (text f)) :
    r.print r.fields.length = some (r.fields.flatMap fun f => text f ++ [32]) := by
  rw [Row.print, printFields_eq h, Option.map_some, List.flatMap_def]

end Amy
