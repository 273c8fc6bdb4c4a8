import Mathlib.Logic.Function.Iterate
import ScriptHost.Proofs.Outcome
import ScriptHost.Record.Field

/-!
# Converting the contents of fields

A content goes out as a slot and comes back as a content. The scalars, texts, values and handles
come back as they are. An optional content has more forms than a slot: a layer around nothing and
nothing itself are the same empty slot, and come back as nothing in the outermost layer.

## What is proved

* A content comes back as it was, or it was a present layer around nothing and comes back as
  nothing; in both cases the slot is the same again (`ofSlot_toSlot`, `ofSlot_toSlot_of_buried`).
* The layers do not look at a present value: the innermost type takes it or not
  (`ofSlot_some`), and a rejection names the innermost type (`ofSlot_eq_error`).
* What was taken from a slot is always one of the contents that come back
  (`ofSlot_toSlot_of_ofSlot`).
-/

namespace ScriptHost

/-- The text of a rejection. -/
theorem Slot.message_mismatch (s : Slot) (expected : Requirement) :
    (s.mismatch expected).message =
      "Type mismatch: expected " ++ expected.name ++ ", found " ++ s.typeName := by
  cases s <;> rfl

namespace FieldType

open Outcome

variable {t : FieldType} {s : Slot} {v : Value} {e : AccessError}

/-! ### Layers -/

/-- What the innermost type asks of a value. -/
def requirement : FieldType → Requirement
  | bool => .ofType .bool
  | int32 => .ofType .int32
  | int64 => .ofType .int64
  | float32 => .ofType .float32
  | float64 => .ofType .float64
  | string => .ofType .string
  | value => .present
  | mapping => .ofType .mapping
  | list => .ofType .list
  | array => .ofType .array
  | object => .ofType .object
  | record => .ofType .record
  | document => .ofType .document
  | option t => requirement t

/-- A content of the innermost type, with all layers present. -/
def wrap : (t : FieldType) → t.core.Carrier → t.Carrier
  | option t, c => some (wrap t c)
  | bool, c | int32, c | int64, c | float32, c | float64, c | string, c | value, c => c
  | mapping, c | list, c | array, c | object, c | record, c | document, c => c

/-- The outermost layer is there, and is empty. -/
def Missing : (t : FieldType) → t.Carrier → Prop
  | option _, none => True
  | _, _ => False

/-- The layers end in an empty one, however many present ones are around it. -/
def Vacant : (t : FieldType) → t.Carrier → Prop
  | option _, none => True
  | option t, some c => Vacant t c
  | _, _ => False

/-- **The contents that a slot cannot tell from nothing**: a present layer around one or more
layers that end in an empty one. -/
def Buried : (t : FieldType) → t.Carrier → Prop
  | option t, some c => Vacant t c
  | _, _ => False

/-- A type is its innermost type under its layers. -/
theorem iterate_option_core (t : FieldType) : option^[t.layers] t.core = t := by
  induction t with
  | option t ih =>
    show option^[t.layers + 1] t.core = option t
    rw [Function.iterate_succ_apply', ih]
  | _ => rfl

/-- The innermost type has no layers. -/
theorem layers_core (t : FieldType) : t.core.layers = 0 := by
  induction t with
  | option t ih => exact ih
  | _ => rfl

theorem requirement_core (t : FieldType) : t.core.requirement = t.requirement := by
  induction t with
  | option t ih => exact ih
  | _ => rfl

/-- What is buried is vacant, and what is vacant is nothing or buried. -/
theorem vacant_iff {x : t.Carrier} : Vacant t x ↔ Missing t x ∨ Buried t x := by
  cases t with
  | option t => cases x <;> simp [Vacant, Missing, Buried]
  | _ => simp [Vacant, Missing, Buried]

/-! ### Out and back -/

/-- The vacant contents, and no others, go out as the empty slot. -/
theorem toSlot_eq_none_iff {x : t.Carrier} : t.toSlot x = none ↔ Vacant t x := by
  induction t with
  | option t ih =>
    cases x with
    | none => simp [toSlot, Vacant]
    | some c => exact ih
  | _ => simp [toSlot, Vacant]

/-- A content that is not vacant comes back as it was. By induction on the layers, all of which
are present. -/
theorem ofSlot_toSlot_of_not_vacant {x : t.Carrier} (hx : ¬ Vacant t x) :
    t.ofSlot (t.toSlot x) = .ok x := by
  induction t with
  | option t ih =>
    cases x with
    | none => exact absurd trivial hx
    | some c =>
      have hback : t.ofSlot (t.toSlot c) = .ok c := ih hx
      cases hslot : t.toSlot c with
      | none => exact absurd (toSlot_eq_none_iff.mp hslot) hx
      | some v =>
        rw [hslot] at hback
        show (option t).ofSlot (t.toSlot c) = _
        rw [hslot, ofSlot, hback]
        rfl
  | _ => rfl

/-- From the empty slot comes nothing, in the outermost layer, for types that have one. -/
theorem ofSlot_none_eq_ok_iff {x : t.Carrier} : t.ofSlot none = .ok x ↔ Missing t x := by
  cases t with
  | option t => cases x <;> simp [ofSlot, Missing]
  | _ => simp [ofSlot, Missing]

theorem exists_missing_iff : (∃ x, Missing t x) ↔ 0 < t.layers := by
  cases t with
  | option t =>
    constructor
    · intro _
      exact Nat.succ_pos _
    · intro _
      exact ⟨none, trivial⟩
  | _ => simp [Missing, layers]

/-- **A content comes back as it was**, unless it is buried. -/
theorem ofSlot_toSlot {x : t.Carrier} (hx : ¬ Buried t x) : t.ofSlot (t.toSlot x) = .ok x := by
  by_cases hvacant : Vacant t x
  · have hmissing : Missing t x := by
      rcases vacant_iff.mp hvacant with h | h
      · exact h
      · exact absurd h hx
    rw [toSlot_eq_none_iff.mpr hvacant]
    exact ofSlot_none_eq_ok_iff.mpr hmissing
  · exact ofSlot_toSlot_of_not_vacant hvacant

/-- **A buried content comes back as nothing.** -/
theorem ofSlot_toSlot_of_buried {x : t.Carrier} (hx : Buried t x) :
    ∃ y, t.ofSlot (t.toSlot x) = .ok y ∧ Missing t y := by
  have hvacant : Vacant t x := vacant_iff.mpr (.inr hx)
  have hlayers : 0 < t.layers := by
    cases t with
    | option t => exact Nat.succ_pos _
    | _ => exact hx.elim
  obtain ⟨y, hy⟩ := exists_missing_iff.mpr hlayers
  refine ⟨y, ?_, hy⟩
  rw [toSlot_eq_none_iff.mpr hvacant]
  exact ofSlot_none_eq_ok_iff.mpr hy

/-- Two layers, and nothing inside of the inner one. -/
example : (option (option int32)).ofSlot ((option (option int32)).toSlot (some none)) = .ok none :=
  rfl

/-! ### What fits -/

/-- Layers do not look at a present value. -/
theorem ofSlot_some (t : FieldType) (v : Value) :
    t.ofSlot (some v) = (t.core.ofSlot (some v)).map t.wrap := by
  induction t with
  | option t ih =>
    rw [ofSlot, ih]
    show _ = (t.core.ofSlot (some v)).map (option t).wrap
    cases t.core.ofSlot (some v) <;> rfl
  | _ => exact (congrFun Except.map_id _).symm

/-- A rejection says what the innermost type asks for, and what was found. -/
theorem ofSlot_eq_error (he : t.ofSlot s = .error e) : e = s.mismatch t.core.requirement := by
  rw [requirement_core]
  fun_induction FieldType.ofSlot t s with
  | case28 t v ih => exact ih (map_eq_error_iff.mp he)
  | _ => cases he <;> rfl

/-- What a present value is converted to is not vacant. -/
theorem not_vacant_of_ofSlot {x : t.Carrier} (hx : t.ofSlot (some v) = .ok x) : ¬ Vacant t x := by
  induction t with
  | option t ih =>
    obtain ⟨c, hc, rfl⟩ := map_eq_ok_iff.mp hx
    exact ih hc
  | _ => exact id

/-- **What was taken from a slot comes back as it is.** -/
theorem ofSlot_toSlot_of_ofSlot {x : t.Carrier} (hx : t.ofSlot s = .ok x) :
    t.ofSlot (t.toSlot x) = .ok x := by
  cases s with
  | none =>
    have hmissing : Missing t x := ofSlot_none_eq_ok_iff.mp hx
    rw [toSlot_eq_none_iff.mpr (vacant_iff.mpr (.inl hmissing))]
    exact hx
  | some v => exact ofSlot_toSlot_of_not_vacant (not_vacant_of_ofSlot hx)

/-- **How the contents of fields of a type are converted.** -/
structure Conversion (t : FieldType) : Prop where
  /-- The type is an innermost one, which has no layers, under any number of layers. -/
  layered : option^[t.layers] t.core = t ∧ t.core.layers = 0
  /-- A content comes back, as far as the slot can tell. It comes back as it was, or it was
  buried and comes back as nothing. -/
  back : ∀ x, ∃ y, t.ofSlot (t.toSlot x) = .ok y ∧ t.toSlot y = t.toSlot x ∧
    (¬ Buried t x → y = x) ∧ (Buried t x → Missing t y)
  /-- The empty slot fits exactly the types with a layer. -/
  absent : (∃ x, t.ofSlot none = .ok x) ↔ 0 < t.layers
  /-- A present value fits as it fits the innermost type, with all layers present. -/
  present : ∀ v x, t.ofSlot (some v) = .ok x ↔ ∃ c, t.core.ofSlot (some v) = .ok c ∧ x = t.wrap c
  /-- A rejection names the innermost type and the type that was found. -/
  rejected : ∀ s e, t.ofSlot s = .error e →
    e = .typeMismatch t.core.requirement (s.map Value.type) ∧
    e.message =
      "Type mismatch: expected " ++ t.core.requirement.name ++ ", found " ++ Slot.typeName s
  /-- What was taken from a slot comes back as it is. -/
  again : ∀ s x, t.ofSlot s = .ok x → t.ofSlot (t.toSlot x) = .ok x

/-- **The contents of fields survive conversion**, under any number of optional layers. -/
theorem conversion_keeps_contents (t : FieldType) : t.Conversion where
  layered := ⟨t.iterate_option_core, t.layers_core⟩
  back := by
    intro x
    by_cases hx : Buried t x
    · obtain ⟨y, hy, hmissing⟩ := ofSlot_toSlot_of_buried hx
      refine ⟨y, hy, ?_, fun h => absurd hx h, fun _ => hmissing⟩
      rw [toSlot_eq_none_iff.mpr (vacant_iff.mpr (.inl hmissing)),
        toSlot_eq_none_iff.mpr (vacant_iff.mpr (.inr hx))]
    · exact ⟨x, ofSlot_toSlot hx, rfl, fun _ => rfl, fun h => absurd h hx⟩
  absent := by
    simp only [ofSlot_none_eq_ok_iff]
    exact exists_missing_iff
  present := by
    intro v x
    rw [ofSlot_some, map_eq_ok_iff]
    simp only [eq_comm]
  rejected := by
    intro s e he
    rw [ofSlot_eq_error he]
    exact ⟨rfl, s.message_mismatch _⟩
  again := by
    intro s x hx
    exact ofSlot_toSlot_of_ofSlot hx

end FieldType

end ScriptHost
