import ScriptHost.Coercion
import ScriptHost.Proofs.Access.Elements
import ScriptHost.Proofs.Record.Conversion

/-!
# One conversion in three places

Places of arrays, fields of records and coercion each decide for themselves what they make of a
value. A place of an array and a field of the same type decide alike, also on what they say when
they reject; the places that can be empty are fields with one optional layer. Coercion never
rejects, and gives what a field would hold wherever a field takes the value.

## What is proved

* A store puts into the place what the place accepts of a slot (`FixedArray.store_eq`), and that is
  what a field would hold (`ElementType.accepts_eq`).
* A store that fails has not begun to change the array (`FixedArray.exec_storeStepwise`).
* Coercion gives what conversion gives (`Coercion.agrees`).
-/

namespace ScriptHost

open Outcome

namespace ElementType

/-- The type of the fields that hold what the places of an array hold. -/
def fieldType : ElementType → FieldType
  | bool => .bool
  | int32 => .int32
  | int64 => .int64
  | float32 => .float32
  | float64 => .float64
  | string => .option .string
  | any => .option .value

/-- What a place makes of a slot. -/
def accepts : (t : ElementType) → Slot → Except AccessError t.fieldType.Carrier
  | bool, s => FixedArray.accept .bool Value.asBool? s
  | int32, s => FixedArray.accept .int32 Value.asInt32? s
  | int64, s => FixedArray.accept .int64 Value.widenToInt64? s
  | float32, s => FixedArray.accept .float32 Value.widenToFloat32? s
  | float64, s => FixedArray.accept .float64 Value.widenToFloat64? s
  | string, s => FixedArray.acceptText s
  | any, s => .ok s

/-- **A place makes of a slot what a field makes of it.** By cases on the value, for the places and
the fields look at it in different ways. -/
theorem accepts_eq (t : ElementType) (s : Slot) : t.accepts s = t.fieldType.ofSlot s := by
  cases s with
  | none => cases t <;> rfl
  | some v => cases t <;> cases v <;> rfl

/-- A rejection names the element type. -/
theorem name_requirement {t : ElementType} {s : Slot} {e : AccessError}
    (he : t.accepts s = .error e) : t.fieldType.core.requirement.name = t.name := by
  cases t with
  | any => cases he
  | _ => rfl

end ElementType

namespace FixedArray

variable {a b : FixedArray} {i : Nat} {s : Slot}

/-! ### Places -/

/-- Puts a content into a place. -/
def put : (a : FixedArray) → Nat → a.elementType.fieldType.Carrier → FixedArray
  | bool items, i, x => bool (items.set i x)
  | int32 items, i, x => int32 (items.set i x)
  | int64 items, i, x => int64 (items.set i x)
  | float32 items, i, x => float32 (items.set i x)
  | float64 items, i, x => float64 (items.set i x)
  | string items, i, x => string (items.set i x)
  | any items, i, x => any (items.set i x)

theorem store_eq (hi : i < a.size) (s : Slot) :
    a.store i s = (a.elementType.accepts s).map (a.put i) := by
  unfold store
  rw [if_neg (Nat.not_le.mpr hi)]
  cases a <;> rfl

theorem slots_put (a : FixedArray) (i : Nat) (x : a.elementType.fieldType.Carrier) :
    (a.put i x).slots = a.slots.set i (a.elementType.fieldType.toSlot x) := by
  cases a with
  | any items => cases x <;> rfl
  | string items => cases x <;> exact List.map_set
  | _ items => exact List.map_set

theorem elementType_put (a : FixedArray) (i : Nat) (x : a.elementType.fieldType.Carrier) :
    (a.put i x).elementType = a.elementType := by
  cases a <;> rfl

@[simp] theorem size_put (a : FixedArray) (i : Nat) (x : a.elementType.fieldType.Carrier) :
    (a.put i x).size = a.size := by
  rw [← length_slots, slots_put, List.length_set, length_slots]

theorem get_put_self (hi : i < a.size) (x : a.elementType.fieldType.Carrier) :
    (a.put i x).get i = a.elementType.fieldType.toSlot x := by
  rw [get_eq_slots, slots_put, List.getElem?_set_self (by rwa [length_slots])]
  rfl

theorem get_put_ne {j : Nat} (hj : j ≠ i) (x : a.elementType.fieldType.Carrier) :
    (a.put i x).get j = a.get j := by
  rw [get_eq_slots, get_eq_slots, slots_put, List.getElem?_set_ne hj.symm]

/-! ### Storing step by step -/

/-- Stores in an array that is changed in place: the index is looked at first, then the slot, and
the array is changed when there is something to put. -/
def storeStepwise (i : Nat) (s : Slot) : ExceptT AccessError (StateM FixedArray) Unit := do
  let a ← getThe FixedArray
  if a.size ≤ i then throw (.outOfRange (Int64.ofNat i).toInt a.size)
  else
    let x ← ExceptT.mk (pure (a.elementType.accepts s))
    set (a.put i x)

/-- The answer to a store and the array afterwards, which is the same if the store fails. -/
def afterStore (a : FixedArray) :
    Except AccessError FixedArray → Except AccessError Unit × FixedArray
  | .ok b => (.ok (), b)
  | .error e => (.error e, a)

/-- **Storing step by step** comes to the same answer, and leaves the array alone if the answer is
an error. -/
theorem exec_storeStepwise (a : FixedArray) (i : Nat) (s : Slot) :
    (storeStepwise i s).run.run a = a.afterStore (a.store i s) := by
  have hget : (getThe FixedArray : ExceptT AccessError (StateM FixedArray) FixedArray).run.run a =
      (.ok a, a) := rfl
  unfold storeStepwise
  rw [run_bind_ok hget]
  by_cases hi : a.size ≤ i
  · unfold store
    rw [if_pos hi, if_pos hi]
    rfl
  · rw [if_neg hi, store_eq (Nat.lt_of_not_le hi)]
    cases a.elementType.accepts s <;> rfl

end FixedArray

/-! ### Coercion -/

namespace Coercion

/-- **Coercion gives what conversion gives**, whatever the default is. -/
structure Agrees (h : Heap) (v : Value) : Prop where
  bool : ∀ x d, FieldType.bool.ofSlot (some v) = .ok x → toBool (some v) d = x
  int32 : ∀ x d, FieldType.int32.ofSlot (some v) = .ok x → toInt32 (some v) d = x
  int64 : ∀ x d, FieldType.int64.ofSlot (some v) = .ok x → toInt64 (some v) d = x
  float32 : ∀ x d, FieldType.float32.ofSlot (some v) = .ok x → toFloat32 (some v) d = x
  float64 : ∀ x d, FieldType.float64.ofSlot (some v) = .ok x → toFloat64 (some v) d = x
  string : ∀ x d, FieldType.string.ofSlot (some v) = .ok x → toText h (some v) d = x

theorem agrees (h : Heap) (v : Value) : Agrees h v := by
  constructor
  -- a type takes the values that its view sees, and coercion begins with those
  all_goals
    intro x d hx
    cases v <;> cases hx <;> rfl

end Coercion

/-! ### Places, fields and coercion -/

namespace FixedArray

/-- **How storing in a place compares with converting to a field** of the same type. -/
structure StoresAsField (a : FixedArray) (i : Nat) (s : Slot) : Prop where
  /-- A place takes what a field takes. -/
  takes : (∃ b, a.store i s = .ok b) ↔ ∃ x, a.elementType.fieldType.ofSlot s = .ok x
  /-- The place then reads as the field would, and all else is as it was. -/
  stored : ∀ b x, a.store i s = .ok b → a.elementType.fieldType.ofSlot s = .ok x →
    b.get i = a.elementType.fieldType.toSlot x ∧ (∀ j, j ≠ i → b.get j = a.get j) ∧
    b.size = a.size ∧ b.elementType = a.elementType
  /-- They reject with the same error. -/
  rejects : ∀ e, a.store i s = .error e ↔ a.elementType.fieldType.ofSlot s = .error e
  /-- The error is a mismatch that names the element type and what was found. -/
  mismatch : ∀ e, a.store i s = .error e → ∃ expected,
    e = .typeMismatch expected (s.map Value.type) ∧ expected.name = a.elementType.name
  /-- An array that is changed in place is as it was when the store fails. -/
  unchanged : (storeStepwise i s).run.run a = a.afterStore (a.store i s)

/-- **Arrays, fields and coercion make the same of a value**: a place of an array stores what a
field of its type would hold and rejects what the field rejects, and coercion gives the content of
the field for every value that the field takes. -/
theorem places_fields_and_coercion_agree (h : Heap) (a : FixedArray) (i : Fin a.size) (s : Slot)
    (v : Value) : StoresAsField a i s ∧ Coercion.Agrees h v := by
  refine ⟨?_, Coercion.agrees h v⟩
  have hstore : a.store i s = (a.elementType.fieldType.ofSlot s).map (a.put i) := by
    rw [store_eq i.isLt, ElementType.accepts_eq]
  constructor
  · simp only [hstore, map_eq_ok_iff]
    constructor
    · rintro ⟨b, x, hx, -⟩
      exact ⟨x, hx⟩
    · rintro ⟨x, hx⟩
      exact ⟨a.put i x, x, hx, rfl⟩
  · intro b x hb hx
    rw [hstore, hx] at hb
    cases hb
    exact ⟨get_put_self i.isLt x, fun j hj => get_put_ne hj x, a.size_put i x,
      a.elementType_put i x⟩
  · intro e
    rw [hstore, map_eq_error_iff]
  · intro e he
    rw [hstore, map_eq_error_iff] at he
    refine ⟨_, FieldType.ofSlot_eq_error he, ElementType.name_requirement (s := s) (e := e) ?_⟩
    rw [ElementType.accepts_eq, he]
  · exact exec_storeStepwise a i s

end FixedArray

end ScriptHost
