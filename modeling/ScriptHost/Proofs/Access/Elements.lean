import ScriptHost.Proofs.Access.PutGet

/-!
# Elements of fixed arrays

An array is its element type and what is read of its places (`FixedArray.ext`). Storing makes of a
slot what the element type sees in it, and puts that in one place (`store_eq_ok_iff`); so what
stores do to each other, and to what is read, is a matter of `List.set`.
-/

namespace ScriptHost

open Outcome

namespace FixedArray

/-- What a place for scalars accepts is stored in the one place. -/
theorem accept_slots {α : Type} {t : ValueType} {view : Value → Option α} {s x : Slot}
    {items : List α} {i : Nat} {wrap : α → Slot} {mk : List α → FixedArray}
    (hmk : ∀ items, (mk items).slots = items.map wrap) (hx : (s.bind view).map wrap = some x) :
    ∃ b, ((accept t view s).map fun c => mk (items.set i c)) = .ok b ∧
      b.slots = (mk items).slots.set i x := by
  obtain ⟨c, hc, rfl⟩ := Option.map_eq_some_iff.mp hx
  refine ⟨mk (items.set i c), map_eq_ok_iff.mpr ⟨c, accept_eq_ok_iff.mpr hc, rfl⟩, ?_⟩
  rw [hmk, hmk, List.map_set]

/-- An array takes what fits its element type, in the one place. -/
theorem store_of_view {a : FixedArray} {i : Nat} {s x : Slot} (hi : i < a.size)
    (hx : a.elementType.view? s = some x) :
    ∃ b, a.store i s = .ok b ∧ b.slots = a.slots.set i x := by
  unfold store
  rw [if_neg (Nat.not_le.mpr hi)]
  cases a with
  | bool items => exact accept_slots (fun _ => rfl) hx
  | int32 items => exact accept_slots (fun _ => rfl) hx
  | int64 items => exact accept_slots (fun _ => rfl) hx
  | float32 items => exact accept_slots (fun _ => rfl) hx
  | float64 items => exact accept_slots (fun _ => rfl) hx
  | string items =>
    cases s with
    | none =>
      cases hx
      exact ⟨.string (items.set i none), rfl, by rw [slots, slots, List.map_set]; rfl⟩
    | some v =>
      cases v with
      | string t =>
        cases hx
        exact ⟨.string (items.set i (some t)), rfl, by rw [slots, slots, List.map_set]; rfl⟩
      | _ => cases hx
  | any items =>
    cases hx
    exact ⟨_, rfl, rfl⟩

theorem store_of_view_none {a : FixedArray} {i : Nat} {s : Slot}
    (hx : a.elementType.view? s = none) : ∃ e, a.store i s = .error e := by
  cases hb : a.store i s with
  | error e => exact ⟨e, rfl⟩
  | ok b =>
    rw [(get_store hb).1] at hx
    cases hx

variable {a b c : FixedArray} {i j : Nat} {s t : Slot}

/-- Arrays of one element type are told apart by reading their elements. -/
theorem ext (htype : a.elementType = b.elementType) (hslots : a.slots = b.slots) : a = b := by
  -- each type reads its elements by a constructor of values, and those are injective
  cases a <;> cases b <;> cases htype
  case any xs ys => exact congrArg any hslots
  case string xs ys =>
    refine congrArg string (List.map_injective_iff.mpr ?_ hslots)
    rintro (- | x) (- | y) hxy <;> simp_all
  all_goals
    refine congrArg _ (List.map_injective_iff.mpr ?_ hslots)
    intro x y hxy
    simpa using hxy

theorem elementType_store (hb : a.store i s = .ok b) : b.elementType = a.elementType := by
  unfold store at hb
  split at hb
  · cases hb
  · cases a with
    | any items =>
      cases hb
      rfl
    | _ =>
      obtain ⟨x, -, rfl⟩ := map_eq_ok_iff.mp hb
      rfl

theorem lt_size_of_store (hb : a.store i s = .ok b) : i < a.size := by
  unfold store at hb
  split at hb
  · cases hb
  · next hi => exact Nat.lt_of_not_le hi

/-- **Storing puts one element in its place**, what the element type sees in the slot. -/
theorem store_eq_ok_iff :
    a.store i s = .ok b ↔ i < a.size ∧ b.elementType = a.elementType ∧
      ∃ x, a.elementType.view? s = some x ∧ b.slots = a.slots.set i x := by
  constructor
  · intro hb
    obtain ⟨hview, -⟩ := get_store hb
    have hi := lt_size_of_store hb
    obtain ⟨c, hc, hslots⟩ := store_of_view hi hview
    have hcb : c = b := Except.ok.inj (hc.symm.trans hb)
    exact ⟨hi, elementType_store hb, _, hview, hcb ▸ hslots⟩
  · rintro ⟨hi, htype, x, hx, hslots⟩
    obtain ⟨c, hc, hslots'⟩ := store_of_view hi hx
    have hcb : c = b :=
      ext ((elementType_store hc).trans htype.symm) (hslots'.trans hslots.symm)
    rw [hc, hcb]

/-- **Different elements** can be stored in either order. -/
theorem store_comm (hij : i ≠ j) (hb : a.store i s = .ok b) (hc : b.store j t = .ok c) :
    ∃ d, a.store j t = .ok d ∧ d.store i s = .ok c := by
  obtain ⟨hi, htype, x, hx, hslots⟩ := store_eq_ok_iff.mp hb
  obtain ⟨hj, htype', y, hy, hslots'⟩ := store_eq_ok_iff.mp hc
  have hsize : b.size = a.size := (get_store hb).2
  rw [htype] at hy htype'
  obtain ⟨d, hd, hdslots⟩ := store_of_view (hsize ▸ hj) hy
  have hdtype := elementType_store hd
  refine ⟨d, hd, store_eq_ok_iff.mpr ⟨?_, htype'.trans hdtype.symm, x, ?_, ?_⟩⟩
  · rwa [(get_store hd).2]
  · rw [hdtype, hx]
  · rw [hslots', hslots, hdslots, List.set_comm x y hij]

end FixedArray

end ScriptHost
