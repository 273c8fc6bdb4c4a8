import ScriptHost.Proofs.Access.DecimalKey
import ScriptHost.Proofs.Text.Integer

/-!
# Integers through text

An integer of either width is got back from its text, and a text is coerced to the integer that it
expresses. What the width does not hold is not cut down to it: such a text gives the default, like
one that is no numeral. So the two widths differ only where the narrow one has nothing to give, and
the keys of indexed values mean the places that they were made for.

## What is proved

* The integers of a machine word go through text if reading gives what the text expresses
  (`throughText`).
* Those of both widths do, the widths agree where both have the integer, and the key that an element
  is listed under means the index of that element (`integers_go_through_text`).
-/

namespace ScriptHost.Coercion

open Numeral

/-! ### One width -/

/-- **How integers go through text**, where the integers of a type are those from `lo` to `hi`, one
of them is written by `write`, and a text is coerced to one by `read`. -/
structure ThroughText {I : Type} (toInt : I → Int) (lo hi : Int) (write : I → String)
    (read : String → I → I) : Prop where
  /-- An integer is read back from all its spellings, with any blanks around them. -/
  readBack : ∀ x s, Spelling (toInt x) (write x) s → ∀ w₁ w₂ : String, Text.Blanks w₁.toList →
    Text.Blanks w₂.toList → ∀ d, read (w₁ ++ s ++ w₂) d = x
  /-- A text is read as the integer that it expresses, if the type has it. -/
  number : ∀ s m, Expresses s m → lo ≤ m → m ≤ hi → ∀ d, toInt (read s d) = m
  /-- Every other text gives the default. -/
  default : ∀ s, (¬ ∃ m, Expresses s m ∧ lo ≤ m ∧ m ≤ hi) → ∀ d, read s d = d

/-- **Reading what a text expresses** is all that it takes. -/
theorem throughText {I : Type} {toInt : I → Int} {ofInt : Int → I} {lo hi : Int}
    {write : I → String} {read? : String → Option I} (word : Word toInt ofInt lo hi)
    (writes : ∀ x, write x = (toInt x).repr)
    (reads : ∀ {s x}, read? s = some x ↔ Expresses s (toInt x)) :
    ThroughText toInt lo hi write fun s d => (read? s).getD d := by
  refine ⟨fun x s hs w₁ w₂ hw₁ hw₂ d => ?_, fun s m hm hlo hhi d => ?_, fun s hnone d => ?_⟩
  · rw [writes] at hs
    rw [reads.mpr (hs.denotes.expresses hw₁ hw₂), Option.getD_some]
  · obtain ⟨x, rfl⟩ := word.exists_iff.mpr ⟨hlo, hhi⟩
    rw [reads.mpr hm, Option.getD_some]
  · have hread : read? s = none := by
      rw [Option.eq_none_iff_forall_ne_some]
      intro x hx
      exact hnone ⟨toInt x, reads.mp hx, word.bounds x⟩
    rw [hread, Option.getD_none]

/-! ### Both widths -/

theorem throughText_int32 (h : Heap) (e : String) :
    ThroughText Int32.toInt (-2147483648) 2147483647 (fun x => toText h (some (.int32 x)) e)
      fun s d => toInt32 (some (.string s)) d :=
  throughText word32 (fun _ => rfl) int32?_eq_some_iff

theorem throughText_int64 (h : Heap) (e : String) :
    ThroughText Int64.toInt (-9223372036854775808) 9223372036854775807
      (fun x => toText h (some (.int64 x)) e) fun s d => toInt64 (some (.string s)) d :=
  throughText word64 (fun _ => rfl) int64?_eq_some_iff

/-- The first number that 32 bits do not hold gives the default, and does not wrap. -/
example : toInt32 (some (.string "2147483648")) 7 = 7 ∧
    toInt64 (some (.string "2147483648")) 7 = 2147483648 := by decide

/-- **Integers go through text**, whatever the heap and the defaults are.

* An integer of either width is read back from all spellings of its text. A text that expresses an
  integer is read as that integer where the width holds it, and every other text as the default.
* A key is resolved as a text is coerced.
* The widths agree on every integer that the narrow one holds.
* The key that an element is listed under means the index of that element. -/
theorem integers_go_through_text (h : Heap) (e : String) :
    ThroughText Int32.toInt (-2147483648) 2147483647 (fun x => toText h (some (.int32 x)) e)
      (fun s d => toInt32 (some (.string s)) d) ∧
    ThroughText Int64.toInt (-9223372036854775808) 9223372036854775807
      (fun x => toText h (some (.int64 x)) e) (fun s d => toInt64 (some (.string s)) d) ∧
    (∀ s d, toInt32 (some (.string s)) d = parseInt32 s d) ∧
    (∀ s m, Expresses s m → -2147483648 ≤ m → m ≤ 2147483647 → ∀ d d',
      (toInt32 (some (.string s)) d).toInt = (toInt64 (some (.string s)) d').toInt) ∧
    ∀ i : Nat, i < 2147483648 → Access.indexOf i.repr = i ∧
      ∀ length, i < length → (Access.indexKeys length)[i]? = some i.repr := by
  refine ⟨throughText_int32 h e, throughText_int64 h e, fun _ _ => rfl,
    fun s m hm hlo hhi d d' => ?_, fun i hi => ⟨?_, fun length hlength => ?_⟩⟩
  · have hnarrow := (throughText_int32 h e).number s m hm hlo hhi d
    have hwide := (throughText_int64 h e).number s m hm (by omega) (by omega) d'
    exact hnarrow.trans hwide.symm
  · rw [Access.indexOf_repr, if_pos hi]
  · rw [Access.indexKeys, List.getElem?_map, List.getElem?_range hlength, Option.map_some]

/-- The least integer of 64 bits is read back with zeros put into its text and with blanks of
several kinds around it. -/
theorem least_int64_goes_through_text :
    Spelling Int64.minValue.toInt (toText {} (some (.int64 Int64.minValue)) "")
        "-00009223372036854775808" ∧
      Text.Blanks "\u3000\t".toList ∧ Text.Blanks "\u0085\n".toList ∧
      toInt64 (some (.string ("\u3000\t" ++ "-00009223372036854775808" ++ "\u0085\n"))) 7 =
        Int64.minValue := by
  have hspelling : Spelling Int64.minValue.toInt (toText {} (some (.int64 Int64.minValue)) "")
      "-00009223372036854775808" := .zeros 4 .written
  have hfront : Text.Blanks "\u3000\t".toList := by decide
  have hback : Text.Blanks "\u0085\n".toList := by decide
  exact ⟨hspelling, hfront, hback,
    (integers_go_through_text {} "").2.1.readBack _ _ hspelling _ _ hfront hback 7⟩

end ScriptHost.Coercion
