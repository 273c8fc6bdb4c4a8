import ScriptHost.Text.Blank

/-!
# Decimal numerals

A numeral is a run of the ten ASCII digits, an integer numeral one with an optional sign
in front. Reading into a machine width refuses what the width cannot hold; it never wraps.
Writing is `Nat.repr` and `Int.repr`: no sign for what is not negative, no leading zero.
-/

namespace ScriptHost.Numeral

/-- The number that a nonempty run of decimal digits denotes. -/
def nat? (cs : List Char) : Option Nat :=
  if cs ≠ [] ∧ cs.all Char.isDigit then some (Nat.ofDigitChars 10 cs 0) else none

/-- The number that an optional sign and a run of digits denote. -/
def int? : List Char → Option Int
  | '-' :: cs => (nat? cs).map fun n => -(n : Int)
  | '+' :: cs => (nat? cs).map Int.ofNat
  | cs => (nat? cs).map Int.ofNat

/-- The 32-bit integer of this value, if there is one. -/
def narrow32? (n : Int) : Option Int32 :=
  if Int32.minValue.toInt ≤ n ∧ n ≤ Int32.maxValue.toInt then some (Int32.ofInt n) else none

/-- The 64-bit integer of this value, if there is one. -/
def narrow64? (n : Int) : Option Int64 :=
  if Int64.minValue.toInt ≤ n ∧ n ≤ Int64.maxValue.toInt then some (Int64.ofInt n) else none

/-- The 32-bit integer that a text denotes once it is trimmed. -/
def int32? (text : String) : Option Int32 :=
  (int? (Text.trim text.toList)).bind narrow32?

/-- The 64-bit integer that a text denotes once it is trimmed. -/
def int64? (text : String) : Option Int64 :=
  (int? (Text.trim text.toList)).bind narrow64?

/-- The plain decimal numeral of a natural number reads back as that number. -/
theorem nat?_toDigits (n : Nat) : nat? (Nat.toDigits 10 n) = some n := by
  have hall : (Nat.toDigits 10 n).all Char.isDigit = true :=
    List.all_eq_true.2 fun c hc => Nat.isDigit_of_mem_toDigits (by decide) (by decide) hc
  rw [nat?, if_pos ⟨Nat.toDigits_ne_nil, hall⟩, Nat.ofDigitChars_ten_toDigits]

end ScriptHost.Numeral
