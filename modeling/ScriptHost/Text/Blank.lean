/-!
# Blank characters

The Unicode property White_Space, and the removal of blanks from both ends of a text.
Texts that stand for numbers are read after this trimming, so the set decides which
texts are numbers at all.
-/

namespace ScriptHost.Text

/-- The characters of the Unicode property White_Space. -/
def isBlank (c : Char) : Bool :=
  let n := c.toNat
  (9 ≤ n && n ≤ 13) || n == 0x20 || n == 0x85 || n == 0xa0 || n == 0x1680 ||
    (0x2000 ≤ n && n ≤ 0x200a) || n == 0x2028 || n == 0x2029 || n == 0x202f ||
    n == 0x205f || n == 0x3000

/-- Removes the blanks at the start of a text. -/
def trimStart (cs : List Char) : List Char :=
  cs.dropWhile isBlank

/-- Removes the blanks at the end of a text. -/
def trimEnd (cs : List Char) : List Char :=
  (trimStart cs.reverse).reverse

/-- Removes the blanks at both ends of a text. -/
def trim (cs : List Char) : List Char :=
  trimEnd (trimStart cs)

/-- A text that starts with no blank keeps its start. -/
theorem trimStart_cons {c : Char} (h : isBlank c = false) (cs : List Char) :
    trimStart (c :: cs) = c :: cs := by
  simp [trimStart, h]

/-- Blanks in front of a text are removed with the text's own. -/
theorem trimStart_append {w : List Char} (h : ∀ c ∈ w, isBlank c = true) (cs : List Char) :
    trimStart (w ++ cs) = trimStart cs := by
  induction w with
  | nil => rfl
  | cons c w ih =>
    simp only [List.mem_cons, forall_eq_or_imp] at h
    simp only [trimStart, List.cons_append, List.dropWhile_cons, h.1, if_true]
    exact ih h.2

end ScriptHost.Text
