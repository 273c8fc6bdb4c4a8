import Mathlib.Data.List.Basic
import Mathlib.Data.List.Induction
import ScriptHost.Json.Pointer

/-!
# The written form of a pointer

A token is escaped and read back in one pass over its characters. The same can be said with
replacements of the whole text, one after the other, and there the order counts: escaping
replaces the tilde first, and reading back replaces it last. In the other order the token `~1`
would come back as a slash.

A pointer that is built one step after the other names the tokens of these steps, and no two
paths of tokens are written alike.
-/

namespace ScriptHost.Pointer

/-! ### Two replacements -/

/-- Writes a text for each occurrence of a character. -/
def replaceChar (c : Char) (text : List Char) (cs : List Char) : List Char :=
  cs.flatMap fun d => if d = c then text else [d]

/-- Writes a character for each occurrence of two characters in a row. -/
def replacePair (a b c : Char) : List Char → List Char
  | x :: y :: cs =>
    if x = a ∧ y = b then c :: replacePair a b c cs else x :: replacePair a b c (y :: cs)
  | cs => cs

theorem replacePair_match (a b c : Char) (cs : List Char) :
    replacePair a b c (a :: b :: cs) = c :: replacePair a b c cs := by
  rw [replacePair, if_pos ⟨rfl, rfl⟩]

/-- A character that does not begin a match stays. -/
theorem replacePair_skip {a b c x : Char} {cs : List Char} (h : x = a → cs.head? ≠ some b) :
    replacePair a b c (x :: cs) = x :: replacePair a b c cs := by
  cases cs with
  | nil => rfl
  | cons y cs =>
    rw [replacePair, if_neg]
    rintro ⟨hx, hy⟩
    exact h hx (congrArg some hy)

/-- A match is the only thing that changes the first character. -/
theorem head?_replacePair (a b c : Char) (cs : List Char) :
    (replacePair a b c cs).head? = cs.head? ∨ (replacePair a b c cs).head? = some c := by
  match cs with
  | [] => exact .inl rfl
  | [x] => exact .inl rfl
  | x :: y :: cs =>
    rw [replacePair]
    split
    · exact .inr rfl
    · exact .inl rfl

/-- **Escaping** replaces the tildes, and then the slashes. -/
theorem escape_eq_replaceChar (token : List Char) :
    escape token = replaceChar '/' ['~', '1'] (replaceChar '~' ['~', '0'] token) := by
  rw [escape, replaceChar, replaceChar, List.flatMap_assoc]
  refine List.flatMap_congr fun c _ => ?_
  by_cases htilde : c = '~'
  · subst htilde
    rfl
  · by_cases hslash : c = '/'
    · subst hslash
      rfl
    · simp [escapeChar, htilde, hslash]

/-- **Reading back** replaces the written slashes, and then the written tildes. The first pass
puts no `0` behind a tilde that was not there. -/
theorem unescape_eq_replacePair (cs : List Char) :
    unescape cs = replacePair '~' '0' '~' (replacePair '~' '1' '/' cs) := by
  induction cs using unescape.induct with
  | case1 cs ih =>
    have htilde : replacePair '~' '1' '/' ('~' :: '0' :: cs) =
        '~' :: '0' :: replacePair '~' '1' '/' cs := by
      rw [replacePair_skip (by simp), replacePair_skip (by simp)]
    rw [unescape, ih, htilde, replacePair_match]
  | case2 cs ih =>
    rw [unescape, ih, replacePair_match, replacePair_skip (by simp)]
  | case3 c cs hzero hone ih =>
    have hfirst : replacePair '~' '1' '/' (c :: cs) = c :: replacePair '~' '1' '/' cs := by
      refine replacePair_skip fun hc hhead => ?_
      obtain ⟨rest, rfl⟩ := List.head?_eq_some_iff.mp hhead
      exact hone rest hc rfl
    have hsecond : c = '~' → (replacePair '~' '1' '/' cs).head? ≠ some '0' := by
      intro hc hhead
      rcases head?_replacePair '~' '1' '/' cs with h | h
      · obtain ⟨rest, rfl⟩ := List.head?_eq_some_iff.mp (h.symm.trans hhead)
        exact hzero rest hc rfl
      · rw [h] at hhead
        cases hhead
    rw [hfirst, replacePair_skip hsecond, unescape, ih]
    · exact hzero
    · exact hone
  | case4 => rfl

/-- In the other order an escaped tilde before a `1` is read as a slash. -/
example : replacePair '~' '1' '/' (replacePair '~' '0' '~' (escape ['~', '1'])) = ['/'] := by
  decide

/-! ### Pointers of paths -/

/-- The pointer that names these tokens, built one step after the other. -/
def ofTokens (path : List String) : String := path.foldl extend ""

theorem ofTokens_concat (path : List String) (token : String) :
    ofTokens (path ++ [token]) = extend (ofTokens path) token := by
  rw [ofTokens, List.foldl_append]
  rfl

/-- A pointer gives back the tokens that it was built from, whatever characters they have. -/
theorem tokens?_ofTokens (path : List String) : tokens? (ofTokens path) = some path := by
  induction path using List.reverseRecOn with
  | nil => rfl
  | append_singleton path token ih => rw [ofTokens_concat, tokens?_extend ih]

/-- **Pointers are canonical**: no two paths are written alike. -/
theorem ofTokens_inj {p q : List String} : ofTokens p = ofTokens q ↔ p = q := by
  constructor
  · intro h
    have hp := tokens?_ofTokens p
    rw [h, tokens?_ofTokens q] at hp
    exact (Option.some.inj hp).symm
  · rintro rfl
    rfl

end ScriptHost.Pointer
