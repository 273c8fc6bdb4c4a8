import ScriptHost.Json.Basic
import ScriptHost.Text.Numeral

/-!
# Pointers into JSON trees

A pointer names a node by the way down from the root: for each step a slash and a token,
which is a member name or an array index. A tilde or a slash inside a token is written as
`~0` or `~1`, so that a slash always starts a token.

The main statement is `tokens?_extend`: extending a pointer by one token adds exactly that
token to the way it names, whatever characters the token has.
-/

namespace ScriptHost.Pointer

/-! ### Tokens as text -/

/-- How one character is written inside a token. -/
def escapeChar : Char → List Char
  | '~' => ['~', '0']
  | '/' => ['~', '1']
  | c => [c]

/-- The written form of a token. -/
def escape (token : List Char) : List Char :=
  token.flatMap escapeChar

/-- The token of a written form; a tilde before anything but `0` and `1` is left alone. -/
def unescape : List Char → List Char
  | '~' :: '0' :: cs => '~' :: unescape cs
  | '~' :: '1' :: cs => '/' :: unescape cs
  | c :: cs => c :: unescape cs
  | [] => []

/-- The parts between the slashes of a text. -/
def split : List Char → List (List Char)
  | [] => [[]]
  | c :: cs =>
    if c = '/' then [] :: split cs
    else
      match split cs with
      | [] => [[c]]
      | part :: parts => (c :: part) :: parts

/-- The tokens of a pointer: none for the root, and nothing for a text that is no pointer. -/
def tokens? (pointer : String) : Option (List String) :=
  match pointer.toList with
  | [] => some []
  | '/' :: cs => some ((split cs).map fun part => String.ofList (unescape part))
  | _ => none

/-- The pointer one step further down. -/
def extend (pointer token : String) : String :=
  pointer ++ "/" ++ String.ofList (escape token.toList)

/-! ### Following a pointer -/

/-- The array index that a token names: a decimal numeral without sign or leading zero. -/
def index? (token : String) : Option Nat :=
  match token.toList with
  | ['0'] => some 0
  | '0' :: _ => none
  | cs => Numeral.nat? cs

/-- The child of a node under a token. -/
def child? (token : String) : Json → Option Json
  | .object members => Entries.value? token members
  | .array items => (index? token).bind fun i => items[i]?
  | _ => none

/-- The node at the end of a way down. -/
def follow? (j : Json) : List String → Option Json
  | [] => some j
  | t :: ts => (child? t j).bind fun c => follow? c ts

/-- The node that a pointer names. -/
def resolve? (j : Json) (pointer : String) : Option Json :=
  (tokens? pointer).bind (follow? j)

/-- Changes the first entry under a name. -/
def modifyEntry (token : String) (f : Json → Json) : Entries Json → Entries Json
  | [] => []
  | (k, v) :: es => if k = token then (k, f v) :: es else (k, v) :: modifyEntry token f es

/-- Changes the child of a node under a token, if there is one. -/
def modifyChild (token : String) (f : Json → Json) : Json → Json
  | .object members => .object (modifyEntry token f members)
  | .array items =>
    match index? token with
    | some i => .array (items.modify i f)
    | none => .array items
  | j => j

/-- Changes the node at the end of a way down, if there is one. -/
def modifyAt (f : Json → Json) : List String → Json → Json
  | [], j => f j
  | t :: ts, j => modifyChild t (modifyAt f ts) j

/-- Changes the node that a pointer names, if there is one. -/
def modify (pointer : String) (f : Json → Json) (j : Json) : Json :=
  match tokens? pointer with
  | some path => modifyAt f path j
  | none => j

/-! ### Laws of the written form -/

theorem unescape_cons {c : Char} (h : c ≠ '~') (cs : List Char) :
    unescape (c :: cs) = c :: unescape cs := by
  rw [unescape.eq_def]
  split <;> simp_all

theorem unescape_escape (token : List Char) : unescape (escape token) = token := by
  induction token with
  | nil => simp [escape, unescape]
  | cons c cs ih =>
    simp only [escape, List.flatMap_cons] at ih ⊢
    by_cases h0 : c = '~'
    · subst h0; simp [escapeChar, unescape, ih]
    · by_cases h1 : c = '/'
      · subst h1; simp [escapeChar, unescape, ih]
      · have hc : escapeChar c = [c] := by unfold escapeChar; split <;> simp_all
        rw [hc, List.singleton_append, unescape_cons h0, ih]

theorem slash_not_mem_escape (token : List Char) : '/' ∉ escape token := by
  simp only [escape, List.mem_flatMap, not_exists, not_and]
  intro c _ hc
  unfold escapeChar at hc
  split at hc
  · simp at hc
  · simp at hc
  · simp_all [eq_comm]

theorem split_ne_nil (cs : List Char) : split cs ≠ [] := by
  cases cs with
  | nil => simp [split]
  | cons c cs =>
    rw [split]
    split
    · simp
    · split <;> simp

theorem split_of_no_slash {cs : List Char} (h : '/' ∉ cs) : split cs = [cs] := by
  induction cs with
  | nil => rfl
  | cons c cs ih =>
    simp only [List.mem_cons, not_or] at h
    rw [split, if_neg (Ne.symm h.1), ih h.2]

theorem split_append_slash (a : List Char) {b : List Char} (h : '/' ∉ b) :
    split (a ++ '/' :: b) = split a ++ [b] := by
  induction a with
  | nil => simp [split, split_of_no_slash h]
  | cons c a ih =>
    by_cases hc : c = '/'
    · simp [split, hc, ih]
    · simp only [List.cons_append, split, hc, if_false, ih]
      cases hs : split a with
      | nil => exact absurd hs (split_ne_nil a)
      | cons p ps => rfl

theorem extend_toList (pointer token : String) :
    (extend pointer token).toList = pointer.toList ++ '/' :: escape token.toList := by
  simp [extend]

/-- Extending a pointer adds the token, unchanged, to the end of the way it names. -/
theorem tokens?_extend {pointer token : String} {path : List String}
    (h : tokens? pointer = some path) :
    tokens? (extend pointer token) = some (path ++ [token]) := by
  have hb := slash_not_mem_escape token.toList
  rw [tokens?, extend_toList]
  rw [tokens?] at h
  cases hp : pointer.toList with
  | nil =>
    rw [hp] at h
    cases h
    simp [split_of_no_slash hb, unescape_escape]
  | cons c cs =>
    rw [hp] at h
    by_cases hc : c = '/'
    · subst hc
      simp only [Option.some.injEq] at h
      subst h
      simp [split_append_slash cs hb, unescape_escape]
    · simp [hc] at h

end ScriptHost.Pointer
