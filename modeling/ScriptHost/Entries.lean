/-!
# Ordered entries

Associations from names to something, in an order that callers can see. A name that is
put again keeps its place; a new one goes last. Two ways of taking a name out differ in
what they do to the order: `erase` keeps it, `swapErase` fills the gap with the last entry.
-/

namespace ScriptHost

/-- Named entries in order. -/
abbrev Entries (α : Type) := List (String × α)

namespace Entries

variable {α : Type}

/-- The names in order. -/
def names (es : Entries α) : List String :=
  es.map Prod.fst

/-- The first entry under a name. -/
def value? (key : String) : Entries α → Option α
  | [] => none
  | (k, a) :: es => if k = key then some a else value? key es

/-- Replaces the entry under a name in its place, or appends a new one. -/
def put (key : String) (a : α) : Entries α → Entries α
  | [] => [(key, a)]
  | (k, b) :: es => if k = key then (k, a) :: es else (k, b) :: put key a es

/-- Removes the entries under a name; the others keep their order. -/
def erase (key : String) (es : Entries α) : Entries α :=
  es.filter fun e => e.1 ≠ key

/-- Removes the entry under a name and moves the last entry into its place. -/
def swapErase (key : String) (es : Entries α) : Entries α :=
  match es.getLast? with
  | none => []
  | some last =>
    if last.1 = key then es.dropLast
    else if key ∈ names es then es.dropLast.map fun e => if e.1 = key then last else e
    else es

/-- Entries whose repeated names keep the first place and the last value. -/
def ofList (es : List (String × α)) : Entries α :=
  es.foldl (fun acc e => put e.1 e.2 acc) []

/-- Removes the entries under a name and, if there is a value, appends it. -/
def renew (key : String) (a : Option α) (es : Entries α) : Entries α :=
  erase key es ++ (a.map fun a => (key, a)).toList

/-- No name occurs twice. -/
def WellFormed (es : Entries α) : Prop :=
  (names es).Nodup

/-! ### What `put` does -/

@[simp] theorem value?_put_self (key : String) (a : α) (es : Entries α) :
    value? key (put key a es) = some a := by
  induction es with
  | nil => simp [put, value?]
  | cons e es ih =>
    obtain ⟨k, b⟩ := e
    by_cases h : k = key <;> simp [put, value?, h, ih]

theorem value?_put_ne {key other : String} (h : other ≠ key) (a : α) (es : Entries α) :
    value? other (put key a es) = value? other es := by
  induction es with
  | nil => simp [put, value?, Ne.symm h]
  | cons e es ih =>
    obtain ⟨k, b⟩ := e
    by_cases hk : k = key
    · subst hk; simp [put, value?, Ne.symm h]
    · simp [put, hk, value?, ih]

/-- Putting never reorders: the names stay, or grow by the new one at the end. -/
theorem names_put (key : String) (a : α) (es : Entries α) :
    names (put key a es) = if key ∈ names es then names es else names es ++ [key] := by
  induction es with
  | nil => simp [put, names]
  | cons e es ih =>
    obtain ⟨k, b⟩ := e
    by_cases hk : k = key
    · subst hk; simp [put, names]
    · have hk' : ¬ key = k := fun h => hk h.symm
      simp only [names] at ih ⊢
      by_cases hm : key ∈ es.map Prod.fst <;> simp_all [put]

theorem value?_eq_none_iff (key : String) (es : Entries α) :
    value? key es = none ↔ key ∉ names es := by
  induction es with
  | nil => simp [value?, names]
  | cons e es ih =>
    obtain ⟨k, b⟩ := e
    by_cases hk : k = key
    · simp [value?, names, hk]
    · have hk' : ¬ key = k := fun h => hk h.symm
      simp only [names] at ih
      simp [value?, names, hk, hk', ih]

end Entries

end ScriptHost
