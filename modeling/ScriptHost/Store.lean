/-!
# Stores and holds

A store keeps cells at addresses that are given out in order and never reused. Writing to
an address that was never given out changes nothing, and reading there gives a default.

A cell also carries its hold: how many readers have it open, or that one writer has. A
reader needs that no writer is there, a writer that nobody is.
-/

namespace ScriptHost

/-- Cells at consecutive addresses. -/
structure Store (α : Type) where
  /-- The cells in order of their addresses. -/
  cells : Array α
  deriving Repr, DecidableEq

namespace Store

variable {α : Type}

/-- The store without cells. -/
def empty : Store α := ⟨#[]⟩

instance : Inhabited (Store α) := ⟨empty⟩

/-- The number of addresses given out. -/
def size (s : Store α) : Nat := s.cells.size

/-- The cell at an address. -/
def get [Inhabited α] (s : Store α) (a : Nat) : α := s.cells[a]?.getD default

/-- Replaces the cell at an address. -/
def set (s : Store α) (a : Nat) (x : α) : Store α := ⟨s.cells.setIfInBounds a x⟩

/-- Changes the cell at an address. -/
def modify [Inhabited α] (s : Store α) (a : Nat) (f : α → α) : Store α := s.set a (f (s.get a))

/-- Adds a cell, and gives its address. -/
def add (s : Store α) (x : α) : Store α × Nat := (⟨s.cells.push x⟩, s.cells.size)

/-! ### What `set` does -/

theorem get_set_self [Inhabited α] {s : Store α} {a : Nat} (h : a < s.size) (x : α) :
    (s.set a x).get a = x := by
  have h' : a < s.cells.size := h
  simp [get, set, h']

theorem get_set_ne [Inhabited α] {a b : Nat} (h : a ≠ b) (s : Store α) (x : α) :
    (s.set a x).get b = s.get b := by
  simp [get, set, h]

@[simp] theorem size_set (s : Store α) (a : Nat) (x : α) : (s.set a x).size = s.size := by
  simp [size, set]

/-- Writing back what is there changes nothing. -/
theorem set_get [Inhabited α] (s : Store α) (a : Nat) : s.set a (s.get a) = s := by
  obtain ⟨cells⟩ := s
  simp only [set, get, mk.injEq]
  by_cases h : a < cells.size
  · refine Array.ext (by simp) fun i hi hi' => ?_
    rw [Array.getElem_setIfInBounds]
    split
    · next hai => subst hai; simp [h]
    · rfl
  · exact Array.setIfInBounds_eq_of_size_le (Nat.le_of_not_lt h)

theorem set_set_self (s : Store α) (a : Nat) (x y : α) : (s.set a x).set a y = s.set a y := by
  simp [set]

theorem set_comm {a b : Nat} (h : a ≠ b) (s : Store α) (x y : α) :
    (s.set a x).set b y = (s.set b y).set a x := by
  simp only [set, mk.injEq]
  exact Array.setIfInBounds_comm x y h

end Store

/-- Who has a cell open. -/
inductive Hold where
  /-- This many readers. -/
  | shared (readers : Nat)
  /-- One writer. -/
  | exclusive
  deriving DecidableEq, Repr

namespace Hold

/-- Nobody. -/
def free : Hold := shared 0

instance : Inhabited Hold := ⟨free⟩

/-- Whether a further reader may open the cell. -/
def readable : Hold → Bool
  | shared _ => true
  | exclusive => false

theorem readable_iff {h : Hold} : h.readable = true ↔ h ≠ exclusive := by
  cases h <;> simp [readable]

/-- Whether a writer may open the cell. -/
def writable (h : Hold) : Bool :=
  h == free

/-- One more reader. -/
def enter : Hold → Hold
  | shared n => shared (n + 1)
  | exclusive => exclusive

/-- One reader less, or the writer gone. -/
def leave : Hold → Hold
  | shared n => shared (n - 1)
  | exclusive => free

end Hold

/-- Content together with who has it open. -/
structure Cell (α : Type) where
  /-- The content. -/
  content : α
  /-- Who has the cell open. -/
  hold : Hold := .free
  deriving DecidableEq, Repr

instance {α : Type} [Inhabited α] : Inhabited (Cell α) := ⟨⟨default, .free⟩⟩

end ScriptHost
