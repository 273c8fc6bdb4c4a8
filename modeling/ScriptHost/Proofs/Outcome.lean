import Mathlib.Data.List.Forall2

/-!
# Outcomes

How a computation that can fail comes to its outcome: a sequence succeeds if all of its
parts do, and otherwise fails as the first part that does. The same for computations that
change a state as they go; what they changed before they failed stays changed.
-/

namespace ScriptHost.Outcome

variable {ε α β : Type}

theorem ok_bind (a : α) (f : α → Except ε β) : (Except.ok a >>= f) = f a := rfl

theorem bind_eq_ok_iff {x : Except ε α} {f : α → Except ε β} {b : β} :
    (x >>= f) = .ok b ↔ ∃ a, x = .ok a ∧ f a = .ok b := by
  cases x <;> simp [bind, Except.bind]

theorem bind_eq_error_iff {x : Except ε α} {f : α → Except ε β} {e : ε} :
    (x >>= f) = .error e ↔ x = .error e ∨ ∃ a, x = .ok a ∧ f a = .error e := by
  cases x <;> simp [bind, Except.bind]

theorem map_eq_ok_iff {x : Except ε α} {f : α → β} {b : β} :
    x.map f = .ok b ↔ ∃ a, x = .ok a ∧ f a = b := by
  cases x <;> simp [Except.map]

theorem map_eq_error_iff {x : Except ε α} {f : α → β} {e : ε} :
    x.map f = .error e ↔ x = .error e := by
  cases x <;> simp [Except.map]

theorem toOption_eq_some_iff {x : Except ε α} {a : α} : x.toOption = some a ↔ x = .ok a := by
  cases x <;> simp [Except.toOption]

theorem map_eq_bind (x : Except ε α) (f : α → β) : x.map f = x >>= fun a => .ok (f a) := by
  cases x <;> rfl

/-- All parts of a sequence succeed if the sequence does, and give its elements. -/
theorem forall₂_of_mapM {f : α → Except ε β} {xs : List α} {ys : List β}
    (h : xs.mapM f = .ok ys) : List.Forall₂ (fun x y => f x = .ok y) xs ys := by
  induction xs generalizing ys with
  | nil =>
    cases h
    exact .nil
  | cons x xs ih =>
    rw [List.mapM_cons] at h
    obtain ⟨y, hy, h⟩ := bind_eq_ok_iff.mp h
    obtain ⟨zs, hzs, h⟩ := bind_eq_ok_iff.mp h
    cases h
    exact .cons hy (ih hzs)

theorem exists_of_mapM_ok {f : α → Except ε β} {xs : List α} {ys : List β}
    (h : xs.mapM f = .ok ys) : ∀ x ∈ xs, ∃ y, f x = .ok y := by
  intro x hx
  have hall := forall₂_of_mapM h
  clear h
  induction hall with
  | nil => cases hx
  | cons hy _ ih =>
    rcases List.mem_cons.mp hx with rfl | hx
    · exact ⟨_, hy⟩
    · exact ih hx

theorem exists_of_mem_mapM {f : α → Except ε β} {xs : List α} {ys : List β}
    (h : xs.mapM f = .ok ys) : ∀ y ∈ ys, ∃ x ∈ xs, f x = .ok y := by
  intro y hy
  have hall := forall₂_of_mapM h
  clear h
  induction hall with
  | nil => cases hy
  | @cons x z xs zs hx _ ih =>
    rcases List.mem_cons.mp hy with rfl | hy
    · exact ⟨x, List.mem_cons_self, hx⟩
    · obtain ⟨w, hw, hfw⟩ := ih hy
      exact ⟨w, List.mem_cons_of_mem x hw, hfw⟩

/-- A sequence fails as the first of its parts that fails. -/
theorem exists_of_mapM_error {f : α → Except ε β} {xs : List α} {e : ε}
    (h : xs.mapM f = .error e) :
    ∃ (i : Nat) (x : α), xs[i]? = some x ∧ f x = .error e ∧
      ∀ (k : Nat) (y : α), k < i → xs[k]? = some y → ∃ z, f y = .ok z := by
  induction xs with
  | nil => cases h
  | cons x xs ih =>
    rw [List.mapM_cons] at h
    rcases bind_eq_error_iff.mp h with hx | ⟨y, hy, h⟩
    · exact ⟨0, x, rfl, hx, fun k _ hk => absurd hk (Nat.not_lt_zero k)⟩
    · rcases bind_eq_error_iff.mp h with hxs | ⟨zs, -, h⟩
      · obtain ⟨i, w, hi, hw, hbefore⟩ := ih hxs
        refine ⟨i + 1, w, hi, hw, fun k v hk hv => ?_⟩
        cases k with
        | zero =>
          cases hv
          exact ⟨y, hy⟩
        | succ k => exact hbefore k v (Nat.lt_of_succ_lt_succ hk) hv
      · cases h

/-! ### Faults -/

/-- **The outcome of a check that reports the first of its faults**, and gives a result if
there are none. -/
def reporting : List ε → α → Except ε α
  | [], a => .ok a
  | e :: _, _ => .error e

theorem reporting_eq_ok_iff {es : List ε} {a b : α} :
    reporting es a = .ok b ↔ es = [] ∧ b = a := by
  cases es <;> simp [reporting, eq_comm]

theorem reporting_eq_error_iff {es : List ε} {a : α} {e : ε} :
    reporting es a = .error e ↔ es.head? = some e := by
  cases es <;> simp [reporting]

theorem reporting_ite {p : Prop} [Decidable p] (e : ε) (a : α) :
    reporting (if p then [e] else []) a = if p then .error e else .ok a := by
  split <;> rfl

/-- What is checked later is reported later. -/
theorem reporting_bind {es es' : List ε} {a : α} {b : β} {f : α → Except ε β}
    (hf : es = [] → f a = reporting es' b) :
    (reporting es a >>= f) = reporting (es ++ es') b := by
  cases es with
  | nil => exact hf rfl
  | cons e es => rfl

theorem reporting_bind_ok {es : List ε} {a : α} {b : β} {f : α → Except ε β}
    (hf : es = [] → f a = .ok b) : (reporting es a >>= f) = reporting es b := by
  cases es with
  | nil => exact hf rfl
  | cons e es => rfl

/-- A run through a list reports the first fault of its elements, if what is wrong with an
element does not depend on those before it. -/
theorem foldlM_eq_reporting {f : β → α → Except ε β} {wrong : α → List ε} {g : β → α → β}
    (hf : ∀ b a, f b a = reporting (wrong a) (g b a)) (xs : List α) (b : β) :
    xs.foldlM f b = reporting (xs.flatMap wrong) (xs.foldl g b) := by
  induction xs generalizing b with
  | nil => rfl
  | cons x xs ih =>
    rw [List.foldlM_cons, hf, List.flatMap_cons, List.foldl_cons]
    exact reporting_bind fun _ => ih _

/-! ### Two computations side by side -/

/-- **Two computations end alike**: they fail in the same way, or they succeed with related
results. -/
inductive Alike (R : α → β → Prop) : Except ε α → Except ε β → Prop where
  | ok {a : α} {b : β} (related : R a b) : Alike R (.ok a) (.ok b)
  | error (e : ε) : Alike R (.error e) (.error e)

theorem Alike.bind {γ δ : Type} {R : α → β → Prop} {S : γ → δ → Prop} {x : Except ε α}
    {y : Except ε β} {f : α → Except ε γ} {g : β → Except ε δ} (h : Alike R x y)
    (hfg : ∀ a b, R a b → Alike S (f a) (g b)) : Alike S (x >>= f) (y >>= g) := by
  cases h with
  | ok related => exact hfg _ _ related
  | error e => exact .error e

theorem Alike.map {γ δ : Type} {R : α → β → Prop} {S : γ → δ → Prop} {x : Except ε α}
    {y : Except ε β} {f : α → γ} {g : β → δ} (h : Alike R x y)
    (hfg : ∀ a b, R a b → S (f a) (g b)) : Alike S (x.map f) (y.map g) := by
  cases h with
  | ok related => exact .ok (hfg _ _ related)
  | error e => exact .error e

/-- The first parts of two computations are the same. -/
theorem Alike.bind_same {γ δ : Type} {S : γ → δ → Prop} {x : Except ε α} {f : α → Except ε γ}
    {g : α → Except ε δ} (hfg : ∀ a, x = .ok a → Alike S (f a) (g a)) :
    Alike S (x >>= f) (x >>= g) := by
  cases x with
  | ok a => exact hfg a rfl
  | error e => exact .error e

/-! ### With a state -/

section State

variable {σ : Type} {m : ExceptT ε (StateM σ) α} {k : α → ExceptT ε (StateM σ) β}
  {handle : ε → ExceptT ε (StateM σ) α} {s t : σ} {a : α} {e : ε}

theorem run_bind_ok (hm : m.run.run s = (.ok a, t)) : (m >>= k).run.run s = (k a).run.run t := by
  simp only [ExceptT.run_bind, StateT.run_bind, hm]
  rfl

theorem run_bind_error (hm : m.run.run s = (.error e, t)) :
    (m >>= k).run.run s = (.error e, t) := by
  simp only [ExceptT.run_bind, StateT.run_bind, hm]
  rfl

theorem run_tryCatch_ok (hm : m.run.run s = (.ok a, t)) :
    (tryCatch m handle).run.run s = (.ok a, t) := by
  change (bind (m := StateM σ) m.run fun
    | .ok a => pure (.ok a)
    | .error e => (handle e).run).run s = _
  rw [StateT.run_bind, hm]
  rfl

theorem run_tryCatch_error (hm : m.run.run s = (.error e, t)) :
    (tryCatch m handle).run.run s = (handle e).run.run t := by
  change (bind (m := StateM σ) m.run fun
    | .ok a => pure (.ok a)
    | .error e => (handle e).run).run s = _
  rw [StateT.run_bind, hm]
  rfl

end State

end ScriptHost.Outcome
