import ScriptHost.Json.Pointer
import ScriptHost.Proofs.Entries
import ScriptHost.Proofs.Text.Numeral

/-!
# Writing along a path

A pointer is a text, but what it means is a list of tokens, the path from the root. A write
at the end of a path changes the nodes on the path and what lies below its end. Every other
node is reached by a path that leaves this one somewhere, and is found there unchanged.

Over an array two tokens never name the same item: an index has one numeral, and a text
that is no such numeral names nothing.
-/

namespace ScriptHost.Pointer

/-! ### Array indices -/

@[simp] theorem index?_repr (n : Nat) : index? n.repr = some n := by
  rw [index?, Nat.toList_repr]
  split
  · next h =>
    by_cases hn : n = 0
    · rw [hn]
    · exact absurd h (Numeral.head_toDigits_ne_zero hn)
  · next hne h =>
    by_cases hn : n = 0
    · subst hn
      rw [Nat.toDigits_zero] at h
      exact absurd (List.cons.inj h).2.symm hne
    · exact absurd h (Numeral.head_toDigits_ne_zero hn)
  · exact Numeral.nat?_toDigits n

/-- The tokens that name an index are its numerals, and there is one. -/
theorem index?_eq_some_iff {token : String} {n : Nat} : index? token = some n ↔ token = n.repr := by
  refine ⟨fun h => ?_, fun h => h ▸ index?_repr n⟩
  rw [← String.toList_inj, Nat.toList_repr]
  rw [index?] at h
  split at h
  · next ht =>
    cases h
    rw [ht, Nat.toDigits_zero]
  · cases h
  · next _ hleading =>
    cases hcs : token.toList with
    | nil =>
      rw [hcs, Numeral.nat?] at h
      simp at h
    | cons c cs =>
      rw [hcs] at h
      refine Numeral.eq_toDigits_of_nat? ?_ h
      rintro rfl
      exact hleading _ hcs

/-! ### One step -/

@[simp] theorem value?_modifyEntry_self (token : String) (f : Json → Json) (es : Entries Json) :
    Entries.value? token (modifyEntry token f es) = (Entries.value? token es).map f := by
  induction es with
  | nil => rfl
  | cons e es ih =>
    obtain ⟨k, j⟩ := e
    by_cases hk : k = token <;> simp [modifyEntry, Entries.value?, hk, ih]

theorem value?_modifyEntry_ne {token other : String} (hne : other ≠ token) (f : Json → Json)
    (es : Entries Json) :
    Entries.value? other (modifyEntry token f es) = Entries.value? other es := by
  induction es with
  | nil => rfl
  | cons e es ih =>
    obtain ⟨k, j⟩ := e
    by_cases hk : k = token
    · subst hk
      simp [modifyEntry, Entries.value?, Ne.symm hne]
    · simp [modifyEntry, Entries.value?, hk, ih]

@[simp] theorem names_modifyEntry (token : String) (f : Json → Json) (es : Entries Json) :
    Entries.names (modifyEntry token f es) = Entries.names es := by
  induction es with
  | nil => rfl
  | cons e es ih =>
    obtain ⟨k, j⟩ := e
    by_cases hk : k = token <;> simp [modifyEntry, hk, ih]

theorem mem_modifyEntry {token : String} {f : Json → Json} {es : Entries Json}
    {e : String × Json} (h : e ∈ modifyEntry token f es) :
    e ∈ es ∨ ∃ j, (token, j) ∈ es ∧ e = (token, f j) := by
  induction es with
  | nil => cases h
  | cons d es ih =>
    obtain ⟨k, j⟩ := d
    rw [modifyEntry] at h
    split at h
    · next hk =>
      subst hk
      rcases List.mem_cons.mp h with rfl | h
      · exact Or.inr ⟨j, List.mem_cons_self, rfl⟩
      · exact Or.inl (List.mem_cons_of_mem _ h)
    · rcases List.mem_cons.mp h with rfl | h
      · exact Or.inl List.mem_cons_self
      · exact (ih h).imp (List.mem_cons_of_mem _) fun ⟨i, hi, he⟩ =>
          ⟨i, List.mem_cons_of_mem _ hi, he⟩

theorem child?_modifyChild_self (token : String) (f : Json → Json) (j : Json) :
    child? token (modifyChild token f j) = (child? token j).map f := by
  cases j with
  | object members => simp [modifyChild, child?]
  | array items =>
    rw [modifyChild]
    cases hi : index? token with
    | none => simp [child?, hi]
    | some i => simp [child?, hi]
  | _ => rfl

/-- A step under another token sees nothing of a change. -/
theorem child?_modifyChild_ne {token other : String} (hne : other ≠ token) (f : Json → Json)
    (j : Json) : child? other (modifyChild token f j) = child? other j := by
  cases j with
  | object members => exact value?_modifyEntry_ne hne f members
  | array items =>
    rw [modifyChild]
    cases hi : index? token with
    | none => rfl
    | some i =>
      rw [child?, child?]
      cases hk : index? other with
      | none => rfl
      | some k =>
        have hik : i ≠ k := by
          rintro rfl
          rw [index?_eq_some_iff] at hi hk
          exact hne (hk.trans hi.symm)
        simp [hik]
  | _ => rfl

theorem modifyEntry_eq_self {token : String} {f : Json → Json} {es : Entries Json} {c : Json}
    (h : Entries.value? token es = some c) (hf : f c = c) : modifyEntry token f es = es := by
  induction es with
  | nil => rfl
  | cons e es ih =>
    obtain ⟨k, j⟩ := e
    rw [Entries.value?] at h
    rw [modifyEntry]
    by_cases hk : k = token
    · rw [if_pos hk] at h
      cases h
      rw [if_pos hk, hf]
    · rw [if_neg hk] at h
      rw [if_neg hk, ih h]

theorem modifyChild_eq_self {token : String} {f : Json → Json} {j c : Json}
    (h : child? token j = some c) (hf : f c = c) : modifyChild token f j = j := by
  cases j with
  | object members => exact congrArg Json.object (modifyEntry_eq_self h hf)
  | array items =>
    rw [modifyChild]
    rw [child?] at h
    cases hi : index? token with
    | none => rfl
    | some i =>
      rw [hi] at h
      refine congrArg Json.array (List.ext_getElem? fun k => ?_)
      rw [List.getElem?_modify]
      split
      · next hik =>
        subst hik
        have hic : items[i]? = some c := h
        rw [hic]
        exact congrArg some hf
      · exact id_map _
  | _ => rfl

/-- The outline of a node: the names of its members, or the number of its items. -/
theorem outline_modifyChild (token : String) (f : Json → Json) (j : Json) :
    (modifyChild token f j).members?.map Entries.names = j.members?.map Entries.names ∧
      (modifyChild token f j).items?.map List.length = j.items?.map List.length := by
  cases j with
  | object members => exact ⟨congrArg some (names_modifyEntry token f members), rfl⟩
  | array items =>
    rw [modifyChild]
    cases index? token with
    | none => exact ⟨rfl, rfl⟩
    | some i => exact ⟨rfl, congrArg some (List.length_modify ..)⟩
  | _ => exact ⟨rfl, rfl⟩

/-! ### Whole paths -/

@[simp] theorem follow?_nil (j : Json) : follow? j [] = some j := rfl

@[simp] theorem follow?_cons (j : Json) (t : String) (ts : List String) :
    follow? j (t :: ts) = (child? t j).bind fun c => follow? c ts := rfl

/-- Following `p ++ q` is following `p`, and `q` from there. -/
theorem follow?_append (j : Json) (p q : List String) :
    follow? j (p ++ q) = (follow? j p).bind fun c => follow? c q := by
  induction p generalizing j with
  | nil => rfl
  | cons t p ih =>
    simp only [List.cons_append, follow?_cons]
    cases child? t j with
    | none => rfl
    | some c => exact ih c

/-- What stands on the way to a change is itself changed, further down. -/
theorem follow?_modifyAt_append (f : Json → Json) (p q : List String) (j : Json) :
    follow? (modifyAt f (p ++ q) j) p = (follow? j p).map (modifyAt f q) := by
  induction p generalizing j with
  | nil => rfl
  | cons t p ih =>
    rw [List.cons_append, modifyAt, follow?_cons, follow?_cons, child?_modifyChild_self]
    cases child? t j with
    | none => rfl
    | some c => exact ih c

theorem follow?_modifyAt_self (f : Json → Json) (p : List String) (j : Json) :
    follow? (modifyAt f p j) p = (follow? j p).map f := by
  have h := follow?_modifyAt_append f p [] j
  rwa [List.append_nil] at h

/-- A change that keeps the node at the end of a path changes nothing. -/
theorem modifyAt_eq_self {p : List String} {f : Json → Json} {j c : Json}
    (h : follow? j p = some c) (hf : f c = c) : modifyAt f p j = j := by
  induction p generalizing j with
  | nil =>
    cases h
    exact hf
  | cons t ts ih =>
    obtain ⟨d, hd, hc⟩ := Option.bind_eq_some_iff.mp h
    exact modifyChild_eq_self hd (ih hc)

/-- Two paths of which each leaves the other. -/
def Apart (p q : List String) : Prop := ¬ p <+: q ∧ ¬ q <+: p

theorem Apart.of_cons {t : String} {p q : List String} (h : Apart (t :: p) (t :: q)) : Apart p q :=
  ⟨fun hpq => h.1 (List.cons_prefix_cons.mpr ⟨rfl, hpq⟩),
    fun hqp => h.2 (List.cons_prefix_cons.mpr ⟨rfl, hqp⟩)⟩

/-- **Locality**: a change at one path is not seen from a path apart from it. -/
theorem follow?_modifyAt_apart {p q : List String} (hpq : Apart p q) (f : Json → Json) (j : Json) :
    follow? (modifyAt f p j) q = follow? j q := by
  induction p generalizing q j with
  | nil => exact absurd List.nil_prefix hpq.1
  | cons t p ih =>
    cases q with
    | nil => exact absurd List.nil_prefix hpq.2
    | cons u q =>
      rw [modifyAt, follow?_cons, follow?_cons]
      by_cases hut : u = t
      · subst hut
        rw [child?_modifyChild_self]
        cases child? u j with
        | none => rfl
        | some c => exact ih hpq.of_cons c
      · rw [child?_modifyChild_ne hut]

/-- A path apart from `p ++ [t]` leaves `p`, or goes on from its end by another token. -/
theorem Apart.append_singleton {p q : List String} {t : String} (h : Apart (p ++ [t]) q) :
    Apart p q ∨ ∃ u us, u ≠ t ∧ q = p ++ u :: us := by
  by_cases hpq : p <+: q
  · obtain ⟨r, rfl⟩ := hpq
    cases r with
    | nil => exact absurd (by simp) h.2
    | cons u us =>
      refine Or.inr ⟨u, us, ?_, rfl⟩
      rintro rfl
      exact h.1 ⟨us, by simp⟩
  · refine Or.inl ⟨hpq, fun hqp => h.2 (hqp.trans (List.prefix_append p [t]))⟩

end ScriptHost.Pointer
