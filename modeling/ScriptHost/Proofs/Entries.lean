import ScriptHost.Entries
import Mathlib.Data.List.Nodup

/-!
# Laws of ordered entries

What putting and removing do to the names, their order, and the other entries. Entries
with distinct names are determined by which pairs they hold, so a removal that reorders
entries still keeps what stands under every other name.
-/

namespace ScriptHost.Entries

variable {α : Type}

@[simp] theorem names_nil : names ([] : Entries α) = [] := rfl

@[simp] theorem names_cons (e : String × α) (es : Entries α) :
    names (e :: es) = e.1 :: names es := rfl

@[simp] theorem names_append (es fs : Entries α) : names (es ++ fs) = names es ++ names fs :=
  List.map_append

theorem mem_names_of_mem {key : String} {a : α} {es : Entries α} (h : (key, a) ∈ es) :
    key ∈ names es := List.mem_map_of_mem h

theorem exists_mem_of_mem_names {key : String} {es : Entries α} (h : key ∈ names es) :
    ∃ a, (key, a) ∈ es := by
  obtain ⟨⟨k, a⟩, he, rfl⟩ := List.mem_map.mp h
  exact ⟨a, he⟩

/-! ### Looking up -/

theorem mem_of_value? {key : String} {a : α} {es : Entries α} (h : value? key es = some a) :
    (key, a) ∈ es := by
  induction es with
  | nil => cases h
  | cons e es ih =>
    obtain ⟨k, b⟩ := e
    rw [value?] at h
    split at h
    · next hk =>
      cases h
      rw [hk]
      exact List.mem_cons_self
    · exact List.mem_cons_of_mem _ (ih h)

/-- Where names are distinct, looking up a name finds its only entry. -/
theorem value?_eq_some_iff {es : Entries α} (wf : WellFormed es) {key : String} {a : α} :
    value? key es = some a ↔ (key, a) ∈ es := by
  refine ⟨mem_of_value?, fun hm => ?_⟩
  induction es with
  | nil => cases hm
  | cons e es ih =>
    obtain ⟨k, b⟩ := e
    obtain ⟨hk, wf⟩ := List.nodup_cons.mp wf
    rw [value?]
    rcases List.mem_cons.mp hm with he | hm
    · cases he
      rw [if_pos rfl]
    · rw [if_neg, ih wf hm]
      rintro rfl
      exact hk (mem_names_of_mem hm)

/-- The order of entries with distinct names does not matter to a look-up. -/
theorem value?_perm {es fs : Entries α} (wf : WellFormed es) (p : es.Perm fs) (key : String) :
    value? key es = value? key fs := by
  have wf' : WellFormed fs := (p.map Prod.fst).nodup_iff.mp wf
  ext a
  rw [value?_eq_some_iff wf, value?_eq_some_iff wf', p.mem_iff]

theorem value?_append_cons_ne {key other : String} (h : other ≠ key) (a : α) (es fs : Entries α) :
    value? other (es ++ (key, a) :: fs) = value? other (es ++ fs) := by
  induction es with
  | nil => simp [value?, Ne.symm h]
  | cons e es ih =>
    obtain ⟨k, b⟩ := e
    simp only [List.cons_append, value?, ih]

/-! ### Putting -/

theorem WellFormed.put {es : Entries α} (wf : WellFormed es) (key : String) (a : α) :
    WellFormed (put key a es) := by
  rw [WellFormed, names_put]
  split
  · exact wf
  · next h => exact List.nodup_append.mpr ⟨wf, List.nodup_singleton key, by
      rintro k hk _ (_ | ⟨_, ⟨⟩⟩) rfl
      exact h hk⟩

theorem mem_put {key : String} {a : α} {es : Entries α} {e : String × α}
    (h : e ∈ put key a es) : e = (key, a) ∨ e ∈ es := by
  induction es with
  | nil => exact Or.inl (List.mem_singleton.mp h)
  | cons f es ih =>
    obtain ⟨k, b⟩ := f
    rw [Entries.put] at h
    split at h
    · next hk =>
      rcases List.mem_cons.mp h with rfl | h
      · exact Or.inl (by rw [hk])
      · exact Or.inr (List.mem_cons_of_mem _ h)
    · rcases List.mem_cons.mp h with rfl | h
      · exact Or.inr List.mem_cons_self
      · exact (ih h).imp_right (List.mem_cons_of_mem _)

/-- Entries can be put in either order, if one of them has its place already. -/
theorem put_comm {key other : String} (hne : key ≠ other) {es : Entries α}
    (hkey : key ∈ names es) (a b : α) :
    put key a (put other b es) = put other b (put key a es) := by
  induction es with
  | nil => cases hkey
  | cons e es ih =>
    obtain ⟨k, c⟩ := e
    by_cases hk : k = key
    · subst hk
      simp [Entries.put, hne]
    · have hes : key ∈ names es := by
        rcases List.mem_cons.mp hkey with heq | hes
        · exact absurd heq.symm hk
        · exact hes
      by_cases hk' : k = other
      · subst hk'
        simp [Entries.put, hk]
      · simp [Entries.put, hk, hk', ih hes]

/-! ### Removing -/

/-- Moves the last element to the front. -/
def lastFirst {β : Type} (xs : List β) : List β := xs.getLast?.toList ++ xs.dropLast

theorem lastFirst_perm {β : Type} (xs : List β) : (lastFirst xs).Perm xs := by
  rcases List.eq_nil_or_concat xs with rfl | ⟨ys, y, rfl⟩
  · exact .refl _
  · simp only [lastFirst, List.concat_eq_append, List.getLast?_concat, List.dropLast_concat]
    exact List.perm_append_comm

theorem swapErase_of_not_mem {key : String} {es : Entries α} (h : key ∉ names es) :
    swapErase key es = es := by
  rcases List.eq_nil_or_concat es with rfl | ⟨fs, last, rfl⟩
  · rfl
  · rw [List.concat_eq_append] at h ⊢
    have hlast : last.1 ≠ key := by
      rintro rfl
      exact h (by simp)
    rw [swapErase, List.getLast?_concat]
    simp only [if_neg hlast, if_neg h]

/-- **Removal**: the entry under the name goes, and the last entry takes its place. -/
theorem swapErase_append_cons {key : String} {a : α} {es fs : Entries α}
    (wf : WellFormed (es ++ (key, a) :: fs)) :
    swapErase key (es ++ (key, a) :: fs) = es ++ lastFirst fs := by
  rw [WellFormed, names_append, names_cons, List.nodup_append] at wf
  obtain ⟨-, hfs, hes⟩ := wf
  rw [List.nodup_cons] at hfs
  rcases List.eq_nil_or_concat fs with rfl | ⟨gs, last, rfl⟩
  · rw [swapErase, List.getLast?_concat]
    simp [lastFirst]
  · rw [List.concat_eq_append] at hfs ⊢
    have hlast : last.1 ≠ key := by
      rintro rfl
      exact hfs.1 (by simp)
    have hkeep : ∀ e ∈ es ++ gs, e.1 ≠ key := by
      rintro ⟨k, b⟩ he rfl
      rcases List.mem_append.mp he with he | he
      · exact hes k (mem_names_of_mem he) k List.mem_cons_self rfl
      · exact hfs.1 (by rw [names_append]; exact List.mem_append_left _ (mem_names_of_mem he))
    have hmap : ∀ xs : Entries α, (∀ e ∈ xs, e ∈ es ++ gs) →
        xs.map (fun e => if e.1 = key then last else e) = xs := fun xs hxs =>
      (List.map_congr_left fun e he => if_neg (hkeep e (hxs e he))).trans (List.map_id xs)
    rw [swapErase, ← List.cons_append, ← List.append_assoc, List.getLast?_concat]
    simp only [if_neg hlast, List.dropLast_concat]
    rw [if_pos (by simp), List.map_append, List.map_cons, if_pos rfl,
      hmap es fun e he => List.mem_append_left _ he, hmap gs fun e he => List.mem_append_right _ he]
    simp [lastFirst]

/-- An entry under a name, with what stands before and behind it. -/
theorem exists_append_cons {key : String} {es : Entries α} (h : key ∈ names es) :
    ∃ fs a gs, es = fs ++ (key, a) :: gs := by
  obtain ⟨a, ha⟩ := exists_mem_of_mem_names h
  obtain ⟨fs, gs, rfl⟩ := List.append_of_mem ha
  exact ⟨fs, a, gs, rfl⟩

theorem swapErase_perm {key : String} {a : α} {es fs : Entries α}
    (wf : WellFormed (es ++ (key, a) :: fs)) :
    (swapErase key (es ++ (key, a) :: fs)).Perm (es ++ fs) := by
  rw [swapErase_append_cons wf]
  exact (lastFirst_perm fs).append_left es

theorem WellFormed.of_append_cons {key : String} {a : α} {es fs : Entries α}
    (wf : WellFormed (es ++ (key, a) :: fs)) : WellFormed (es ++ fs) := by
  refine List.Nodup.sublist ?_ wf
  simp only [names_append, names_cons]
  exact (List.sublist_cons_self _ _).append_left _

theorem WellFormed.swapErase {es : Entries α} (wf : WellFormed es) (key : String) :
    WellFormed (swapErase key es) := by
  by_cases h : key ∈ names es
  · obtain ⟨fs, a, gs, rfl⟩ := exists_append_cons h
    exact ((swapErase_perm wf).map Prod.fst).nodup_iff.mpr wf.of_append_cons
  · rwa [swapErase_of_not_mem h]

theorem mem_of_mem_swapErase {es : Entries α} (wf : WellFormed es) {key : String}
    {e : String × α} (he : e ∈ Entries.swapErase key es) : e ∈ es := by
  by_cases h : key ∈ names es
  · obtain ⟨fs, a, gs, rfl⟩ := exists_append_cons h
    have hm := (swapErase_perm wf).mem_iff.mp he
    exact ((List.sublist_cons_self _ _).append_left fs).subset hm
  · rwa [swapErase_of_not_mem h] at he

/-- What was removed is not found any more. -/
theorem value?_swapErase_self {es : Entries α} (wf : WellFormed es) (key : String) :
    value? key (Entries.swapErase key es) = none := by
  rw [value?_eq_none_iff]
  by_cases h : key ∈ names es
  · obtain ⟨fs, a, gs, rfl⟩ := exists_append_cons h
    have hnot : key ∉ names (fs ++ gs) := by
      rw [WellFormed, names_append, names_cons, List.nodup_middle, List.nodup_cons] at wf
      rw [names_append]
      exact wf.1
    exact fun hm => hnot (((swapErase_perm wf).map Prod.fst).mem_iff.mp hm)
  · rwa [swapErase_of_not_mem h]

/-- A removal keeps what stands under every other name. -/
theorem value?_swapErase_ne {es : Entries α} (wf : WellFormed es) {key other : String}
    (hne : other ≠ key) : value? other (Entries.swapErase key es) = value? other es := by
  by_cases h : key ∈ names es
  · obtain ⟨fs, a, gs, rfl⟩ := exists_append_cons h
    rw [value?_perm (wf.swapErase key) (swapErase_perm wf), value?_append_cons_ne hne]
  · rw [swapErase_of_not_mem h]

end ScriptHost.Entries
