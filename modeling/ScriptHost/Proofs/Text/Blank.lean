import ScriptHost.Text.Blank

/-!
# Trimming

A text is blanks, then its core, then blanks again, where the core neither starts nor ends with a
blank (`Core`). Every text has exactly one core, and trimming finds it (`trim_eq_iff`).
-/

namespace ScriptHost.Text

variable {cs core w w₁ w₂ : List Char}

/-- Nothing but blanks. -/
def Blanks (cs : List Char) : Prop := ∀ c ∈ cs, isBlank c = true

instance : Decidable (Blanks cs) := decidable_of_iff (cs.all isBlank = true) List.all_eq_true

/-- **The core of a text**: what stands between the blanks at its ends. -/
structure Core (cs core : List Char) : Prop where
  /-- The rest of the text are blanks. -/
  between : ∃ w₁ w₂, Blanks w₁ ∧ Blanks w₂ ∧ cs = w₁ ++ core ++ w₂
  /-- No blank is left in front. -/
  head : ∀ c ∈ core.head?, isBlank c = false
  /-- No blank is left at the end. -/
  last : ∀ c ∈ core.getLast?, isBlank c = false

/-! ### One end -/

theorem trimStart_eq_self (h : ∀ c ∈ cs.head?, isBlank c = false) : trimStart cs = cs := by
  cases cs with
  | nil => rfl
  | cons c cs => exact trimStart_cons (h c rfl) cs

/-- Only blanks are removed. -/
theorem exists_eq_append_trimStart (cs : List Char) : ∃ w, Blanks w ∧ cs = w ++ trimStart cs :=
  ⟨cs.takeWhile isBlank, List.all_eq_true.mp List.all_takeWhile,
    List.takeWhile_append_dropWhile.symm⟩

theorem head?_trimStart (cs : List Char) : ∀ c ∈ (trimStart cs).head?, isBlank c = false := by
  intro c hc
  have hnot := List.head?_dropWhile_not isBlank cs
  rw [trimStart, Option.mem_def] at hc
  rwa [hc] at hnot

/-! ### Both ends -/

/-- Trimming leaves a core. -/
theorem core_trim (cs : List Char) : Core cs (trim cs) := by
  obtain ⟨w₁, hw₁, hcs⟩ := exists_eq_append_trimStart cs
  obtain ⟨w₂, hw₂, hrest⟩ := exists_eq_append_trimStart (trimStart cs).reverse
  have hend : trimStart cs = trim cs ++ w₂.reverse := by
    rw [trim, trimEnd, ← List.reverse_append, ← hrest, List.reverse_reverse]
  refine ⟨⟨w₁, w₂.reverse, hw₁, fun c hc => hw₂ c (List.mem_reverse.mp hc), ?_⟩, ?_, ?_⟩
  · rw [List.append_assoc, ← hend]
    exact hcs
  · -- what is removed at the end does not change the start
    intro c hc
    refine head?_trimStart cs c ?_
    rw [hend, List.head?_append, Option.mem_def.mp hc]
    rfl
  · intro c hc
    rw [trim, trimEnd, List.getLast?_reverse] at hc
    exact head?_trimStart _ c hc

/-- There is no other core. -/
theorem Core.trim_eq (h : Core cs core) : trim cs = core := by
  obtain ⟨⟨w₁, w₂, hw₁, hw₂, rfl⟩, hhead, hlast⟩ := h
  have hback : Blanks w₂.reverse := fun c hc => hw₂ c (List.mem_reverse.mp hc)
  rw [trim, List.append_assoc, trimStart_append hw₁]
  cases core with
  | nil =>
    have hnone : trimStart w₂ = [] := by
      have happ := trimStart_append hw₂ []
      rwa [List.append_nil] at happ
    rw [List.nil_append, hnone]
    rfl
  | cons c core =>
    have hstop : trimStart (c :: core).reverse = (c :: core).reverse :=
      trimStart_eq_self fun d hd => hlast d (by rwa [List.head?_reverse] at hd)
    rw [List.cons_append, trimStart_cons (hhead c rfl), ← List.cons_append, trimEnd,
      List.reverse_append, trimStart_append hback, hstop, List.reverse_reverse]

/-- **Trimming gives the core of a text** and nothing else. -/
theorem trim_eq_iff : trim cs = core ↔ Core cs core :=
  ⟨fun h => h ▸ core_trim cs, Core.trim_eq⟩

/-- What has no blanks is the core of a text that has blanks around it. -/
theorem core_append (h : ∀ c ∈ core, isBlank c = false) (hw₁ : Blanks w₁) (hw₂ : Blanks w₂) :
    Core (w₁ ++ core ++ w₂) core :=
  ⟨⟨w₁, w₂, hw₁, hw₂, rfl⟩, fun c hc => h c (List.mem_of_mem_head? hc),
    fun c hc => h c (List.mem_of_mem_getLast? hc)⟩

/-- A text without blanks is its own trimmed form. -/
theorem trim_of_forall (h : ∀ c ∈ cs, isBlank c = false) : trim cs = cs := by
  have hcore : Core ([] ++ cs ++ []) cs := core_append h (by simp [Blanks]) (by simp [Blanks])
  rw [List.nil_append, List.append_nil] at hcore
  exact hcore.trim_eq

end ScriptHost.Text
