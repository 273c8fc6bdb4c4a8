import Mathlib.Data.List.InsertIdx
import ScriptHost.Context

/-!
# Guards dropped in any order

A guard knows the depth at which its scope was entered, and nothing else. By the time it is
dropped, pops may have gone below that depth and pushes may have filled the stack again, so
that a frame at a position need not be the one that stood there when the guard was entered.
What a drop takes has to be said of entries and not of positions.

## The model

A thread pushes, pops, enters scopes and drops guards, in any order (`Move`). `Thread` does so
with the operations on stacks. `Traced` makes the same moves, and marks each entry of the stack
with the number of its push; nothing looks at the marks, so without them it is the thread
(`Traced.thread_run`).

## What is proved

* Whatever the moves, all that is older than a guard lies below its base, and its own entry
  does not (`Traced.sound_run`).
* So a drop leaves all that was there when its guard was entered, takes the guard's own entry,
  and can always be made; and a pop takes the youngest entry (`guards_never_take_older`).
-/

namespace ScriptHost

/-! ### Dropping step by step -/

namespace ContextStack

/-- Cuts a list behind its first `n` elements. A shorter list cannot be cut there. -/
def splitOff? {α : Type} (n : Nat) (xs : List α) : Option (List α × List α) :=
  if n ≤ xs.length then some (xs.take n, xs.drop n) else none

/-- Drops a guard step by step: a stack is cut only if it is deeper than the base, and what
was cut off is counted. There is no result when a cut cannot be made. -/
def closeStepwise? (s : ContextStack) (g : ContextGuard) : Option (ContextStack × List Event) := do
  let (kept, discarded) ←
    if g.baseDepth < s.length then splitOff? g.baseDepth s else some (s, [])
  let leaked := discarded.length - 1
  some (kept,
    (if 0 < leaked then [.contextsDiscarded leaked] else []) ++ [.scopeClosed g.baseDepth])

/-- Every stack can be cut where a drop cuts it, and this is what dropping comes to. -/
theorem closeStepwise?_eq (s : ContextStack) (g : ContextGuard) :
    closeStepwise? s g = some (close s g) := by
  unfold closeStepwise? close splitOff?
  by_cases h : g.baseDepth < s.length
  · simp [h, Nat.le_of_lt h]
  · have hle : s.length ≤ g.baseDepth := Nat.le_of_not_lt h
    have hleaked : s.length - g.baseDepth - 1 = 0 := by omega
    simp [h, List.take_of_length_le hle, hleaked]

end ContextStack

/-! ### Threads -/

/-- What a thread does with its contexts. -/
inductive Move where
  /-- Pushes a frame. -/
  | push (f : Frame)
  /-- Pops a frame, if there is one. -/
  | pop
  /-- Enters a scope, whose guard comes last among the live ones. -/
  | enter (f : Frame)
  /-- Drops the live guard at this place. -/
  | drop (i : Nat)

/-- The contexts of a thread: those in flight, and the guards of the open scopes. -/
structure Thread where
  /-- The contexts in flight. -/
  stack : ContextStack := []
  /-- The guards that have not been dropped. -/
  guards : List ContextGuard := []

namespace Thread

/-- Makes a move. It gives the frame that was popped, if any, and the reports. -/
def step (t : Thread) : Move → Option Frame × Thread × List Event
  | .push f =>
    let (stack, events) := t.stack.push f
    (none, { t with stack }, events)
  | .pop =>
    let (popped, stack, events) := t.stack.pop
    (popped, { t with stack }, events)
  | .enter f =>
    let (g, stack, events) := t.stack.enter f
    (none, ⟨stack, t.guards ++ [g]⟩, events)
  | .drop i =>
    match t.guards[i]? with
    | some g =>
      let (stack, events) := t.stack.close g
      (none, ⟨stack, t.guards.eraseIdx i⟩, events)
    | none => (none, t, [])

/-- The thread after these moves. A thread starts with nothing. -/
def run (ms : List Move) : Thread := ms.foldl (fun t m => (t.step m).2.1) {}

end Thread

/-! ### Traced threads -/

/-- An entry of the stack: a frame, and the number of the push that put it there. -/
structure StackEntry where
  /-- The number of the push. -/
  push : Nat
  /-- The frame. -/
  frame : Frame

/-- A live guard, and what the stack was when it was entered. -/
structure LiveGuard where
  /-- The guard. -/
  guard : ContextGuard
  /-- The entries that were on the stack already. -/
  below : List StackEntry
  /-- The entry of the guard's own scope. -/
  own : StackEntry

/-- The contexts of a thread, with the pushes that they come from. -/
structure Traced where
  /-- The stack, oldest entry first. -/
  entries : List StackEntry := []
  /-- The number of pushes so far, those of scopes among them. -/
  pushes : Nat := 0
  /-- The guards that have not been dropped. -/
  guards : List LiveGuard := []

namespace Traced

/-- The thread without its past. -/
def thread (t : Traced) : Thread :=
  ⟨t.entries.map StackEntry.frame, t.guards.map LiveGuard.guard⟩

/-- Makes a move. -/
def step (t : Traced) : Move → Traced
  | .push f => { t with entries := t.entries ++ [⟨t.pushes, f⟩], pushes := t.pushes + 1 }
  | .pop => { t with entries := t.entries.dropLast }
  | .enter f =>
    let own : StackEntry := ⟨t.pushes, f⟩
    { entries := t.entries ++ [own]
      pushes := t.pushes + 1
      guards := t.guards ++ [⟨⟨t.entries.length⟩, t.entries, own⟩] }
  | .drop i =>
    match t.guards[i]? with
    | some g =>
      { t with entries := t.entries.take g.guard.baseDepth, guards := t.guards.eraseIdx i }
    | none => t

/-- The traced thread after these moves. -/
def run (ms : List Move) : Traced := ms.foldl step {}

theorem run_concat (ms : List Move) (m : Move) : run (ms ++ [m]) = (run ms).step m := by
  simp [run, List.foldl_append]

variable {t : Traced} {g : LiveGuard}

/-! ### Forgetting the past -/

/-- The marks are not looked at: a move does to the thread what it does without them. -/
theorem thread_step (t : Traced) (m : Move) : (t.step m).thread = (t.thread.step m).2.1 := by
  cases m with
  | push f => simp [step, thread, Thread.step, ContextStack.push]
  | pop =>
    simp only [step, thread, Thread.step, ContextStack.pop, List.getLast?_map]
    cases h : t.entries.getLast? with
    | none =>
      have hnil : t.entries = [] := List.getLast?_eq_none_iff.mp h
      simp [hnil]
    | some e => simp [List.map_dropLast]
  | enter f =>
    simp [step, thread, Thread.step, ContextStack.enter, ContextStack.push, ContextStack.depth]
  | drop i =>
    simp only [step, thread, Thread.step, List.getElem?_map]
    cases t.guards[i]? with
    | none => rfl
    | some g => simp [ContextStack.close, List.map_take, List.eraseIdx_map]

theorem thread_run (ms : List Move) : (run ms).thread = Thread.run ms := by
  have h : ∀ t : Traced, (ms.foldl step t).thread =
      ms.foldl (fun t m => (t.step m).2.1) t.thread := by
    induction ms with
    | nil =>
      intro t
      rfl
    | cons m ms ih =>
      intro t
      rw [List.foldl_cons, ih, thread_step]
      rfl
  exact h {}

/-! ### Where the entries of a guard are -/

end Traced

/-- **Where the base of a guard lies** in a stack: entries that are older than the guard's own
stand below the base, and the guard's own entry does not. Entries that are younger can be
anywhere, for pops make room below the base. -/
structure LiveGuard.Placed (g : LiveGuard) (entries : List StackEntry) : Prop where
  older : ∀ i e, entries[i]? = some e → e.push < g.own.push → i < g.guard.baseDepth
  own : ∀ i e, entries[i]? = some e → e.push = g.own.push → g.guard.baseDepth ≤ i

/-- **The invariant of a traced thread.** -/
structure Traced.Sound (t : Traced) : Prop where
  /-- Entries stand in the order of their pushes. -/
  ordered : t.entries.Pairwise fun d e => d.push < e.push
  counted : ∀ e ∈ t.entries, e.push < t.pushes
  /-- A guard is younger than what was there when it was entered. -/
  entered : ∀ g ∈ t.guards, g.own.push < t.pushes ∧ ∀ e ∈ g.below, e.push < g.own.push
  placed : ∀ g ∈ t.guards, g.Placed t.entries

namespace LiveGuard.Placed

variable {g : LiveGuard} {entries : List StackEntry}

/-- What is left when a stack is cut back stays where it was. -/
theorem take (hg : g.Placed entries) (n : Nat) : g.Placed (entries.take n) := by
  have hsub : ∀ (i : Nat) e, (entries.take n)[i]? = some e → entries[i]? = some e := by
    intro i e he
    rw [List.getElem?_take] at he
    split at he
    · exact he
    · cases he
  constructor
  · intro i e he hlt
    exact hg.older i e (hsub i e he) hlt
  · intro i e he heq
    exact hg.own i e (hsub i e he) heq

/-- A younger entry can go anywhere. -/
theorem concat (hg : g.Placed entries) {e : StackEntry} (he : g.own.push < e.push) :
    g.Placed (entries ++ [e]) := by
  have hcases : ∀ (i : Nat) d, (entries ++ [e])[i]? = some d → entries[i]? = some d ∨ d = e := by
    intro i d hd
    rw [List.getElem?_append] at hd
    split at hd
    · exact .inl hd
    · exact .inr (List.mem_singleton.mp (List.mem_of_getElem? hd))
  constructor
  · intro i d hd hlt
    rcases hcases i d hd with hd | rfl
    · exact hg.older i d hd hlt
    · omega
  · intro i d hd heq
    rcases hcases i d hd with hd | rfl
    · exact hg.own i d hd heq
    · omega

end LiveGuard.Placed

namespace Traced

variable {t : Traced} {g : LiveGuard}

namespace Sound

theorem empty : Sound {} := by
  constructor <;> simp

/-- Cutting the stack back keeps the invariant, whichever guards are dropped with it. -/
theorem cut (ht : t.Sound) (n : Nat) {guards : List LiveGuard} (hsub : guards ⊆ t.guards) :
    Sound { t with entries := t.entries.take n, guards } where
  ordered := ht.ordered.sublist (List.take_sublist n _)
  counted := by
    intro e he
    exact ht.counted e (List.mem_of_mem_take he)
  entered := by
    intro g hg
    exact ht.entered g (hsub hg)
  placed := by
    intro g hg
    exact (ht.placed g (hsub hg)).take n

/-- A push keeps the invariant: what is pushed is younger than all that is there. -/
theorem push (ht : t.Sound) (f : Frame) : (t.step (.push f)).Sound where
  ordered := by
    refine List.pairwise_append.mpr ⟨ht.ordered, List.pairwise_singleton _ _, ?_⟩
    intro d hd e he
    rw [List.mem_singleton.mp he]
    exact ht.counted d hd
  counted := by
    intro e he
    rcases List.mem_append.mp he with he | he
    · exact Nat.lt_succ_of_lt (ht.counted e he)
    · rw [List.mem_singleton.mp he]
      exact Nat.lt_succ_self _
  entered := by
    intro g hg
    obtain ⟨hown, hbelow⟩ := ht.entered g hg
    exact ⟨Nat.lt_succ_of_lt hown, hbelow⟩
  placed := by
    intro g hg
    exact (ht.placed g hg).concat (ht.entered g hg).1

/-- The guard of a new scope has its base right behind all that is there. -/
theorem placed_entered (ht : t.Sound) (f : Frame) :
    LiveGuard.Placed ⟨⟨t.entries.length⟩, t.entries, ⟨t.pushes, f⟩⟩
      (t.entries ++ [⟨t.pushes, f⟩]) := by
  constructor
  · intro i e he hlt
    have hi : i < (t.entries ++ [(⟨t.pushes, f⟩ : StackEntry)]).length :=
      (List.getElem?_eq_some_iff.mp he).1
    rw [List.length_append, List.length_singleton] at hi
    by_cases hlast : i = t.entries.length
    · subst hlast
      simp at he
      simp [← he] at hlt
    · show i < t.entries.length
      omega
  · intro i e he heq
    by_cases hi : i < t.entries.length
    · rw [List.getElem?_append_left hi] at he
      have hlt := ht.counted e (List.mem_of_getElem? he)
      simp only at heq
      omega
    · exact Nat.le_of_not_lt hi

theorem enter (ht : t.Sound) (f : Frame) : (t.step (.enter f)).Sound where
  ordered := (ht.push f).ordered
  counted := (ht.push f).counted
  entered := by
    intro g hg
    rcases List.mem_append.mp hg with hg | hg
    · exact (ht.push f).entered g hg
    · rw [List.mem_singleton.mp hg]
      exact ⟨Nat.lt_succ_self _, ht.counted⟩
  placed := by
    intro g hg
    rcases List.mem_append.mp hg with hg | hg
    · exact (ht.push f).placed g hg
    · rw [List.mem_singleton.mp hg]
      exact ht.placed_entered f

/-- **Every move keeps the invariant.** -/
theorem step (ht : t.Sound) (m : Move) : (t.step m).Sound := by
  cases m with
  | push f => exact ht.push f
  | pop =>
    have hcut := ht.cut (t.entries.length - 1) (List.Subset.refl t.guards)
    rwa [← List.dropLast_eq_take] at hcut
  | enter f => exact ht.enter f
  | drop i =>
    rw [Traced.step]
    split
    · exact ht.cut _ (List.eraseIdx_subset ..)
    · exact ht

end Sound

/-- The invariant holds after any moves. -/
theorem sound_run (ms : List Move) : (run ms).Sound := by
  have h : ∀ t : Traced, t.Sound → (ms.foldl Traced.step t).Sound := by
    induction ms with
    | nil =>
      intro t ht
      exact ht
    | cons m ms ih =>
      intro t ht
      exact ih _ (ht.step m)
  exact h {} .empty

/-! ### Drops and pops -/

/-- **What dropping a guard does**, when it takes a thread from `t` to `t'`. -/
structure Drops (t t' : Traced) (g : LiveGuard) : Prop where
  /-- The drop can be made, and is that of the stack without marks. -/
  possible : ContextStack.closeStepwise? t.thread.stack g.guard =
    some (t'.thread.stack, (t.thread.stack.close g.guard).2)
  /-- The stack is cut back to the base of the guard. -/
  cut : t'.entries = t.entries.take g.guard.baseDepth
  /-- A stack that is not deeper stays as it is. -/
  short : t.entries.length ≤ g.guard.baseDepth → t'.entries = t.entries
  length : t'.entries.length ≤ t.entries.length
  /-- What was there when the guard was entered, and still is, stays there. -/
  older : ∀ e ∈ t.entries, e ∈ g.below → e ∈ t'.entries
  /-- The guard's own entry is gone. -/
  own : g.own ∉ t'.entries

/-- **What a pop does**, when it takes a thread from `t` to `t'`: it takes the youngest entry
and gives its frame, or nothing where there is nothing. -/
structure Pops (t t' : Traced) : Prop where
  empty : t.thread.stack.depth = 0 → (t.thread.step .pop).1 = none ∧ t' = t
  youngest : t.thread.stack.depth ≠ 0 → ∃ e, t.entries = t'.entries ++ [e] ∧
    (t.thread.step .pop).1 = some e.frame ∧ ∀ d ∈ t'.entries, d.push < e.push

theorem Sound.drops (ht : t.Sound) {i : Nat} (hi : t.guards[i]? = some g) :
    Drops t (t.step (.drop i)) g := by
  have hg : g ∈ t.guards := List.mem_of_getElem? hi
  have hplaced := ht.placed g hg
  have hstep : t.step (.drop i) =
      { t with entries := t.entries.take g.guard.baseDepth, guards := t.guards.eraseIdx i } := by
    simp [Traced.step, hi]
  rw [hstep]
  refine ⟨?_, rfl, ?_, ?_, ?_, ?_⟩
  · rw [ContextStack.closeStepwise?_eq, thread, thread, List.map_take]
    rfl
  · intro hle
    exact List.take_of_length_le hle
  · exact List.length_take_le' ..
  · intro e he hbelow
    obtain ⟨k, hk⟩ := List.mem_iff_getElem?.mp he
    have hlt : k < g.guard.baseDepth := hplaced.older k e hk ((ht.entered g hg).2 e hbelow)
    refine List.mem_iff_getElem?.mpr ⟨k, ?_⟩
    rw [List.getElem?_take_of_lt hlt]
    exact hk
  · intro hown
    obtain ⟨k, hk⟩ := List.mem_iff_getElem?.mp hown
    rw [List.getElem?_take] at hk
    split at hk
    · next hlt =>
      have hle := hplaced.own k g.own hk rfl
      omega
    · cases hk

theorem Sound.pops (ht : t.Sound) : Pops t (t.step .pop) := by
  have hdepth : t.thread.stack.depth = t.entries.length := List.length_map _
  constructor
  · intro hzero
    have hnil : t.entries = [] := List.eq_nil_of_length_eq_zero (hdepth.symm.trans hzero)
    obtain ⟨entries, pushes, guards⟩ := t
    subst hnil
    exact ⟨rfl, rfl⟩
  · intro hne
    have hcons : t.entries ≠ [] := by
      intro hnil
      simp [hdepth, hnil] at hne
    have hsplit : t.entries = t.entries.dropLast ++ [t.entries.getLast hcons] :=
      (List.dropLast_concat_getLast hcons).symm
    refine ⟨t.entries.getLast hcons, hsplit, ?_, ?_⟩
    · simp [Thread.step, thread, ContextStack.pop, List.getLast?_map,
        List.getLast?_eq_some_getLast hcons]
    · have hordered := ht.ordered
      rw [hsplit] at hordered
      intro d hd
      exact (List.pairwise_append.mp hordered).2.2 d hd _ (List.mem_singleton_self _)

/-- **Guards never take an older entry**, in whatever order they are dropped. After any moves of
a thread: the marks tell the entries of the stack apart and change nothing else; dropping a live
guard cuts the stack back to its base, takes its own entry and nothing that was there before the
guard; and a pop takes the youngest entry. -/
theorem guards_never_take_older (ms : List Move) :
    (run ms).thread = Thread.run ms ∧
    ((run ms).entries.map StackEntry.push).Nodup ∧
    (∀ i g, (run ms).guards[i]? = some g → Drops (run ms) (run (ms ++ [.drop i])) g) ∧
    Pops (run ms) (run (ms ++ [.pop])) := by
  have hsound := sound_run ms
  refine ⟨thread_run ms, ?_, ?_, ?_⟩
  · refine List.pairwise_map.mpr (hsound.ordered.imp ?_)
    intro d e hlt
    exact Nat.ne_of_lt hlt
  · intro i g hi
    rw [run_concat]
    exact hsound.drops hi
  · rw [run_concat]
    exact hsound.pops

/-- A frame that was pushed below the base of a guard, after pops had gone there, is younger than
the guard and survives its drop. -/
example (a b c : Frame) :
    (run [.push a, .enter b, .pop, .pop, .push c, .drop 0]).thread = ⟨[c], []⟩ := rfl

end Traced

end ScriptHost
