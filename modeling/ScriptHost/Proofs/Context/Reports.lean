import ScriptHost.Proofs.Context.Guards

/-!
# What the context stack reports

Pushes and pops report the depth that they leave. A guard that is dropped reports the depth at
which its scope was entered, and counts as left behind what it takes beyond one entry. That is the
depth it leaves, and what it takes besides its own entry, as long as its own entry is still there.
Once a pop has taken that entry the two come apart: the stack can be shorter than the base, and
all that stands above the base was left behind.

## What is proved

* Every report of a push or a pop has the depth that is left, and only a pop that gives nothing
  reports that there was nothing (`moves_report`).
* A dropped guard reports the depth that is left and all that was left behind exactly if its own
  entry is still there, or the depth is that of its base (`reports_drop_iff`).
* A guard whose entry was popped can misreport either (`popped_guard_misreports`).
-/

namespace ScriptHost

namespace Thread

/-- What a move reports. -/
def reports (t : Thread) (m : Move) : List Event := (t.step m).2.2

/-- The number of contexts in flight after a move. -/
def depthAfter (t : Thread) (m : Move) : Nat := (t.step m).2.1.stack.depth

theorem reports_push (t : Thread) (f : Frame) :
    t.reports (.push f) = [.contextPushed (t.depthAfter (.push f))] := by
  simp [reports, depthAfter, step, ContextStack.push, ContextStack.depth]

theorem reports_enter (t : Thread) (f : Frame) :
    t.reports (.enter f) = [.contextPushed (t.depthAfter (.enter f))] := by
  simp [reports, depthAfter, step, ContextStack.enter, ContextStack.push, ContextStack.depth]

theorem reports_pop (t : Thread) :
    t.reports .pop =
      if (t.step .pop).1 = none then [.popOnEmpty] else [.contextPopped (t.depthAfter .pop)] := by
  unfold reports depthAfter step ContextStack.pop
  cases t.stack.getLast? <;> simp [ContextStack.depth]

end Thread

namespace Traced

variable {t : Traced} {g : LiveGuard} {i : Nat}

/-- The entries that dropping a guard takes. -/
def taken (t : Traced) (g : LiveGuard) : List StackEntry := t.entries.drop g.guard.baseDepth

/-- **What was left behind** in the scope of a guard: the entries that dropping it takes, without
its own. -/
def leftBehind (t : Traced) (g : LiveGuard) : List StackEntry :=
  (t.taken g).filter fun e => e.push ≠ g.own.push

/-- The entry of the guard's own scope has not been popped. -/
def Present (t : Traced) (g : LiveGuard) : Prop := g.own.push ∈ t.entries.map StackEntry.push

/-- **What a dropped guard should report**: how many entries were left behind, if any, and the depth
that is left. -/
def dueReports (t : Traced) (i : Nat) (g : LiveGuard) : List Event :=
  (if 0 < (t.leftBehind g).length then [.contextsDiscarded (t.leftBehind g).length] else []) ++
    [.scopeClosed (t.thread.depthAfter (.drop i))]

/-! ### What drops report -/

@[simp] theorem depth_thread (t : Traced) : t.thread.stack.depth = t.entries.length :=
  List.length_map _

theorem depthAfter_eq (t : Traced) (m : Move) :
    t.thread.depthAfter m = (t.step m).entries.length := by
  rw [← depth_thread, thread_step]
  rfl

theorem length_taken (t : Traced) (g : LiveGuard) :
    (t.taken g).length = t.entries.length - g.guard.baseDepth := List.length_drop

theorem depthAfter_drop (hi : t.guards[i]? = some g) :
    t.thread.depthAfter (.drop i) = min g.guard.baseDepth t.entries.length := by
  simp [depthAfter_eq, step, hi]

theorem reports_drop (hi : t.guards[i]? = some g) :
    t.thread.reports (.drop i) =
      (if 1 < (t.taken g).length then [.contextsDiscarded ((t.taken g).length - 1)] else []) ++
        [.scopeClosed g.guard.baseDepth] := by
  have hguard : t.thread.guards[i]? = some g.guard := by
    simp [thread, List.getElem?_map, hi]
  have hdepth : t.thread.stack.length = t.entries.length := List.length_map _
  have hlt : 0 < t.entries.length - g.guard.baseDepth - 1 ↔
      1 < t.entries.length - g.guard.baseDepth := by omega
  simp only [Thread.reports, Thread.step, hguard, ContextStack.close, hdepth, length_taken, hlt]

theorem reports_drop_none (hi : t.guards[i]? = none) : t.thread.reports (.drop i) = [] := by
  have hguard : t.thread.guards[i]? = none := by
    simp [thread, List.getElem?_map, hi]
  simp only [Thread.reports, Thread.step, hguard]

/-! ### The guard's own entry -/

theorem Sound.nodup (ht : t.Sound) : (t.entries.map StackEntry.push).Nodup := by
  refine List.pairwise_map.mpr (ht.ordered.imp ?_)
  intro d e hlt
  exact Nat.ne_of_lt hlt

/-- As long as it is there, a guard's own entry is among those that the guard takes. -/
theorem Present.mem_taken (hown : t.Present g) (ht : t.Sound) (hg : g ∈ t.guards) :
    g.own.push ∈ (t.taken g).map StackEntry.push := by
  obtain ⟨e, he, hpush⟩ := List.mem_map.mp hown
  obtain ⟨k, hk⟩ := List.mem_iff_getElem?.mp he
  have hle : g.guard.baseDepth ≤ k := (ht.placed g hg).own k e hk hpush
  refine List.mem_map.mpr ⟨e, List.mem_iff_getElem?.mpr ⟨k - g.guard.baseDepth, ?_⟩, hpush⟩
  rw [taken, List.getElem?_drop, Nat.add_sub_cancel' hle]
  exact hk

/-- One of the entries that a guard takes is its own. -/
theorem Present.length_leftBehind (hown : t.Present g) (ht : t.Sound) (hg : g ∈ t.guards) :
    (t.leftBehind g).length + 1 = (t.taken g).length := by
  have hmem := hown.mem_taken ht hg
  have hpos : 0 < (t.taken g).length := by
    rw [← List.length_map StackEntry.push]
    exact List.length_pos_of_mem hmem
  have hnodup : ((t.taken g).map StackEntry.push).Nodup :=
    ht.nodup.sublist ((List.drop_sublist _ _).map _)
  have herase := List.length_erase_of_mem hmem
  rw [hnodup.erase_eq_filter, List.filter_map, List.length_map, List.length_map] at herase
  have hfilter : t.leftBehind g = (t.taken g).filter ((· != g.own.push) ∘ StackEntry.push) := by
    refine List.filter_congr ?_
    intro e _
    by_cases he : e.push = g.own.push <;> simp [he]
  rw [hfilter, herase]
  omega

/-- All that a guard takes was left behind when its own entry is gone. -/
theorem leftBehind_of_not_present (hown : ¬ t.Present g) : t.leftBehind g = t.taken g := by
  refine List.filter_eq_self.mpr ?_
  intro e he
  have hne : e.push ≠ g.own.push := by
    intro heq
    exact hown (List.mem_map.mpr ⟨e, List.mem_of_mem_drop he, heq⟩)
  simpa using hne

theorem reports_drop_of_present (ht : t.Sound) (hi : t.guards[i]? = some g) (hown : t.Present g) :
    t.thread.reports (.drop i) = t.dueReports i g := by
  have hlength := hown.length_leftBehind ht (List.mem_of_getElem? hi)
  have htaken := t.length_taken g
  have hcount : (t.taken g).length - 1 = (t.leftBehind g).length := by omega
  have hlt : 1 < (t.taken g).length ↔ 0 < (t.leftBehind g).length := by omega
  have hbase : min g.guard.baseDepth t.entries.length = g.guard.baseDepth := by omega
  simp only [reports_drop hi, dueReports, depthAfter_drop hi, hcount, hlt, hbase]

/-- **When a dropped guard reports what it should**: its own entry is still there, or nothing is
above its base and nothing is missing below. -/
theorem reports_drop_iff (ht : t.Sound) (hi : t.guards[i]? = some g) :
    t.thread.reports (.drop i) = t.dueReports i g ↔
      t.Present g ∨ t.entries.length = g.guard.baseDepth := by
  by_cases hown : t.Present g
  · simp [hown, reports_drop_of_present ht hi hown]
  · have htaken := t.length_taken g
    rw [reports_drop hi, dueReports, leftBehind_of_not_present hown, depthAfter_drop hi]
    simp only [hown, false_or]
    constructor
    · intro h
      have hnone : ¬ 0 < (t.taken g).length := by
        intro hpos
        rw [if_pos hpos] at h
        split at h
        · simp at h
          omega
        · simp at h
      rw [if_neg hnone, if_neg (by omega)] at h
      simp at h
      omega
    · intro h
      rw [if_neg (by omega), if_neg (by omega), h, Nat.min_self]

/-! ### All moves -/

/-- **What a move reports**, when the thread is at `t`. -/
structure Reports (t : Traced) (m : Move) : Prop where
  /-- A push, also that of a scope, reports the depth that it leaves. -/
  pushed : ∀ d, .contextPushed d ∈ t.thread.reports m → d = t.thread.depthAfter m
  /-- So does a pop. -/
  popped : ∀ d, .contextPopped d ∈ t.thread.reports m → d = t.thread.depthAfter m
  /-- That there was nothing to pop is reported by the pops that give nothing. -/
  nothing : .popOnEmpty ∈ t.thread.reports m ↔ m = .pop ∧ (t.thread.step m).1 = none
  /-- That a scope was closed is reported by the drops of guards, with the depth of the base. -/
  closed : ∀ d, .scopeClosed d ∈ t.thread.reports m ↔
    ∃ i g, m = .drop i ∧ t.guards[i]? = some g ∧ d = g.guard.baseDepth
  /-- That contexts were discarded is reported by the drops that take several entries, with their
  number without one. -/
  discarded : ∀ n, .contextsDiscarded n ∈ t.thread.reports m ↔
    ∃ i g, m = .drop i ∧ t.guards[i]? = some g ∧ 0 < n ∧ (t.taken g).length = n + 1
  /-- The entries that a drop takes are those that are no longer there. -/
  taken : ∀ i g, m = .drop i → t.guards[i]? = some g →
    t.entries = (t.step m).entries ++ t.taken g
  /-- A dropped guard reports the depth that it leaves and the number of all entries that were left
  behind exactly if its own entry is still there, or the depth is that of its base. -/
  due : ∀ i g, m = .drop i → t.guards[i]? = some g →
    (t.thread.reports m = t.dueReports i g ↔
      t.Present g ∨ t.thread.stack.depth = g.guard.baseDepth)

theorem Sound.reports (ht : t.Sound) (hi : t.guards[i]? = some g) : Reports t (.drop i) where
  pushed := by
    rw [reports_drop hi]
    simp
  popped := by
    rw [reports_drop hi]
    simp
  nothing := by
    rw [reports_drop hi]
    simp
  closed := by
    intro d
    rw [reports_drop hi]
    simp [hi]
  discarded := by
    intro n
    rw [reports_drop hi]
    simp [hi]
    omega
  taken := by
    rintro _ _ ⟨⟩ hg
    cases hi.symm.trans hg
    simp [Traced.step, hi, Traced.taken]
  due := by
    rintro _ _ ⟨⟩ hg
    cases hi.symm.trans hg
    rw [depth_thread]
    exact reports_drop_iff ht hi

/-- **Reports have the true depth**, but for guards whose own entry was popped before they were
dropped. The marks that tell whose entry is on the stack change nothing of the thread. -/
theorem moves_report (ms : List Move) (m : Move) :
    (run ms).thread = Thread.run ms ∧ Reports (run ms) m := by
  refine ⟨thread_run ms, ?_⟩
  have ht := sound_run ms
  generalize run ms = t at ht
  cases m with
  | push f => constructor <;> simp [Thread.reports_push]
  | enter f => constructor <;> simp [Thread.reports_enter]
  | pop =>
    by_cases hpop : (t.thread.step .pop).1 = none
    · constructor <;> simp [Thread.reports_pop, hpop]
    · constructor <;> simp [Thread.reports_pop, hpop]
  | drop i =>
    cases hi : t.guards[i]? with
    | none =>
      have hnone : ∀ j g, Move.drop i = .drop j → t.guards[j]? ≠ some g := by
        rintro _ g ⟨⟩ hg
        cases hi.symm.trans hg
      constructor
      case taken => exact fun j g hm hg => absurd hg (hnone j g hm)
      case due => exact fun j g hm hg => absurd hg (hnone j g hm)
      all_goals simp [reports_drop_none hi, hi]
    | some g => exact ht.reports hi

/-- Guards whose own entry was popped. The first finds the stack below its base, and reports its
base; the second takes an entry that is not its own, and does not report that. -/
theorem popped_guard_misreports :
    let a : Frame := ⟨0, .text "outer"⟩
    let b : Frame := ⟨1, .text "inner"⟩
    let below := run [.push a, .enter b, .pop, .pop]
    let above := run [.push a, .enter b, .pop, .push a]
    let g : LiveGuard := ⟨⟨1⟩, [⟨0, a⟩], ⟨1, b⟩⟩
    (below.guards = [g] ∧ below.thread.reports (.drop 0) = [.scopeClosed 1] ∧
      below.thread.depthAfter (.drop 0) = 0) ∧
    (above.guards = [g] ∧ above.thread.reports (.drop 0) = [.scopeClosed 1] ∧
      above.leftBehind g = [⟨2, a⟩]) :=
  ⟨⟨rfl, rfl, rfl⟩, rfl, rfl, rfl⟩

end Traced

end ScriptHost
