import ScriptHost.Proofs.Access.Shape
import ScriptHost.Proofs.Access.View

/-!
# The order of members

An object node lists its members in the order in which they stand, and writes decide that order.
A member that is stored again keeps its place, and a new one goes last. A removal keeps all the
other members, but not their order: the last member moves into the gap (`Renames.removed`). So the
order survives a removal only where at most one member stands behind the one that goes
(`Renames.order_iff`). One write leaves an object node with distinct names (`node?_set`), and so
does any run of writes (`node?_setMembers`).
-/

namespace ScriptHost

namespace Entries

variable {β : Type}

theorem names_lastFirst (es : Entries β) : names (lastFirst es) = lastFirst es.names := by
  rcases List.eq_nil_or_concat es with rfl | ⟨fs, e, rfl⟩
  · rfl
  · simp [lastFirst, names]

/-- Moving the last of distinct elements to the front is seen where there are two of them. -/
theorem lastFirst_eq_self_iff {xs : List β} (distinct : xs.Nodup) :
    lastFirst xs = xs ↔ xs.length ≤ 1 := by
  rcases List.eq_nil_or_concat xs with rfl | ⟨ys, y, rfl⟩
  · exact iff_of_true rfl (Nat.zero_le 1)
  · rw [List.concat_eq_append] at distinct ⊢
    have hmoved : lastFirst (ys ++ [y]) = y :: ys := by simp [lastFirst]
    rw [hmoved]
    cases ys with
    | nil => exact iff_of_true rfl (Nat.le_refl 1)
    | cons z zs =>
      refine iff_of_false (fun heq => ?_) (by simp)
      have hyz : y = z := (List.cons.inj heq).1
      rw [hyz, List.cons_append, List.nodup_cons] at distinct
      exact distinct.1 (List.mem_append_right zs List.mem_cons_self)

end Entries

namespace Access

/-- **What a write under a key does to the names** of the members of an object node. -/
inductive Renames (h : Heap) (key : String) : Slot → List String → List String → Prop where
  /-- A member that is stored again keeps its place. -/
  | overwritten {v : Value} {j : Json} {names : List String} (image : h.image (some v) = .ok j)
      (there : key ∈ names) : Renames h key (some v) names names
  /-- A new member goes last. -/
  | appended {v : Value} {j : Json} {names : List String} (image : h.image (some v) = .ok j)
      (new : key ∉ names) : Renames h key (some v) names (names ++ [key])
  /-- What has no image is not stored. -/
  | refused {v : Value} {e : AccessError} {names : List String}
      (image : h.image (some v) = .error e) : Renames h key (some v) names names
  /-- What is not there is not removed. -/
  | missing {names : List String} (new : key ∉ names) : Renames h key none names names
  /-- A member goes, and the last of those behind it takes its place. -/
  | removed {front back : List String} :
      Renames h key none (front ++ key :: back) (front ++ Entries.lastFirst back)

variable {P : Protocol} {h : Heap} {d : Document} {members : Entries Json} {key : String}
  {before after front back : List String}

/-! ### What a removal keeps -/

theorem filter_ne_append_cons (distinct : (front ++ key :: back).Nodup) :
    (front ++ key :: back).filter (· ≠ key) = front ++ back := by
  have hkey : key ∉ front ++ back := (List.nodup_cons.mp (List.nodup_middle.mp distinct)).1
  rw [List.filter_append, List.filter_cons_of_neg (by simp), ← List.filter_append]
  refine List.filter_eq_self.mpr fun name hname => decide_eq_true ?_
  rintro rfl
  exact hkey hname

/-- What is left after a removal are the other names. -/
theorem Renames.survivors (hr : Renames h key none before after) (distinct : before.Nodup) :
    after.Perm (before.filter (· ≠ key)) := by
  cases hr with
  | missing new =>
    rw [List.filter_eq_self.mpr fun name hname => decide_eq_true (ne_of_mem_of_not_mem hname new)]
  | removed =>
    rw [filter_ne_append_cons distinct]
    exact (Entries.lastFirst_perm _).append_left _

/-- **A removal keeps the order** of the other names where at most one of them stands behind the
name that goes, and nowhere else. -/
theorem Renames.order_iff (hr : Renames h key none (front ++ key :: back) after)
    (distinct : (front ++ key :: back).Nodup) :
    after = (front ++ key :: back).filter (· ≠ key) ↔ back.length ≤ 1 := by
  have hback : back.Nodup := (List.nodup_cons.mp (List.nodup_append.mp distinct).2.1).2
  have hafter : after = front ++ Entries.lastFirst back := by
    generalize hnames : front ++ key :: back = names at hr distinct
    cases hr with
    | missing new =>
      subst hnames
      exact absurd (List.mem_append_right front List.mem_cons_self) new
    | @removed front' back' =>
      -- a name that stands only once has one list before it and one behind it
      rw [← hnames] at distinct
      obtain ⟨rfl, -, rfl⟩ := (List.append_cons_inj_of_notMem
        (fun hm => (List.nodup_append.mp distinct).2.2 key hm key List.mem_cons_self rfl)
        (List.nodup_cons.mp (List.nodup_append.mp distinct).2.1).1).mp hnames
      rfl
  rw [hafter, filter_ne_append_cons distinct, List.append_cancel_left_eq,
    Entries.lastFirst_eq_self_iff hback]

/-! ### One write -/

/-- **What a write does to an object node** with distinct names: it stays one, and its names are
those that `Renames` gives. -/
theorem node?_set (hd : d.node? h = some (.object members)) (wf : members.WellFormed)
    (key : String) (s : Slot) :
    ∃ members' : Entries Json,
      d.node? (set P h (some (.document d)) (some key) s).1 = some (.object members') ∧
      members'.WellFormed ∧ Renames h key s members.names members'.names := by
  obtain ⟨path, htokens, -⟩ := Document.exists_path_of_node? hd
  have live : h.Live (.document d) := Document.live_of_node? hd (by simp)
  have hstored (members' : Entries Json) :
      d.node? (d.modify h fun _ => .object members') = some (.object members') := by
    rw [Document.node?_modify_self htokens live, hd]
    rfl
  rw [set_heap, trySet_node (Document.isNode_of_node? hd)]
  simp only [Document.writeMember, Document.members?_eq_some_iff.mpr hd]
  cases s with
  | none =>
    refine ⟨members.swapErase key, hstored _, wf.swapErase key, ?_⟩
    by_cases hkey : key ∈ members.names
    · obtain ⟨front, j, back, rfl⟩ := Entries.exists_append_cons hkey
      rw [Entries.swapErase_append_cons wf, Entries.names_append, Entries.names_append,
        Entries.names_cons, Entries.names_lastFirst]
      exact .removed
    · rw [Entries.swapErase_of_not_mem hkey]
      exact .missing hkey
  | some v =>
    cases himage : h.image (some v) with
    | error e =>
      simp only [memberImage, himage]
      exact ⟨members, hd, wf, .refused himage⟩
    | ok j =>
      simp only [memberImage, himage]
      refine ⟨members.put key j, hstored _, wf.put key j, ?_⟩
      rw [Entries.names_put]
      split
      · next hkey => exact .overwritten himage hkey
      · next hkey => exact .appended himage hkey

/-! ### A run of writes -/

/-- Stores one slot after the other under a key of a document; writes that fail are ignored. -/
def setMembers (P : Protocol) (d : Document) (h : Heap) (writes : List (String × Slot)) : Heap :=
  writes.foldl (fun h w => (set P h (some (.document d)) (some w.1) w.2).1) h

/-- An object node stays one, and its names stay distinct, through any run of writes. -/
theorem node?_setMembers (hd : d.node? h = some (.object members)) (wf : members.WellFormed)
    (writes : List (String × Slot)) :
    ∃ members' : Entries Json, d.node? (setMembers P d h writes) = some (.object members') ∧
      members'.WellFormed := by
  induction writes generalizing h members with
  | nil => exact ⟨members, hd, wf⟩
  | cons w writes ih =>
    obtain ⟨members', hd', wf', -⟩ := node?_set (P := P) hd wf w.1 w.2
    exact ih hd' wf'

theorem keys_node (hd : d.node? h = some (.object members)) :
    keys P h (some (.document d)) = (some members.names, []) := by
  have hentries : Value.entries? h (.document d) =
      some (members.map fun e => (e.1, d.adopt e.1 e.2)) :=
    Document.entries?_eq_some_iff.mpr ⟨members, hd, rfl⟩
  have hkeys := tryKeys_entries (P := P) hentries (by simp [Readable, Heap.hold?])
  rw [Entries.names_map_snd] at hkeys
  rw [keys, hkeys]
  rfl

/-- **What one write of a run does to the key list** of an object node. -/
structure KeysStep (h : Heap) (key : String) (s : Slot) (before after : List String) :
    Prop where
  distinct : before.Nodup
  renames : Renames h key s before after
  survivors : s = none → after.Perm (before.filter (· ≠ key))
  order : s = none → ∀ front back, before = front ++ key :: back →
    (after = before.filter (· ≠ key) ↔ back.length ≤ 1)

/-- **The key list of an object node through a run of writes**, after any number of them and then
one more. Storing keeps the list, or appends a new name to it. A removal takes out its own name and
no other, and where two or more names stand behind that one, the last of them moves forward. -/
theorem keys_follow_writes (hd : d.node? h = some (.object members)) (wf : members.WellFormed)
    (writes : List (String × Slot)) (key : String) (s : Slot) :
    ∃ before after,
      keys P (setMembers P d h writes) (some (.document d)) = (some before, []) ∧
      keys P (setMembers P d h (writes ++ [(key, s)])) (some (.document d)) = (some after, []) ∧
      KeysStep (setMembers P d h writes) key s before after := by
  obtain ⟨ms, hms, wfs⟩ := node?_setMembers (P := P) hd wf writes
  obtain ⟨ms', hms', -, hr⟩ := node?_set (P := P) hms wfs key s
  have hlast : setMembers P d h (writes ++ [(key, s)]) =
      (set P (setMembers P d h writes) (some (.document d)) (some key) s).1 :=
    List.foldl_concat _ h (key, s) writes
  refine ⟨ms.names, ms'.names, keys_node hms, by rw [hlast]; exact keys_node hms', wfs, hr, ?_, ?_⟩
  · rintro rfl
    exact hr.survivors wfs
  · rintro rfl front back hnames
    rw [hnames] at hr ⊢
    exact hr.order_iff (hnames ▸ wfs)

/-- A document with four members. -/
def fourMembers : Heap :=
  (({} : Heap).newDocument (.object [("a", .null), ("b", .null), ("c", .null), ("d", .null)])).1

/-- The second of four members is removed and then stored again. -/
theorem keys_follow_writes_four :
    (∃ members : Entries Json, Document.node? fourMembers ⟨0, ""⟩ = some (.object members) ∧
      members.WellFormed) ∧
    ∃ before after,
      keys .inert (setMembers .inert ⟨0, ""⟩ fourMembers [("b", none)])
        (some (.document ⟨0, ""⟩)) = (some before, []) ∧
      keys .inert (setMembers .inert ⟨0, ""⟩ fourMembers [("b", none), ("b", some (.bool true))])
        (some (.document ⟨0, ""⟩)) = (some after, []) ∧
      KeysStep (setMembers .inert ⟨0, ""⟩ fourMembers [("b", none)]) "b" (some (.bool true))
        before after := by
  have distinct : Entries.WellFormed
      [("a", Json.null), ("b", .null), ("c", .null), ("d", .null)] := by
    rw [Entries.WellFormed]
    decide
  exact ⟨⟨_, rfl, distinct⟩, keys_follow_writes rfl distinct [("b", none)] "b" (some (.bool true))⟩

/-- **The order does not survive a removal**: of four members the second goes, and the last one
takes its place. -/
theorem removal_moves_last_name :
    keys .inert fourMembers (some (.document ⟨0, ""⟩)) = (some ["a", "b", "c", "d"], []) ∧
      keys .inert (setMembers .inert ⟨0, ""⟩ fourMembers [("b", none)])
        (some (.document ⟨0, ""⟩)) = (some ["a", "d", "c"], []) := ⟨rfl, rfl⟩

end Access

end ScriptHost
