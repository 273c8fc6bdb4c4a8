import ScriptHost.Proofs.Access.Invariant
import ScriptHost.Proofs.Heap.Hold
import ScriptHost.Proofs.Json.WordSized

/-!
# Heaps with integers of one word

A heap whose documents have integers of one word keeps that whatever is written, for the integers
that a conversion makes are those of values (`Heap.WordSized.image`). One write keeps it
(`Access.Write.wordSized`), and so does any run of writes (`Access.foldl_set_wordSized`).
-/

namespace ScriptHost

/-- All integers inside documents fit a word. -/
def Heap.WordSized (h : Heap) : Prop := ∀ a, (h.tree a).WordSized

namespace Heap.WordSized

variable {h : Heap} (hh : h.WordSized)

theorem empty : ({} : Heap).WordSized := by
  intro a
  have hd : ({} : Heap).tree a = default := Store.get_empty a
  rw [hd]
  exact .null

include hh

theorem newDocument {j : Json} (hj : j.WordSized) : (h.newDocument j).1.WordSized :=
  Store.forall_get_add (p := Json.WordSized) hh hj

theorem setTree (a : Address) {j : Json} (hj : j.WordSized) : (h.setTree a j).WordSized :=
  Store.forall_get_modify (f := fun _ => j) (p := Json.WordSized) hh hj

theorem node {d : Document} {j : Json} (hj : d.node? h = some j) : j.WordSized := by
  obtain ⟨path, -, hpath⟩ := Document.exists_path_of_node? hj
  exact (hh d.tree).follow hpath

theorem modify {d : Document} {f : Json → Json} (hf : ∀ c, c.WordSized → (f c).WordSized) :
    (d.modify h f).WordSized := by
  refine hh.setTree d.tree ?_
  rw [Pointer.modify]
  cases Pointer.tokens? d.pointer with
  | none => exact hh d.tree
  | some path => exact (hh d.tree).modifyAt hf

theorem leaf {s : Slot} {j : Json} (hs : s.bind Value.container? = none)
    (hj : h.imageWithin 0 [] s = .ok j) : j.WordSized := by
  cases s with
  | none =>
    simp only [imageWithin] at hj
    cases hj
    exact .null
  | some v =>
    cases v <;> simp only [imageWithin, floatImage_eq_ok_iff] at hj
    case document d =>
      cases hj
      cases hd : d.node? h with
      | none => exact .null
      | some c => exact hh.node hd
    case int32 n =>
      cases hj
      have hlo := n.minValue_le_toInt
      have hhi := n.toInt_le
      exact .number ⟨Int.le_trans (by decide) hlo, Int.lt_of_le_of_lt hhi (by decide)⟩
    case int64 n =>
      cases hj
      have hlo := n.minValue_le_toInt
      have hhi := n.toInt_le
      exact .number ⟨Int.le_trans (by decide) hlo, Int.lt_of_le_of_lt hhi (by decide)⟩
    case float32 x =>
      obtain ⟨hx, rfl⟩ := hj
      exact .number trivial
    case float64 x =>
      obtain ⟨hx, rfl⟩ := hj
      exact .number trivial
    case mapping a => cases hs
    case list a => cases hs
    case array a => cases hs
    all_goals cases hj <;> constructor

/-- The image of a value has integers of one word. -/
theorem image {s : Slot} {j : Json} (hj : h.image s = .ok j) : j.WordSized := by
  refine imageWithin_induction (fun _ _ hs hleaf => hh.leaf hs hleaf) ?_ hj
  intro c images _ him
  cases c with
  | mapping a => exact .object fun e he => him e.2 (List.of_mem_zip he).2
  | list a => exact .array him
  | array a => exact .array him

end Heap.WordSized

namespace Access

variable {P : Protocol} {h h' : Heap} {key : String} {s : Slot} {v : Value}

/-- **Every write keeps integers to one word**, if the protocol of the script objects does. -/
theorem Write.wordSized (wf : h.WellFormed) (hh : h.WordSized)
    (hP : ∀ g o k t, g.WordSized → (P.set g o k t).1.WordSized) (hw : Write P h key s v h') :
    h'.WordSized := by
  have hhold : ∀ (g : Heap) f w, g.WordSized → (g.changeHold f w).WordSized := by
    intro g f w hg a
    rw [Heap.tree_changeHold]
    exact hg a
  cases hw with
  | @scripted _ o kind free state => exact hhold _ _ _ (hP _ o key s (hhold _ _ _ hh))
  | @member d members w j present node image =>
    refine hh.modify fun _ _ => .object fun e he => ?_
    rcases Entries.mem_put he with rfl | he
    · exact hh.image image
    · exact Json.wordSized_object_iff.mp (hh.node node) e he
  | @removed d members absent node =>
    obtain ⟨path, -, hpath⟩ := Document.exists_path_of_node? node
    have hmembers := (Json.wellFormed_object_iff.mp ((wf.tree _).follow hpath)).1
    refine hh.modify fun _ _ => .object fun e he => ?_
    exact Json.wordSized_object_iff.mp (hh.node node) e (Entries.mem_of_mem_swapErase hmembers he)
  | @item d items j node lo hi image =>
    refine hh.modify fun _ _ => .array fun k hk => ?_
    rcases List.mem_or_eq_of_mem_set hk with hk | rfl
    · exact Json.wordSized_array_iff.mp (hh.node node) k hk
    · exact hh.image image
  | _ => exact hh

/-- **Any run of writes keeps integers to one word**, those that are ignored among them. The heap
stays well-formed on the way, which each write relies on. -/
theorem foldl_set_wordSized (wf : h.WellFormed) (hh : h.WordSized)
    (hwf : ∀ g o k t, g.WellFormed → (P.set g o k t).1.WellFormed)
    (hP : ∀ g o k t, g.WordSized → (P.set g o k t).1.WordSized)
    (writes : List (Slot × Option String × Slot)) :
    (writes.foldl (fun h w => (set P h w.1 w.2.1 w.2.2).1) h).WellFormed ∧
      (writes.foldl (fun h w => (set P h w.1 w.2.1 w.2.2).1) h).WordSized := by
  refine foldl_set_keeps (Q := fun g => g.WellFormed ∧ g.WordSized) ?_ ⟨wf, hh⟩ writes
  rintro g g' v k t ⟨wf, hg⟩ hw
  exact ⟨hw.wellFormed wf hwf, hw.wordSized wf hg hP⟩

end Access

end ScriptHost
