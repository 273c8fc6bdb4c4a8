import ScriptHost.Access.Total
import ScriptHost.Proofs.Access.Write
import ScriptHost.Proofs.Image.Container

/-!
# Heaps stay well-formed

The heap without cells is well-formed, new cells keep it so if their names are distinct, and
so does every write (`Write.wellFormed`) and every run of them (`foldl_set_wellFormed`), for the
image of a value in a well-formed heap is well-formed (`image_wellFormed`). Whatever every write
keeps is kept by a run, since a write that is ignored changes nothing (`foldl_set_keeps`).
-/

namespace ScriptHost

open Outcome

theorem Entries.WellFormed.ofList {α : Type} (es : List (String × α)) :
    (Entries.ofList es).WellFormed := by
  have hfold : ∀ acc : Entries α, acc.WellFormed →
      (es.foldl (fun acc e => Entries.put e.1 e.2 acc) acc).WellFormed := by
    induction es with
    | nil => exact fun acc hacc => hacc
    | cons e es ih => exact fun acc hacc => ih _ (hacc.put e.1 e.2)
  exact hfold [] List.nodup_nil

theorem Store.forall_get_add {α : Type} [Inhabited α] {s : Store α} {x : α} {p : α → Prop}
    (hs : ∀ a, p (s.get a)) (hx : p x) (a : Nat) : p ((s.add x).1.get a) := by
  rw [Store.get_add]
  split
  · exact hx
  · exact hs a

namespace Heap

/-! ### How heaps come about -/

theorem WellFormed.empty : ({} : Heap).WellFormed := by
  refine ⟨fun a => ?_, fun a => ?_⟩
  · have hd : ({} : Heap).mapping a = default := Store.get_empty a
    rw [hd]
    exact List.nodup_nil
  · have hd : ({} : Heap).tree a = default := Store.get_empty a
    rw [hd]
    exact .null

namespace WellFormed

variable {h : Heap} (wf : h.WellFormed)

include wf

theorem newMapping {es : Entries Slot} (hes : es.WellFormed) : (h.newMapping es).1.WellFormed :=
  ⟨Store.forall_get_add (p := fun c : Cell (Entries Slot) => c.content.WellFormed) wf.mapping hes,
    wf.tree⟩

theorem newDocument {j : Json} (hj : j.WellFormed) : (h.newDocument j).1.WellFormed :=
  ⟨wf.mapping, Store.forall_get_add (p := Json.WellFormed) wf.tree hj⟩

theorem newList (items : List Slot) : (h.newList items).1.WellFormed := ⟨wf.mapping, wf.tree⟩

theorem newArray (fa : FixedArray) : (h.newArray fa).1.WellFormed := ⟨wf.mapping, wf.tree⟩

theorem newObject (o : ScriptObject) : (h.newObject o).1.WellFormed := ⟨wf.mapping, wf.tree⟩

theorem newRecord (r : Record) : (h.newRecord r).1.WellFormed := ⟨wf.mapping, wf.tree⟩

end WellFormed

/-! ### Images -/

theorem assemble_wellFormed {h : Heap} (wf : h.WellFormed) {c : Container} {images : List Json}
    (hlen : images.length = (c.slots h).length) (him : ∀ j ∈ images, j.WellFormed) :
    (c.assemble h images).WellFormed := by
  cases c with
  | mapping a =>
    refine .object ?_ fun e he => him e.2 (List.of_mem_zip he).2
    have heq : (h.mapping a).content.names.length = images.length := by
      rw [hlen, Container.slots, Entries.names, List.length_map, List.length_map]
    rw [Entries.WellFormed, Entries.names, List.map_fst_zip (Nat.le_of_eq heq)]
    exact wf.mapping a
  | list a => exact .array him
  | array a => exact .array him

theorem leaf_wellFormed {h : Heap} (wf : h.WellFormed) {s : Slot} {j : Json}
    (hj : h.imageWithin 0 [] s = .ok j) : j.WellFormed := by
  cases s with
  | none =>
    simp only [imageWithin] at hj
    cases hj
    exact .null
  | some v =>
    cases v <;> simp only [imageWithin, floatImage_eq_ok_iff] at hj
    case document d =>
      cases hj
      cases hd : d.node? h with
      | none => exact .null
      | some c =>
        obtain ⟨path, -, hpath⟩ := Document.exists_path_of_node? hd
        exact (wf.tree d.tree).follow hpath
    case float32 x =>
      obtain ⟨hx, rfl⟩ := hj
      exact .number _
    case float64 x =>
      obtain ⟨hx, rfl⟩ := hj
      exact .number _
    all_goals cases hj <;> constructor

theorem image_wellFormed {h : Heap} (wf : h.WellFormed) {s : Slot} {j : Json}
    (hj : h.image s = .ok j) : j.WellFormed :=
  imageWithin_induction (fun _ _ _ hleaf => leaf_wellFormed wf hleaf)
    (fun _ _ hlen him => assemble_wellFormed wf hlen him) hj

theorem WellFormed.modify {h : Heap} (wf : h.WellFormed) {d : Document} {f : Json → Json}
    (hf : ∀ c, d.node? h = some c → (f c).WellFormed) : (d.modify h f).WellFormed := by
  refine wf.setTree d.tree ?_
  rw [Pointer.modify]
  cases hd : Pointer.tokens? d.pointer with
  | none => exact wf.tree d.tree
  | some path =>
    refine (wf.tree d.tree).modifyAt fun c hc => hf c ?_
    rw [Document.node?_eq hd, hc]

end Heap

namespace Access

variable {P : Protocol} {h h' : Heap} {key : String} {s : Slot} {v : Value}

/-- **Every write keeps a heap well-formed**, if the protocol of the script objects does. -/
theorem Write.wellFormed (wf : h.WellFormed)
    (hP : ∀ g o k t, g.WellFormed → (P.set g o k t).1.WellFormed) (hw : Write P h key s v h') :
    h'.WellFormed := by
  cases hw with
  | @entry a free => exact wf.setMapping a ((wf.mapping a).put key s)
  | @replaced a free lo hi => exact wf.setList a _
  | @appended a free behind => exact wf.setList a _
  | @element a fa free lo hi stored => exact wf.setArray a fa
  | @scripted _ o kind free state =>
    exact (hP _ o key s (wf.changeHold _ o.handle)).changeHold _ o.handle
  | member present node image =>
    refine wf.modify fun c hc => ?_
    obtain ⟨path, -, hpath⟩ := Document.exists_path_of_node? node
    have hmembers := Json.wellFormed_object_iff.mp ((wf.tree _).follow hpath)
    refine Json.wellFormed_object_iff.mpr ⟨hmembers.1.put key _, fun e he => ?_⟩
    rcases Entries.mem_put he with rfl | he
    · exact Heap.image_wellFormed wf image
    · exact hmembers.2 e he
  | removed absent node =>
    refine wf.modify fun c hc => ?_
    obtain ⟨path, -, hpath⟩ := Document.exists_path_of_node? node
    have hmembers := Json.wellFormed_object_iff.mp ((wf.tree _).follow hpath)
    exact Json.wellFormed_object_iff.mpr ⟨hmembers.1.swapErase key, fun e he =>
      hmembers.2 e (Entries.mem_of_mem_swapErase hmembers.1 he)⟩
  | item node lo hi image =>
    refine wf.modify fun c hc => ?_
    obtain ⟨path, -, hpath⟩ := Document.exists_path_of_node? node
    have hitems := Json.wellFormed_array_iff.mp ((wf.tree _).follow hpath)
    refine Json.wellFormed_array_iff.mpr fun j hj => ?_
    rcases List.mem_or_eq_of_mem_set hj with hj | rfl
    · exact hitems j hj
    · exact Heap.image_wellFormed wf image
  | @field a fields kind free stored => exact wf.setFields a fields

section Keeps

variable {Q : Heap → Prop}
  (hQ : ∀ (g g' : Heap) (v : Value) (k : String) (t : Slot), Q g → Write P g k t v g' → Q g')
  (hh : Q h)

include hQ hh

/-- What every write keeps is kept whether or not a write is ignored. -/
theorem set_keeps (o : Slot) (k : Option String) (s : Slot) : Q (set P h o k s).1 := by
  cases o with
  | none => exact hh
  | some v =>
    cases k with
    | none => exact hh
    | some key =>
      rw [set]
      cases hr : (trySet P h v key s).result with
      | ok _ => exact hQ _ _ _ _ _ hh (trySet_write hr)
      | error e =>
        dsimp only
        rw [(trySet_error hr).1]
        exact hh

/-- So it is kept by any run of writes. -/
theorem foldl_set_keeps (writes : List (Slot × Option String × Slot)) :
    Q (writes.foldl (fun h w => (set P h w.1 w.2.1 w.2.2).1) h) := by
  induction writes generalizing h with
  | nil => exact hh
  | cons w writes ih => exact ih (set_keeps hQ hh w.1 w.2.1 w.2.2)

end Keeps

/-- **Any run of writes keeps a heap well-formed**, those that are ignored among them. -/
theorem foldl_set_wellFormed (wf : h.WellFormed)
    (hP : ∀ g o k t, g.WellFormed → (P.set g o k t).1.WellFormed)
    (writes : List (Slot × Option String × Slot)) :
    (writes.foldl (fun h w => (set P h w.1 w.2.1 w.2.2).1) h).WellFormed :=
  foldl_set_keeps (fun _ _ _ _ _ wf hw => hw.wellFormed wf hP) wf writes

end Access

end ScriptHost
