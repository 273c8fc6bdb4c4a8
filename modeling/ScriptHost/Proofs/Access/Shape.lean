import ScriptHost.Proofs.Access.Change
import ScriptHost.Proofs.Access.Elements
import ScriptHost.Proofs.Access.Secrecy

/-!
# How containers change their shape

Containers keep more of what they were than their place in the heap. An array keeps its element
type and its length, a list never gets shorter, and the names of a mapping stay in their places,
new ones going last.

## The model

One operation writes at most once (`Operation.assignment?`). What a write may do to each sort of
container is a relation between its content before and after, with the index or the name that was
written as a parameter (`ListEffect`, `ArrayEffect`, `MappingEffect`); `Assignment.Effect` puts
them together over a heap. What is left of any number of writes does not mention the keys any more
(`Heap.Evolves`), so it can be composed.

## What is proved

* A write that succeeds has no other effect than these (`Write.effect`).
* Every operation of a script has such an effect, and over any number of operations containers
  evolve (`shapes_evolve`).
-/

namespace ScriptHost

/-! ### One container -/

/-- **What a write at an index does to a list**: it keeps the length, or grows by one if the index
is the length; all other elements stay. -/
structure ListEffect (index : Int) (before after : List Slot) : Prop where
  length : after.length = before.length ∨
    index = before.length ∧ after.length = before.length + 1
  others : ∀ i : Nat, (i : Int) ≠ index → after[i]? = before[i]?

/-- **What a write at an index does to an array**: the element type and the size stay, and all
other elements. -/
structure ArrayEffect (index : Int) (before after : FixedArray) : Prop where
  elementType : after.elementType = before.elementType
  size : after.size = before.size
  others : ∀ i : Nat, (i : Int) ≠ index → after.slots[i]? = before.slots[i]?

/-- **What a write under a name does to a mapping**: the names stay, or the name is new and goes
last; what is under other names stays, and names that were distinct stay so. -/
structure MappingEffect (key : String) (before after : Entries Slot) : Prop where
  names : after.names = before.names ∨ key ∉ before.names ∧ after.names = before.names ++ [key]
  others : ∀ name, name ≠ key → after.value? name = before.value? name
  distinct : before.WellFormed → after.WellFormed

namespace ListEffect

variable {index : Int} {items : List Slot}

theorem refl (index : Int) (items : List Slot) : ListEffect index items items :=
  ⟨.inl rfl, fun _ _ => rfl⟩

theorem set (lo : 0 ≤ index) (s : Slot) : ListEffect index items (items.set index.toNat s) := by
  refine ⟨.inl List.length_set, fun i hi => ?_⟩
  rw [List.getElem?_set_ne]
  omega

theorem append (behind : index = items.length) (s : Slot) :
    ListEffect index items (items ++ [s]) := by
  refine ⟨.inr ⟨behind, List.length_append⟩, fun i hi => ?_⟩
  have hne : i ≠ items.length := by
    intro heq
    exact hi (by rw [heq, behind])
  rcases Nat.lt_or_gt_of_ne hne with hlt | hgt
  · rw [List.getElem?_append_left hlt]
  · rw [List.getElem?_eq_none (Nat.le_of_lt hgt), List.getElem?_eq_none]
    rw [List.length_append, List.length_singleton]
    exact hgt

theorem length_le {before after : List Slot} (he : ListEffect index before after) :
    before.length ≤ after.length := by
  rcases he.length with h | ⟨-, h⟩ <;> omega

end ListEffect

namespace ArrayEffect

variable {index : Int} {fa fb : FixedArray} {s : Slot}

theorem refl (index : Int) (fa : FixedArray) : ArrayEffect index fa fa :=
  ⟨rfl, rfl, fun _ _ => rfl⟩

theorem store (lo : 0 ≤ index) (hb : fa.store index.toNat s = .ok fb) :
    ArrayEffect index fa fb := by
  obtain ⟨-, htype, x, -, hslots⟩ := FixedArray.store_eq_ok_iff.mp hb
  refine ⟨htype, (FixedArray.get_store hb).2, fun i hi => ?_⟩
  rw [hslots, List.getElem?_set_ne]
  omega

end ArrayEffect

namespace MappingEffect

variable {key : String}

theorem refl (key : String) (es : Entries Slot) : MappingEffect key es es :=
  ⟨.inl rfl, fun _ _ => rfl, fun wf => wf⟩

theorem put (key : String) (s : Slot) (es : Entries Slot) :
    MappingEffect key es (es.put key s) := by
  refine ⟨?_, fun name hne => Entries.value?_put_ne hne s es, fun wf => wf.put key s⟩
  rw [Entries.names_put]
  by_cases hkey : key ∈ es.names
  · exact .inl (if_pos hkey)
  · exact .inr ⟨hkey, if_neg hkey⟩

theorem names_prefix {before after : Entries Slot} (he : MappingEffect key before after) :
    before.names <+: after.names := by
  rcases he.names with h | ⟨-, h⟩
  · simp [h]
  · simp [h]

end MappingEffect

/-! ### One write -/

namespace Access

open Outcome

/-- **The effect of a write on the heap**: nothing but the cell that its object leads to changes,
no hold does, and a container changes at the written slot only. An array of a document that is
written through its handle keeps its length. -/
structure Assignment.Effect (c : Assignment) (h h' : Heap) : Prop where
  cell : h' = h ∨ ∃ l x, c.object.location? = some l ∧ h' = h.setCell l x
  hold : ∀ v, h'.hold? v = h.hold? v
  list : ∀ a, c.object = .list a →
    ListEffect (indexOf c.key) (h.list a).content (h'.list a).content
  array : ∀ a, c.object = .array a →
    ArrayEffect (indexOf c.key) (h.array a).content (h'.array a).content
  mapping : ∀ a, c.object = .mapping a →
    MappingEffect c.key (h.mapping a).content (h'.mapping a).content
  items : ∀ d, c.object = .document d → d.isArray h = true → d.length? h' = d.length? h

namespace Assignment.Effect

variable {c : Assignment} {h h' : Heap}

theorem refl (c : Assignment) (h : Heap) : c.Effect h h where
  cell := .inl rfl
  hold _ := rfl
  list _ _ := .refl _ _
  array _ _ := .refl _ _
  mapping _ _ := .refl _ _
  items _ _ _ := rfl

/-- A cell that the object does not lead to is what it was. -/
theorem elsewhere (he : c.Effect h h') {l : Location} (hl : c.object.location? ≠ some l) :
    h'.cell l = h.cell l := by
  rcases he.cell with rfl | ⟨m, x, hm, rfl⟩
  · rfl
  · refine Heap.cell_setCell_ne ?_ h x
    rintro rfl
    exact hl hm

theorem list_eq (he : c.Effect h h') {a : Address} (ha : c.object ≠ .list a) :
    h'.list a = h.list a := by
  refine he.elsewhere (l := .list a) fun hl => ha ?_
  cases hv : c.object <;> rw [hv] at hl <;> cases hl
  rfl

theorem array_eq (he : c.Effect h h') {a : Address} (ha : c.object ≠ .array a) :
    h'.array a = h.array a := by
  refine he.elsewhere (l := .array a) fun hl => ha ?_
  cases hv : c.object <;> rw [hv] at hl <;> cases hl
  rfl

theorem mapping_eq (he : c.Effect h h') {a : Address} (ha : c.object ≠ .mapping a) :
    h'.mapping a = h.mapping a := by
  refine he.elsewhere (l := .mapping a) fun hl => ha ?_
  cases hv : c.object <;> rw [hv] at hl <;> cases hl
  rfl

end Assignment.Effect

variable {P : Protocol} {h h' : Heap} {c : Assignment}

/-- What is found in a cell that was set, where there may be no cell. -/
theorem effect_setCell {l : Location} {x : l.Content} {r : l.Content → Prop}
    (hold : r (h.cell l)) (hnew : r x) : r ((h.setCell l x).cell l) := by
  rcases Heap.cell_setCell_or_eq h l x with heq | heq
  · rwa [heq]
  · rwa [heq]

/-- **A write that succeeds** has no other effect. -/
theorem Write.effect (hw : Write P h c.key c.slot c.object h')
    (hv : ∀ o, c.object.classify h ≠ some (.scriptObject o)) : c.Effect h h' := by
  have hcell := hw.exists_setCell hv
  refine ⟨.inr hcell, hw.hold?_eq hv, ?_, ?_, ?_, ?_⟩
  · intro a ha
    rw [ha] at hw
    cases hw with
    | scripted kind free state => exact absurd (ha ▸ kind) (hv _)
    | replaced free lo hi =>
      exact effect_setCell (l := .list a)
        (r := fun x : Cell (List Slot) => ListEffect (indexOf c.key) (h.list a).content x.content)
        (.refl _ _) (.set lo c.slot)
    | appended free behind =>
      exact effect_setCell (l := .list a)
        (r := fun x : Cell (List Slot) => ListEffect (indexOf c.key) (h.list a).content x.content)
        (.refl _ _) (.append behind c.slot)
  · intro a ha
    rw [ha] at hw
    cases hw with
    | scripted kind free state => exact absurd (ha ▸ kind) (hv _)
    | element free lo hi stored =>
      exact effect_setCell (l := .array a)
        (r := fun x : Cell FixedArray => ArrayEffect (indexOf c.key) (h.array a).content x.content)
        (.refl _ _) (.store lo stored)
  · intro a ha
    rw [ha] at hw
    cases hw with
    | scripted kind free state => exact absurd (ha ▸ kind) (hv _)
    | entry free =>
      exact effect_setCell (l := .mapping a)
        (r := fun x : Cell (Entries Slot) => MappingEffect c.key (h.mapping a).content x.content)
        (.refl _ _) (.put c.key c.slot _)
  · intro d hd harray
    rw [hd] at hw
    obtain ⟨items, hitems⟩ := Document.isArray_iff.mp harray
    cases hw with
    | scripted kind free state => exact absurd (hd ▸ kind) (hv _)
    | member present node image => rw [hitems] at node; cases node
    | removed absent node => rw [hitems] at node; cases node
    | @item _ before j node lo hi image =>
      obtain ⟨path, hpath, -⟩ := Document.exists_path_of_node? node
      have hnode := Document.node?_modify_self
        (f := fun _ => Json.array (before.set (indexOf c.key).toNat j)) hpath
        (Document.live_of_node? node (by simp))
      rw [node, Option.map_some] at hnode
      rw [Document.length?, Document.length?, Document.items?_eq_some_iff.mpr hnode,
        Document.items?_eq_some_iff.mpr node, Option.map_some, Option.map_some, List.length_set]

theorem Assignment.effect (ho : h.Objectless) (hc : Slot.Plain (some c.object)) :
    c.Effect h (c.run P h).heap := by
  cases hr : (c.run P h).result with
  | ok _ => exact (Assignment.write_of_ok hr).effect (classify_ne_scriptObject ho hc)
  | error e =>
    have hsame : (c.run P h).heap = h := (trySet_error hr).1
    rw [hsame]
    exact .refl c h

end Access

/-! ### Any number of writes -/

namespace Heap

/-- **How containers evolve**: lists do not get shorter, arrays keep their element type and size,
and mappings keep their names in order, with new ones behind them. -/
structure Evolves (h h' : Heap) : Prop where
  list : ∀ a, (h.list a).content.length ≤ (h'.list a).content.length
  elementType : ∀ a, (h'.array a).content.elementType = (h.array a).content.elementType
  size : ∀ a, (h'.array a).content.size = (h.array a).content.size
  names : ∀ a, (h.mapping a).content.names <+: (h'.mapping a).content.names
  distinct : ∀ a, (h.mapping a).content.WellFormed → (h'.mapping a).content.WellFormed

theorem Evolves.refl (h : Heap) : h.Evolves h :=
  ⟨fun _ => Nat.le_refl _, fun _ => rfl, fun _ => rfl, fun _ => List.prefix_rfl, fun _ wf => wf⟩

theorem Evolves.trans {h h' h'' : Heap} (he : h.Evolves h') (he' : h'.Evolves h'') :
    h.Evolves h'' where
  list a := Nat.le_trans (he.list a) (he'.list a)
  elementType a := (he'.elementType a).trans (he.elementType a)
  size a := (he'.size a).trans (he.size a)
  names a := (he.names a).trans (he'.names a)
  distinct a wf := he'.distinct a (he.distinct a wf)

end Heap

namespace Access

variable {P : Protocol} {h h' : Heap} {c : Assignment} {script : Script}

/-- One write lets containers evolve. -/
theorem Assignment.Effect.evolves (he : c.Effect h h') : h.Evolves h' := by
  have hlist : ∀ a, ∃ i, ListEffect i (h.list a).content (h'.list a).content := by
    intro a
    by_cases ha : c.object = .list a
    · exact ⟨_, he.list a ha⟩
    · rw [he.list_eq ha]
      exact ⟨0, .refl 0 _⟩
  have harray : ∀ a, ∃ i, ArrayEffect i (h.array a).content (h'.array a).content := by
    intro a
    by_cases ha : c.object = .array a
    · exact ⟨_, he.array a ha⟩
    · rw [he.array_eq ha]
      exact ⟨0, .refl 0 _⟩
  have hmapping : ∀ a, ∃ key, MappingEffect key (h.mapping a).content (h'.mapping a).content := by
    intro a
    by_cases ha : c.object = .mapping a
    · exact ⟨_, he.mapping a ha⟩
    · rw [he.mapping_eq ha]
      exact ⟨"", .refl "" _⟩
  constructor
  · intro a
    obtain ⟨i, hi⟩ := hlist a
    exact hi.length_le
  · intro a
    obtain ⟨i, hi⟩ := harray a
    exact hi.elementType
  · intro a
    obtain ⟨i, hi⟩ := harray a
    exact hi.size
  · intro a
    obtain ⟨key, hkey⟩ := hmapping a
    exact hkey.names_prefix
  · intro a
    obtain ⟨key, hkey⟩ := hmapping a
    exact hkey.distinct

/-- The write that an operation does, if it does one. -/
def Operation.assignment? : Operation → Option Assignment
  | set (some v) (some key) s => some ⟨v, key, s⟩
  | trySet v key s => some ⟨v, key, s⟩
  | _ => none

/-- **The effect of an operation** is that of its write; without one, the heap stays as it is. -/
def Operation.Effect (op : Operation) (h h' : Heap) : Prop :=
  match op.assignment? with
  | none => h' = h
  | some c => c.Effect h h'

theorem set_heap (P : Protocol) (h : Heap) (v : Value) (key : String) (s : Slot) :
    (set P h (some v) (some key) s).1 = (trySet P h v key s).heap := by
  rw [set]
  cases (trySet P h v key s).result <;> rfl

theorem Operation.effect (ho : h.Objectless) {op : Operation} (hop : op.Plain) :
    op.Effect h (op.run P h).2 := by
  cases op with
  | set object key s =>
    cases object with
    | none => exact rfl
    | some v =>
      cases key with
      | none => exact rfl
      | some key =>
        have hv : Slot.Plain (some v) := hop (some v) List.mem_cons_self
        have heffect := Assignment.effect (P := P) (c := ⟨v, key, s⟩) ho hv
        show Assignment.Effect ⟨v, key, s⟩ h (Access.set P h (some v) (some key) s).1
        rw [set_heap]
        exact heffect
  | trySet v key s =>
    exact Assignment.effect (c := ⟨v, key, s⟩) ho (hop (some v) List.mem_cons_self)
  | _ => exact rfl

theorem Operation.Effect.evolves {op : Operation} (he : op.Effect h h') : h.Evolves h' := by
  unfold Operation.Effect at he
  split at he
  · rw [he]
    exact .refl h
  · exact he.evolves

/-- **Containers keep their shape over any script.** On a heap without script objects: each
operation changes at most the one cell that it writes to, and there at most the one slot under its
key; it lets a list grow only by an element just behind its end, keeps the type and size of every
array, and adds at most its key, as the last, to the names of a mapping. So from any point of the
run to any later one, lists do not get shorter, arrays are of the same type and size, and the names
of a mapping stay distinct and go on from what they were. -/
theorem shapes_evolve (hscript : script.Plain) (ho : h.Objectless) (P : Protocol) :
    (∀ n, (script (script.run P h n).1).Effect (script.run P h n).2
      (script.run P h (n + 1)).2) ∧
    ∀ m n, m ≤ n → (script.run P h m).2.Evolves (script.run P h n).2 := by
  have hstep : ∀ n, (script (script.run P h n).1).Effect (script.run P h n).2
      (script.run P h (n + 1)).2 := by
    intro n
    obtain ⟨hpast, hkept⟩ := Script.run_kept (P := P) hscript ho n
    rw [Script.run_succ]
    exact Operation.effect hkept.objectless (hscript _ hpast)
  refine ⟨hstep, fun m n hmn => ?_⟩
  -- by induction on the operations between the two points
  induction hmn with
  | refl => exact .refl _
  | @step n _ ih => exact ih.trans (hstep n).evolves

/-- A script that puts a list into itself, again and again. -/
def intoItself : Script
  | [] => .trySet (.list 0) "0" (some (.list 0))
  | _ :: _ => .set (some (.list 0)) (some "1") (some (.list 0))

theorem plain_intoItself : intoItself.Plain := by
  intro past _ s hs
  have hlist : Slot.Plain (some (.list 0)) := by
    intro a
    simp
  cases past with
  | nil =>
    have heq : s = some (.list 0) := by simpa [intoItself, Operation.arguments] using hs
    rw [heq]
    exact hlist
  | cons _ _ =>
    have heq : s = some (.list 0) := by simpa [intoItself, Operation.arguments] using hs
    rw [heq]
    exact hlist

/-- The list grows twice, and then its second element is replaced. -/
theorem shapes_evolve_intoItself :
    intoItself.Plain ∧ (({} : Heap).newList []).1.Objectless ∧
      ((intoItself.run .inert (({} : Heap).newList []).1 3).2.list 0).content =
        [some (.list 0), some (.list 0)] ∧
      (∀ n, (intoItself (intoItself.run .inert (({} : Heap).newList []).1 n).1).Effect
        (intoItself.run .inert (({} : Heap).newList []).1 n).2
        (intoItself.run .inert (({} : Heap).newList []).1 (n + 1)).2) ∧
      ∀ m n, m ≤ n → (intoItself.run .inert (({} : Heap).newList []).1 m).2.Evolves
        (intoItself.run .inert (({} : Heap).newList []).1 n).2 := by
  have ho : (({} : Heap).newList []).1.Objectless :=
    .newList .empty (List.forall_mem_nil _)
  exact ⟨plain_intoItself, ho, by decide, shapes_evolve plain_intoItself ho .inert⟩

end Access

end ScriptHost
