import ScriptHost.Proofs.Heap.Location
import ScriptHost.Proofs.Heap.Objectless

/-!
# What a write depends on

A write as data, so that several can be spoken of at once (`Assignment`). What a write comes to is
decided by the cell that its object leads to, and, where that is a document, by the image of what
is stored: in a heap with the same cell the same write succeeds, and puts the same into the cell
(`Write.transfer`).
-/

namespace ScriptHost

/-- New content leaves all holds as they are. -/
theorem Store.hold_modify {α : Type} [Inhabited α] (cells : Store (Cell α)) (a b : Address)
    (f : Cell α → Cell α) (hf : ∀ c, (f c).hold = c.hold) :
    ((cells.modify a f).get b).hold = (cells.get b).hold :=
  Store.get_modify_of_keeps hf b

namespace Heap

variable {h : Heap} {a : Address} (w : Value)

theorem hold?_setMapping {es : Entries Slot} : (h.setMapping a es).hold? w = h.hold? w := by
  cases w with
  | mapping b =>
    exact congrArg some (Store.hold_modify h.mappings a b
      (fun c => { c with content := es }) fun _ => rfl)
  | _ => rfl

theorem hold?_setList {ss : List Slot} : (h.setList a ss).hold? w = h.hold? w := by
  cases w with
  | list b =>
    exact congrArg some (Store.hold_modify h.lists a b
      (fun c => { c with content := ss }) fun _ => rfl)
  | _ => rfl

theorem hold?_setArray {fa : FixedArray} : (h.setArray a fa).hold? w = h.hold? w := by
  cases w with
  | array b =>
    exact congrArg some (Store.hold_modify h.arrays a b
      (fun c => { c with content := fa }) fun _ => rfl)
  | _ => rfl

theorem hold?_setFields {i : Instance} : (h.setFields a i).hold? w = h.hold? w := by
  cases w with
  | record b =>
    exact congrArg some (Store.hold_modify h.records a b
      (fun c => { c with content := { c.content with fields := i } }) fun _ => rfl)
  | _ => rfl

end Heap

namespace Access

open Outcome

variable {P : Protocol} {h h' g : Heap} {v : Value} {key : String} {s : Slot}

/-! ### Writes are carried out -/

theorem commit_of_eq_ok {r : Except AccessError Heap} (hr : r = .ok h') :
    (commit h r).result = .ok () ∧ (commit h r).heap = h' := by
  rw [hr]
  exact ⟨rfl, rfl⟩

theorem storeItem_of_lt {items : List Slot} {i : Int} (lo : 0 ≤ i) (hi : i < items.length) :
    storeItem items i s = .ok (items.set i.toNat s) := by
  rw [storeItem, if_pos ⟨lo, hi⟩]

theorem storeItem_length (items : List Slot) :
    storeItem items items.length s = .ok (items ++ [s]) := by
  rw [storeItem, if_neg (by omega), if_pos rfl]

/-- **A write of those that `Write` lists** is what the library does. -/
theorem Write.trySet_eq (hw : Write P h key s v h') :
    (trySet P h v key s).result = .ok () ∧ (trySet P h v key s).heap = h' := by
  cases hw with
  | @entry a free =>
    rw [trySet_mapping]
    refine commit_of_eq_ok ?_
    rw [forWriting_eq_ok_iff.mpr ⟨free, rfl⟩, ok_bind]
  | @replaced a free lo hi =>
    rw [trySet_list]
    refine commit_of_eq_ok ?_
    rw [forWriting_eq_ok_iff.mpr ⟨free, rfl⟩, ok_bind, storeItem_of_lt lo hi, ok_bind]
  | @appended a free behind =>
    rw [trySet_list]
    refine commit_of_eq_ok ?_
    rw [forWriting_eq_ok_iff.mpr ⟨free, rfl⟩, ok_bind, behind, storeItem_length, ok_bind]
  | @element a fa free lo hi stored =>
    rw [trySet_array]
    refine commit_of_eq_ok ?_
    rw [forWriting_eq_ok_iff.mpr ⟨free, rfl⟩, ok_bind, position_eq_ok_iff.mpr ⟨lo, hi, rfl⟩,
      ok_bind, stored, ok_bind]
  | @scripted _ o kind free state =>
    rw [trySet_scriptObject kind]
    rcases setObject_cases P h o key s with ⟨-, -, heq⟩ | ⟨e, heq⟩
    · rw [heq]
      exact ⟨rfl, rfl⟩
    · unfold setObject at heq
      rw [if_pos free] at heq
      cases hst : o.state? h with
      | none => exact absurd hst state
      | some st =>
        rw [hst] at heq
        cases congrArg Writing.result heq
  | @member d members w j present node image =>
    subst present
    rw [trySet_node (Document.isNode_iff.mpr ⟨members, node⟩)]
    refine commit_of_eq_ok ?_
    rw [memberImage, image]
    show d.writeMember h key (some j) = _
    rw [Document.writeMember, Document.members?_eq_some_iff.mpr node]
  | @removed d members absent node =>
    subst absent
    rw [trySet_node (Document.isNode_iff.mpr ⟨members, node⟩)]
    refine commit_of_eq_ok ?_
    show d.writeMember h key none = _
    rw [Document.writeMember, Document.members?_eq_some_iff.mpr node]
  | @item d items j node lo hi image =>
    have harray : d.isArray h = true := Document.isArray_iff.mpr ⟨items, node⟩
    rw [trySet_items (Document.isNode_eq_false_of_isArray harray) harray]
    refine commit_of_eq_ok ?_
    rw [image, ok_bind, Document.writeItem, Document.items?_eq_some_iff.mpr node]
    dsimp only
    rw [if_neg (by omega)]
  | @field a fields kind free stored =>
    rw [trySet_record kind]
    refine commit_of_eq_ok ?_
    rw [forWriting_eq_ok_iff.mpr ⟨free, rfl⟩, ok_bind, stored, ok_bind]

/-! ### One cell -/

theorem modify_congr {d : Document} {f : Json → Json}
    (hcell : g.tree d.tree = h.tree d.tree) :
    d.modify g f = g.setCell (.tree d.tree) (Pointer.modify d.pointer f (h.tree d.tree)) := by
  rw [Document.modify, hcell]
  rfl

/-- **What a write does is decided by one cell**, the one that its object leads to, and for a
document by the image of what is stored. -/
theorem Write.transfer {l : Location} (hw : Write P h key s v h')
    (hv : ∀ o, v.classify h ≠ some (.scriptObject o)) (hl : v.location? = some l)
    (hcell : g.cell l = h.cell l)
    (himage : ∀ d, v = .document d → g.image s = h.image s) :
    ∃ x, h' = h.setCell l x ∧ Write P g key s v (g.setCell l x) := by
  cases hw with
  | @entry a free =>
    cases hl
    have hmapping : g.mapping a = h.mapping a := hcell
    refine ⟨{ h.mapping a with content := (h.mapping a).content.put key s }, rfl, ?_⟩
    rw [← hmapping] at free ⊢
    exact .entry free
  | @replaced a free lo hi =>
    cases hl
    have hlist : g.list a = h.list a := hcell
    refine ⟨{ h.list a with content := (h.list a).content.set (indexOf key).toNat s }, rfl, ?_⟩
    rw [← hlist] at free hi ⊢
    exact .replaced free lo hi
  | @appended a free behind =>
    cases hl
    have hlist : g.list a = h.list a := hcell
    refine ⟨{ h.list a with content := (h.list a).content ++ [s] }, rfl, ?_⟩
    rw [← hlist] at free behind ⊢
    exact .appended free behind
  | @element a fa free lo hi stored =>
    cases hl
    have harray : g.array a = h.array a := hcell
    refine ⟨{ h.array a with content := fa }, rfl, ?_⟩
    rw [← harray] at free hi stored ⊢
    exact .element free lo hi stored
  | @scripted _ o kind free state => exact absurd kind (hv o)
  | @member d members w j present node image =>
    cases hl
    have hnode : d.node? g = d.node? h := congrArg (Pointer.resolve? · d.pointer) hcell
    refine ⟨_, rfl, ?_⟩
    rw [← modify_congr hcell]
    exact .member present (hnode.trans node) ((himage d rfl).trans image)
  | @removed d members absent node =>
    cases hl
    have hnode : d.node? g = d.node? h := congrArg (Pointer.resolve? · d.pointer) hcell
    refine ⟨_, rfl, ?_⟩
    rw [← modify_congr hcell]
    exact .removed absent (hnode.trans node)
  | @item d items j node lo hi image =>
    cases hl
    have hnode : d.node? g = d.node? h := congrArg (Pointer.resolve? · d.pointer) hcell
    refine ⟨_, rfl, ?_⟩
    rw [← modify_congr hcell]
    exact .item (hnode.trans node) lo hi ((himage d rfl).trans image)
  | @field a fields kind free stored =>
    cases hl
    have hrecord : g.record a = h.record a := hcell
    refine ⟨{ h.record a with content := { (h.record a).content with fields } }, rfl, ?_⟩
    rw [← hrecord] at kind free stored ⊢
    exact .field kind free stored

/-- A write is a change of the cell that its object leads to. -/
theorem Write.exists_setCell (hw : Write P h key s v h')
    (hv : ∀ o, v.classify h ≠ some (.scriptObject o)) :
    ∃ l x, v.location? = some l ∧ h' = h.setCell l x := by
  cases hl : v.location? with
  | none =>
    cases hw with
    | @scripted _ o kind free state => exact absurd kind (hv o)
    | _ => cases hl
  | some l =>
    obtain ⟨x, hx, -⟩ := hw.transfer hv hl rfl fun _ _ => rfl
    exact ⟨l, x, rfl, hx⟩

/-- A write leaves all holds as they are. -/
theorem Write.hold?_eq (hw : Write P h key s v h')
    (hv : ∀ o, v.classify h ≠ some (.scriptObject o)) (w : Value) : h'.hold? w = h.hold? w := by
  cases hw with
  | @scripted _ o kind free state => exact absurd kind (hv o)
  | entry free => exact Heap.hold?_setMapping w
  | replaced free lo hi => exact Heap.hold?_setList w
  | appended free behind => exact Heap.hold?_setList w
  | element free lo hi stored => exact Heap.hold?_setArray w
  | field kind free stored => exact Heap.hold?_setFields w
  | _ => cases w <;> rfl

/-! ### Writes as data -/

/-- A write that is still to be done: where, under which key, and what. -/
structure Assignment where
  object : Value
  key : String
  slot : Slot

namespace Assignment

/-- Carries out the write. -/
def run (P : Protocol) (h : Heap) (c : Assignment) : Writing :=
  trySet P h c.object c.key c.slot

/-- Neither the object nor what is stored is a script object. -/
structure Plain (c : Assignment) : Prop where
  object : Slot.Plain (some c.object)
  slot : c.slot.Plain

variable {c : Assignment}

theorem write_of_ok (hok : (c.run P h).result = .ok ()) :
    Write P h c.key c.slot c.object (c.run P h).heap := trySet_write hok

theorem run_of_write (hw : Write P h c.key c.slot c.object h') :
    (c.run P h).result = .ok () ∧ (c.run P h).heap = h' := hw.trySet_eq

end Assignment

end Access

end ScriptHost
