import ScriptHost.Proofs.Access.Change
import ScriptHost.Proofs.Access.Elements
import ScriptHost.Proofs.Document.Child
import ScriptHost.Proofs.Image.Frame
import ScriptHost.Proofs.Record.Commute

/-!
# Independent writes

Two writes that have nothing to do with each other can be done in either order.

## The model

Writes have nothing to do with each other if they go to different cells, or to different places of
one cell that are both there already (`Assignment.Apart`), and if neither reads the other's cell to
convert what it stores (`Assignment.Reads`).

## What is proved

* Of writes to different cells, each depends on its own cell and on what it converts
  (`commute_cells`).
* Of writes to one cell, each keeps the place of the other, with one lemma for each kind of cell.
* So independent writes that succeed in one order succeed in the other, and leave the same heap
  (`independent_writes_commute`).
-/

namespace ScriptHost

namespace Heap

variable {h : Heap} {a : Address}

theorem setMapping_setMapping (es fs : Entries Slot) :
    (h.setMapping a es).setMapping a fs = h.setMapping a fs := by
  simp only [setMapping, Store.modify_modify]

theorem setList_setList (ss ts : List Slot) :
    (h.setList a ss).setList a ts = h.setList a ts := by
  simp only [setList, Store.modify_modify]

theorem setArray_setArray (fa fb : FixedArray) :
    (h.setArray a fa).setArray a fb = h.setArray a fb := by
  simp only [setArray, Store.modify_modify]

theorem setFields_setFields (i j : Instance) :
    (h.setFields a i).setFields a j = h.setFields a j := by
  simp only [setFields, Store.modify_modify]

theorem setTree_setTree (i j : Json) : (h.setTree a i).setTree a j = h.setTree a j := by
  simp only [setTree, Store.set_set_self]

end Heap

namespace Access

open Pointer

variable {P : Protocol} {h h₁ h₂ : Heap} {a : Address} {key other : String} {s t : Slot}

/-! ### One cell -/

/-- Entries that are there can be written in either order. -/
theorem commute_entries (hkey : key ∈ (h.mapping a).content.names) (hne : key ≠ other)
    (hw : Write P h key s (.mapping a) h₁) (hw' : Write P h₁ other t (.mapping a) h₂) :
    ∃ g, Write P h other t (.mapping a) g ∧ Write P g key s (.mapping a) h₂ := by
  obtain ⟨x, hx⟩ := Entries.exists_mem_of_mem_names hkey
  have live : h.Live (.mapping a) :=
    Container.live_of_mem_slots (c := .mapping a) (List.mem_map_of_mem hx)
  cases hw with
  | scripted kind _ _ => cases kind
  | entry free =>
    cases hw' with
    | scripted kind _ _ => cases kind
    | entry free' =>
      refine ⟨_, .entry free, ?_⟩
      have hw : Write P (h.setMapping a ((h.mapping a).content.put other t)) key s (.mapping a) _ :=
        .entry (by rw [Heap.mapping_setMapping_self live]; exact free)
      rw [Heap.mapping_setMapping_self live, Heap.setMapping_setMapping] at hw ⊢
      dsimp only at hw ⊢
      rwa [Entries.put_comm hne hkey] at hw

/-- Elements of a list that are there can be written in either order. -/
theorem commute_items (hi : indexOf key < (h.list a).content.length)
    (hj : indexOf other < (h.list a).content.length) (hne : indexOf key ≠ indexOf other)
    (hw : Write P h key s (.list a) h₁) (hw' : Write P h₁ other t (.list a) h₂) :
    ∃ g, Write P h other t (.list a) g ∧ Write P g key s (.list a) h₂ := by
  cases hw with
  | scripted kind _ _ => cases kind
  | appended free behind => omega
  | replaced free lo _ =>
    have live : h.Live (.list a) := by
      by_contra hlive
      have hnil : (h.list a).content = [] := Container.slots_of_not_live (c := .list a) hlive
      rw [hnil] at hi
      exact absurd (Int.lt_of_le_of_lt lo hi) (by simp)
    have hcell := Heap.list_setList_self live ((h.list a).content.set (indexOf key).toNat s)
    cases hw' with
    | scripted kind _ _ => cases kind
    | appended free' behind =>
      rw [hcell, List.length_set] at behind
      omega
    | replaced free' lo' _ =>
      refine ⟨_, .replaced free lo' hj, ?_⟩
      have hcell' := Heap.list_setList_self live ((h.list a).content.set (indexOf other).toNat t)
      have hw : Write P (h.setList a ((h.list a).content.set (indexOf other).toNat t)) key s
          (.list a) _ :=
        .replaced (by rw [hcell']; exact free) lo (by rw [hcell', List.length_set]; exact hi)
      rw [hcell', Heap.setList_setList] at hw
      rw [hcell, Heap.setList_setList]
      have hindex : (indexOf key).toNat ≠ (indexOf other).toNat := by omega
      rwa [List.set_comm s t hindex]

/-- Elements of an array can be written in either order. -/
theorem commute_elements (hne : indexOf key ≠ indexOf other)
    (hw : Write P h key s (.array a) h₁) (hw' : Write P h₁ other t (.array a) h₂) :
    ∃ g, Write P h other t (.array a) g ∧ Write P g key s (.array a) h₂ := by
  cases hw with
  | scripted kind _ _ => cases kind
  | @element _ fa free lo hi stored =>
    have live : h.Live (.array a) := by
      by_contra hlive
      have hd : h.array a = default := Store.get_of_size_le (Nat.le_of_not_lt hlive)
      rw [hd] at hi
      exact absurd (Int.lt_of_le_of_lt lo hi) (by decide)
    have hcell := Heap.array_setArray_self live fa
    cases hw' with
    | scripted kind _ _ => cases kind
    | @element _ fb free' lo' hi' stored' =>
      rw [hcell] at hi' stored'
      have hsize := (FixedArray.get_store stored).2
      have hindex : (indexOf key).toNat ≠ (indexOf other).toNat := by omega
      obtain ⟨fc, hfc, hfb⟩ := FixedArray.store_comm hindex stored stored'
      have hsize' := (FixedArray.get_store hfc).2
      have hcell' := Heap.array_setArray_self live fc
      refine ⟨_, .element free lo' (by rwa [← hsize]) hfc, ?_⟩
      have hw : Write P (h.setArray a fc) key s (.array a) ((h.setArray a fc).setArray a fb) :=
        .element (by rw [hcell']; exact free) lo (by rw [hcell', hsize']; exact hi)
          (by rw [hcell']; exact hfb)
      rw [Heap.setArray_setArray] at hw ⊢
      exact hw

/-- Fields at different places can be written in either order. -/
theorem commute_fields
    (hne : (h.record a).content.type.place? key ≠ (h.record a).content.type.place? other)
    (hscript : (h.record a).content.type.own.scriptObject = false)
    (hw : Write P h key s (.record a) h₁) (hw' : Write P h₁ other t (.record a) h₂) :
    ∃ g, Write P h other t (.record a) g ∧ Write P g key s (.record a) h₂ := by
  have hclass : ∀ g : Heap, (g.record a).content.type.own.scriptObject = false →
      ∀ o, Value.classify g (.record a) ≠ some (.scriptObject o) := by
    intro g hg o
    rw [Value.classify_record, hg]
    simp
  cases hw with
  | @scripted _ o kind _ _ => exact absurd kind (hclass h hscript o)
  | @field _ i kind free stored =>
    have live : h.Live (.record a) := by
      by_contra hlive
      have hd : h.record a = default := Store.get_of_size_le (Nat.le_of_not_lt hlive)
      rw [hd] at stored
      cases stored
    have hcell := Heap.record_setFields_self live i
    cases hw' with
    | @scripted _ o kind' _ _ => exact absurd kind' (hclass _ (by rwa [hcell]) o)
    | @field _ j kind' free' stored' =>
      rw [hcell] at stored'
      obtain ⟨k, hk, hj⟩ := Instance.write_comm hne stored stored'
      have hcell' := Heap.record_setFields_self live k
      refine ⟨_, .field kind free hk, ?_⟩
      have hw : Write P (h.setFields a k) key s (.record a) ((h.setFields a k).setFields a j) :=
        .field (by rw [hcell']; exact kind) (by rw [hcell']; exact free) (by rw [hcell']; exact hj)
      rw [Heap.setFields_setFields] at hw ⊢
      exact hw

/-- Children of a document that are apart can be replaced in either order, if neither image is
another after the other change. -/
theorem commute_children {p q : Document} {path path' : List String}
    (hr : p.ReplacesChild h key s path) (hr' : q.ReplacesChild h other t path')
    (htree : p.tree = q.tree) (hapart : Apart path path')
    (himage : ∀ j, (h.setTree p.tree j).image s = h.image s)
    (himage' : ∀ j, (h.setTree p.tree j).image t = h.image t)
    (hw : Write P h key s (.document p) h₁) (hw' : Write P h₁ other t (.document q) h₂) :
    ∃ g, Write P h other t (.document q) g ∧ Write P g key s (.document p) h₂ := by
  obtain ⟨j, hj, rfl⟩ := hr.write_iff.mp hw
  have hthen := hr'.of_apart hapart.symm fun _ => j
  rw [← htree] at hthen
  obtain ⟨k, hk, rfl⟩ := hthen.write_iff.mp hw'
  rw [himage'] at hk
  refine ⟨_, hr'.write_iff.mpr ⟨k, hk, rfl⟩, ?_⟩
  have hfirst := hr.of_apart hapart fun _ => k
  rw [← htree]
  refine hfirst.write_iff.mpr ⟨j, by rw [himage, hj], ?_⟩
  rw [Heap.setTree_setTree, Heap.setTree_setTree, Heap.tree_setTree_self hr.live,
    Heap.tree_setTree_self hr.live, modifyAt_comm hapart]

/-! ### Different cells -/

/-- Writes to different cells can be done in either order, if neither image is another after the
other change. -/
theorem commute_cells {v w : Value} {l m : Location} (hv : v.location? = some l)
    (hw : w.location? = some m) (hne : l ≠ m)
    (hscript : ∀ o, v.classify h ≠ some (.scriptObject o))
    (hscript' : ∀ o, w.classify h₁ ≠ some (.scriptObject o))
    (himage : ∀ d, v = .document d → ∀ y, (h.setCell m y).image s = h.image s)
    (himage' : ∀ d, w = .document d → ∀ x, (h.setCell l x).image t = h.image t)
    (hwrite : Write P h key s v h₁) (hwrite' : Write P h₁ other t w h₂) :
    ∃ g, Write P h other t w g ∧ Write P g key s v h₂ := by
  obtain ⟨x, rfl, -⟩ := hwrite.transfer hscript hv (g := h) rfl fun _ _ => rfl
  -- the second write does the same before the first one as behind it
  obtain ⟨y, rfl, hbefore⟩ := hwrite'.transfer hscript' hw (g := h)
    (Heap.cell_setCell_ne hne.symm h x).symm fun d hd => (himage' d hd x).symm
  refine ⟨_, hbefore, ?_⟩
  obtain ⟨x', hx', hbehind⟩ := hwrite.transfer hscript hv (g := h.setCell m y)
    (Heap.cell_setCell_ne hne h y) fun d hd => himage d hd y
  rw [hx', Heap.setCell_comm hne]
  exact hbehind

/-! ### Independent writes -/

namespace Assignment

/-- **Two writes go to different places**: to different cells, or to places of one cell that are
both there before. -/
inductive Apart (h : Heap) (c d : Assignment) : Prop where
  | cells (different : c.object.location? ≠ d.object.location?) : Apart h c d
  | entries {a : Address} (left : c.object = .mapping a) (right : d.object = .mapping a)
      (there : c.key ∈ (h.mapping a).content.names)
      (there' : d.key ∈ (h.mapping a).content.names) (different : c.key ≠ d.key) : Apart h c d
  | items {a : Address} (left : c.object = .list a) (right : d.object = .list a)
      (there : indexOf c.key < (h.list a).content.length)
      (there' : indexOf d.key < (h.list a).content.length)
      (different : indexOf c.key ≠ indexOf d.key) : Apart h c d
  | elements {a : Address} (left : c.object = .array a) (right : d.object = .array a)
      (different : indexOf c.key ≠ indexOf d.key) : Apart h c d
  /-- The names can be resolved to fields of different layers or to different fields of one. -/
  | fields {a : Address} (left : c.object = .record a) (right : d.object = .record a)
      (different :
        (h.record a).content.type.place? c.key ≠ (h.record a).content.type.place? d.key) :
      Apart h c d
  /-- The children can lie at any depth, but not one of them in the other. -/
  | children {p q : Document} {path path' : List String} (left : c.object = .document p)
      (right : d.object = .document q) (tree : p.tree = q.tree)
      (there : p.ReplacesChild h c.key c.slot path)
      (there' : q.ReplacesChild h d.key d.slot path') (different : Pointer.Apart path path') :
      Apart h c d

/-- **To convert what it stores, a write reads the cell of another**: its target is a document,
and the walk down from what it stores comes to the cell. That is the same before and after the
other write (`Place.visits_setCell_iff`). -/
def Reads (h : Heap) (c d : Assignment) : Prop :=
  ∃ p l, c.object = .document p ∧ d.object.location? = some l ∧ (Place.start c.slot).Visits h l

variable {c d : Assignment}

theorem image_eq (hreads : ¬ c.Reads h d) {p : Document} (hp : c.object = .document p)
    {l : Location} (hl : d.object.location? = some l) (x : l.Content) :
    (h.setCell l x).image c.slot = h.image c.slot :=
  Heap.image_setCell (fun hvisits => hreads ⟨p, l, hp, hl, hvisits⟩) x

/-- The second of two independent writes can be done first. -/
theorem commute (ho : h.Objectless) (ho₁ : h₁.Objectless) (hc : c.Plain) (hd : d.Plain)
    (hapart : c.Apart h d) (hreads : ¬ c.Reads h d) (hreads' : ¬ d.Reads h c)
    (hw : Write P h c.key c.slot c.object h₁) (hw' : Write P h₁ d.key d.slot d.object h₂) :
    ∃ g, Write P h d.key d.slot d.object g ∧ Write P g c.key c.slot c.object h₂ := by
  have hscript := classify_ne_scriptObject ho hc.object
  have hscript' := classify_ne_scriptObject ho₁ hd.object
  cases hapart with
  | cells different =>
    obtain ⟨l, -, hl, -⟩ := hw.exists_setCell hscript
    obtain ⟨m, -, hm, -⟩ := hw'.exists_setCell hscript'
    have hne : l ≠ m := by
      rintro rfl
      exact different (hl.trans hm.symm)
    exact commute_cells hl hm hne hscript hscript' (fun p hp => image_eq hreads hp hm)
      (fun q hq => image_eq hreads' hq hl) hw hw'
  | entries left right there there' different =>
    rw [left] at hw ⊢
    rw [right] at hw' ⊢
    exact commute_entries there different hw hw'
  | items left right there there' different =>
    rw [left] at hw ⊢
    rw [right] at hw' ⊢
    exact commute_items there there' different hw hw'
  | elements left right different =>
    rw [left] at hw ⊢
    rw [right] at hw' ⊢
    exact commute_elements different hw hw'
  | @fields a left right different =>
    rw [left] at hw ⊢
    rw [right] at hw' ⊢
    exact commute_fields different (ho.record a) hw hw'
  | @children p q path path' left right tree there there' different =>
    have hp : c.object.location? = some (.tree p.tree) := congrArg Value.location? left
    have hq : d.object.location? = some (.tree p.tree) := by
      rw [right, tree]
      rfl
    have himage := image_eq hreads left hq
    have himage' := image_eq hreads' right hp
    rw [left] at hw ⊢
    rw [right] at hw' ⊢
    exact commute_children there there' tree different himage himage' hw hw'

end Assignment

/-- **Independent writes commute.** On a heap without script objects, take two writes that succeed
one after the other. If they go to different cells, or to different places of one cell that were
both there, and neither converts what it stores by reading the other's cell, then they also succeed
in the opposite order and leave the same heap. -/
theorem independent_writes_commute {c d : Assignment} (ho : h.Objectless) (hc : c.Plain)
    (hd : d.Plain) (hok : (c.run P h).result = .ok ())
    (hok' : (d.run P (c.run P h).heap).result = .ok ()) (hapart : c.Apart h d)
    (hreads : ¬ c.Reads h d) (hreads' : ¬ d.Reads h c) :
    (d.run P h).result = .ok () ∧ (c.run P (d.run P h).heap).result = .ok () ∧
      (c.run P (d.run P h).heap).heap = (d.run P (c.run P h).heap).heap := by
  have hw := Assignment.write_of_ok hok
  have hw' := Assignment.write_of_ok hok'
  have ho₁ := hw.objectless ho hc.object hc.slot
  obtain ⟨g, hfirst, hthen⟩ := Assignment.commute ho ho₁ hc hd hapart hreads hreads' hw hw'
  obtain ⟨hfirstOk, rfl⟩ := Assignment.run_of_write hfirst
  obtain ⟨hthenOk, hheap⟩ := Assignment.run_of_write hthen
  exact ⟨hfirstOk, hthenOk, hheap⟩

/-- A member of the inner object and a member beside that object can be replaced in either
order. -/
theorem independent_writes_commute_twoMembers :
    let c : Assignment := ⟨.document ⟨0, "/a"⟩, "x", some (.bool false)⟩
    let d : Assignment := ⟨.document ⟨0, ""⟩, "b", some (.string "no")⟩
    twoMembers.Objectless ∧ c.Plain ∧ d.Plain ∧ (c.run .inert twoMembers).result = .ok () ∧
      (d.run .inert (c.run .inert twoMembers).heap).result = .ok () ∧ c.Apart twoMembers d ∧
      ¬ c.Reads twoMembers d ∧ ¬ d.Reads twoMembers c ∧
      (d.run .inert twoMembers).result = .ok () ∧
      (c.run .inert (d.run .inert twoMembers).heap).result = .ok () ∧
      (c.run .inert (d.run .inert twoMembers).heap).heap =
        (d.run .inert (c.run .inert twoMembers).heap).heap := by
  intro c d
  have ho : twoMembers.Objectless := .newDocument .empty _
  have hc : c.Plain := ⟨by simp [c, Slot.Plain], by simp [c, Slot.Plain]⟩
  have hd : d.Plain := ⟨by simp [d, Slot.Plain], by simp [d, Slot.Plain]⟩
  have hinner : Document.ReplacesChild twoMembers ⟨0, "/a"⟩ "x" (some (.bool false)) ["a", "x"] :=
    ⟨⟨["a"], by decide, rfl⟩, Option.ne_none_iff_exists'.mpr ⟨.null, rfl⟩, fun _ => by simp⟩
  have houter : Document.ReplacesChild twoMembers ⟨0, ""⟩ "b" (some (.string "no")) ["b"] :=
    ⟨⟨[], by decide, rfl⟩, Option.ne_none_iff_exists'.mpr ⟨.bool true, rfl⟩, fun _ => by simp⟩
  have hapart : c.Apart twoMembers d :=
    .children rfl rfl rfl hinner houter ⟨by decide, by decide⟩
  have hreads : ¬ c.Reads twoMembers d := by
    rintro ⟨p, l, -, -, hvisits⟩
    exact Place.not_visits_leaf rfl (by simp [c, Value.location?]) hvisits
  have hreads' : ¬ d.Reads twoMembers c := by
    rintro ⟨p, l, -, -, hvisits⟩
    exact Place.not_visits_leaf rfl (by simp [d, Value.location?]) hvisits
  exact ⟨ho, hc, hd, rfl, rfl, hapart, hreads, hreads',
    independent_writes_commute ho hc hd rfl rfl hapart hreads hreads'⟩

end Access

end ScriptHost
