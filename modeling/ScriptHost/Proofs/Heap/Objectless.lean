import ScriptHost.Proofs.Access.Invariant
import ScriptHost.Proofs.Record.Resolve

/-!
# Heaps without script objects

A script object answers by a protocol of its own, about which nothing is known here. Where no
slot holds one, and no record answers through a view, no access ever comes upon one: what is read
of such a heap is no script object (`tryGet_plain`), and a write of what is none leaves the heap
without script objects (`Write.objectless`).
-/

namespace ScriptHost

open Outcome

/-- **The slot holds no script object.** -/
def Slot.Plain (s : Slot) : Prop := ∀ a, s ≠ some (.object a)

theorem Slot.plain_none : Slot.Plain none := by
  intro a
  simp

theorem Slot.plain_of_isNumeric {v : Value} (hv : v.isNumeric = true) : Slot.Plain (some v) := by
  rintro a ⟨⟩
  cases hv

/-! ### What is stored of a plain slot -/

/-- A content that was converted from a plain slot is plain again. -/
theorem FieldType.plain_toSlot {t : FieldType} {s : Slot} {c : t.Carrier} (hs : s.Plain)
    (hc : t.ofSlot s = .ok c) : Slot.Plain (t.toSlot c) := by
  induction t generalizing s with
  | option t ih =>
    cases s with
    | none =>
      cases hc
      exact Slot.plain_none
    | some v =>
      obtain ⟨d, hd, rfl⟩ := map_eq_ok_iff.mp hc
      exact ih hs hd
  | value =>
    cases s with
    | none => cases hc
    | some v =>
      cases hc
      exact hs
  | object =>
    cases s with
    | none => cases hc
    | some v =>
      cases v with
      | object a => exact absurd rfl (hs a)
      | _ => cases hc
  | _ =>
    intro a
    simp [toSlot]

namespace Instance

variable {t : RecordType} {i i' : Instance} {name : String} {s : Slot} {r : Slot → Prop}

/-- **All fields of an instance** hold slots of this sort. -/
def Stores (r : Slot → Prop) (i : Instance) : Prop :=
  ∀ p ∈ i.parts, ∀ f ∈ p.fields, r f.read

theorem stores_root {p : Part} : (root p).Stores r ↔ ∀ f ∈ p.fields, r f.read := by
  simp [Stores, parts]

theorem stores_extending {p : Part} {base : Instance} :
    (extending p base).Stores r ↔ (∀ f ∈ p.fields, r f.read) ∧ base.Stores r := by
  simp [Stores, parts]

theorem Stores.own (hi : i.Stores r) : ∀ f ∈ i.own.fields, r f.read := by
  cases i with
  | root p => exact stores_root.mp hi
  | extending p base => exact (stores_extending.mp hi).1

theorem Stores.withOwn (hi : i.Stores r) {p : Part} (hp : ∀ f ∈ p.fields, r f.read) :
    (i.withOwn p).Stores r := by
  cases i with
  | root _ => exact stores_root.mpr hp
  | extending _ base => exact stores_extending.mpr ⟨hp, (stores_extending.mp hi).2⟩

theorem mem_of_target? {d : FieldDescriptor} {f : StoredField} (hf : i.target? d = some f) :
    f ∈ i.own.fields := by
  unfold target? at hf
  split at hf
  · exact List.mem_of_find?_eq_some hf
  · cases hf

theorem Stores.readWith (hi : i.Stores r) {d : FieldDescriptor} (hs : i.readWith d = .ok s) :
    r s := by
  rw [Instance.readWith] at hs
  cases hf : i.target? d with
  | none =>
    rw [hf] at hs
    cases hs
  | some f =>
    rw [hf] at hs
    cases hs
    exact hi.own f (mem_of_target? hf)

/-- What is read is what some field holds. -/
theorem Stores.read (hi : i.Stores r) (hs : read t i name = .ok s) : r s := by
  induction t generalizing i with
  | root layer =>
    rw [Instance.read] at hs
    cases hd : (RecordType.root layer).ownField? name with
    | none =>
      rw [hd] at hs
      cases hs
    | some d =>
      rw [hd] at hs
      exact hi.readWith hs
  | extending layer field base ih =>
    rw [Instance.read.eq_def] at hs
    dsimp only at hs
    cases hd : (RecordType.extending layer field base).ownField? name with
    | some d =>
      rw [hd] at hs
      exact hi.readWith hs
    | none =>
      rw [hd] at hs
      cases i with
      | root p => cases hs
      | extending p ancestor =>
        dsimp only at hs
        split at hs
        · exact ih (stores_extending.mp hi).2 hs
        · cases hs

theorem Stores.writeWith (hi : i.Stores r) {d : FieldDescriptor} (hw : i.writeWith d s = .ok i')
    (hr : ∀ (t : FieldType) c, t.ofSlot s = .ok c → r (t.toSlot c)) : i'.Stores r := by
  rw [Instance.writeWith] at hw
  split at hw
  · cases hw
  · cases hf : i.target? d with
    | none =>
      rw [hf] at hw
      cases hw
    | some f =>
      rw [hf] at hw
      obtain ⟨g, hg, rfl⟩ := map_eq_ok_iff.mp hw
      obtain ⟨c, hc, rfl⟩ := StoredField.write_eq_ok_iff.mp hg
      refine hi.withOwn fun g hg => ?_
      obtain ⟨e, he, rfl⟩ := List.mem_map.mp hg
      split
      · exact hr f.type c hc
      · exact hi.own e he

/-- What a write puts into a field is what its type makes of the slot. -/
theorem Stores.write (hi : i.Stores r) (hw : write t i name s = .ok i')
    (hr : ∀ (t : FieldType) c, t.ofSlot s = .ok c → r (t.toSlot c)) : i'.Stores r := by
  have hwrites := writes_of_write hw
  clear hw
  induction hwrites with
  | own _ written => exact hi.writeWith written hr
  | passed _ _ _ ih =>
    obtain ⟨hown, hrest⟩ := stores_extending.mp hi
    exact stores_extending.mpr ⟨hown, ih hrest⟩

end Instance

namespace FixedArray

/-- Only an array of any values could hold a script object. -/
theorem plain_slots {a : FixedArray} (ha : ∀ items, a = .any items → ∀ s ∈ items, Slot.Plain s) :
    ∀ s ∈ a.slots, Slot.Plain s := by
  cases a with
  | any items => exact ha items rfl
  | _ =>
    intro s hs a
    obtain ⟨x, -, rfl⟩ := List.mem_map.mp hs
    simp

theorem plain_store {a b : FixedArray} {i : Nat} {s : Slot} (ha : ∀ t ∈ a.slots, Slot.Plain t)
    (hs : s.Plain) (hb : a.store i s = .ok b) : ∀ t ∈ b.slots, Slot.Plain t := by
  refine plain_slots ?_
  rintro items rfl t ht
  unfold store at hb
  split at hb
  · cases hb
  · cases a with
    | any before =>
      cases hb
      rcases List.mem_or_eq_of_mem_set ht with ht | rfl
      · exact ha t ht
      · exact hs
    | _ =>
      obtain ⟨x, -, hx⟩ := map_eq_ok_iff.mp hb
      cases hx

end FixedArray

/-! ### Heaps -/

/-- **No slot of the heap holds a script object, and no record answers through a view.** -/
structure Heap.Objectless (h : Heap) : Prop where
  mapping : ∀ a, ∀ e ∈ (h.mapping a).content, Slot.Plain e.2
  list : ∀ a, ∀ s ∈ (h.list a).content, Slot.Plain s
  array : ∀ a, ∀ s ∈ (h.array a).content.slots, Slot.Plain s
  field : ∀ a, (h.record a).content.fields.Stores Slot.Plain
  record : ∀ a, (h.record a).content.type.own.scriptObject = false

namespace Heap.Objectless

/-- The heap without cells has no slots. -/
theorem empty : ({} : Heap).Objectless := by
  constructor
  · intro a
    have hd : ({} : Heap).mapping a = default := Store.get_empty a
    rw [hd]
    exact List.forall_mem_nil _
  · intro a
    have hd : ({} : Heap).list a = default := Store.get_empty a
    rw [hd]
    exact List.forall_mem_nil _
  · intro a
    have hd : ({} : Heap).array a = default := Store.get_empty a
    rw [hd]
    exact List.forall_mem_nil _
  · intro a
    have hd : ({} : Heap).record a = default := Store.get_empty a
    rw [hd]
    exact Instance.stores_root.mpr (List.forall_mem_nil _)
  · intro a
    have hd : ({} : Heap).record a = default := Store.get_empty a
    rw [hd]
    rfl

variable {h : Heap} (ho : h.Objectless) (a : Address)

include ho

theorem newMapping {es : Entries Slot} (hes : ∀ e ∈ es, Slot.Plain e.2) :
    (h.newMapping es).1.Objectless := by
  have hmapping := Store.forall_get_add
    (p := fun c : Cell (Entries Slot) => ∀ e ∈ c.content, Slot.Plain e.2) ho.mapping
    (x := { content := es }) hes
  exact { ho with mapping := hmapping }

theorem newList {ss : List Slot} (hss : ∀ s ∈ ss, Slot.Plain s) : (h.newList ss).1.Objectless := by
  have hlist := Store.forall_get_add
    (p := fun c : Cell (List Slot) => ∀ s ∈ c.content, Slot.Plain s) ho.list
    (x := { content := ss }) hss
  exact { ho with list := hlist }

theorem newDocument (j : Json) : (h.newDocument j).1.Objectless := { ho with }

theorem newRecord {r : Record} (hr : r.fields.Stores Slot.Plain)
    (htype : r.type.own.scriptObject = false) : (h.newRecord r).1.Objectless := by
  have hfield := Store.forall_get_add
    (p := fun c : Cell Record => c.content.fields.Stores Slot.Plain) ho.field
    (x := { content := r }) hr
  have hrecord := Store.forall_get_add
    (p := fun c : Cell Record => c.content.type.own.scriptObject = false) ho.record
    (x := { content := r }) htype
  exact { ho with field := hfield, record := hrecord }

theorem setMapping {es : Entries Slot} (hes : ∀ e ∈ es, Slot.Plain e.2) :
    (h.setMapping a es).Objectless := by
  have hmapping := Store.forall_get_modify (a := a) (f := fun c => { c with content := es })
    (p := fun c : Cell (Entries Slot) => ∀ e ∈ c.content, Slot.Plain e.2) ho.mapping hes
  exact { ho with mapping := hmapping }

theorem setList {ss : List Slot} (hss : ∀ s ∈ ss, Slot.Plain s) : (h.setList a ss).Objectless := by
  have hlist := Store.forall_get_modify (a := a) (f := fun c => { c with content := ss })
    (p := fun c : Cell (List Slot) => ∀ s ∈ c.content, Slot.Plain s) ho.list hss
  exact { ho with list := hlist }

theorem setArray {fa : FixedArray} (hfa : ∀ s ∈ fa.slots, Slot.Plain s) :
    (h.setArray a fa).Objectless := by
  have harray := Store.forall_get_modify (a := a) (f := fun c => { c with content := fa })
    (p := fun c : Cell FixedArray => ∀ s ∈ c.content.slots, Slot.Plain s) ho.array hfa
  exact { ho with array := harray }

theorem setFields {i : Instance} (hi : i.Stores Slot.Plain) : (h.setFields a i).Objectless := by
  have hfield := Store.forall_get_modify (a := a)
    (f := fun c => { c with content := { c.content with fields := i } })
    (p := fun c : Cell Record => c.content.fields.Stores Slot.Plain) ho.field hi
  have hrecord := Store.forall_get_modify (a := a)
    (f := fun c => { c with content := { c.content with fields := i } })
    (p := fun c : Cell Record => c.content.type.own.scriptObject = false) ho.record (ho.record a)
  exact { ho with field := hfield, record := hrecord }

end Heap.Objectless

namespace Access

variable {P : Protocol} {h h' : Heap} {v : Value} {key : String} {s : Slot}

theorem classify_ne_scriptObject (ho : h.Objectless) (hv : Slot.Plain (some v)) (o : ObjectRef) :
    v.classify h ≠ some (.scriptObject o) := by
  cases v with
  | object a => exact absurd rfl (hv a)
  | record a =>
    rw [Value.classify_record, ho.record a]
    simp
  | document d => exact Value.classify_document_ne_scriptObject h d
  | _ => simp [Value.classify, Value.guards]

/-- A child of a document is read as a scalar or as a handle into the same document. -/
theorem plain_adopt (d : Document) (token : String) (j : Json) : Slot.Plain (d.adopt token j) := by
  cases j with
  | number n => exact Slot.plain_of_isNumeric (Document.isNumeric_toValue n)
  | _ =>
    intro a
    simp [Document.adopt]

theorem plain_readMember {d : Document} (hs : d.readMember h key = .ok s) : s.Plain := by
  rw [Document.readMember] at hs
  split at hs
  · cases hs
    exact plain_adopt d _ _
  · cases hs

theorem plain_readItem {d : Document} {i : Int} (hs : d.readItem h i = .ok s) : s.Plain := by
  rw [Document.readItem] at hs
  split at hs
  · cases hs
  · split at hs
    · cases hs
    · split at hs
      · cases hs
        exact plain_adopt d _ _
      · cases hs

theorem plain_join {ss : List Slot} (hss : ∀ s ∈ ss, Slot.Plain s) (i : Nat) :
    Slot.Plain ss[i]?.join := by
  cases hi : ss[i]? with
  | none => exact Slot.plain_none
  | some s => exact hss s (List.mem_of_getElem? hi)

/-- **Reading comes upon no script object.** -/
theorem tryGet_plain (ho : h.Objectless) (hv : Slot.Plain (some v))
    (hs : (tryGet P h v key).result = .ok s) : s.Plain := by
  unfold tryGet at hs
  split at hs
  · cases hs
  · next a _ =>
    obtain ⟨entries, hopen, hs⟩ := bind_eq_ok_iff.mp hs
    obtain ⟨-, rfl⟩ := forReading_eq_ok_iff.mp hopen
    cases he : Entries.value? key (h.mapping a).content with
    | none =>
      rw [he] at hs
      cases hs
    | some t =>
      rw [he] at hs
      cases hs
      exact ho.mapping a _ (Entries.mem_of_value? he)
  · next a _ =>
    obtain ⟨items, hopen, hs⟩ := bind_eq_ok_iff.mp hs
    obtain ⟨-, rfl⟩ := forReading_eq_ok_iff.mp hopen
    split at hs
    · cases hs
      exact Slot.plain_of_isNumeric (isNumeric_lengthValue _)
    · obtain ⟨i, -, hs⟩ := bind_eq_ok_iff.mp hs
      cases hs
      exact plain_join (ho.list a) i
  · next a _ =>
    obtain ⟨items, hopen, hs⟩ := bind_eq_ok_iff.mp hs
    obtain ⟨-, rfl⟩ := forReading_eq_ok_iff.mp hopen
    split at hs
    · cases hs
      exact Slot.plain_of_isNumeric (isNumeric_lengthValue _)
    · obtain ⟨i, -, hs⟩ := bind_eq_ok_iff.mp hs
      cases hs
      rw [FixedArray.get_eq_slots]
      exact plain_join (ho.array a) i
  · next o hscript => exact absurd hscript (classify_ne_scriptObject ho hv o)
  · exact plain_readMember hs
  · split at hs
    · split at hs
      · cases hs
        exact Slot.plain_of_isNumeric (isNumeric_lengthValue _)
      · cases hs
    · exact plain_readItem hs
  · next a _ =>
    obtain ⟨r, hopen, hs⟩ := bind_eq_ok_iff.mp hs
    obtain ⟨-, rfl⟩ := forReading_eq_ok_iff.mp hopen
    exact (ho.field a).read hs

/-- **Writing what is no script object** leaves no script object behind. -/
theorem Write.objectless (ho : h.Objectless) (hv : Slot.Plain (some v)) (hs : s.Plain)
    (hw : Write P h key s v h') : h'.Objectless := by
  cases hw with
  | @entry a free =>
    refine ho.setMapping a fun e he => ?_
    rcases Entries.mem_put he with rfl | he
    · exact hs
    · exact ho.mapping a e he
  | @replaced a free lo hi =>
    refine ho.setList a fun t ht => ?_
    rcases List.mem_or_eq_of_mem_set ht with ht | rfl
    · exact ho.list a t ht
    · exact hs
  | @appended a free behind =>
    refine ho.setList a fun t ht => ?_
    rcases List.mem_append.mp ht with ht | ht
    · exact ho.list a t ht
    · rw [List.mem_singleton.mp ht]
      exact hs
  | @element a fa free lo hi stored =>
    exact ho.setArray a (FixedArray.plain_store (ho.array a) hs stored)
  | @scripted _ o kind free state => exact absurd kind (classify_ne_scriptObject ho hv o)
  -- a document is a tree, and a tree holds no slots
  | member present node image => exact { ho with }
  | removed absent node => exact { ho with }
  | item node lo hi image => exact { ho with }
  | @field a fields kind free stored =>
    refine ho.setFields a ((ho.field a).write stored fun t c hc => ?_)
    exact FieldType.plain_toSlot hs hc

end Access

end ScriptHost
