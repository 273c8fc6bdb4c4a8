import ScriptHost.Proofs.Access.Enumeration
import ScriptHost.Proofs.Access.Stepwise
import ScriptHost.Proofs.Coercion

/-!
# What a kind promises

The kind of a value is found first, and the access then looks again for what the kind is about: the
members of an object node, the items of an array node, the view of a record, the place at an index
of an array. It finds them (`promised`), so the answers to their absence are never given.
-/

namespace ScriptHost

open Outcome

/-- **A record as the derivation makes it**: each of its layers comes from a declaration, and it has
the object view that its type announces. -/
structure Record.Made (r : Record) : Prop where
  derived : Instance.Derived r.type r.fields
  view : r.type.own.scriptObject = true → r.view ≠ none

/-- The value that leads to a target. -/
def Target.handle : Target → Value
  | mapping a => .mapping a
  | list a => .list a
  | array a => .array a
  | scriptObject o => o.handle
  | node d => .document d
  | items d => .document d
  | record a => .record a

namespace Value

variable {h : Heap} {v : Value} {k : Kind}

theorem kind_record (h : Heap) (a : Address) :
    kind h (.record a) =
      if (h.record a).content.type.own.scriptObject then some .scriptObject
      else some .typedRecord := by
  rw [kind, classify_record]
  split <;> rfl

theorem plain_of_kind {a : Address} (hk : kind h (.record a) = some .typedRecord) :
    (h.record a).content.type.own.scriptObject = false := by
  rw [kind_record] at hk
  split at hk
  · cases hk
  · next hplain => exact Bool.eq_false_iff.mpr hplain

theorem classify_eq_none_iff : v.classify h = none ↔ v.kind h = none := by
  rw [kind, Option.map_eq_none_iff]

theorem exists_classify_of_kind (hk : v.kind h = some .scriptObject) :
    ∃ r, v.classify h = some (.scriptObject r) := by
  obtain ⟨t, ht, hkind⟩ := Option.map_eq_some_iff.mp hk
  cases t with
  | scriptObject r => exact ⟨r, ht⟩
  | _ => cases hkind

/-- A value is the handle to what it was found to be. -/
theorem handle_of_classify {t : Target} (hv : v.classify h = some t) : v = t.handle := by
  cases v with
  | record a =>
    rw [classify_record] at hv
    split at hv <;> cases hv <;> rfl
  | document d =>
    rw [classify_document] at hv
    split at hv
    · cases hv
      rfl
    · split at hv <;> cases hv
      rfl
  | _ => cases hv <;> rfl

theorem kind_of_entries? {es : Entries Slot} (hv : v.entries? h = some es) :
    v.kind h = some .mapping ∨ v.kind h = some .documentNode := by
  cases v with
  | mapping a => exact .inl rfl
  | document d =>
    obtain ⟨members, hd, -⟩ := Document.entries?_eq_some_iff.mp hv
    rw [kind_document, if_pos (Document.isNode_of_node? hd)]
    exact .inr rfl
  | _ => cases hv

end Value

namespace Access

variable {h : Heap} {o : Value} {key : String} {s : Slot}

theorem readable_of_classify {r : ObjectRef} (hv : o.classify h = some (.scriptObject r))
    (hopen : Readable h o) : (r.hold h).readable = true := by
  obtain rfl : o = r.handle := Value.handle_of_classify hv
  rw [Readable, Stepwise.hold?_handle_objectRef] at hopen
  exact Hold.readable_iff.mpr fun hr => hopen (congrArg some hr)

/-! ### What a kind promises -/

/-- **What a kind promises is there**, so these are answers that no access gives: that a record has
no view, that a document has no members or no items, or that an array looks at an index again. -/
structure Promised (h : Heap) (o : Value) (key : String) (s : Slot) : Prop where
  view : ∀ r, o.classify h = some (.scriptObject r) → r.state? h ≠ none
  node : ∀ d, o.classify h = some (.node d) →
    (∃ names, d.names? h = some names) ∧ ∀ j, ∃ h', d.writeMember h key j = .ok h'
  items : ∀ d, o.classify h = some (.items d) → (∃ n, d.length? h = some n) ∧
    ∀ i p, d.readItem h i ≠ .error (.notFound p) ∧ ∀ j, d.writeItem h i j ≠ .error (.notFound p)
  element : ∀ a i, o.classify h = some (.array a) →
    position (indexOf key) (h.array a).content.size = .ok i →
    ∀ index n, (h.array a).content.store i s ≠ .error (.outOfRange index n)

theorem state?_of_made (made : ∀ a, o = .record a → (h.record a).content.Made) {r : ObjectRef}
    (hr : o.classify h = some (.scriptObject r)) : r.state? h ≠ none := by
  obtain rfl : o = r.handle := Value.handle_of_classify hr
  cases r with
  | object a => exact Option.some_ne_none _
  | view a =>
    refine (made a rfl).view ?_
    by_contra hplain
    rw [ObjectRef.handle, Value.classify_record, if_neg hplain] at hr
    cases hr

theorem node_of_classify {d : Document} (hd : o.classify h = some (.node d)) :
    ∃ members, d.node? h = some (.object members) := by
  obtain rfl : o = .document d := Value.handle_of_classify hd
  rw [Value.classify_document] at hd
  split at hd
  · next hnode => exact Document.isNode_iff.mp hnode
  · split at hd <;> cases hd

theorem items_of_classify {d : Document} (hd : o.classify h = some (.items d)) :
    ∃ items, d.node? h = some (.array items) := by
  obtain rfl : o = .document d := Value.handle_of_classify hd
  rw [Value.classify_document] at hd
  split at hd
  · cases hd
  · split at hd
    · next harray => exact Document.isArray_iff.mp harray
    · cases hd

/-- **What a kind promises is there.** -/
theorem promised (made : ∀ a, o = .record a → (h.record a).content.Made) (key : String)
    (s : Slot) : Promised h o key s := by
  refine ⟨fun r hr => state?_of_made made hr, fun d hd => ?_, fun d hd => ?_,
    fun a i ha hi index n => ?_⟩
  · obtain ⟨members, hnode⟩ := node_of_classify hd
    have hmembers := Document.members?_eq_some_iff.mpr hnode
    have hnames : d.names? h = some (Entries.names members) := by
      rw [Document.names?, hmembers, Option.map_some]
    refine ⟨⟨_, hnames⟩, fun j => ?_⟩
    simp only [Document.writeMember, hmembers]
    exact ⟨_, rfl⟩
  · obtain ⟨items, hnode⟩ := items_of_classify hd
    have hitems := Document.items?_eq_some_iff.mpr hnode
    refine ⟨⟨items.length, by rw [Document.length?, hitems, Option.map_some]⟩, fun i p => ?_⟩
    refine ⟨?_, fun j => ?_⟩
    · rw [readItem_eq_slotAt hnode, slotAt, Ne, map_eq_error_iff, position]
      split <;> simp
    · simp only [Document.writeItem, hitems]
      split <;> simp
  · obtain ⟨hlo, hhi, rfl⟩ := position_eq_ok_iff.mp hi
    have hlt : (indexOf key).toNat < (h.array a).content.size := by omega
    rw [FixedArray.store_eq hlt, ElementType.accepts_eq, Ne, map_eq_error_iff]
    intro he
    cases FieldType.ofSlot_eq_error he

end Access

end ScriptHost
