import ScriptHost.Access.Basic
import ScriptHost.Proofs.Document.Node
import ScriptHost.Proofs.Outcome

/-!
# What a write does

`Write` lists the writes that can succeed, one for each kind of value, with all that must
hold for it and with the heap that it leaves. A write of the library either is one of these
(`trySet_write`), or it fails and leaves the heap as it was (`trySet_error`); what writes
keep is then shown by cases on `Write`.
-/

namespace ScriptHost

/-! ### Kinds -/

namespace Value

variable {h : Heap} {v : Value}

@[simp] theorem classify_mapping (h : Heap) (a : Address) :
    classify h (.mapping a) = some (.mapping a) := rfl

@[simp] theorem classify_list (h : Heap) (a : Address) :
    classify h (.list a) = some (.list a) := rfl

@[simp] theorem classify_array (h : Heap) (a : Address) :
    classify h (.array a) = some (.array a) := rfl

@[simp] theorem classify_object (h : Heap) (a : Address) :
    classify h (.object a) = some (.scriptObject (.object a)) := rfl

theorem classify_record (h : Heap) (a : Address) :
    classify h (.record a) =
      if (h.record a).content.type.own.scriptObject then some (.scriptObject (.view a))
      else some (.record a) := by
  unfold classify guards
  simp only [List.findSome?]
  split <;> simp_all

theorem classify_document (h : Heap) (d : Document) :
    classify h (.document d) =
      if d.isNode h then some (.node d) else if d.isArray h then some (.items d) else none := by
  unfold classify guards
  simp only [List.findSome?]
  split <;> simp_all
  split <;> simp_all

theorem kind_document (h : Heap) (d : Document) :
    kind h (.document d) =
      if d.isNode h then some .documentNode
      else if d.isArray h then some .documentArray
      else none := by
  rw [kind, classify_document]
  split
  · rfl
  · split <;> rfl

theorem classify_document_ne_scriptObject {o : ObjectRef} (h : Heap) (d : Document) :
    classify h (.document d) ≠ some (.scriptObject o) := by
  rw [classify_document]
  split
  · simp
  · split <;> simp

end Value

namespace Access

open Outcome

/-! ### Writes that succeed -/

/-- **What a write does** when it stores `s` under `key`: the value that is written and the
heap afterwards. -/
inductive Write (P : Protocol) (h : Heap) (key : String) (s : Slot) : Value → Heap → Prop where
  /-- A mapping takes every name. -/
  | entry {a : Address} (free : (h.mapping a).hold.writable = true) :
      Write P h key s (.mapping a) (h.setMapping a ((h.mapping a).content.put key s))
  /-- An element of a list is replaced. -/
  | replaced {a : Address} (free : (h.list a).hold.writable = true) (lo : 0 ≤ indexOf key)
      (hi : indexOf key < (h.list a).content.length) :
      Write P h key s (.list a) (h.setList a ((h.list a).content.set (indexOf key).toNat s))
  /-- A list grows by one element. -/
  | appended {a : Address} (free : (h.list a).hold.writable = true)
      (behind : indexOf key = (h.list a).content.length) :
      Write P h key s (.list a) (h.setList a ((h.list a).content ++ [s]))
  /-- An element of an array is replaced. -/
  | element {a : Address} {fa : FixedArray} (free : (h.array a).hold.writable = true)
      (lo : 0 ≤ indexOf key) (hi : indexOf key < (h.array a).content.size)
      (stored : (h.array a).content.store (indexOf key).toNat s = .ok fa) :
      Write P h key s (.array a) (h.setArray a fa)
  /-- A script object does what its protocol says, while its cell is held. -/
  | scripted {v : Value} {o : ObjectRef} (kind : v.classify h = some (.scriptObject o))
      (free : (o.hold h).writable = true) (state : o.state? h ≠ none) :
      Write P h key s v
        ((P.set (h.changeHold (fun _ => .exclusive) o.handle) o key s).1.changeHold
          Hold.leave o.handle)
  /-- A member of an object node is stored. -/
  | member {d : Document} {members : Entries Json} {v : Value} {j : Json} (present : s = some v)
      (node : d.node? h = some (.object members)) (image : h.image s = .ok j) :
      Write P h key s (.document d) (d.modify h fun _ => .object (members.put key j))
  /-- A member of an object node is removed. -/
  | removed {d : Document} {members : Entries Json} (absent : s = none)
      (node : d.node? h = some (.object members)) :
      Write P h key s (.document d) (d.modify h fun _ => .object (members.swapErase key))
  /-- An item of an array node is replaced. -/
  | item {d : Document} {items : List Json} {j : Json} (node : d.node? h = some (.array items))
      (lo : 0 ≤ indexOf key) (hi : indexOf key < items.length) (image : h.image s = .ok j) :
      Write P h key s (.document d)
        (d.modify h fun _ => .array (items.set (indexOf key).toNat j))
  /-- A field of a record is replaced. -/
  | field {a : Address} {fields : Instance}
      (kind : (h.record a).content.type.own.scriptObject = false)
      (free : (h.record a).hold.writable = true)
      (stored : (h.record a).content.fields.write (h.record a).content.type key s = .ok fields) :
      Write P h key s (.record a) (h.setFields a fields)

variable {P : Protocol} {h : Heap} {v : Value} {key : String} {s : Slot}

theorem forReading_eq_ok_iff {α : Type} {c : Cell α} {x : α} :
    c.forReading = .ok x ↔ c.hold.readable = true ∧ c.content = x := by
  rw [Cell.forReading]
  split <;> simp_all

theorem forWriting_eq_ok_iff {α : Type} {c : Cell α} {x : α} :
    c.forWriting = .ok x ↔ c.hold.writable = true ∧ c.content = x := by
  rw [Cell.forWriting]
  split <;> simp_all

theorem position_eq_ok_iff {index : Int} {length i : Nat} :
    position index length = .ok i ↔ 0 ≤ index ∧ index < length ∧ index.toNat = i := by
  rw [position]
  split
  · next hin => simp [hin]
  · next hout =>
    simp only [reduceCtorEq, false_iff]
    exact fun ⟨h1, h2, _⟩ => hout ⟨h1, h2⟩

/-- A number of elements is read as a number. -/
theorem isNumeric_lengthValue (n : Nat) : (lengthValue n).isNumeric = true := by
  rw [lengthValue]
  cases Numeral.narrow32? n <;> rfl

theorem commit_events {r : Except AccessError Heap} : (commit h r).events = [] := by
  cases r <;> rfl

theorem commit_error {r : Except AccessError Heap} {e : AccessError}
    (he : (commit h r).result = .error e) : (commit h r).heap = h := by
  cases r with
  | ok h' => cases he
  | error e => rfl

theorem commit_ok {r : Except AccessError Heap} (hok : (commit h r).result = .ok ()) :
    r = .ok (commit h r).heap := by
  cases r with
  | ok h' => rfl
  | error e => cases hok

/-! ### One kind after the other -/

theorem trySet_none (hv : v.classify h = none) :
    trySet P h v key s = { result := .error (.noProperties v.type), heap := h } := by
  simp only [trySet, hv]

theorem trySet_mapping (a : Address) :
    trySet P h (.mapping a) key s =
      commit h ((h.mapping a).forWriting >>= fun entries =>
        .ok (h.setMapping a (entries.put key s))) := rfl

theorem trySet_list (a : Address) :
    trySet P h (.list a) key s =
      commit h ((h.list a).forWriting >>= fun items =>
        storeItem items (indexOf key) s >>= fun items => .ok (h.setList a items)) := rfl

theorem trySet_array (a : Address) :
    trySet P h (.array a) key s =
      commit h ((h.array a).forWriting >>= fun items =>
        position (indexOf key) items.size >>= fun i =>
          items.store i s >>= fun items => .ok (h.setArray a items)) := rfl

theorem trySet_scriptObject {o : ObjectRef} (hv : v.classify h = some (.scriptObject o)) :
    trySet P h v key s = setObject P h o key s := by
  simp only [trySet, hv]

theorem trySet_node {d : Document} (hd : d.isNode h = true) :
    trySet P h (.document d) key s =
      commit h (memberImage h s >>= fun j => d.writeMember h key j) := by
  simp only [trySet, Value.classify_document, hd, if_true]

theorem trySet_items {d : Document} (hn : d.isNode h = false) (hd : d.isArray h = true) :
    trySet P h (.document d) key s =
      commit h (h.image s >>= fun j => d.writeItem h (indexOf key) j) := by
  simp only [trySet, Value.classify_document, hn, hd, if_true, Bool.false_eq_true, if_false]

theorem trySet_record {a : Address} (hv : (h.record a).content.type.own.scriptObject = false) :
    trySet P h (.record a) key s =
      commit h ((h.record a).forWriting >>= fun r =>
        r.fields.write r.type key s >>= fun fields => .ok (h.setFields a fields)) := by
  simp only [trySet, Value.classify_record, hv, Bool.false_eq_true, if_false]

/-- A write done in one go is one of the writes that succeed, if every heap it can leave is
left by one. -/
theorem write_of_commit {r : Except AccessError Heap} (hok : (commit h r).result = .ok ())
    (hr : ∀ h', r = .ok h' → Write P h key s v h') : Write P h key s v (commit h r).heap :=
  hr _ (commit_ok hok)

theorem write_mapping {a : Address} {h' : Heap}
    (hr : ((h.mapping a).forWriting >>= fun entries =>
      .ok (h.setMapping a (entries.put key s))) = .ok h') : Write P h key s (.mapping a) h' := by
  obtain ⟨_, hw, hr⟩ := bind_eq_ok_iff.mp hr
  obtain ⟨hfree, rfl⟩ := forWriting_eq_ok_iff.mp hw
  cases hr
  exact .entry hfree

theorem write_list {a : Address} {h' : Heap}
    (hr : ((h.list a).forWriting >>= fun items =>
      storeItem items (indexOf key) s >>= fun items => .ok (h.setList a items)) = .ok h') :
    Write P h key s (.list a) h' := by
  obtain ⟨_, hw, hr⟩ := bind_eq_ok_iff.mp hr
  obtain ⟨hfree, rfl⟩ := forWriting_eq_ok_iff.mp hw
  obtain ⟨items, hitems, hr⟩ := bind_eq_ok_iff.mp hr
  cases hr
  rw [storeItem] at hitems
  split at hitems
  · next hin =>
    cases hitems
    exact .replaced hfree hin.1 hin.2
  · split at hitems
    · next hend =>
      cases hitems
      exact .appended hfree hend
    · cases hitems

theorem write_array {a : Address} {h' : Heap}
    (hr : ((h.array a).forWriting >>= fun items =>
      position (indexOf key) items.size >>= fun i =>
        items.store i s >>= fun items => .ok (h.setArray a items)) = .ok h') :
    Write P h key s (.array a) h' := by
  obtain ⟨_, hw, hr⟩ := bind_eq_ok_iff.mp hr
  obtain ⟨hfree, rfl⟩ := forWriting_eq_ok_iff.mp hw
  obtain ⟨i, hi, hr⟩ := bind_eq_ok_iff.mp hr
  obtain ⟨hlo, hhi, rfl⟩ := position_eq_ok_iff.mp hi
  obtain ⟨fa, hfa, hr⟩ := bind_eq_ok_iff.mp hr
  cases hr
  exact .element hfree hlo hhi hfa

theorem write_record {a : Address} {h' : Heap}
    (hv : (h.record a).content.type.own.scriptObject = false)
    (hr : ((h.record a).forWriting >>= fun r =>
      r.fields.write r.type key s >>= fun fields => .ok (h.setFields a fields)) = .ok h') :
    Write P h key s (.record a) h' := by
  obtain ⟨_, hw, hr⟩ := bind_eq_ok_iff.mp hr
  obtain ⟨hfree, rfl⟩ := forWriting_eq_ok_iff.mp hw
  obtain ⟨fields, hfields, hr⟩ := bind_eq_ok_iff.mp hr
  cases hr
  exact .field hv hfree hfields

theorem write_node {d : Document} {h' : Heap}
    (hr : (memberImage h s >>= fun j => d.writeMember h key j) = .ok h') :
    Write P h key s (.document d) h' := by
  obtain ⟨j, hj, hr⟩ := bind_eq_ok_iff.mp hr
  rw [Document.writeMember] at hr
  cases hm : d.members? h with
  | none =>
    rw [hm] at hr
    cases hr
  | some members =>
    have hnode := Document.members?_eq_some_iff.mp hm
    rw [hm] at hr
    cases s with
    | none =>
      cases hj
      cases hr
      exact .removed rfl hnode
    | some w =>
      obtain ⟨i, hi, rfl⟩ := map_eq_ok_iff.mp hj
      cases hr
      exact .member rfl hnode hi

theorem write_items {d : Document} {h' : Heap}
    (hr : (h.image s >>= fun j => d.writeItem h (indexOf key) j) = .ok h') :
    Write P h key s (.document d) h' := by
  obtain ⟨j, hj, hr⟩ := bind_eq_ok_iff.mp hr
  rw [Document.writeItem] at hr
  cases hi : d.items? h with
  | none =>
    rw [hi] at hr
    cases hr
  | some items =>
    rw [hi] at hr
    dsimp only at hr
    split at hr
    · cases hr
    · next hin =>
      cases hr
      exact .item (Document.items?_eq_some_iff.mp hi) (by omega) (by omega) hj

/-- A script object is written by its protocol, or the write fails before that. -/
theorem setObject_cases (P : Protocol) (h : Heap) (o : ObjectRef) (key : String) (s : Slot) :
    ((o.hold h).writable = true ∧ o.state? h ≠ none ∧
      setObject P h o key s =
        { result := .ok ()
          heap := (P.set (h.changeHold (fun _ => .exclusive) o.handle) o key s).1.changeHold
            Hold.leave o.handle
          events := (P.set (h.changeHold (fun _ => .exclusive) o.handle) o key s).2 }) ∨
    ∃ e, setObject P h o key s = { result := .error e, heap := h } := by
  unfold setObject
  cases hfree : (o.hold h).writable with
  | false => exact .inr ⟨.busy, rfl⟩
  | true =>
    cases hst : o.state? h with
    | none => exact .inr ⟨.noProperties .record, rfl⟩
    | some st => exact .inl ⟨rfl, Option.some_ne_none st, rfl⟩

theorem write_scriptObject {o : ObjectRef} (hv : v.classify h = some (.scriptObject o))
    (hok : (setObject P h o key s).result = .ok ()) :
    Write P h key s v (setObject P h o key s).heap := by
  rcases setObject_cases P h o key s with ⟨hfree, hst, heq⟩ | ⟨e, heq⟩
  · rw [heq]
    exact .scripted hv hfree hst
  · rw [heq] at hok
    cases hok

/-- **A write that succeeds** is one of those that `Write` lists. -/
theorem trySet_write (hok : (trySet P h v key s).result = .ok ()) :
    Write P h key s v (trySet P h v key s).heap := by
  cases v with
  | mapping a =>
    rw [trySet_mapping] at hok ⊢
    exact write_of_commit hok fun h' hr => write_mapping hr
  | list a =>
    rw [trySet_list] at hok ⊢
    exact write_of_commit hok fun h' hr => write_list hr
  | array a =>
    rw [trySet_array] at hok ⊢
    exact write_of_commit hok fun h' hr => write_array hr
  | object a =>
    rw [trySet_scriptObject (Value.classify_object h a)] at hok ⊢
    exact write_scriptObject (Value.classify_object h a) hok
  | record a =>
    cases hv : (h.record a).content.type.own.scriptObject with
    | true =>
      have hc : Value.classify h (.record a) = some (.scriptObject (.view a)) := by
        rw [Value.classify_record, if_pos hv]
      rw [trySet_scriptObject hc] at hok ⊢
      exact write_scriptObject hc hok
    | false =>
      rw [trySet_record hv] at hok ⊢
      exact write_of_commit hok fun h' hr => write_record hv hr
  | document d =>
    cases hn : d.isNode h with
    | true =>
      rw [trySet_node hn] at hok ⊢
      exact write_of_commit hok fun h' hr => write_node hr
    | false =>
      cases hi : d.isArray h with
      | true =>
        rw [trySet_items hn hi] at hok ⊢
        exact write_of_commit hok fun h' hr => write_items hr
      | false =>
        rw [trySet_none (by rw [Value.classify_document, hn, hi]; rfl)] at hok
        cases hok
  | _ => cases hok

/-- A write that fails leaves the heap as it was, and reports nothing itself. -/
theorem trySet_error {e : AccessError} (he : (trySet P h v key s).result = .error e) :
    (trySet P h v key s).heap = h ∧ (trySet P h v key s).events = [] := by
  unfold trySet at he ⊢
  split at he
  · exact ⟨rfl, rfl⟩
  · exact ⟨commit_error he, commit_events⟩
  · exact ⟨commit_error he, commit_events⟩
  · exact ⟨commit_error he, commit_events⟩
  · next o _ =>
    rcases setObject_cases P h o key s with ⟨-, -, heq⟩ | ⟨e, heq⟩
    · rw [heq] at he
      cases he
    · rw [heq]
      exact ⟨rfl, rfl⟩
  · exact ⟨commit_error he, commit_events⟩
  · exact ⟨commit_error he, commit_events⟩
  · exact ⟨commit_error he, commit_events⟩

end Access

end ScriptHost
