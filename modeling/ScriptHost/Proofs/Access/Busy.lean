import ScriptHost.Proofs.Access.Change
import ScriptHost.Proofs.Access.PutGet
import ScriptHost.Proofs.Access.StepwiseRead
import ScriptHost.Proofs.Image.Walk

/-!
# Conflicts

An access that needs a cell which is open elsewhere says that it is busy. Every kind of value opens
its cell at a point of its own, before or after other things that can go wrong, and what goes wrong
otherwise is never a conflict (`NotBusy`); so whether there is a conflict can be told from the holds
alone.

## What is proved

* A read conflicts with a writer, a write with anybody, whatever key and slot they come with
  (`tryGet_busy_iff`, `trySet_busy_iff`); the names of a record can always be listed
  (`tryKeys_busy_iff`).
* A document is held by nobody. To write to it conflicts with a writer of what is to be stored, if
  the conversion comes to that before it comes to another obstacle (`trySet_document_busy_iff`).
* No access leaves a hold (`hold?_trySet`), and what kind a value is of depends on none
  (`busy_iff_conflict`).
-/

namespace ScriptHost

open Outcome

/-- The outcome is not that a cell is in use. -/
def NotBusy {α : Type} (r : Except AccessError α) : Prop := r ≠ .error .busy

namespace NotBusy

variable {α β : Type} {x : Except AccessError α}

theorem ok (a : α) : NotBusy (.ok a) := by
  intro h
  cases h

theorem error {e : AccessError} (he : e ≠ .busy) : NotBusy (.error e : Except AccessError α) := by
  intro h
  exact he (Except.error.inj h)

theorem map (hx : NotBusy x) (f : α → β) : NotBusy (x.map f) := by
  intro h
  exact hx (map_eq_error_iff.mp h)

theorem bind {f : α → Except AccessError β} (hx : NotBusy x) (hf : ∀ a, NotBusy (f a)) :
    NotBusy (x >>= f) := by
  intro h
  rcases bind_eq_error_iff.mp h with h | ⟨a, -, h⟩
  · exact hx h
  · exact hf a h

end NotBusy

/-! ### What else can go wrong -/

theorem FieldType.notBusy_ofSlot (t : FieldType) (s : Slot) : NotBusy (t.ofSlot s) := by
  intro h
  have he := ofSlot_eq_error h
  cases he

namespace Instance

theorem notBusy_readWith (i : Instance) (d : FieldDescriptor) : NotBusy (i.readWith d) := by
  rw [readWith]
  cases i.target? d with
  | none => exact .error (by simp)
  | some f => exact .ok _

theorem notBusy_writeWith (i : Instance) (d : FieldDescriptor) (s : Slot) :
    NotBusy (i.writeWith d s) := by
  rw [writeWith]
  split
  · exact .error (by simp)
  · cases i.target? d with
    | none => exact .error (by simp)
    | some f => exact ((f.type.notBusy_ofSlot s).map _).map _

theorem notBusy_read (t : RecordType) (i : Instance) (name : String) : NotBusy (read t i name) := by
  fun_induction read t i name with
  | case1 layer i name d hd => exact notBusy_readWith i d
  | case3 layer field base i name d hd => exact notBusy_readWith i d
  | case4 layer field base name hd p ancestor hp ih => exact ih
  | _ => exact .error (by simp)

theorem notBusy_write (t : RecordType) (i : Instance) (name : String) (s : Slot) :
    NotBusy (write t i name s) := by
  fun_induction write t i name s with
  | case1 layer i name s d hd => exact notBusy_writeWith i d s
  | case3 layer field base i name s d hd => exact notBusy_writeWith i d s
  | case4 layer field base name s hd p ancestor hp ih => exact ih.map _
  | _ => exact .error (by simp)

end Instance

theorem FixedArray.notBusy_store (a : FixedArray) (i : Nat) (s : Slot) : NotBusy (a.store i s) := by
  have haccept : ∀ {α : Type} (t : ValueType) (view : Value → Option α),
      NotBusy (accept t view s) := by
    intro α t view
    rw [accept]
    cases s.bind view with
    | none => exact .error (by simp [Slot.mismatch])
    | some a => exact .ok a
  have htext : NotBusy (acceptText s) := by
    rw [acceptText.eq_def]
    split
    · exact .ok _
    · exact .ok _
    · exact .error (by simp [Slot.mismatch])
  unfold store
  split
  · exact .error (by simp)
  · cases a with
    | string items => exact htext.map _
    | any items => exact .ok _
    | _ => exact (haccept _ _).map _

namespace Document

variable (h : Heap) (d : Document)

theorem notBusy_readMember (key : String) : NotBusy (d.readMember h key) := by
  rw [readMember]
  split
  · exact .ok _
  · exact .error (by simp)

theorem notBusy_readItem (i : Int) : NotBusy (d.readItem h i) := by
  rw [readItem]
  split
  · exact .error (by simp)
  · split
    · exact .error (by simp)
    · split
      · exact .ok _
      · exact .error (by simp)

theorem notBusy_writeMember (key : String) (j : Option Json) : NotBusy (d.writeMember h key j) := by
  rw [writeMember]
  split
  · exact .error (by simp)
  · exact .ok _

theorem notBusy_writeItem (i : Int) (j : Json) : NotBusy (d.writeItem h i j) := by
  rw [writeItem]
  split
  · exact .error (by simp)
  · split
    · exact .error (by simp)
    · exact .ok _

end Document

namespace Access

variable {P : Protocol} {h : Heap} {o : Value} {d : Document} {key : String} {s : Slot} {k : Hold}

theorem notBusy_position (i : Int) (n : Nat) : NotBusy (position i n) := by
  rw [position]
  split
  · exact .ok _
  · exact .error (by simp)

theorem notBusy_storeItem (items : List Slot) (i : Int) (s : Slot) :
    NotBusy (storeItem items i s) := by
  rw [storeItem]
  split
  · exact .ok _
  · split
    · exact .ok _
    · exact .error (by simp)

/-! ### Cells -/

section Cells

variable {α β : Type} {c : Cell α}

/-- Who reads a cell is only stopped by its writer. -/
theorem forReading_bind_busy_iff {f : α → Except AccessError β} (hf : NotBusy (f c.content)) :
    (c.forReading >>= f) = .error .busy ↔ c.hold = .exclusive := by
  rw [Cell.forReading]
  cases c.hold with
  | shared n => exact iff_of_false hf (by simp)
  | exclusive => exact iff_of_true rfl rfl

theorem forReading_map_busy_iff (f : α → β) :
    c.forReading.map f = .error .busy ↔ c.hold = .exclusive := by
  rw [map_eq_bind]
  exact forReading_bind_busy_iff (.ok _)

theorem forReading_toOption_eq_none_iff (f : α → β) :
    c.forReading.toOption.map f = none ↔ c.hold = .exclusive := by
  rw [Cell.forReading]
  cases c.hold with
  | shared n => exact iff_of_false (by simp [Hold.readable, Except.toOption]) (by simp)
  | exclusive => exact iff_of_true rfl rfl

/-- Who writes to a cell is stopped by anybody. -/
theorem forWriting_bind_busy_iff {f : α → Except AccessError β} (hf : NotBusy (f c.content)) :
    (c.forWriting >>= f) = .error .busy ↔ c.hold ≠ .free := by
  rw [Cell.forWriting, Hold.writable]
  by_cases hc : c.hold = .free
  · rw [hc]
    exact iff_of_false hf (by simp)
  · rw [if_neg (by simpa using hc)]
    exact iff_of_true rfl hc

end Cells

theorem commit_error_iff {r : Except AccessError Heap} {e : AccessError} :
    (commit h r).result = .error e ↔ r = .error e := by
  cases r <;> simp [commit]

/-! ### Script objects -/

section ScriptObjects

variable {r : ObjectRef} (hv : o.classify h = some (.scriptObject r))

include hv

theorem tryGet_scriptObject_busy_iff :
    (tryGet P h o key).result = .error .busy ↔ r.hold h = .exclusive := by
  simp only [tryGet, hv]
  cases r.hold h with
  | exclusive => exact iff_of_true rfl rfl
  | shared n =>
    refine iff_of_false ?_ (by simp)
    cases r.state? h <;> simp [Hold.readable, Reading.quiet]

theorem tryKeys_scriptObject_busy_iff :
    (tryKeys P h o).result = .error .busy ↔ r.hold h = .exclusive := by
  simp only [tryKeys, hv]
  cases r.hold h with
  | exclusive => exact iff_of_true rfl rfl
  | shared n =>
    refine iff_of_false ?_ (by simp)
    cases r.state? h <;> simp [Hold.readable, Reading.quiet]

theorem trySet_scriptObject_busy_iff :
    (trySet P h o key s).result = .error .busy ↔ r.hold h ≠ .free := by
  rw [trySet_scriptObject hv, setObject, Hold.writable]
  by_cases hfree : r.hold h = .free
  · rw [if_pos (by simpa using hfree)]
    refine iff_of_false ?_ (by simp [hfree])
    cases r.state? h <;> simp
  · rw [if_neg (by simpa using hfree)]
    exact iff_of_true rfl hfree

end ScriptObjects

/-! ### Every cell -/

/-- **A read conflicts with a writer**, whatever the key is. -/
theorem tryGet_busy_iff (hk : h.hold? o = some k) :
    (tryGet P h o key).result = .error .busy ↔ k = .exclusive := by
  cases o with
  | mapping a =>
    cases hk
    refine forReading_bind_busy_iff ?_
    split
    · exact .ok _
    · exact .error (by simp)
  | list a =>
    cases hk
    refine forReading_bind_busy_iff ?_
    split
    · exact .ok _
    · exact (notBusy_position _ _).bind fun i => .ok _
  | array a =>
    cases hk
    refine forReading_bind_busy_iff ?_
    split
    · exact .ok _
    · exact (notBusy_position _ _).bind fun i => .ok _
  | object a =>
    cases hk
    exact tryGet_scriptObject_busy_iff (r := .object a) rfl
  | record a =>
    cases hk
    have hclassify := Value.classify_record h a
    split at hclassify
    · exact tryGet_scriptObject_busy_iff hclassify
    · simp only [tryGet, hclassify]
      exact forReading_bind_busy_iff (Instance.notBusy_read _ _ key)
  | _ => cases hk

/-- **A write conflicts with anybody**, whatever key and slot are. -/
theorem trySet_busy_iff (hk : h.hold? o = some k) :
    (trySet P h o key s).result = .error .busy ↔ k ≠ .free := by
  cases o with
  | mapping a =>
    cases hk
    rw [trySet_mapping, commit_error_iff]
    exact forWriting_bind_busy_iff (.ok _)
  | list a =>
    cases hk
    rw [trySet_list, commit_error_iff]
    exact forWriting_bind_busy_iff ((notBusy_storeItem _ _ s).bind fun items => .ok _)
  | array a =>
    cases hk
    rw [trySet_array, commit_error_iff]
    refine forWriting_bind_busy_iff ((notBusy_position _ _).bind fun i => ?_)
    exact (FixedArray.notBusy_store _ i s).bind fun items => .ok _
  | object a =>
    cases hk
    exact trySet_scriptObject_busy_iff (r := .object a) rfl
  | record a =>
    cases hk
    cases hv : (h.record a).content.type.own.scriptObject with
    | true =>
      have hclassify := Value.classify_record h a
      rw [if_pos hv] at hclassify
      exact trySet_scriptObject_busy_iff hclassify
    | false =>
      rw [trySet_record hv, commit_error_iff]
      exact forWriting_bind_busy_iff ((Instance.notBusy_write _ _ key s).bind fun fields => .ok _)
  | _ => cases hk

/-- **Listing conflicts with a writer**, unless the names are those of a record. -/
theorem tryKeys_busy_iff (hk : h.hold? o = some k) :
    (o.kind h ≠ some .typedRecord → ((tryKeys P h o).result = .error .busy ↔ k = .exclusive)) ∧
      ∀ a, o = .record a → o.kind h = some .typedRecord →
        (tryKeys P h o).result = .ok (h.record a).content.type.scriptNames := by
  cases o with
  | mapping a =>
    cases hk
    exact ⟨fun _ => forReading_map_busy_iff _, fun a ha => by cases ha⟩
  | list a =>
    cases hk
    exact ⟨fun _ => forReading_map_busy_iff _, fun a ha => by cases ha⟩
  | array a =>
    cases hk
    exact ⟨fun _ => forReading_map_busy_iff _, fun a ha => by cases ha⟩
  | object a =>
    cases hk
    exact ⟨fun _ => tryKeys_scriptObject_busy_iff (r := .object a) rfl, fun a ha => by cases ha⟩
  | record a =>
    cases hk
    have hclassify := Value.classify_record h a
    split at hclassify
    · refine ⟨fun _ => tryKeys_scriptObject_busy_iff hclassify, fun b _ hkind => ?_⟩
      rw [Value.kind, hclassify] at hkind
      cases hkind
    · refine ⟨fun hkind => ?_, fun b hb _ => ?_⟩
      · rw [Value.kind, hclassify] at hkind
        exact absurd rfl hkind
      · cases hb
        simp only [tryKeys, hclassify]
        rfl
  | _ => cases hk

/-- The elements of a list or an array cannot be counted while it is written to. -/
theorem length_eq_none_iff (hk : h.hold? o = some k)
    (hkind : o.kind h = some .orderedList ∨ o.kind h = some .fixedArray) :
    length h o = none ↔ k = .exclusive := by
  cases o with
  | mapping a => simp [Value.kind, Target.kind] at hkind
  | list a =>
    cases hk
    exact forReading_toOption_eq_none_iff _
  | array a =>
    cases hk
    exact forReading_toOption_eq_none_iff _
  | object a => simp [Value.kind, Target.kind] at hkind
  | record a =>
    rw [Value.kind, Value.classify_record] at hkind
    split at hkind <;> simp [Target.kind] at hkind
  | _ => cases hk

/-! ### Documents -/

/-- The image of a slot fails as the first obstacle of the walk does. -/
theorem image_eq_error_iff {e : AccessError} :
    h.image s = .error e ↔ Place.FirstObstacle h (.start s) e := by
  have hconverts := Heap.converts_image h s
  constructor
  · intro he
    rw [he] at hconverts
    exact hconverts.of_error
  · intro hfirst
    rcases hconverts with ⟨j, -, -, hclear⟩ | ⟨e', he, hfirst'⟩
    · exact absurd hclear hfirst.not_clear
    · rw [he, hfirst.unique hfirst']

theorem memberImage_eq_error_iff {e : AccessError} :
    memberImage h s = .error e ↔ Place.FirstObstacle h (.start s) e := by
  rw [← image_eq_error_iff]
  cases s with
  | none => simp [memberImage, Heap.image, Heap.imageWithin]
  | some v => exact map_eq_error_iff

/-- **Writing to a document conflicts** with a writer of what is to be stored, if that is the first
obstacle. -/
theorem trySet_document_busy_iff (hd : d.isNode h = true ∨ d.isArray h = true) :
    (trySet P h (.document d) key s).result = .error .busy ↔
      Place.FirstObstacle h (.start s) .busy := by
  cases hn : d.isNode h with
  | true =>
    rw [trySet_node hn, commit_error_iff, ← memberImage_eq_error_iff, bind_eq_error_iff]
    refine or_iff_left ?_
    rintro ⟨j, -, hj⟩
    exact d.notBusy_writeMember h key j hj
  | false =>
    have ha : d.isArray h = true := hd.resolve_left (by simp [hn])
    rw [trySet_items hn ha, commit_error_iff, ← image_eq_error_iff, bind_eq_error_iff]
    refine or_iff_left ?_
    rintro ⟨j, -, hj⟩
    exact d.notBusy_writeItem h (indexOf key) j hj

theorem exists_document_of_kind
    (hkind : o.kind h = some .documentNode ∨ o.kind h = some .documentArray) :
    ∃ d, o = .document d ∧ (d.isNode h = true ∨ d.isArray h = true) := by
  cases o with
  | document d =>
    refine ⟨d, rfl, ?_⟩
    rw [Value.kind_document] at hkind
    split at hkind
    · next hn => exact .inl hn
    · split at hkind
      · next ha => exact .inr ha
      · simp at hkind
  | record a =>
    rw [Value.kind, Value.classify_record] at hkind
    split at hkind <;> simp [Target.kind] at hkind
  | _ => rcases hkind with hkind | hkind <;> cases hkind

/-- A document can always be read. -/
theorem tryGet_document_notBusy (d : Document) (key : String) :
    NotBusy (tryGet P h (.document d) key).result := by
  cases hn : d.isNode h with
  | true =>
    rw [tryGet_node hn]
    exact d.notBusy_readMember h key
  | false =>
    simp only [tryGet, Value.classify_document, hn, Bool.false_eq_true, if_false]
    cases ha : d.isArray h with
    | false => exact .error (by simp)
    | true =>
      obtain ⟨items, hd⟩ := Document.isArray_iff.mp ha
      simp only [if_true, Document.length?, Document.items?_eq_some_iff.mpr hd, Option.map_some]
      split
      · exact .ok _
      · exact d.notBusy_readItem h (indexOf key)

theorem tryKeys_document_notBusy (d : Document) : NotBusy (tryKeys P h (.document d)).result := by
  cases hn : d.isNode h with
  | true =>
    obtain ⟨members, hd⟩ := Document.isNode_iff.mp hn
    simp only [tryKeys, Value.classify_document, hn, if_true, Document.names?,
      Document.members?_eq_some_iff.mpr hd, Option.map_some]
    exact .ok _
  | false =>
    simp only [tryKeys, Value.classify_document, hn, Bool.false_eq_true, if_false]
    cases ha : d.isArray h with
    | false => exact .error (by simp)
    | true =>
      obtain ⟨items, hd⟩ := Document.isArray_iff.mp ha
      simp only [if_true, Document.length?, Document.items?_eq_some_iff.mpr hd, Option.map_some]
      exact .ok _

/-! ### Holds -/

/-- **A write leaves all holds as they are**, if the protocol of the script objects does. -/
theorem hold?_trySet
    (hP : ∀ g r name t w, ((P.set g r name t).1.hold? w) = g.hold? w)
    (o : Value) (key : String) (s : Slot) (w : Value) :
    (trySet P h o key s).heap.hold? w = h.hold? w := by
  cases hr : (trySet P h o key s).result with
  | error e => rw [(trySet_error hr).1]
  | ok _ =>
    have hw := trySet_write hr
    cases hv : o.classify h with
    | none => exact hw.hold?_eq (fun r h => by rw [hv] at h; cases h) w
    | some t =>
      cases t with
      | scriptObject r =>
        rw [trySet_scriptObject hv] at hr ⊢
        rcases setObject_cases P h r key s with ⟨hfree, -, heq⟩ | ⟨e, heq⟩
        · have hhold : h.hold? r.handle = some .free := by
            rw [Stepwise.hold?_handle_objectRef, beq_iff_eq.mp hfree]
          rw [heq]
          exact Heap.hold?_leave hhold (hP _ r key s) w
        · rw [heq] at hr
          cases hr
      | _ => exact hw.hold?_eq (fun r h => by rw [hv] at h; cases h) w

/-- What kind a value is of, if it is no document, is told by the types of records. -/
theorem kind_eq_of_types {g : Heap}
    (htype : ∀ a, (g.record a).content.type = (h.record a).content.type)
    (hdoc : ∀ d, o ≠ .document d) : o.kind g = o.kind h := by
  cases o with
  | record a => rw [Value.kind, Value.kind, Value.classify_record, Value.classify_record, htype a]
  | document d => exact absurd rfl (hdoc d)
  | _ => rfl

/-! ### The law -/

/-- **Busy means a conflict**, whatever holds there are on the cells. The protocol of the script
objects is to leave holds as they are.

* A value with a cell, held as `k`: to read, to list or to count is busy if and only if there is a
  writer, to write if and only if there is anybody. Listing a record is never busy.
* A document: to write is busy if and only if the first obstacle on the walk down from what is to be
  stored is a writer. To read or to list is never busy.
* All holds are as they were before, whatever the outcome is. This is said of what is done step by
  step, where cells are opened and have to be closed again.
* The kind of a value that is no document does not depend on holds. -/
theorem busy_iff_conflict
    (hP : ∀ g r name t w, (P.set g r name t).1.hold? w = g.hold? w) (h : Heap) (o : Value) :
    (∀ k, h.hold? o = some k →
      (∀ key, (tryGet P h o key).result = .error .busy ↔ k = .exclusive) ∧
      (o.kind h ≠ some .typedRecord → ((tryKeys P h o).result = .error .busy ↔ k = .exclusive)) ∧
      (∀ a, o = .record a → o.kind h = some .typedRecord →
        (tryKeys P h o).result = .ok (h.record a).content.type.scriptNames) ∧
      (o.kind h = some .orderedList ∨ o.kind h = some .fixedArray →
        (length h o = none ↔ k = .exclusive)) ∧
      ∀ key s, (trySet P h o key s).result = .error .busy ↔ k ≠ .free) ∧
    (o.kind h = some .documentNode ∨ o.kind h = some .documentArray →
      (∀ key s, (trySet P h o key s).result = .error .busy ↔
        Place.FirstObstacle h (.start s) .busy) ∧
      (∀ key, (tryGet P h o key).result ≠ .error .busy) ∧
      (tryKeys P h o).result ≠ .error .busy) ∧
    ((∀ key, (Stepwise.read P o key).exec h = ((tryGet P h o key).result, h)) ∧
      (Stepwise.keys P o).exec h = ((tryKeys P h o).result, h) ∧
      ((Stepwise.count o).exec h).1.toOption = length h o ∧ ((Stepwise.count o).exec h).2 = h ∧
      ∀ key s, ((Stepwise.write P o key s).exec h).1 = (trySet P h o key s).result ∧
        ((Stepwise.write P o key s).exec h).2 = (trySet P h o key s).heap ∧
        ∀ w, (trySet P h o key s).heap.hold? w = h.hold? w) ∧
    ∀ g : Heap, (∀ a, (g.record a).content.type = (h.record a).content.type) →
      (∀ d, o ≠ .document d) → o.kind g = o.kind h := by
  refine ⟨fun k hk => ?_, fun hkind => ?_, ?_, fun g htype hdoc => kind_eq_of_types htype hdoc⟩
  · obtain ⟨hkeys, hnames⟩ := tryKeys_busy_iff (P := P) hk
    exact ⟨fun key => tryGet_busy_iff hk, hkeys, hnames, length_eq_none_iff hk,
      fun key s => trySet_busy_iff hk⟩
  · obtain ⟨d, rfl, hd⟩ := exists_document_of_kind hkind
    exact ⟨fun key s => trySet_document_busy_iff hd, tryGet_document_notBusy d,
      tryKeys_document_notBusy d⟩
  · obtain ⟨hcount, hsame⟩ := Stepwise.exec_count h o
    refine ⟨Stepwise.exec_read P h o, Stepwise.exec_keys P h o, hcount, hsame, fun key s => ?_⟩
    rw [Stepwise.exec_write]
    exact ⟨rfl, rfl, hold?_trySet hP o key s⟩

/-- A heap with a list that is being written to, and a document. -/
def writtenList : Heap :=
  ((({} : Heap).newList [none]).1.newDocument (.object [])).1.changeHold (fun _ => .exclusive)
    (.list 0)

/-- Such a list is not read, and not stored in the document either. -/
theorem busy_iff_conflict_writtenList :
    (∀ g r name t w, (Protocol.inert.set g r name t).1.hold? w = g.hold? w) ∧
      writtenList.hold? (.list 0) = some .exclusive ∧
      (tryGet .inert writtenList (.list 0) "0").result = .error .busy ∧
      (Value.document ⟨0, ""⟩).kind writtenList = some .documentNode ∧
      (trySet .inert writtenList (.document ⟨0, ""⟩) "k" (some (.list 0))).result =
        .error .busy := by
  have hP : ∀ g r name t w, (Protocol.inert.set g r name t).1.hold? w = g.hold? w :=
    fun _ _ _ _ _ => rfl
  have hfirst : Place.FirstObstacle writtenList (.start (some (.list 0))) .busy :=
    Place.firstObstacle_here rfl
  obtain ⟨hlist, -⟩ := busy_iff_conflict hP writtenList (.list 0)
  obtain ⟨-, hdocument, -⟩ := busy_iff_conflict hP writtenList (.document ⟨0, ""⟩)
  exact ⟨hP, rfl, ((hlist .exclusive rfl).1 "0").mpr rfl, rfl,
    ((hdocument (.inl rfl)).1 "k" _).mpr hfirst⟩

end Access

end ScriptHost
