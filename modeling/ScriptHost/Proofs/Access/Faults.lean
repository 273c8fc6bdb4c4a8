import ScriptHost.Proofs.Access.Busy
import ScriptHost.Proofs.Access.Kinds
import ScriptHost.Proofs.Record.Refusal

/-!
# Why accesses fail

`ReadFault` and `WriteFault` list all that can go wrong in an access, each cause with the error
that reports it. An access fails with an error if and only if there is such a cause
(`tryGet_error_iff`, `trySet_error_iff`), provided that records are as the derivation makes them
(`Record.Made`). So an error never says anything but the truth about the value, the key and the
slot.
-/

namespace ScriptHost

open Outcome

/-! ### Obstacles -/

/-- What is in the way of an image is somebody who writes, or what has no form in a document. -/
theorem Place.FirstObstacle.busy_or_unrepresentable {h : Heap} {p : Place} {e : AccessError}
    (first : p.FirstObstacle h e) : e = .busy ∨ ∃ t, e = .unrepresentable t := by
  obtain ⟨-, q, -, hq, -⟩ := first
  rw [obstacle?] at hq
  split at hq
  · cases hq
  · exact .inr ⟨_, (Option.some.inj hq).symm⟩
  · exact .inr ⟨_, (Option.some.inj hq).symm⟩
  · split at hq
    · cases hq
    · exact .inr ⟨_, (Option.some.inj hq).symm⟩
  · split at hq
    · cases hq
    · exact .inr ⟨_, (Option.some.inj hq).symm⟩
  · split at hq
    · cases hq
    · split at hq
      · exact .inr ⟨_, (Option.some.inj hq).symm⟩
      · split at hq
        · exact .inl (Option.some.inj hq).symm
        · cases hq

namespace Access

variable {P : Protocol} {h : Heap} {o : Value} {key : String} {s : Slot} {e : AccessError}

/-! ### Why reading fails -/

/-- **Each cause for which reading fails**, with the error that reports it. -/
inductive ReadFault (h : Heap) (o : Value) (key : String) : AccessError → Prop where
  /-- Values of no kind have no properties. -/
  | noProperties (kind : o.kind h = none) : ReadFault h o key (.noProperties o.type)
  /-- Somebody is writing to the value. -/
  | busy (written : h.hold? o = some .exclusive) : ReadFault h o key .busy
  /-- A mapping or an object node has no such name. -/
  | missing {es : Entries Slot} (kind : o.kind h = some .mapping ∨ o.kind h = some .documentNode)
      (opened : Readable h o) (entries : o.entries? h = some es) (missing : key ∉ es.names) :
      ReadFault h o key (.notFound key)
  /-- No type on the way from a record to its root declares the name. -/
  | undeclared {a : Address} (record : o = .record a) (kind : o.kind h = some .typedRecord)
      (opened : Readable h o) (undeclared : ¬ (h.record a).content.type.Declares key) :
      ReadFault h o key (.notFound key)
  /-- The index that the key means lies outside the elements there are. -/
  | outside {k : Kind} {ss : List Slot} (kind : o.kind h = some k) (indexed : k.isIndexed = true)
      (opened : Readable h o) (slots : o.slots? h = some ss)
      (count : length h o = some ss.length) (index : key ≠ lengthKey)
      (outside : ¬ (0 ≤ indexOf key ∧ indexOf key < ss.length)) :
      ReadFault h o key (.outOfRange (indexOf key) ss.length)

theorem tryGet_scriptObject_ne_error (hk : o.kind h = some .scriptObject) (hopen : Readable h o) :
    (tryGet P h o key).result ≠ .error e := by
  obtain ⟨r, hr⟩ := Value.exists_classify_of_kind hk
  simp only [tryGet, hr, readable_of_classify hr hopen, if_true]
  cases r.state? h <;> simp [Reading.quiet]

theorem readFault_of_error (made : ∀ a, o = .record a → (h.record a).content.Made)
    (he : (tryGet P h o key).result = .error e) : ReadFault h o key e := by
  by_cases hopen : Readable h o
  -- only the layout of the value matters, and three of them are to be told apart
  · cases hk : o.kind h with
    | none =>
      rw [tryGet_of_classify_none (Value.classify_eq_none_iff.mpr hk)] at he
      cases he
      exact .noProperties hk
    | some k =>
      by_cases hobject : k = .scriptObject
      · subst hobject
        exact absurd he (tryGet_scriptObject_ne_error hk hopen)
      · cases Value.layout_of_kind hk hobject with
        | @named _ _ es entries _ =>
          rw [tryGet_entries entries hopen] at he
          cases hvalue : es.value? key with
          | some x => simp [Reading.quiet, hvalue] at he
          | none =>
            simp only [Reading.quiet, hvalue, Except.error.injEq] at he
            subst he
            exact .missing (Value.kind_of_entries? entries) hopen entries
              ((Entries.value?_eq_none_iff key es).mp hvalue)
        | @indexed _ _ ss slots indexed =>
          by_cases hkey : key = lengthKey
          · rw [hkey, tryGet_lengthKey slots hopen] at he
            cases he
          · rw [tryGet_slots slots hopen hkey] at he
            by_cases hin : 0 ≤ indexOf key ∧ indexOf key < ss.length
            · simp [Reading.quiet, slotAt, position, hin, Except.map] at he
            · rw [slotAt_out hin] at he
              cases he
              exact .outside hk indexed hopen slots (length_slots slots hopen) hkey hin
        | @record a plain =>
          have accepted := (made a rfl).derived.accepted
          rw [tryGet_record plain hopen] at he
          by_cases hkey : (h.record a).content.type.Declares key
          · obtain ⟨x, hx⟩ := accepted.readable hkey
            simp [Reading.quiet, hx] at he
          · rw [(accepted.undeclared hkey).1] at he
            cases he
            exact .undeclared rfl hk hopen hkey
  · have hwritten : h.hold? o = some .exclusive := not_not.mp hopen
    rw [(tryGet_busy_iff hwritten).mpr rfl] at he
    cases he
    exact .busy hwritten

theorem ReadFault.error (made : ∀ a, o = .record a → (h.record a).content.Made)
    (hf : ReadFault h o key e) : (tryGet P h o key).result = .error e := by
  cases hf with
  | noProperties kind => rw [tryGet_of_classify_none (Value.classify_eq_none_iff.mpr kind)]; rfl
  | busy written => exact (tryGet_busy_iff written).mpr rfl
  | @missing es _ opened entries missing =>
    rw [tryGet_entries entries opened, (Entries.value?_eq_none_iff key es).mpr missing]
    rfl
  | @undeclared a record kind opened undeclared =>
    subst record
    rw [tryGet_record (Value.plain_of_kind kind) opened]
    exact ((made a rfl).derived.accepted.undeclared undeclared).1
  | outside _ _ opened slots _ index outside =>
    rw [tryGet_slots slots opened index, slotAt_out outside]
    rfl

/-- **A read fails for a cause, and with the error that reports it.** -/
theorem tryGet_error_iff (made : ∀ a, o = .record a → (h.record a).content.Made) :
    (tryGet P h o key).result = .error e ↔ ReadFault h o key e :=
  ⟨readFault_of_error made, ReadFault.error made⟩

/-! ### Why writing fails -/

/-- **What the place that a write reaches asks for**, as the type of a field: the element of an
array at an index that it has, or a field of a record that is not sealed. -/
inductive Asks (h : Heap) (key : String) : Value → FieldType → Prop where
  | element {a : Address}
      (inside : 0 ≤ indexOf key ∧ indexOf key < (h.array a).content.size) :
      Asks h key (.array a) (h.array a).content.elementType.fieldType
  | field {a : Address} {d : FieldDescriptor} {f : StoredField}
      (kind : (Value.record a).kind h = some .typedRecord)
      (declared : (h.record a).content.type.lookup? key = some d)
      (writable : d.readonly = false)
      (stored : Instance.field? (h.record a).content.type (h.record a).content.fields key =
        some f) : Asks h key (.record a) f.type

/-- **Each cause for which writing fails**, with the error that reports it. -/
inductive WriteFault (h : Heap) (o : Value) (key : String) (s : Slot) : AccessError → Prop where
  /-- Values of no kind have no properties. -/
  | noProperties (kind : o.kind h = none) : WriteFault h o key s (.noProperties o.type)
  /-- Somebody has the value open. -/
  | busy {k : Hold} (hold : h.hold? o = some k) (held : k ≠ .free) : WriteFault h o key s .busy
  /-- No type on the way from a record to its root declares the name. -/
  | undeclared {a : Address} (record : o = .record a) (kind : o.kind h = some .typedRecord)
      (free : Free h o) (undeclared : ¬ (h.record a).content.type.Declares key) :
      WriteFault h o key s (.notFound key)
  /-- The first declaration of the name on this way seals the field. -/
  | sealed {a : Address} {d : FieldDescriptor} (record : o = .record a)
      (kind : o.kind h = some .typedRecord) (free : Free h o)
      (declared : (h.record a).content.type.lookup? key = some d) (readonly : d.readonly = true) :
      WriteFault h o key s (.readOnly key)
  /-- The place asks for something else. -/
  | unfit {t : FieldType} (free : Free h o) (place : Asks h key o t)
      (unfit : ∀ c, t.ofSlot s ≠ .ok c) (differs : t.core.requirement.name ≠ s.typeName) :
      WriteFault h o key s (.typeMismatch t.core.requirement (s.map Value.type))
  /-- The index that the key means lies outside the elements there are, and for a list not just
  behind them either. An array node looks at the index when it has the image of what is stored. -/
  | outside {k : Kind} {ss : List Slot} (kind : o.kind h = some k) (indexed : k.isIndexed = true)
      (free : Free h o) (slots : o.slots? h = some ss) (count : length h o = some ss.length)
      (outside : ¬ (0 ≤ indexOf key ∧ indexOf key < ss.length))
      (behind : k = .orderedList → indexOf key ≠ ss.length)
      (image : k = .documentArray → ∃ j, h.image s = .ok j) :
      WriteFault h o key s (.outOfRange (indexOf key) ss.length)
  /-- What is stored in a document has no image there. -/
  | unrepresentable {t : ValueType}
      (kind : o.kind h = some .documentNode ∨ o.kind h = some .documentArray)
      (first : Place.FirstObstacle h (.start s) (.unrepresentable t)) :
      WriteFault h o key s (.unrepresentable t)
  /-- Somebody is writing to what is stored in a document. -/
  | conflict (kind : o.kind h = some .documentNode ∨ o.kind h = some .documentArray)
      (first : Place.FirstObstacle h (.start s) .busy) : WriteFault h o key s .busy

/-! #### One kind after the other -/

section Kinds

variable {a : Address} {d : Document}

theorem trySet_list_error_iff (free : Free h (.list a)) :
    (trySet P h (.list a) key s).result = .error e ↔
      ¬ (0 ≤ indexOf key ∧ indexOf key < (h.list a).content.length) ∧
        indexOf key ≠ (h.list a).content.length ∧
        e = .outOfRange (indexOf key) (h.list a).content.length := by
  rw [trySet_list, commit_error_iff, forWriting_of_writable free, ok_bind, storeItem]
  split
  · next hin => simp [ok_bind, hin]
  · next hout =>
    split
    · next hend => simp [ok_bind, hend]
    · next hend =>
      rw [bind_eq_error_iff]
      simp [hout, hend, eq_comm]

theorem trySet_array_error_iff (free : Free h (.array a)) :
    (trySet P h (.array a) key s).result = .error e ↔
      (¬ (0 ≤ indexOf key ∧ indexOf key < (h.array a).content.size) ∧
        e = .outOfRange (indexOf key) (h.array a).content.size) ∨
      ((0 ≤ indexOf key ∧ indexOf key < (h.array a).content.size) ∧
        (h.array a).content.elementType.fieldType.ofSlot s = .error e) := by
  rw [trySet_array, commit_error_iff, forWriting_of_writable free, ok_bind]
  by_cases hin : 0 ≤ indexOf key ∧ indexOf key < (h.array a).content.size
  · have hlt : (indexOf key).toNat < (h.array a).content.size := by omega
    rw [position_of_lt hin.1 hin.2, ok_bind, FixedArray.store_eq hlt, ElementType.accepts_eq,
      bind_eq_error_iff, map_eq_error_iff]
    simp [hin]
  · rw [position_out hin]
    show Except.error _ = Except.error e ↔ _
    simp [hin, eq_comm]

theorem trySet_record_error_iff (plain : (h.record a).content.type.own.scriptObject = false)
    (accepted : Instance.Accepted (h.record a).content.type (h.record a).content.fields)
    (free : Free h (.record a)) :
    (trySet P h (.record a) key s).result = .error e ↔
      (¬ (h.record a).content.type.Declares key ∧ e = .notFound key) ∨
      ∃ d f, (h.record a).content.type.lookup? key = some d ∧
        Instance.field? (h.record a).content.type (h.record a).content.fields key = some f ∧
        Instance.Refuses d f s e := by
  rw [trySet_record plain, commit_error_iff, forWriting_of_writable free, ok_bind,
    bind_eq_error_iff]
  simp only [reduceCtorEq, and_false, exists_false, or_false]
  cases hd : (h.record a).content.type.lookup? key with
  | none =>
    have hkey := RecordType.lookup?_eq_none_iff.mp hd
    rw [(accepted.undeclared hkey).2 s]
    simp [hkey, eq_comm]
  | some d =>
    have hkey : (h.record a).content.type.Declares key := by
      by_contra hkey
      rw [RecordType.lookup?_eq_none_iff.mpr hkey] at hd
      cases hd
    obtain ⟨f, hf, hwrite⟩ := accepted.write_error_iff hd
    rw [hwrite, hf]
    simp [hkey]

theorem trySet_node_error_iff (hd : d.isNode h = true) :
    (trySet P h (.document d) key s).result = .error e ↔ Place.FirstObstacle h (.start s) e := by
  obtain ⟨members, hnode⟩ := Document.isNode_iff.mp hd
  rw [trySet_node hd, commit_error_iff, bind_eq_error_iff, memberImage_eq_error_iff]
  simp [Document.writeMember, Document.members?_eq_some_iff.mpr hnode]

theorem trySet_items_error_iff {items : List Json} (hd : d.node? h = some (.array items)) :
    (trySet P h (.document d) key s).result = .error e ↔ Place.FirstObstacle h (.start s) e ∨
      (∃ j, h.image s = .ok j) ∧ ¬ (0 ≤ indexOf key ∧ indexOf key < items.length) ∧
        e = .outOfRange (indexOf key) items.length := by
  have harray := Document.isArray_of_node? hd
  rw [trySet_items (Document.isNode_eq_false_of_isArray harray) harray, commit_error_iff,
    bind_eq_error_iff, image_eq_error_iff]
  refine or_congr_right ?_
  simp only [Document.writeItem, Document.items?_eq_some_iff.mpr hd]
  by_cases hin : 0 ≤ indexOf key ∧ indexOf key < items.length
  · have hnot : ¬ (indexOf key < 0 ∨ (items.length : Int) ≤ indexOf key) := by omega
    simp [hin, hnot]
  · have hout : indexOf key < 0 ∨ (items.length : Int) ≤ indexOf key := by omega
    simp only [if_pos hout, exists_and_right]
    simp [hin, eq_comm]

theorem setObject_ne_error {r : ObjectRef} (free : (r.hold h).writable = true)
    (state : r.state? h ≠ none) : (setObject P h r key s).result ≠ .error e := by
  obtain ⟨st, hst⟩ := Option.ne_none_iff_exists'.mp state
  simp [setObject, free, hst]

end Kinds

/-! #### The faults of a write -/

theorem WriteFault.of_ofSlot {t : FieldType} (free : Free h o) (place : Asks h key o t)
    (he : t.ofSlot s = .error e) : WriteFault h o key s e := by
  obtain rfl := FieldType.ofSlot_eq_error he
  exact .unfit free place (fun c hc => by rw [hc] at he; cases he)
    (FieldType.requirement_ne_typeName he)

theorem WriteFault.of_firstObstacle
    (kind : o.kind h = some .documentNode ∨ o.kind h = some .documentArray)
    (first : Place.FirstObstacle h (.start s) e) : WriteFault h o key s e := by
  rcases first.busy_or_unrepresentable with rfl | ⟨t, rfl⟩
  · exact .conflict kind first
  · exact .unrepresentable kind first

theorem writeFault_of_record_error {a : Address} (made : (h.record a).content.Made)
    (free : Free h (.record a)) (he : (trySet P h (.record a) key s).result = .error e) :
    WriteFault h (.record a) key s e := by
  have hkind := Value.kind_record h a
  cases hview : (h.record a).content.type.own.scriptObject with
  | true =>
    have hclass := Value.classify_record h a
    rw [if_pos hview] at hclass
    rw [trySet_scriptObject hclass] at he
    exact absurd he (setObject_ne_error free fun hstate => made.view hview hstate)
  | false =>
    rw [hview] at hkind
    rcases (trySet_record_error_iff hview made.derived.accepted free).mp he with
      ⟨hkey, rfl⟩ | ⟨d, f, hd, hf, readonly | ⟨writable, hunfit⟩⟩
    · exact .undeclared rfl hkind free hkey
    -- the writer reports the name of the descriptor, which is the key that found it
    · rw [RecordType.name_of_lookup? hd]
      exact .sealed rfl hkind free hd readonly
    · exact .of_ofSlot free (.field hkind hd writable hf) hunfit

theorem writeFault_of_document_error {d : Document}
    (he : (trySet P h (.document d) key s).result = .error e) :
    WriteFault h (.document d) key s e := by
  have hkind := Value.kind_document h d
  cases hn : d.isNode h with
  | true =>
    rw [if_pos hn] at hkind
    exact .of_firstObstacle (.inl hkind) ((trySet_node_error_iff hn).mp he)
  | false =>
    rw [hn] at hkind
    cases ha : d.isArray h with
    | true =>
      rw [ha] at hkind
      obtain ⟨items, hnode⟩ := Document.isArray_iff.mp ha
      rcases (trySet_items_error_iff hnode).mp he with hfirst | ⟨himage, hout, rfl⟩
      · exact .of_firstObstacle (.inr hkind) hfirst
      · have free : Free h (.document d) := rfl
        have hslots : Value.slots? h (.document d) = some _ :=
          Document.slots?_eq_some_iff.mpr ⟨items, hnode, rfl⟩
        rw [← List.length_mapIdx (f := fun i j => d.adopt i.repr j)] at hout ⊢
        exact .outside hkind rfl free hslots (length_slots hslots free.readable) hout
          (by simp) (fun _ => himage)
    | false =>
      rw [ha] at hkind
      rw [trySet_none (Value.classify_eq_none_iff.mpr hkind)] at he
      cases he
      exact .noProperties hkind

theorem writeFault_of_error (made : ∀ a, o = .record a → (h.record a).content.Made)
    (he : (trySet P h o key s).result = .error e) : WriteFault h o key s e := by
  by_cases free : Free h o
  · cases o with
    | mapping a =>
      rw [trySet_mapping, commit_error_iff, forWriting_of_writable free] at he
      cases he
    | list a =>
      obtain ⟨hout, hend, rfl⟩ := (trySet_list_error_iff free).mp he
      exact .outside rfl rfl free rfl (length_slots rfl free.readable) hout (fun _ => hend)
        (by simp [Target.kind])
    | array a =>
      rcases (trySet_array_error_iff free).mp he with ⟨hout, rfl⟩ | ⟨hin, hunfit⟩
      · rw [← FixedArray.length_slots] at hout ⊢
        exact .outside rfl rfl free rfl (length_slots rfl free.readable) hout
          (by simp [Target.kind]) (by simp [Target.kind])
      · exact .of_ofSlot free (.element hin) hunfit
    | object a =>
      rw [trySet_scriptObject rfl] at he
      exact absurd he (setObject_ne_error free (Option.some_ne_none _))
    | record a => exact writeFault_of_record_error (made a rfl) free he
    | document d => exact writeFault_of_document_error he
    | _ =>
      rw [trySet_none rfl] at he
      cases he
      exact .noProperties rfl
  · obtain ⟨k, hk, hheld⟩ := exists_hold_of_not_free free
    rw [(trySet_busy_iff hk).mpr hheld] at he
    cases he
    exact .busy hk hheld

theorem error_of_outside {k : Kind} {ss : List Slot} (kind : o.kind h = some k) (free : Free h o)
    (slots : o.slots? h = some ss) (out : ¬ (0 ≤ indexOf key ∧ indexOf key < ss.length))
    (behind : k = .orderedList → indexOf key ≠ ss.length)
    (image : k = .documentArray → ∃ j, h.image s = .ok j) :
    (trySet P h o key s).result = .error (.outOfRange (indexOf key) ss.length) := by
  cases o with
  | list a =>
    cases slots
    cases kind
    exact (trySet_list_error_iff free).mpr ⟨out, behind rfl, rfl⟩
  | array a =>
    cases slots
    rw [FixedArray.length_slots] at out ⊢
    exact (trySet_array_error_iff free).mpr (.inl ⟨out, rfl⟩)
  | document d =>
    obtain ⟨items, hd, rfl⟩ := Document.slots?_eq_some_iff.mp slots
    rw [Value.kind, classify_items hd] at kind
    cases kind
    rw [List.length_mapIdx] at out ⊢
    exact (trySet_items_error_iff hd).mpr (.inr ⟨image rfl, out, rfl⟩)
  | _ => cases slots

theorem error_of_firstObstacle
    (kind : o.kind h = some .documentNode ∨ o.kind h = some .documentArray)
    (first : Place.FirstObstacle h (.start s) e) : (trySet P h o key s).result = .error e := by
  obtain ⟨d, rfl, hd⟩ := exists_document_of_kind kind
  cases hn : d.isNode h with
  | true => exact (trySet_node_error_iff hn).mpr first
  | false =>
    obtain ⟨items, hnode⟩ := Document.isArray_iff.mp (hd.resolve_left (by simp [hn]))
    exact (trySet_items_error_iff hnode).mpr (.inl first)

theorem error_of_unfit (made : ∀ a, o = .record a → (h.record a).content.Made) {t : FieldType}
    (free : Free h o) (place : Asks h key o t) (he : t.ofSlot s = .error e) :
    (trySet P h o key s).result = .error e := by
  cases place with
  | element inside => exact (trySet_array_error_iff free).mpr (.inr ⟨inside, he⟩)
  | @field a d f kind declared writable stored =>
    have accepted := (made a rfl).derived.accepted
    exact (trySet_record_error_iff (Value.plain_of_kind kind) accepted free).mpr
      (.inr ⟨d, f, declared, stored, .unfit writable he⟩)

theorem WriteFault.error (made : ∀ a, o = .record a → (h.record a).content.Made)
    (hf : WriteFault h o key s e) : (trySet P h o key s).result = .error e := by
  cases hf with
  | noProperties kind => rw [trySet_none (Value.classify_eq_none_iff.mpr kind)]
  | busy hold held => exact (trySet_busy_iff hold).mpr held
  | @undeclared a record kind free undeclared =>
    subst record
    have accepted := (made a rfl).derived.accepted
    exact (trySet_record_error_iff (Value.plain_of_kind kind) accepted free).mpr
      (.inl ⟨undeclared, rfl⟩)
  | @sealed a d record kind free declared readonly =>
    subst record
    have accepted := (made a rfl).derived.accepted
    obtain ⟨f, hf, -⟩ := accepted.write_error_iff declared
    refine (trySet_record_error_iff (Value.plain_of_kind kind) accepted free).mpr
      (.inr ⟨d, f, declared, hf, ?_⟩)
    rw [← RecordType.name_of_lookup? declared]
    exact .sealed readonly
  | @unfit t free place unfit _ =>
    cases he : t.ofSlot s with
    | ok c => exact absurd he (unfit c)
    | error e =>
      rw [← Slot.mismatch, ← FieldType.ofSlot_eq_error he]
      exact error_of_unfit made free place he
  | outside kind _ free slots _ outside behind image =>
    exact error_of_outside kind free slots outside behind image
  | unrepresentable kind first => exact error_of_firstObstacle kind first
  | conflict kind first => exact error_of_firstObstacle kind first

/-- **A write fails for a cause, and with the error that reports it.** -/
theorem trySet_error_iff (made : ∀ a, o = .record a → (h.record a).content.Made) :
    (trySet P h o key s).result = .error e ↔ WriteFault h o key s e :=
  ⟨writeFault_of_error made, WriteFault.error made⟩

/-! ### Every error -/

/-- **Errors are faithful**, whatever holds there are on the cells and whatever documents there
are, for values whose records are as the derivation makes them.

* A read or a write fails with an error if and only if there is a cause of this error; all causes
  are those that `ReadFault` and `WriteFault` list.
* No accessor is ever applied to an instance of another struct.
* A value has no properties if and only if it is of no kind.
* What the kind of the value promises is there, and the answers to its absence are never given. -/
theorem errors_faithful (made : ∀ a, o = .record a → (h.record a).content.Made) (key : String)
    (s : Slot) :
    (∀ e, (tryGet P h o key).result = .error e ↔ ReadFault h o key e) ∧
    (∀ e, (trySet P h o key s).result = .error e ↔ WriteFault h o key s e) ∧
    (∀ owner, (tryGet P h o key).result ≠ .error (.wrongReceiver owner) ∧
      (trySet P h o key s).result ≠ .error (.wrongReceiver owner)) ∧
    (∀ t, ((tryGet P h o key).result = .error (.noProperties t) ↔ o.kind h = none ∧ t = o.type) ∧
      ((trySet P h o key s).result = .error (.noProperties t) ↔ o.kind h = none ∧ t = o.type)) ∧
    Promised h o key s := by
  refine ⟨fun e => tryGet_error_iff made, fun e => trySet_error_iff made, fun owner => ⟨?_, ?_⟩,
    fun t => ⟨?_, ?_⟩, promised made key s⟩
  · rw [Ne, tryGet_error_iff made]
    rintro ⟨⟩
  · rw [Ne, trySet_error_iff made]
    rintro ⟨⟩
  · rw [tryGet_error_iff made]
    constructor
    · rintro ⟨kind⟩
      exact ⟨kind, rfl⟩
    · rintro ⟨kind, rfl⟩
      exact .noProperties kind
  · rw [trySet_error_iff made]
    constructor
    · rintro ⟨kind⟩
      exact ⟨kind, rfl⟩
    · rintro ⟨kind, rfl⟩
      exact .noProperties kind

/-- A record whose first layer seals one name. -/
def sealedRecord : Heap :=
  (({} : Heap).newRecord ⟨Blueprint.level1Type, Blueprint.level1, none⟩).1

/-- A sealed field is not written to, under the name by which it was asked for. -/
theorem errors_faithful_sealed :
    (∀ a, Value.record 0 = .record a → (sealedRecord.record a).content.Made) ∧
      (trySet .inert sealedRecord (.record 0) "v" (some (.int32 2))).result =
        .error (.readOnly "v") := by
  have made : ∀ a, Value.record 0 = .record a → (sealedRecord.record a).content.Made := by
    rintro a ⟨⟩
    exact ⟨Instance.derived_level1, fun hview => by cases hview⟩
  refine ⟨made, ((errors_faithful made "v" (some (.int32 2))).2.1 (.readOnly "v")).mpr ?_⟩
  exact .sealed rfl rfl rfl (d := ⟨"v", "v", true, "L1", "L1", "L1"⟩) (by decide) rfl

end Access

end ScriptHost
