import Mathlib.Data.List.Nodup
import ScriptHost.Proofs.Access.PutGet

/-!
# The places inside a value

Reading does not depend on where a value is kept. A mapping and an object node show entries
(`Value.entries?`), a list, an array and an array node show slots (`Value.slots?`), and what
reading gives under a key, which keys there are and how many elements, is said here of the
entries or the slots alone.
-/

namespace ScriptHost

namespace Document

/-- The members of an object node, as they are read. -/
def entries? (h : Heap) (d : Document) : Option (Entries Slot) :=
  (d.members? h).map fun members => members.map fun e => (e.1, d.adopt e.1 e.2)

/-- The items of an array node, as they are read. -/
def slots? (h : Heap) (d : Document) : Option (List Slot) :=
  (d.items? h).map fun items => items.mapIdx fun i j => d.adopt i.repr j

end Document

namespace Value

/-- The entries of a value that has its places under names. -/
def entries? (h : Heap) : Value → Option (Entries Slot)
  | mapping a => some (h.mapping a).content
  | document d => d.entries? h
  | _ => none

/-- The slots of a value that has its places under indices, in order. -/
def slots? (h : Heap) : Value → Option (List Slot)
  | list a => some (h.list a).content
  | array a => some (h.array a).content.slots
  | document d => d.slots? h
  | _ => none

end Value

namespace Document

variable {h : Heap} {d : Document}

theorem entries?_eq_some_iff {es : Entries Slot} :
    d.entries? h = some es ↔ ∃ members, d.node? h = some (.object members) ∧
      (members.map fun e => (e.1, d.adopt e.1 e.2)) = es := by
  simp only [entries?, Option.map_eq_some_iff, members?_eq_some_iff]

theorem slots?_eq_some_iff {ss : List Slot} :
    d.slots? h = some ss ↔ ∃ items, d.node? h = some (.array items) ∧
      (items.mapIdx fun i j => d.adopt i.repr j) = ss := by
  simp only [slots?, Option.map_eq_some_iff, items?_eq_some_iff]

theorem isNode_of_node? {members : Entries Json} (hd : d.node? h = some (.object members)) :
    d.isNode h = true := isNode_iff.mpr ⟨members, hd⟩

theorem isArray_of_node? {items : List Json} (hd : d.node? h = some (.array items)) :
    d.isArray h = true := isArray_iff.mpr ⟨items, hd⟩

end Document

theorem Entries.names_map_snd {α β : Type} (f : String × α → β) (es : Entries α) :
    Entries.names (es.map fun e => (e.1, f e)) = es.names := by
  simp [Entries.names]

theorem Entries.value?_map_snd {α β : Type} (f : String → α → β) (es : Entries α) (key : String) :
    Entries.value? key (es.map fun e => (e.1, f e.1 e.2)) = (es.value? key).map (f key) := by
  induction es with
  | nil => rfl
  | cons e es ih =>
    obtain ⟨k, a⟩ := e
    by_cases hk : k = key
    · subst hk
      simp [Entries.value?]
    · simpa [Entries.value?, hk] using ih

namespace Access

variable {P : Protocol} {h : Heap} {v : Value} {key : String}

/-! ### Positions -/

theorem position_out {i : Int} {n : Nat} (hi : ¬ (0 ≤ i ∧ i < n)) :
    position i n = .error (.outOfRange i n) := by
  rw [position, if_neg hi]

/-- The slot at an index, or the reason why there is none. -/
def slotAt (ss : List Slot) (i : Int) : Except AccessError Slot :=
  (position i ss.length).map fun i => ss[i]?.join

theorem slotAt_of_lt {ss : List Slot} {i : Nat} (hi : i < ss.length) :
    slotAt ss i = .ok ss[i] := by
  rw [slotAt, position_of_lt (by omega) (by omega), Int.toNat_natCast]
  simp [Except.map, hi]

theorem slotAt_out {ss : List Slot} {i : Int} (hi : ¬ (0 ≤ i ∧ i < ss.length)) :
    slotAt ss i = .error (.outOfRange i ss.length) := by
  rw [slotAt, position_out hi]
  rfl

/-! ### Open cells -/

/-- Nobody is writing to the value. -/
def Readable (h : Heap) (v : Value) : Prop := h.hold? v ≠ some .exclusive

instance : Decidable (Readable h v) := inferInstanceAs (Decidable (h.hold? v ≠ some .exclusive))

theorem forReading_of_ne {α : Type} {c : Cell α} (hc : c.hold ≠ .exclusive) :
    c.forReading = .ok c.content := by
  rw [Cell.forReading, if_pos (Hold.readable_iff.mpr hc)]

theorem forReading_mapping {a : Address} (hopen : Readable h (.mapping a)) :
    (h.mapping a).forReading = .ok (h.mapping a).content :=
  forReading_of_ne fun hc => hopen (congrArg some hc)

theorem forReading_list {a : Address} (hopen : Readable h (.list a)) :
    (h.list a).forReading = .ok (h.list a).content :=
  forReading_of_ne fun hc => hopen (congrArg some hc)

theorem forReading_array {a : Address} (hopen : Readable h (.array a)) :
    (h.array a).forReading = .ok (h.array a).content :=
  forReading_of_ne fun hc => hopen (congrArg some hc)

/-! ### No places, and those of records -/

theorem tryGet_of_classify_none (hv : v.classify h = none) :
    tryGet P h v key = .quiet (.error (.noProperties v.type)) := by
  simp only [tryGet, hv]

/-- A record that nobody is writing to is read by its fields. -/
theorem tryGet_record {a : Address}
    (plain : (h.record a).content.type.own.scriptObject = false) (hopen : Readable h (.record a)) :
    tryGet P h (.record a) key =
      .quiet (Instance.read (h.record a).content.type (h.record a).content.fields key) := by
  have hclass : Value.classify h (.record a) = some (.record a) := by
    rw [Value.classify_record, plain]
    rfl
  have hcell : (h.record a).forReading = .ok (h.record a).content :=
    forReading_of_ne fun hc => hopen (congrArg some hc)
  simp only [tryGet, hclass, hcell, bind, Except.bind]

/-! ### Places under names -/

/-- What is read under a name. -/
theorem tryGet_entries {es : Entries Slot} (hv : v.entries? h = some es) (hopen : Readable h v) :
    tryGet P h v key = .quiet (match es.value? key with
      | some s => .ok s
      | none => .error (.notFound key)) := by
  cases v with
  | mapping a =>
    cases hv
    simp only [tryGet, Value.classify_mapping, forReading_mapping hopen]
    rfl
  | document d =>
    obtain ⟨members, hd, rfl⟩ := Document.entries?_eq_some_iff.mp hv
    rw [tryGet_node (Document.isNode_of_node? hd), Document.readMember,
      Document.members?_eq_some_iff.mpr hd, Option.bind_some, Entries.value?_map_snd]
    cases Entries.value? key members <;> rfl
  | _ => cases hv

theorem tryKeys_entries {es : Entries Slot} (hv : v.entries? h = some es) (hopen : Readable h v) :
    tryKeys P h v = .quiet (.ok es.names) := by
  cases v with
  | mapping a =>
    cases hv
    simp only [tryKeys, Value.classify_mapping, forReading_mapping hopen]
    rfl
  | document d =>
    obtain ⟨members, hd, rfl⟩ := Document.entries?_eq_some_iff.mp hv
    simp only [tryKeys, Value.classify_document, Document.isNode_of_node? hd, if_true,
      Document.names?, Document.members?_eq_some_iff.mpr hd, Option.map_some]
    rw [Entries.names_map_snd]
  | _ => cases hv

theorem length_entries {es : Entries Slot} (hv : v.entries? h = some es) : length h v = none := by
  cases v with
  | mapping a => rfl
  | document d =>
    obtain ⟨members, hd, rfl⟩ := Document.entries?_eq_some_iff.mp hv
    simp only [length, Value.classify_document, Document.isNode_of_node? hd, if_true]
  | _ => cases hv

/-! ### Places under indices -/

/-- An array node is no object node. -/
theorem classify_items {d : Document} {items : List Json} (hd : d.node? h = some (.array items)) :
    Value.classify h (.document d) = some (.items d) := by
  have harray := Document.isArray_of_node? hd
  rw [Value.classify_document, Document.isNode_eq_false_of_isArray harray, harray]
  rfl

theorem readItem_eq_slotAt {d : Document} {items : List Json}
    (hd : d.node? h = some (.array items)) (i : Int) :
    d.readItem h i = slotAt (items.mapIdx fun i j => d.adopt i.repr j) i := by
  rw [Document.readItem, Document.items?_eq_some_iff.mpr hd]
  by_cases hin : 0 ≤ i ∧ i < items.length
  · obtain ⟨n, rfl⟩ := Int.eq_ofNat_of_zero_le hin.1
    have hn : n < items.length := by omega
    rw [slotAt_of_lt (by rwa [List.length_mapIdx]), List.getElem_mapIdx]
    simp only [Int.toNat_natCast, List.getElem?_eq_getElem hn]
    rw [if_neg (by omega)]
    rfl
  · rw [slotAt_out (by rwa [List.length_mapIdx]), List.length_mapIdx]
    dsimp only
    split
    · rfl
    · rw [List.getElem?_eq_none (by omega)]

/-- What is read under an index. -/
theorem tryGet_slots {ss : List Slot} (hv : v.slots? h = some ss) (hopen : Readable h v)
    (hkey : key ≠ lengthKey) : tryGet P h v key = .quiet (slotAt ss (indexOf key)) := by
  cases v with
  | list a =>
    cases hv
    simp only [tryGet, Value.classify_list, forReading_list hopen, bind, Except.bind, hkey,
      if_false, slotAt]
    cases position (indexOf key) (h.list a).content.length <;> rfl
  | array a =>
    cases hv
    simp only [tryGet, Value.classify_array, forReading_array hopen, bind, Except.bind, hkey,
      if_false, slotAt, FixedArray.length_slots, FixedArray.get_eq_slots]
    cases position (indexOf key) (h.array a).content.size <;> rfl
  | document d =>
    obtain ⟨items, hd, rfl⟩ := Document.slots?_eq_some_iff.mp hv
    rw [tryGet_items hd hkey, readItem_eq_slotAt hd]
  | _ => cases hv

/-- The number of elements, as a property. -/
theorem tryGet_lengthKey {ss : List Slot} (hv : v.slots? h = some ss) (hopen : Readable h v) :
    tryGet P h v lengthKey = .quiet (.ok (some (lengthValue ss.length))) := by
  cases v with
  | list a =>
    cases hv
    simp [tryGet, forReading_list hopen, bind, Except.bind]
  | array a =>
    cases hv
    simp [tryGet, forReading_array hopen, bind, Except.bind]
  | document d =>
    obtain ⟨items, hd, rfl⟩ := Document.slots?_eq_some_iff.mp hv
    simp [tryGet, classify_items hd, Document.length?, Document.items?_eq_some_iff.mpr hd]
  | _ => cases hv

theorem tryKeys_slots {ss : List Slot} (hv : v.slots? h = some ss) (hopen : Readable h v) :
    tryKeys P h v = .quiet (.ok (indexKeys ss.length)) := by
  cases v with
  | list a =>
    cases hv
    simp only [tryKeys, Value.classify_list, forReading_list hopen]
    rfl
  | array a =>
    cases hv
    simp only [tryKeys, Value.classify_array, forReading_array hopen, FixedArray.length_slots]
    rfl
  | document d =>
    obtain ⟨items, hd, rfl⟩ := Document.slots?_eq_some_iff.mp hv
    simp [tryKeys, classify_items hd, Document.length?, Document.items?_eq_some_iff.mpr hd]
  | _ => cases hv

theorem length_slots {ss : List Slot} (hv : v.slots? h = some ss) (hopen : Readable h v) :
    length h v = some ss.length := by
  cases v with
  | list a =>
    cases hv
    simp only [length, Value.classify_list, forReading_list hopen]
    rfl
  | array a =>
    cases hv
    simp only [length, Value.classify_array, forReading_array hopen, FixedArray.length_slots]
    rfl
  | document d =>
    obtain ⟨items, hd, rfl⟩ := Document.slots?_eq_some_iff.mp hv
    simp [length, classify_items hd, Document.length?, Document.items?_eq_some_iff.mpr hd]
  | _ => cases hv

end Access

end ScriptHost
