import ScriptHost.Proofs.Access.Invariant
import ScriptHost.Proofs.Record.Resolve

/-!
# Reading what was written

What a read gives right after a write under the same key. Mappings and lists, and arrays of
texts or of any values, give back the slot itself; arrays of scalars and record fields give
what their type made of it; documents give a reading of the JSON that the value had before
the write, so that a value that comes from the same tree is stored as it was
(`trySet_readsBack`).
-/

namespace ScriptHost

open Outcome Pointer

/-! ### Elements of arrays -/

/-- **What an element place makes of a slot** that fits it: scalars are widened to the
element type, texts and places for any value take the slot as it is. -/
def ElementType.view? : ElementType → Slot → Option Slot
  | .bool, s => (s.bind Value.asBool?).map fun b => some (.bool b)
  | .int32, s => (s.bind Value.asInt32?).map fun n => some (.int32 n)
  | .int64, s => (s.bind Value.widenToInt64?).map fun n => some (.int64 n)
  | .float32, s => (s.bind Value.widenToFloat32?).map fun x => some (.float32 x)
  | .float64, s => (s.bind Value.widenToFloat64?).map fun x => some (.float64 x)
  | .string, none => some none
  | .string, some (.string t) => some (some (.string t))
  | .string, some _ => none
  | .any, s => some s

namespace FixedArray

theorem accept_eq_ok_iff {α : Type} {t : ValueType} {view : Value → Option α} {s : Slot} {x : α} :
    accept t view s = .ok x ↔ s.bind view = some x := by
  unfold accept
  cases s.bind view <;> simp

theorem view?_of_acceptText {s : Slot} {x : Option String} (hx : acceptText s = .ok x) :
    ElementType.view? .string s = some (x.map .string) := by
  unfold acceptText at hx
  split at hx
  · cases hx
    rfl
  · cases hx
    rfl
  · cases hx

/-- What is left when an element place has taken a slot. -/
theorem store_accepted {α : Type} {t : ValueType} {view : Value → Option α} {s : Slot}
    {items : List α} {i : Nat} {mk : List α → FixedArray} {b : FixedArray} (hi : i < items.length)
    (hb : (accept t view s).map (fun x => mk (items.set i x)) = .ok b) :
    ∃ x, s.bind view = some x ∧ b = mk (items.set i x) ∧ (items.set i x)[i]? = some x := by
  obtain ⟨x, hx, rfl⟩ := map_eq_ok_iff.mp hb
  exact ⟨x, accept_eq_ok_iff.mp hx, rfl, List.getElem?_set_self hi⟩

/-- An element that was stored is read as its place sees it; the length does not change. -/
theorem get_store {a b : FixedArray} {i : Nat} {s : Slot} (hb : a.store i s = .ok b) :
    a.elementType.view? s = some (b.get i) ∧ b.size = a.size := by
  unfold store at hb
  split at hb
  · cases hb
  · next hi =>
    have hlt : i < a.size := Nat.lt_of_not_le hi
    cases a with
    | bool items =>
      obtain ⟨x, hx, rfl, hget⟩ := store_accepted hlt hb
      simp [elementType, ElementType.view?, hx, get, size, hget]
    | int32 items =>
      obtain ⟨x, hx, rfl, hget⟩ := store_accepted hlt hb
      simp [elementType, ElementType.view?, hx, get, size, hget]
    | int64 items =>
      obtain ⟨x, hx, rfl, hget⟩ := store_accepted hlt hb
      simp [elementType, ElementType.view?, hx, get, size, hget]
    | float32 items =>
      obtain ⟨x, hx, rfl, hget⟩ := store_accepted hlt hb
      simp [elementType, ElementType.view?, hx, get, size, hget]
    | float64 items =>
      obtain ⟨x, hx, rfl, hget⟩ := store_accepted hlt hb
      simp [elementType, ElementType.view?, hx, get, size, hget]
    | string items =>
      obtain ⟨x, hx, rfl⟩ := map_eq_ok_iff.mp hb
      have hget : (items.set i x)[i]? = some x := List.getElem?_set_self hlt
      simp [elementType, view?_of_acceptText hx, get, size, hget]
    | any items =>
      cases hb
      have hget : (items.set i s)[i]? = some s := List.getElem?_set_self hlt
      simp [elementType, ElementType.view?, get, size, hget]

end FixedArray

/-! ### Nodes of documents -/

namespace Document

/-- **How a tree is read** through a handle into a document: null as nothing, a scalar as
the narrowest value that has it, and an object or array as a handle into the same document
that leads to it. -/
inductive Shows (h : Heap) (d : Document) : Json → Slot → Prop where
  | null : Shows h d .null none
  | bool (b : Bool) : Shows h d (.bool b) (some (.bool b))
  | string (s : String) : Shows h d (.string s) (some (.string s))
  | int32 (n : Int32) : Shows h d (.number (.integer n.toInt)) (some (.int32 n))
  /-- An integer is read as a 64-bit one if no 32-bit one has its value. -/
  | int64 (n : Int64) (wide : ∀ m : Int32, m.toInt ≠ n.toInt) :
      Shows h d (.number (.integer n.toInt)) (some (.int64 n))
  /-- An integer beyond 64 bits is read as the nearest float. -/
  | beyond {n : Int} (wide : ∀ m : Int64, m.toInt ≠ n) :
      Shows h d (.number (.integer n)) (some (.float64 (.ofInt _ n)))
  | float {x : Float64Bits} (finite : x.isFinite = true) :
      Shows h d (.number (.float x finite)) (some (.float64 x))
  | handle {j : Json} {e : Document} (branch : j.isObject = true ∨ j.isArray = true)
      (tree : e.tree = d.tree) (json : h.image (some (.document e)) = .ok j) :
      Shows h d j (some (.document e))

variable {h : Heap} {d : Document}

theorem shows_toValue (n : JsonNumber) : Shows h d (.number n) (some n.toValue) := by
  cases n with
  | float x finite => exact .float finite
  | integer n =>
    rw [JsonNumber.toValue]
    split
    · next hn =>
      have heq : (Int32.ofInt n).toInt = n :=
        Int32.toInt_ofInt_of_le (Int32.toInt_minValue ▸ hn.1)
          (Int.lt_of_le_of_lt hn.2 (by decide))
      have hshows := Shows.int32 (h := h) (d := d) (Int32.ofInt n)
      rwa [heq] at hshows
    · next hn =>
      have hwide : ∀ m : Int32, m.toInt ≠ n := by
        rintro m rfl
        exact hn ⟨m.minValue_le_toInt, m.toInt_le⟩
      split
      · next hn' =>
        have heq : (Int64.ofInt n).toInt = n :=
          Int64.toInt_ofInt_of_le (Int64.toInt_minValue ▸ hn'.1)
            (Int.lt_of_le_of_lt hn'.2 (by decide))
        have hshows := Shows.int64 (h := h) (d := d) (Int64.ofInt n) (by rwa [heq])
        rwa [heq] at hshows
      · next hn' =>
        refine .beyond ?_
        rintro m rfl
        exact hn' ⟨m.minValue_le_toInt, m.toInt_le⟩

/-- What is read of a child shows it, if the handle one step down leads to it. -/
theorem shows_adopt {token : String} {j : Json} (hj : (d.child token).node? h = some j) :
    Shows h d j (d.adopt token j) := by
  have himage : h.image (some (.document (d.child token))) = .ok j := by
    rw [image_document, hj, Option.getD_some]
  cases j with
  | null => exact .null
  | bool b => exact .bool b
  | number n => exact shows_toValue n
  | string s => exact .string s
  | array items => exact .handle (.inr rfl) rfl himage
  | object members => exact .handle (.inl rfl) rfl himage

end Document

/-! ### Every kind -/

namespace Access

open Document

/-- **What is read back** from a value under `key`, after `s` was written there in the heap
`h` and left the heap `h'`. -/
inductive ReadsBack (h h' : Heap) (key : String) (s : Slot) :
    Value → Except AccessError Slot → Prop where
  | mapping (a : Address) : ReadsBack h h' key s (.mapping a) (.ok s)
  | list (a : Address) : ReadsBack h h' key s (.list a) (.ok s)
  /-- An array gives the slot as its element type takes it. -/
  | array {a : Address} {x : Slot} (view : (h.array a).content.elementType.view? s = some x) :
      ReadsBack h h' key s (.array a) (.ok x)
  /-- A record gives the slot as the type of the field takes it. -/
  | field {a : Address} {f : StoredField} {c : f.type.Carrier}
      (resolved :
        Instance.field? (h.record a).content.type (h.record a).content.fields key = some f)
      (taken : f.type.ofSlot s = .ok c) :
      ReadsBack h h' key s (.record a) (.ok (f.type.toSlot c))
  /-- A member that was removed is not found. -/
  | removed {d : Document} (node : d.isNode h = true) (absent : s = none) :
      ReadsBack h h' key s (.document d) (.error (.notFound key))
  /-- A member is read from the JSON that the value had before the write. -/
  | member {d : Document} {j : Json} {r : Slot} (node : d.isNode h = true) (present : s ≠ none)
      (image : h.image s = .ok j) (read : Shows h' d j r) :
      ReadsBack h h' key s (.document d) (.ok r)
  /-- So is an item, where the empty slot is null. -/
  | item {d : Document} {j : Json} {r : Slot} (array : d.isArray h = true)
      (image : h.image s = .ok j) (read : Shows h' d j r) :
      ReadsBack h h' key s (.document d) (.ok r)

variable {P : Protocol} {h : Heap} {key : String} {s : Slot}

theorem readable_of_writable {k : Hold} (hk : k.writable = true) : k.readable = true := by
  have hfree : k = .free := by simpa [Hold.writable] using hk
  rw [hfree]
  rfl

theorem forReading_of_writable {α : Type} {content : α} {k : Hold} (hk : k.writable = true) :
    Cell.forReading ⟨content, k⟩ = .ok content := by
  rw [Cell.forReading, if_pos (readable_of_writable hk)]

theorem position_of_lt {i : Int} {n : Nat} (lo : 0 ≤ i) (hi : i < n) :
    position i n = .ok i.toNat := by
  rw [position, if_pos ⟨lo, hi⟩]

theorem readsBack_mapping {a : Address} (live : h.Live (.mapping a))
    (free : (h.mapping a).hold.writable = true) :
    tryGet P (h.setMapping a ((h.mapping a).content.put key s)) (.mapping a) key =
      .quiet (.ok s) := by
  simp only [tryGet, Value.classify_mapping, Heap.mapping_setMapping_self live]
  rw [forReading_of_writable free]
  simp [bind, Except.bind]

/-- A list gives the element that was put at an index. -/
theorem readsBack_list {a : Address} {items : List Slot} (live : h.Live (.list a))
    (free : (h.list a).hold.writable = true) (hkey : key ≠ lengthKey) (lo : 0 ≤ indexOf key)
    (hi : indexOf key < items.length) (hs : items[(indexOf key).toNat]? = some s) :
    tryGet P (h.setList a items) (.list a) key = .quiet (.ok s) := by
  simp only [tryGet, Value.classify_list, Heap.list_setList_self live]
  rw [forReading_of_writable free]
  simp [bind, Except.bind, hkey, position_of_lt lo hi, hs]

theorem readsBack_array {a : Address} {fa : FixedArray} (live : h.Live (.array a))
    (free : (h.array a).hold.writable = true) (hkey : key ≠ lengthKey) (lo : 0 ≤ indexOf key)
    (hi : indexOf key < fa.size) :
    tryGet P (h.setArray a fa) (.array a) key = .quiet (.ok (fa.get (indexOf key).toNat)) := by
  simp only [tryGet, Value.classify_array, Heap.array_setArray_self live]
  rw [forReading_of_writable free]
  simp [bind, Except.bind, hkey, position_of_lt lo hi]

theorem readsBack_record {a : Address} {fields : Instance} {f : StoredField}
    (live : h.Live (.record a)) (kind : (h.record a).content.type.own.scriptObject = false)
    (free : (h.record a).hold.writable = true)
    (hf : Instance.field? (h.record a).content.type fields key = some f) :
    tryGet P (h.setFields a fields) (.record a) key = .quiet (.ok f.read) := by
  have hclass : Value.classify (h.setFields a fields) (.record a) = some (.record a) := by
    rw [Value.classify_record, Heap.record_setFields_self live]
    simp [kind]
  simp only [tryGet, hclass, Heap.record_setFields_self live]
  rw [forReading_of_writable free]
  exact congrArg Reading.quiet (Instance.read_of_field? hf)

theorem tryGet_node {d : Document} (hd : d.isNode h = true) :
    tryGet P h (.document d) key = .quiet (d.readMember h key) := by
  simp only [tryGet, Value.classify_document, hd, if_true]

theorem tryGet_items {d : Document} {items : List Json} (hd : d.node? h = some (.array items))
    (hkey : key ≠ lengthKey) :
    tryGet P h (.document d) key = .quiet (d.readItem h (indexOf key)) := by
  have hn : d.isNode h = false := by
    rw [isNode, members?, hd]
    rfl
  have ha : d.isArray h = true := isArray_iff.mpr ⟨items, hd⟩
  simp [tryGet, Value.classify_document, hn, ha, hkey]

/-- A member that is there is read through the handle one step down. -/
theorem readMember_shows {d : Document} {members : Entries Json} {j : Json}
    (hd : d.node? h = some (.object members)) (hj : Entries.value? key members = some j) :
    ∃ r, d.readMember h key = .ok r ∧ Shows h d j r := by
  refine ⟨d.adopt key j, ?_, shows_adopt ?_⟩
  · rw [readMember, members?_eq_some_iff.mpr hd, Option.bind_some, hj]
  · rw [node?_child hd]
    exact hj

theorem readItem_shows {d : Document} {items : List Json} {i : Nat} {j : Json}
    (hd : d.node? h = some (.array items)) (hj : items[i]? = some j) :
    ∃ r, d.readItem h i = .ok r ∧ Shows h d j r := by
  refine ⟨d.adopt i.repr j, ?_, shows_adopt ?_⟩
  · rw [readItem, items?_eq_some_iff.mpr hd]
    simp only [Int.toNat_natCast, hj]
    rw [if_neg (by omega)]
    rfl
  · rw [node?_child hd, child?, index?_repr]
    exact hj

/-- A document gives back what a write stored in it. -/
theorem readsBack_document {d : Document} {h' : Heap} (wf : h.WellFormed)
    (hkey : d.isArray h = true → key ≠ lengthKey) (hwrite : Write P h key s (.document d) h') :
    ∃ r, tryGet P h' (.document d) key = .quiet r ∧ ReadsBack h h' key s (.document d) r := by
  cases hwrite with
  | scripted kind _ _ => exact absurd kind (Value.classify_document_ne_scriptObject h d)
  | @member _ members v j present node image =>
    obtain ⟨path, hd, -⟩ := exists_path_of_node? node
    have hnode := node?_modify_self (f := fun _ => .object (members.put key j)) hd
      (live_of_node? node (by simp))
    rw [node, Option.map_some] at hnode
    obtain ⟨r, hr, hshows⟩ := readMember_shows hnode (Entries.value?_put_self key j members)
    refine ⟨.ok r, ?_, .member (isNode_iff.mpr ⟨members, node⟩) (by simp [present]) image hshows⟩
    rw [tryGet_node (isNode_iff.mpr ⟨_, hnode⟩), hr]
  | @removed _ members absent node =>
    obtain ⟨path, hd, hpath⟩ := exists_path_of_node? node
    have hnode := node?_modify_self (f := fun _ => .object (members.swapErase key)) hd
      (live_of_node? node (by simp))
    rw [node, Option.map_some] at hnode
    have hmembers := (Json.wellFormed_object_iff.mp ((wf.tree d.tree).follow hpath)).1
    refine ⟨.error (.notFound key), ?_, .removed (isNode_iff.mpr ⟨members, node⟩) absent⟩
    rw [tryGet_node (isNode_iff.mpr ⟨_, hnode⟩), readMember, members?_eq_some_iff.mpr hnode,
      Option.bind_some, Entries.value?_swapErase_self hmembers]
  | @item _ items j node lo hi image =>
    obtain ⟨path, hd, -⟩ := exists_path_of_node? node
    have hnode := node?_modify_self (f := fun _ => .array (items.set (indexOf key).toNat j)) hd
      (live_of_node? node (by simp))
    rw [node, Option.map_some] at hnode
    have harray : d.isArray h = true := isArray_iff.mpr ⟨items, node⟩
    obtain ⟨i, hidx⟩ := Int.eq_ofNat_of_zero_le lo
    have hj : (items.set (indexOf key).toNat j)[i]? = some j := by
      rw [hidx, Int.toNat_natCast, List.getElem?_set_self (by omega)]
    obtain ⟨r, hr, hshows⟩ := readItem_shows hnode hj
    refine ⟨.ok r, ?_, .item harray image hshows⟩
    rw [tryGet_items hnode (hkey harray), ← hr, hidx]

/-- **Put-get**: a read right after a write gives what the write stored. -/
theorem trySet_readsBack {P : Protocol} {h : Heap} {o : Value} {key : String} {s : Slot}
    (wf : h.WellFormed) (live : h.Live o) (hkind : o.kind h ≠ some .scriptObject)
    (hkey : ∀ k, o.kind h = some k → k.isIndexed = true → key ≠ lengthKey)
    (hok : (trySet P h o key s).result = .ok ()) :
    ∃ r, tryGet P (trySet P h o key s).heap o key = .quiet r ∧
      ReadsBack h (trySet P h o key s).heap key s o r := by
  have hwrite := trySet_write hok
  generalize (trySet P h o key s).heap = h' at hwrite ⊢
  have hitem : ∀ d, o = .document d → d.isArray h = true → key ≠ lengthKey := by
    rintro d rfl ha
    refine hkey .documentArray ?_ rfl
    rw [Value.kind_document, isNode_eq_false_of_isArray ha, ha]
    rfl
  cases hwrite with
  | entry free => exact ⟨_, readsBack_mapping live free, .mapping _⟩
  | @replaced a free lo hi =>
    have hlen : indexOf key < ((h.list a).content.set (indexOf key).toNat s).length := by
      rwa [List.length_set]
    refine ⟨_, readsBack_list live free (hkey .orderedList rfl rfl) lo hlen ?_, .list a⟩
    rw [List.getElem?_set_self (by omega)]
  | @appended a free behind =>
    refine ⟨_, readsBack_list live free (hkey .orderedList rfl rfl) (by omega) ?_ ?_, .list a⟩
    · rw [List.length_append, List.length_singleton]
      omega
    · rw [behind, Int.toNat_natCast, List.getElem?_concat_length]
  | element free lo hi stored =>
    obtain ⟨hview, hsize⟩ := FixedArray.get_store stored
    exact ⟨_, readsBack_array live free (hkey .fixedArray rfl rfl) lo (hsize ▸ hi), .array hview⟩
  | scripted kind _ _ => exact absurd (by rw [Value.kind, kind]; rfl) hkind
  | member present node image =>
    exact readsBack_document wf (hitem _ rfl) (.member present node image)
  | removed absent node => exact readsBack_document wf (hitem _ rfl) (.removed absent node)
  | item node lo hi image =>
    exact readsBack_document wf (hitem _ rfl) (.item node lo hi image)
  | field kind free stored =>
    obtain ⟨f, c, hf, hc, hf'⟩ := Instance.write_resolves stored
    exact ⟨_, readsBack_record live kind free hf', .field (c := c) hf hc⟩

/-- A heap with one document, an object that has a member. -/
def oneMember : Heap := (({} : Heap).newDocument (.object [("a", .array [])])).1

theorem wellFormed_oneMember : oneMember.WellFormed := by
  refine Heap.WellFormed.empty.newDocument (.object (List.nodup_singleton "a") fun e he => ?_)
  cases List.mem_singleton.mp he
  exact .array fun j hj => nomatch hj

/-- A document that is stored in itself is read back as it was before. -/
theorem trySet_itself_readsBack :
    (trySet .inert oneMember (.document ⟨0, ""⟩) "b" (some (.document ⟨0, ""⟩))).result = .ok () ∧
      ∃ r, tryGet .inert
          (trySet .inert oneMember (.document ⟨0, ""⟩) "b" (some (.document ⟨0, ""⟩))).heap
          (.document ⟨0, ""⟩) "b" = .quiet r ∧
        ReadsBack oneMember
          (trySet .inert oneMember (.document ⟨0, ""⟩) "b" (some (.document ⟨0, ""⟩))).heap
          "b" (some (.document ⟨0, ""⟩)) (.document ⟨0, ""⟩) r :=
  ⟨rfl, trySet_readsBack wellFormed_oneMember Nat.zero_lt_one (by decide)
    (fun _ _ _ => by decide) rfl⟩

end Access

end ScriptHost
