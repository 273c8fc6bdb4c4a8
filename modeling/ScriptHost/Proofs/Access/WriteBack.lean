import ScriptHost.Proofs.Access.Change
import ScriptHost.Proofs.Access.DecimalKey
import ScriptHost.Proofs.Access.Elements
import ScriptHost.Proofs.Document.Child
import ScriptHost.Proofs.Heap.WordSized
import ScriptHost.Proofs.Number.Widening

/-!
# Writing back what was read

Reading a place and writing there what was read gives back the heap. Reading and writing go
different ways, over views and places of an element type in arrays, and over values and images in
documents; so that one undoes the other is shown for each sort of place.

In a document two children do not come back as they were (`Document.Altered`). A null member is
read as nothing, and to write nothing removes a member; an integer that only an unsigned word holds
is read as a float, and stays one.

## What is proved

* The element that an array gives is one that its place takes, and takes as it is
  (`FixedArray.store_get`).
* The image of what is read of a child is the child, other than for these two
  (`Document.image_adopt`).
* Writing back succeeds; it changes the heap for these two children, and for no other place
  (`write_back`).
-/

namespace ScriptHost

open Outcome Pointer

/-! ### Places of containers -/

namespace Entries

variable {α : Type} {key : String} {es : Entries α}

theorem put_eq_self {a : α} (ha : value? key es = some a) : put key a es = es := by
  induction es with
  | nil => cases ha
  | cons e es ih =>
    obtain ⟨k, b⟩ := e
    rw [value?] at ha
    rw [put]
    by_cases hk : k = key
    · rw [if_pos hk] at ha
      rw [if_pos hk, Option.some.inj ha]
    · rw [if_neg hk] at ha
      rw [if_neg hk, ih ha]

/-- There is one entry less when one was removed. -/
theorem length_swapErase (hkey : key ∈ names es) :
    (swapErase key es).length + 1 = es.length := by
  rcases List.eq_nil_or_concat es with rfl | ⟨fs, last, rfl⟩
  · cases hkey
  · rw [List.concat_eq_append] at hkey ⊢
    rw [swapErase, List.getLast?_concat]
    simp only [if_pos hkey]
    split <;> simp

end Entries

theorem set_join {ss : List Slot} {i : Nat} (hi : i < ss.length) : ss.set i ss[i]?.join = ss := by
  rw [List.getElem?_eq_getElem hi, Option.join_some, List.set_getElem_self]

namespace FixedArray

variable {a : FixedArray} {i : Nat}

/-- A place sees in its element what is read of it. -/
theorem view?_get (hi : i < a.size) : a.elementType.view? (a.get i) = some (a.get i) := by
  cases a with
  | string items =>
    have hget : items[i]? = some items[i] := List.getElem?_eq_getElem hi
    simp only [get, hget, Option.join_some]
    cases items[i] <;> rfl
  | any items => rfl
  | _ items =>
    have hget : items[i]? = some items[i] := List.getElem?_eq_getElem hi
    simp only [get, hget]
    rfl

/-- **Storing an element in its own place** gives the same array. -/
theorem store_get (hi : i < a.size) : a.store i (a.get i) = .ok a := by
  refine store_eq_ok_iff.mpr ⟨hi, rfl, a.get i, view?_get hi, ?_⟩
  rw [get_eq_slots, set_join (by rwa [length_slots])]

end FixedArray

namespace Heap

variable {h : Heap} {a : Address}

theorem setMapping_content (h : Heap) (a : Address) : h.setMapping a (h.mapping a).content = h :=
  h.setCell_cell (.mapping a)

theorem setList_content (h : Heap) (a : Address) : h.setList a (h.list a).content = h :=
  h.setCell_cell (.list a)

theorem setArray_content (h : Heap) (a : Address) : h.setArray a (h.array a).content = h :=
  h.setCell_cell (.array a)

end Heap

/-! ### Children of documents -/

namespace Document

open Access

variable {P : Protocol} {h : Heap} {d : Document} {key token : String} {s x : Slot} {i j : Json}

/-- **The children that do not come back** when what was read of them is written: a null member,
and an integer beyond signed words. -/
inductive Altered (h : Heap) (d : Document) : Json → Prop where
  | null (node : d.isNode h = true) : Altered h d .null
  | beyond {n : Int} (large : 2 ^ 63 ≤ n) : Altered h d (.number (.integer n))

/-- **What is read of a child**, when reading gives something. -/
theorem exists_child_of_read (hkey : d.isArray h = true → key ≠ lengthKey)
    (hx : (tryGet P h (.document d) key).result = .ok x) :
    ∃ base j, tokens? d.pointer = some base ∧ (d.child (d.token h key)).node? h = some j ∧
      x = d.adopt (d.token h key) j := by
  cases hn : d.isNode h with
  | true =>
    obtain ⟨members, hd⟩ := isNode_iff.mp hn
    obtain ⟨base, hbase, -⟩ := exists_path_of_node? hd
    have hread : d.readMember h key = .ok x := by
      rw [tryGet_node hn] at hx
      exact hx
    rw [readMember, members?_eq_some_iff.mpr hd, Option.bind_some] at hread
    rw [token_object hd, node?_child hd]
    cases hj : Entries.value? key members with
    | none =>
      rw [hj] at hread
      cases hread
    | some j =>
      rw [hj] at hread
      cases hread
      exact ⟨base, j, hbase, hj, rfl⟩
  | false =>
    cases ha : d.isArray h with
    | false =>
      rw [tryGet, Value.classify_document, hn, ha] at hx
      cases hx
    | true =>
      obtain ⟨items, hd⟩ := isArray_iff.mp ha
      obtain ⟨base, hbase, -⟩ := exists_path_of_node? hd
      have hread : d.readItem h (indexOf key) = .ok x := by
        rw [tryGet_items hd (hkey ha)] at hx
        exact hx
      rw [readItem, items?_eq_some_iff.mpr hd] at hread
      rw [token_array hd, node?_child hd]
      dsimp only at hread
      split at hread
      · cases hread
      · next hlo =>
        obtain ⟨k, hk⟩ := Int.eq_ofNat_of_zero_le (Int.not_lt.mp hlo)
        rw [hk, Int.toNat_natCast] at hread
        cases hj : items[k]? with
        | none =>
          rw [hj] at hread
          cases hread
        | some j =>
          rw [hj] at hread
          cases hread
          have hrepr : (k : Int).repr = k.repr := rfl
          refine ⟨base, j, hbase, ?_, by rw [hk]⟩
          rw [hk, hrepr, child?, index?_repr]
          exact hj

/-- An integer that a signed word holds is read as one. -/
theorem image_toValue {n : Int} (lo : -2 ^ 63 ≤ n) (hi : n < 2 ^ 63) :
    h.image (some (JsonNumber.toValue (.integer n))) = .ok (.number (.integer n)) := by
  have hmin : Int64.minValue.toInt = -9223372036854775808 := rfl
  have hmax : Int64.maxValue.toInt = 9223372036854775807 := rfl
  have hmin32 : Int32.minValue.toInt = -2147483648 := rfl
  have hmax32 : Int32.maxValue.toInt = 2147483647 := rfl
  rw [JsonNumber.toValue]
  by_cases hn : Int32.minValue.toInt ≤ n ∧ n ≤ Int32.maxValue.toInt
  · have heq : (Int32.ofInt n).toInt = n := Int32.toInt_ofInt_of_le (by omega) (by omega)
    rw [if_pos hn]
    simp only [Heap.image, Heap.imageWithin, heq]
  · have heq : (Int64.ofInt n).toInt = n := Int64.toInt_ofInt_of_le (by omega) (by omega)
    rw [if_neg hn, if_pos (by omega)]
    simp only [Heap.image, Heap.imageWithin, heq]

/-- An integer beyond signed words is read as the nearest float. -/
theorem toValue_of_large {n : Int} (large : 2 ^ 63 ≤ n) :
    JsonNumber.toValue (.integer n) = .float64 (.ofInt _ n) := by
  have hmax : Int64.maxValue.toInt = 9223372036854775807 := rfl
  have hmax32 : Int32.maxValue.toInt = 2147483647 := rfl
  rw [JsonNumber.toValue, if_neg (by omega), if_neg (by omega)]

/-- **The image of what is read of a child** is the child, but for integers beyond signed words. -/
theorem image_adopt (hj : (d.child token).node? h = some j) (words : j.WordSized)
    (hsmall : ∀ n, j = .number (.integer n) → n < 2 ^ 63) :
    h.image (d.adopt token j) = .ok j := by
  have hhandle : h.image (some (.document (d.child token))) = .ok j := by
    rw [image_document, hj, Option.getD_some]
  cases j with
  | null => simp only [adopt, Heap.image, Heap.imageWithin]
  | bool b => simp only [adopt, Heap.image, Heap.imageWithin]
  | string s => simp only [adopt, Heap.image, Heap.imageWithin]
  | array items => exact hhandle
  | object members => exact hhandle
  | number n =>
    cases n with
    | float y finite =>
      simp only [adopt, JsonNumber.toValue, Heap.image, Heap.imageWithin]
      exact Heap.floatImage_eq_ok_iff.mpr ⟨finite, rfl⟩
    | integer n =>
      have hword : -2 ^ 63 ≤ n ∧ n < 2 ^ 64 := Json.wordSized_number_iff.mp words
      exact image_toValue hword.1 (hsmall n rfl)

/-- Only null is read as nothing. -/
theorem eq_null_of_adopt (hnone : d.adopt token j = none) : j = .null := by
  cases j with
  | null => rfl
  | _ => cases hnone

/-- A child whose image is to be stored is replaced by it. -/
theorem write_child {base : List String} (hd : tokens? d.pointer = some base)
    (hj : (d.child (d.token h key)).node? h = some j) (hs : d.isNode h = true → s ≠ none)
    (himage : h.image s = .ok i) :
    Write P h key s (.document d) ((d.child (d.token h key)).modify h fun _ => i) := by
  have hchild : tokens? (d.child (d.token h key)).pointer = some (base ++ [d.token h key]) :=
    tokens?_extend hd
  have hr : ReplacesChild h d key s (base ++ [d.token h key]) := by
    refine ⟨⟨base, hd, rfl⟩, ?_, hs⟩
    rw [node?_eq hchild] at hj
    exact fun hnone => Option.some_ne_none j (hj.symm.trans hnone)
  rw [modify_eq hchild]
  exact hr.write_iff.mpr ⟨i, himage, rfl⟩

/-- A child that is replaced by another is not the same any more. -/
theorem modify_ne {c c' : Json} (hc : d.node? h = some c) (hnull : c ≠ .null) (hne : c' ≠ c) :
    (d.modify h fun _ => c') ≠ h := by
  obtain ⟨path, hd, -⟩ := exists_path_of_node? hc
  have hnode := node?_modify_self (f := fun _ => c') hd (live_of_node? hc hnull)
  rw [hc, Option.map_some] at hnode
  intro heq
  rw [heq, hc] at hnode
  exact hne (Option.some.inj hnode).symm

end Document

/-! ### Every kind -/

namespace Access

open Document

variable {P : Protocol} {h : Heap} {o : Value} {d : Document} {key : String} {x : Slot}

/-- Writing back to a mapping, a list or an array is a write that leaves the heap as it is. -/
theorem write_back_container (free : Free h o) (hkind : o.kind h ≠ some .scriptObject)
    (hkind' : o.kind h ≠ some .typedRecord)
    (hkey : ∀ k, o.kind h = some k → k.isIndexed = true → key ≠ lengthKey)
    (hdoc : ∀ d, o ≠ .document d) (hx : (tryGet P h o key).result = .ok x) :
    Write P h key x o h := by
  cases o with
  | mapping a =>
    have hfree : (h.mapping a).hold.writable = true := free
    obtain ⟨entries, hopen, hx⟩ := bind_eq_ok_iff.mp hx
    obtain ⟨-, rfl⟩ := forReading_eq_ok_iff.mp hopen
    cases hvalue : Entries.value? key (h.mapping a).content with
    | none =>
      rw [hvalue] at hx
      cases hx
    | some s =>
      rw [hvalue] at hx
      cases hx
      have hw : Write P h key x (.mapping a) _ := .entry hfree
      rwa [Entries.put_eq_self hvalue, Heap.setMapping_content] at hw
  | list a =>
    have hfree : (h.list a).hold.writable = true := free
    obtain ⟨items, hopen, hx⟩ := bind_eq_ok_iff.mp hx
    obtain ⟨-, rfl⟩ := forReading_eq_ok_iff.mp hopen
    rw [if_neg (hkey .orderedList rfl rfl)] at hx
    obtain ⟨i, hpos, hx⟩ := bind_eq_ok_iff.mp hx
    obtain ⟨lo, hi, rfl⟩ := position_eq_ok_iff.mp hpos
    cases hx
    have hw : Write P h key (h.list a).content[(indexOf key).toNat]?.join (.list a) _ :=
      .replaced hfree lo hi
    rwa [set_join (by omega), Heap.setList_content] at hw
  | array a =>
    have hfree : (h.array a).hold.writable = true := free
    obtain ⟨items, hopen, hx⟩ := bind_eq_ok_iff.mp hx
    obtain ⟨-, rfl⟩ := forReading_eq_ok_iff.mp hopen
    rw [if_neg (hkey .fixedArray rfl rfl)] at hx
    obtain ⟨i, hpos, hx⟩ := bind_eq_ok_iff.mp hx
    obtain ⟨lo, hi, rfl⟩ := position_eq_ok_iff.mp hpos
    cases hx
    have hw : Write P h key ((h.array a).content.get (indexOf key).toNat) (.array a) _ :=
      .element hfree lo hi (FixedArray.store_get (by omega))
    rwa [Heap.setArray_content] at hw
  | object a => exact absurd rfl hkind
  | record a =>
    rw [Value.kind, Value.classify_record] at hkind hkind'
    split at hkind
    · exact absurd rfl hkind
    · next hscript =>
      rw [if_neg hscript] at hkind'
      exact absurd rfl hkind'
  | document d => exact absurd rfl (hdoc d)
  | _ => cases hx

/-- Writing back a child of a document that is not altered leaves the heap as it is. -/
theorem write_back_child {base : List String} {j : Json} (words : h.WordSized)
    (hd : tokens? d.pointer = some base) (hj : (d.child (d.token h key)).node? h = some j)
    (hsame : ¬ d.Altered h j) : Write P h key (d.adopt (d.token h key) j) (.document d) h := by
  have hsmall : ∀ n, j = .number (.integer n) → n < 2 ^ 63 := by
    rintro n rfl
    by_contra hlarge
    exact hsame (.beyond (Int.not_lt.mp hlarge))
  have hpresent : d.isNode h = true → d.adopt (d.token h key) j ≠ none := by
    intro hn hnone
    obtain rfl := eq_null_of_adopt hnone
    exact hsame (.null hn)
  have hw := write_child (P := P) hd hj hpresent (image_adopt hj (words.node hj) hsmall)
  rwa [modify_eq_self hj] at hw

/-- Writing back a null member removes it. -/
theorem write_back_null {members : Entries Json} (hd : d.node? h = some (.object members))
    (hnull : Entries.value? key members = some .null) :
    Write P h key none (.document d) (d.modify h fun _ => .object (members.swapErase key)) ∧
      (d.modify h fun _ => .object (members.swapErase key)) ≠ h := by
  refine ⟨.removed rfl hd, modify_ne hd (by simp) fun heq => ?_⟩
  have hlength := Entries.length_swapErase (Entries.mem_names_of_mem (Entries.mem_of_value? hnull))
  rw [Json.object.inj heq] at hlength
  omega

/-- Writing back an integer beyond signed words puts the nearest float in its place. -/
theorem write_back_beyond {base : List String} {n : Int} (words : h.WordSized)
    (hd : tokens? d.pointer = some base)
    (hj : (d.child (d.token h key)).node? h = some (.number (.integer n))) (large : 2 ^ 63 ≤ n) :
    ∃ finite, Write P h key (some (.float64 (.ofInt _ n))) (.document d)
        ((d.child (d.token h key)).modify h fun _ => .number (.float (.ofInt _ n) finite)) ∧
      ((d.child (d.token h key)).modify h fun _ => .number (.float (.ofInt _ n) finite)) ≠ h := by
  have hword : -2 ^ 63 ≤ n ∧ n < 2 ^ 64 := Json.wordSized_number_iff.mp (words.node hj)
  have finite := Binary.isFinite_ofInt large hword.2
  have himage : h.image (some (.float64 (.ofInt _ n))) =
      .ok (.number (.float (.ofInt _ n) finite)) := by
    simp only [Heap.image, Heap.imageWithin]
    exact Heap.floatImage_eq_ok_iff.mpr ⟨finite, rfl⟩
  refine ⟨finite, write_child hd hj (fun _ => by simp) himage, ?_⟩
  exact modify_ne hj (by simp) (by simp)

/-- Whatever the child is, what is read of it can be written back. -/
theorem exists_write_back {base : List String} {j : Json} (words : h.WordSized)
    (hd : tokens? d.pointer = some base) (hj : (d.child (d.token h key)).node? h = some j) :
    ∃ h', Write P h key (d.adopt (d.token h key) j) (.document d) h' := by
  by_cases haltered : d.Altered h j
  · cases haltered with
    | null hn =>
      obtain ⟨members, hnode⟩ := isNode_iff.mp hn
      rw [node?_child hnode, token_object hnode] at hj
      exact ⟨_, (write_back_null hnode hj).1⟩
    | beyond large =>
      obtain ⟨finite, hw, -⟩ := write_back_beyond (P := P) words hd hj large
      rw [adopt, toValue_of_large large]
      exact ⟨_, hw⟩
  · exact ⟨h, write_back_child words hd hj haltered⟩

/-- **Writing back what was read changes nothing**, with two exceptions. The integers of documents
fit a word, as those of all texts do; nobody has the value open; it is no record and no script
object; and the key is not the one that reads a length. What reading gives is then written back
successfully, and

* the heap is what it was, unless a child of a document is altered;
* a null member is read as nothing, and is removed;
* an integer beyond signed words is read as the nearest float, and is replaced by that.

In both of the last cases the heap is another than before. -/
theorem write_back (words : h.WordSized) (free : Free h o) (hkind : o.kind h ≠ some .scriptObject)
    (hkind' : o.kind h ≠ some .typedRecord)
    (hkey : ∀ k, o.kind h = some k → k.isIndexed = true → key ≠ lengthKey)
    (hx : (tryGet P h o key).result = .ok x) :
    (trySet P h o key x).result = .ok () ∧
    ((∀ d j, o = .document d → (d.child (d.token h key)).node? h = some j → ¬ d.Altered h j) →
      (trySet P h o key x).heap = h) ∧
    (∀ d (members : Entries Json), o = .document d → d.node? h = some (.object members) →
      Entries.value? key members = some .null →
        x = none ∧
        (trySet P h o key x).heap = (d.modify h fun _ => .object (members.swapErase key)) ∧
        (trySet P h o key x).heap ≠ h) ∧
    ∀ d n, o = .document d →
      (d.child (d.token h key)).node? h = some (.number (.integer n)) → 2 ^ 63 ≤ n →
        x = some (.float64 (.ofInt _ n)) ∧
        (∃ finite, (trySet P h o key x).heap =
          (d.child (d.token h key)).modify h fun _ => .number (.float (.ofInt _ n) finite)) ∧
        (trySet P h o key x).heap ≠ h := by
  by_cases hdoc : ∀ d, o ≠ .document d
  · obtain ⟨hok, hheap⟩ :=
      (write_back_container (P := P) free hkind hkind' hkey hdoc hx).trySet_eq
    exact ⟨hok, fun _ => hheap, fun d _ hd => absurd hd (hdoc d), fun d _ hd => absurd hd (hdoc d)⟩
  · obtain ⟨d, rfl⟩ : ∃ d, o = .document d := by simpa using hdoc
    have hitems : d.isArray h = true → key ≠ lengthKey := by
      intro ha
      refine hkey .documentArray ?_ rfl
      rw [Value.kind_document, isNode_eq_false_of_isArray ha, ha]
      rfl
    obtain ⟨base, j, hd, hj, rfl⟩ := exists_child_of_read hitems hx
    -- the child that was read decides which of the three cases it is
    refine ⟨?_, fun hnot => ?_, ?_, ?_⟩
    · obtain ⟨h', hw⟩ := exists_write_back (P := P) words hd hj
      exact hw.trySet_eq.1
    · exact (write_back_child words hd hj (hnot d j rfl hj)).trySet_eq.2
    · rintro e members heq hnode hvalue
      cases heq
      rw [node?_child hnode, token_object hnode] at hj
      obtain rfl := Option.some.inj (hj.symm.trans hvalue)
      obtain ⟨hw, hne⟩ := write_back_null (P := P) hnode hvalue
      obtain ⟨-, hheap⟩ := hw.trySet_eq
      exact ⟨rfl, hheap, fun h => hne (hheap.symm.trans h)⟩
    · rintro e n heq hchild large
      cases heq
      obtain rfl := Option.some.inj (hj.symm.trans hchild)
      obtain ⟨finite, hw, hne⟩ := write_back_beyond (P := P) words hd hj large
      obtain ⟨-, hheap⟩ := hw.trySet_eq
      rw [adopt, toValue_of_large large]
      exact ⟨rfl, ⟨finite, hheap⟩, fun h => hne (hheap.symm.trans h)⟩

/-- A heap with a document that has an object inside its object. -/
def nestedObject : Heap :=
  (({} : Heap).newDocument (.object [("a", .object [("x", .null)])])).1

/-- The inner object is read as a handle, and its own copy is stored for it. -/
theorem write_back_nestedObject :
    let o : Value := .document ⟨0, ""⟩
    let x : Slot := some (.document ⟨0, "/a"⟩)
    nestedObject.WordSized ∧ Free nestedObject o ∧ o.kind nestedObject ≠ some .scriptObject ∧
      o.kind nestedObject ≠ some .typedRecord ∧
      (∀ k, o.kind nestedObject = some k → k.isIndexed = true → "a" ≠ lengthKey) ∧
      (tryGet .inert nestedObject o "a").result = .ok x ∧
      (trySet .inert nestedObject o "a" x).result = .ok () ∧
      (trySet .inert nestedObject o "a" x).heap = nestedObject := by
  intro o x
  have words : nestedObject.WordSized := by
    refine .newDocument .empty (.object fun e he => ?_)
    obtain rfl := List.mem_singleton.mp he
    refine .object fun e he => ?_
    obtain rfl := List.mem_singleton.mp he
    exact .null
  have free : Free nestedObject o := rfl
  have hkind : o.kind nestedObject ≠ some .scriptObject := by decide
  have hkind' : o.kind nestedObject ≠ some .typedRecord := by decide
  have hkey : ∀ k, o.kind nestedObject = some k → k.isIndexed = true → "a" ≠ lengthKey :=
    fun _ _ _ => by decide
  have hx : (tryGet .inert nestedObject o "a").result = .ok x := rfl
  obtain ⟨hok, hsame, -⟩ := write_back (P := .inert) words free hkind hkind' hkey hx
  refine ⟨words, free, hkind, hkind', hkey, hx, hok, hsame ?_⟩
  rintro d j heq hj haltered
  obtain rfl : ⟨0, ""⟩ = d := Value.document.inj heq
  have hchild : (Document.child ⟨0, ""⟩ (Document.token nestedObject ⟨0, ""⟩ "a")).node?
      nestedObject = some (.object [("x", .null)]) := rfl
  obtain rfl := Option.some.inj (hchild.symm.trans hj)
  cases haltered

end Access

end ScriptHost
