import ScriptHost.Proofs.Access.Elements
import ScriptHost.Proofs.Access.View
import ScriptHost.Proofs.Text.Numeral

/-!
# Decimal keys

A key of a list, an array or an array node means an index, and what is read and written
under it follows from that index alone (`Addresses`). A plain numeral means its number as
long as 32 bits hold it, so that it addresses its own element, the place just behind the end
of a list, or nothing. The numeral of a larger number is taken for what is no number, and
means the first element (`addresses_repr`).
-/

namespace ScriptHost

open Outcome

namespace Access

variable {P : Protocol} {h : Heap} {v : Value} {ss : List Slot} {key : String} {n : Nat} {s : Slot}

/-! ### The index of a numeral -/

/-- **What a plain numeral means**: its number if 32 bits hold it, and otherwise the first
element. -/
theorem indexOf_repr (n : Nat) :
    indexOf n.repr = ((if n < 2147483648 then n else 0 : Nat) : Int) := by
  rw [indexOf, Coercion.parseInt32, Numeral.int32?_repr, Numeral.narrow32?_natCast]
  by_cases hn : n < 2147483648
  · rw [if_pos hn, if_pos hn, Option.getD_some, Int32.toInt_ofInt_of_le (by omega) (by omega)]
  · rw [if_neg hn, if_neg hn, Option.getD_none]
    rfl

theorem repr_ne_lengthKey (n : Nat) : n.repr ≠ lengthKey := by
  intro hn
  have hidx := Pointer.index?_repr n
  have hnone : Pointer.index? lengthKey = none := by decide
  rw [hn, hnone] at hidx
  cases hidx

/-! ### What an index addresses -/

/-- Nobody has the value open. -/
def Free (h : Heap) (v : Value) : Prop := (h.hold? v).all Hold.writable = true

instance : Decidable (Free h v) := inferInstanceAs (Decidable (_ = true))

theorem Free.readable (free : Free h v) : Readable h v := by
  intro hv
  rw [Free, hv] at free
  cases free

/-- What is not free is held by somebody. -/
theorem exists_hold_of_not_free (held : ¬ Free h v) : ∃ k, h.hold? v = some k ∧ k ≠ .free := by
  rw [Free] at held
  cases hk : h.hold? v with
  | none =>
    rw [hk] at held
    exact absurd rfl held
  | some k =>
    refine ⟨k, rfl, ?_⟩
    rintro rfl
    rw [hk] at held
    exact held rfl

/-- Whether the places of a value take what a slot holds: those of a list take everything,
those of an array what fits the element type, and those of a document what has an image. -/
def Accepts (h : Heap) (s : Slot) : Value → Prop
  | .list _ => True
  | .array a => ∃ x, (h.array a).content.elementType.view? s = some x
  | .document _ => ∃ j, h.image s = .ok j
  | _ => False

/-- **What element `n` is** after `s` was written there in the heap `h` and left the heap
`h'`. -/
inductive Stored (h h' : Heap) (n : Nat) (s : Slot) : Value → Slot → Prop where
  | list (a : Address) : Stored h h' n s (.list a) s
  /-- An array holds the slot as its element type takes it. -/
  | array {a : Address} {x : Slot} (view : (h.array a).content.elementType.view? s = some x) :
      Stored h h' n s (.array a) x
  /-- The item of a document is the JSON that the value had before the write. -/
  | item {d : Document} {items : List Json} {j : Json} (image : h.image s = .ok j)
      (before : d.items? h = some items) (after : d.items? h' = some (items.set n j)) :
      Stored h h' n s (.document d) (d.adopt n.repr j)

/-- **What a write does** in a value with the slots `ss` under a key that means index `n`. -/
structure WritesAt (P : Protocol) (h : Heap) (v : Value) (ss : List Slot) (key : String)
    (n : Nat) : Prop where
  /-- The element is replaced, and no other one. -/
  replace : n < ss.length → ∀ s, Accepts h s v → (trySet P h v key s).result = .ok () ∧
    ∃ x, Stored h (trySet P h v key s).heap n s v x ∧
      v.slots? (trySet P h v key s).heap = some (ss.set n x)
  /-- A list grows by one element. -/
  append : v.kind h = some .orderedList → n = ss.length → ∀ s,
    (trySet P h v key s).result = .ok () ∧ v.slots? (trySet P h v key s).heap = some (ss ++ [s])
  /-- Every other write fails and leaves the heap as it was. -/
  refuse : ∀ s, ¬ (n < ss.length ∧ Accepts h s v) →
    ¬ (v.kind h = some .orderedList ∧ n = ss.length) →
    (∃ e, (trySet P h v key s).result = .error e) ∧ (trySet P h v key s).heap = h

/-- **The law of an index**: what is written in a value with the slots `ss` under a key that
means index `n`, and what is read there. -/
structure Addresses (P : Protocol) (h : Heap) (v : Value) (ss : List Slot) (key : String)
    (n : Nat) : Prop extends WritesAt P h v ss key n where
  /-- The element is read. -/
  read : ∀ hn : n < ss.length, tryGet P h v key = .quiet (.ok ss[n])
  /-- Nothing is there behind the end. -/
  beyond : ss.length ≤ n → tryGet P h v key = .quiet (.error (.outOfRange n ss.length))

theorem forWriting_of_writable {α : Type} {c : Cell α} (hc : c.hold.writable = true) :
    c.forWriting = .ok c.content := forWriting_eq_ok_iff.mpr ⟨hc, rfl⟩

/-- A list takes everything below its end and at it. -/
theorem writesAt_list {a : Address} (live : h.Live (.list a)) (free : Free h (.list a))
    (hn : indexOf key = n) : WritesAt P h (.list a) (h.list a).content key n := by
  have hset : ∀ s, trySet P h (.list a) key s =
      commit h (storeItem (h.list a).content n s >>= fun items => .ok (h.setList a items)) := by
    intro s
    rw [trySet_list, forWriting_of_writable free, ok_bind, hn]
  have hslots : ∀ items, Value.slots? (h.setList a items) (.list a) = some items := by
    intro items
    rw [Value.slots?, Heap.list_setList_self live]
  refine ⟨fun hlt s _ => ?_, fun _ heq s => ?_, fun s hin hend => ?_⟩
  · rw [hset, storeItem, if_pos ⟨by omega, by omega⟩, Int.toNat_natCast]
    exact ⟨rfl, s, .list a, hslots _⟩
  · rw [hset, storeItem, if_neg (by omega), if_pos (by rw [heq])]
    exact ⟨rfl, hslots _⟩
  · have hlt : ¬ n < (h.list a).content.length := fun hlt => hin ⟨hlt, trivial⟩
    have hne : n ≠ (h.list a).content.length := fun heq => hend ⟨rfl, heq⟩
    rw [hset, storeItem, if_neg (by omega), if_neg (by omega)]
    exact ⟨⟨_, rfl⟩, rfl⟩

/-- An array takes what fits below its end. -/
theorem writesAt_array {a : Address} (live : h.Live (.array a)) (free : Free h (.array a))
    (hn : indexOf key = n) : WritesAt P h (.array a) (h.array a).content.slots key n := by
  have hsize := FixedArray.length_slots (h.array a).content
  have hset : ∀ s, trySet P h (.array a) key s =
      commit h (position n (h.array a).content.size >>= fun i =>
        (h.array a).content.store i s >>= fun items => .ok (h.setArray a items)) := by
    intro s
    rw [trySet_array, forWriting_of_writable free, ok_bind, hn]
  refine ⟨fun hlt s hs => ?_, fun hk _ _ => ?_, fun s hin _ => ?_⟩
  · obtain ⟨x, hx⟩ := hs
    rw [hsize] at hlt
    obtain ⟨b, hb, hslots⟩ := FixedArray.store_of_view hlt hx
    rw [hset, position_of_lt (by omega) (by omega), Int.toNat_natCast, ok_bind, hb, ok_bind]
    refine ⟨rfl, x, .array hx, ?_⟩
    rw [commit, Value.slots?, Heap.array_setArray_self live, ← hslots]
  · cases hk
  · rw [hset]
    by_cases hlt : n < (h.array a).content.size
    · have hview : (h.array a).content.elementType.view? s = none := by
        cases hx : (h.array a).content.elementType.view? s with
        | none => rfl
        | some x => exact absurd ⟨hsize ▸ hlt, x, hx⟩ hin
      obtain ⟨e, he⟩ := FixedArray.store_of_view_none (i := n) hview
      rw [position_of_lt (by omega) (by omega), Int.toNat_natCast, ok_bind, he]
      exact ⟨⟨_, rfl⟩, rfl⟩
    · rw [position_out (by omega)]
      exact ⟨⟨_, rfl⟩, rfl⟩

/-- An array node takes what has an image below its end. -/
theorem writesAt_items {d : Document} {items : List Json} (hd : d.node? h = some (.array items))
    (hn : indexOf key = n) :
    WritesAt P h (.document d) (items.mapIdx fun i j => d.adopt i.repr j) key n := by
  have hitems := Document.items?_eq_some_iff.mpr hd
  have harray := Document.isArray_of_node? hd
  have hset : ∀ s, trySet P h (.document d) key s =
      commit h (h.image s >>= fun j => d.writeItem h n j) := by
    intro s
    rw [trySet_items (Document.isNode_eq_false_of_isArray harray) harray, hn]
  refine ⟨fun hlt s hs => ?_, fun hk _ _ => ?_, fun s hin _ => ?_⟩
  · obtain ⟨j, hj⟩ := hs
    rw [List.length_mapIdx] at hlt
    obtain ⟨path, hpath, -⟩ := Document.exists_path_of_node? hd
    have hnode := Document.node?_modify_self (f := fun _ => .array (items.set n j)) hpath
      (Document.live_of_node? hd (by simp))
    rw [hd, Option.map_some] at hnode
    rw [hset, hj, ok_bind, Document.writeItem, hitems]
    dsimp only
    rw [if_neg (by omega), Int.toNat_natCast]
    refine ⟨rfl, _, .item hj hitems (Document.items?_eq_some_iff.mpr hnode), ?_⟩
    refine Document.slots?_eq_some_iff.mpr ⟨_, hnode, ?_⟩
    exact List.mapIdx_set
  · rw [Value.kind, classify_items hd] at hk
    cases hk
  · rw [hset]
    cases hj : h.image s with
    | error e => exact ⟨⟨e, rfl⟩, rfl⟩
    | ok j =>
      have hlt : ¬ n < items.length := by
        rw [List.length_mapIdx] at hin
        exact fun hlt => hin ⟨hlt, j, hj⟩
      rw [ok_bind, Document.writeItem, hitems]
      dsimp only
      rw [if_pos (by omega)]
      exact ⟨⟨_, rfl⟩, rfl⟩

theorem writesAt_of_indexOf (hv : v.slots? h = some ss) (live : h.Live v) (free : Free h v)
    (hn : indexOf key = n) : WritesAt P h v ss key n := by
  cases v with
  | list a =>
    cases hv
    exact writesAt_list live free hn
  | array a =>
    cases hv
    exact writesAt_array live free hn
  | document d =>
    obtain ⟨items, hd, rfl⟩ := Document.slots?_eq_some_iff.mp hv
    exact writesAt_items hd hn
  | _ => cases hv

/-- A key that is read as a number addresses the slot with that number. -/
theorem addresses_of_indexOf (hv : v.slots? h = some ss) (live : h.Live v) (free : Free h v)
    (hkey : key ≠ lengthKey) (hn : indexOf key = n) : Addresses P h v ss key n := by
  have hread := tryGet_slots (P := P) hv free.readable hkey
  rw [hn] at hread
  refine ⟨writesAt_of_indexOf hv live free hn, fun hlt => ?_, fun hle => ?_⟩
  · rw [hread, slotAt_of_lt hlt]
  · rw [hread, slotAt_out (by omega)]

/-- **A plain numeral addresses its own index** if 32 bits hold it, and the first element
otherwise. -/
theorem addresses_repr (hv : v.slots? h = some ss) (live : h.Live v) (free : Free h v) (n : Nat) :
    Addresses P h v ss n.repr (if n < 2147483648 then n else 0) :=
  addresses_of_indexOf hv live free (repr_ne_lengthKey n) (indexOf_repr n)

/-- A heap with one list, of one element. -/
def oneElement : Heap := (({} : Heap).newList [some (.int32 7)]).1

/-- The first numeral that 32 bits do not hold addresses the first element. -/
theorem addresses_repr_past_int32 :
    Value.slots? oneElement (.list 0) = some [some (.int32 7)] ∧ oneElement.Live (.list 0) ∧
      Free oneElement (.list 0) ∧
      Addresses .inert oneElement (.list 0) [some (.int32 7)] (Nat.repr 2147483648)
        (if 2147483648 < 2147483648 then 2147483648 else 0) := by
  have live : oneElement.Live (.list 0) := Nat.zero_lt_one
  have free : Free oneElement (.list 0) := by decide
  exact ⟨rfl, live, free, addresses_repr rfl live free 2147483648⟩

/-- **Not every numeral addresses its own index**: behind the end of a list there is an
element to read, and a write replaces it. -/
theorem numeral_past_int32_addresses_first :
    tryGet .inert oneElement (.list 0) "2147483648" = .quiet (.ok (some (.int32 7))) ∧
      (trySet .inert oneElement (.list 0) "2147483648" (some (.int32 9))).result = .ok () ∧
      Value.slots? (trySet .inert oneElement (.list 0) "2147483648" (some (.int32 9))).heap
        (.list 0) = some [some (.int32 9)] :=
  ⟨rfl, rfl, rfl⟩

end Access

end ScriptHost
