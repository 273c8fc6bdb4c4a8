import ScriptHost.Proofs.Access.Busy
import ScriptHost.Proofs.Access.DecimalKey
import ScriptHost.Proofs.Access.Shape

/-!
# The key `length`

A list, an array and an array node show the number of their elements under the key `length`. Only
reading knows this key. To a writer it is a key that is no number, and such a key means the first
element; so a write under `length` does all that a write under `0` does, and what is read under
`length` afterwards is not what was stored there (`lengthKey_writes_first`).
-/

namespace ScriptHost.Access

variable {P : Protocol} {h : Heap} {v : Value} {ss : List Slot} {key : String} {s : Slot}

/-- The key is no number. -/
theorem indexOf_lengthKey : indexOf lengthKey = (0 : Nat) := by decide

/-- **What is seen of a value** with these slots: their number, and each of them under every key
that means its index. -/
structure Shown (P : Protocol) (h : Heap) (v : Value) (ss : List Slot) : Prop where
  slots : v.slots? h = some ss
  count : tryGet P h v lengthKey = .quiet (.ok (some (lengthValue ss.length)))
  elements : ∀ key, key ≠ lengthKey → tryGet P h v key = .quiet (slotAt ss (indexOf key))

theorem shown_of_slots (hv : v.slots? h = some ss) (hopen : Readable h v) : Shown P h v ss :=
  ⟨hv, tryGet_lengthKey hv hopen, fun _ hkey => tryGet_slots hv hopen hkey⟩

/-- What has its places under indices is no script object. -/
theorem classify_ne_scriptObject_of_slots (hv : v.slots? h = some ss) (o : ObjectRef) :
    v.classify h ≠ some (.scriptObject o) := by
  cases v with
  | list a => simp
  | array a => simp
  | document d => exact Value.classify_document_ne_scriptObject h d
  | _ => cases hv

/-- A write does not open or close what has its places under indices. -/
theorem hold?_trySet_slots (hv : v.slots? h = some ss) (key : String) (s : Slot) :
    (trySet P h v key s).heap.hold? v = h.hold? v := by
  cases hr : (trySet P h v key s).result with
  | ok _ => exact (trySet_write hr).hold?_eq (classify_ne_scriptObject_of_slots hv) v
  | error e => rw [(trySet_error hr).1]

/-- **The slots after a write** under a key that means the first element: the first one may be
another, and an empty list may have got one. -/
theorem slots?_trySet_first (hv : v.slots? h = some ss) (live : h.Live v) (free : Free h v)
    (hkey : indexOf key = (0 : Nat)) (s : Slot) :
    ∃ ss', v.slots? (trySet P h v key s).heap = some ss' ∧
      (∀ i, 0 < i → ss'[i]? = ss[i]?) ∧
      (ss'.length = ss.length ∨ v.kind h = some .orderedList ∧ ss = [] ∧ ss' = [s]) := by
  have hwrites : WritesAt P h v ss key 0 := writesAt_of_indexOf hv live free hkey
  -- the three cases of the law of an index
  by_cases hin : 0 < ss.length ∧ Accepts h s v
  · obtain ⟨-, x, -, hslots⟩ := hwrites.replace hin.1 s hin.2
    refine ⟨ss.set 0 x, hslots, fun i hi => ?_, .inl List.length_set⟩
    rw [List.getElem?_set_ne (Nat.ne_of_lt hi)]
  · by_cases hend : v.kind h = some .orderedList ∧ 0 = ss.length
    · have hnil : ss = [] := List.eq_nil_of_length_eq_zero hend.2.symm
      obtain ⟨-, hslots⟩ := hwrites.append hend.1 hend.2 s
      rw [hnil, List.nil_append] at hslots
      refine ⟨[s], hslots, fun i hi => ?_, .inr ⟨hend.1, hnil, rfl⟩⟩
      rw [hnil, List.getElem?_nil, List.getElem?_eq_none hi]
    · obtain ⟨-, hsame⟩ := hwrites.refuse s hin hend
      rw [hsame]
      exact ⟨ss, hv, fun _ _ => rfl, .inl rfl⟩

/-- A writer sees of a key what index it means. -/
theorem trySet_eq_of_indexOf (hv : v.slots? h = some ss) {other : String}
    (hkey : indexOf key = indexOf other) (s : Slot) :
    trySet P h v key s = trySet P h v other s := by
  cases v with
  | list a => rw [trySet_list, trySet_list, hkey]
  | array a => rw [trySet_array, trySet_array, hkey]
  | document d =>
    obtain ⟨items, hd, -⟩ := Document.slots?_eq_some_iff.mp hv
    have harray := Document.isArray_of_node? hd
    have hnode := Document.isNode_eq_false_of_isArray harray
    rw [trySet_items hnode harray, trySet_items hnode harray, hkey]
  | _ => cases hv

/-- What somebody has open is not written to. -/
theorem trySet_of_not_free (held : ¬ Free h v) (key : String) (s : Slot) :
    (trySet P h v key s).result = .error .busy ∧ (trySet P h v key s).heap = h := by
  obtain ⟨k, hk, hheld⟩ := exists_hold_of_not_free held
  have hbusy : (trySet P h v key s).result = .error .busy := (trySet_busy_iff hk).mpr hheld
  exact ⟨hbusy, (trySet_error hbusy).1⟩

/-- **A write under `length` is a write to the first element**, of a list, an array and an array
node alike.

* It comes to the same as a write under the numeral of zero, and that follows the law of an index:
  the first element is replaced by what the place makes of the slot, an empty list gets its first
  element, and otherwise nothing happens.
* So of a value that nobody has open, every element but the first is read afterwards as before, and
  `length` reads as before, unless the value was an empty list.
* A value that somebody has open is not written to. -/
theorem lengthKey_writes_first (hv : v.slots? h = some ss) (live : h.Live v) :
    (∀ s, trySet P h v lengthKey s = trySet P h v (Nat.repr 0) s) ∧
    (∀ s, (set P h (some v) (some lengthKey) s).1 = (trySet P h v lengthKey s).heap) ∧
    (Free h v → WritesAt P h v ss lengthKey 0 ∧
      ∀ s, ∃ ss', Shown P (trySet P h v lengthKey s).heap v ss' ∧
        (∀ i, 0 < i → ss'[i]? = ss[i]?) ∧
        (ss'.length = ss.length ∨ v.kind h = some .orderedList ∧ ss = [] ∧ ss' = [s])) ∧
    (¬ Free h v → ∀ s, (trySet P h v lengthKey s).result = .error .busy ∧
      (trySet P h v lengthKey s).heap = h) := by
  have hzero : indexOf lengthKey = indexOf (Nat.repr 0) := by
    rw [indexOf_lengthKey, indexOf_repr]
    rfl
  refine ⟨trySet_eq_of_indexOf hv hzero, set_heap P h v lengthKey, fun free => ?_,
    fun held => trySet_of_not_free held lengthKey⟩
  refine ⟨writesAt_of_indexOf hv live free indexOf_lengthKey, fun s => ?_⟩
  obtain ⟨ss', hslots, helements, hcount⟩ :=
    slots?_trySet_first (P := P) hv live free indexOf_lengthKey s
  have hopen : Readable (trySet P h v lengthKey s).heap v := by
    rw [Readable, hold?_trySet_slots hv]
    exact free.readable
  exact ⟨ss', shown_of_slots hslots hopen, helements, hcount⟩

/-- Two numbers in a list, in an array and in a document, and an empty list. -/
def twoNumbers : Heap :=
  let lists := ((({} : Heap).newList [some (.int32 7), some (.int32 8)]).1.newList []).1
  let arrays := (lists.newArray (.int32 [7, 8])).1
  (arrays.newDocument (.array [.number (.integer 7), .number (.integer 8)])).1

/-- The first number of an array is replaced by one that is stored under `length`. -/
theorem lengthKey_writes_first_array :
    Value.slots? twoNumbers (.array 0) = some [some (.int32 7), some (.int32 8)] ∧
      twoNumbers.Live (.array 0) ∧ Free twoNumbers (.array 0) ∧
      WritesAt .inert twoNumbers (.array 0) [some (.int32 7), some (.int32 8)] lengthKey 0 := by
  have live : twoNumbers.Live (.array 0) := Nat.zero_lt_one
  have free : Free twoNumbers (.array 0) := by decide
  exact ⟨rfl, live, free, ((lengthKey_writes_first rfl live).2.2.1 free).1⟩

/-- **What is stored under `length` reaches the elements**: it replaces the first one of a list, of
an array and of an array node, and an empty list grows by it. -/
theorem length_write_reaches_elements :
    (∀ v ∈ [Value.list 0, .array 0, .document ⟨0, ""⟩],
      tryGet .inert twoNumbers v "0" = .quiet (.ok (some (.int32 7))) ∧
      tryGet .inert (trySet .inert twoNumbers v lengthKey (some (.int32 9))).heap v "0" =
        .quiet (.ok (some (.int32 9))) ∧
      tryGet .inert (set .inert twoNumbers (some v) (some lengthKey) (some (.int32 9))).1 v "0" =
        .quiet (.ok (some (.int32 9)))) ∧
    tryGet .inert twoNumbers (.list 1) lengthKey = .quiet (.ok (some (.int32 0))) ∧
      tryGet .inert (trySet .inert twoNumbers (.list 1) lengthKey none).heap (.list 1) lengthKey =
        .quiet (.ok (some (.int32 1))) := by
  refine ⟨fun v hv => ?_, rfl, rfl⟩
  simp only [List.mem_cons, List.not_mem_nil, or_false] at hv
  rcases hv with rfl | rfl | rfl
  all_goals exact ⟨rfl, rfl, rfl⟩

end ScriptHost.Access
