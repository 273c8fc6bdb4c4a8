import ScriptHost.Proofs.Access.DecimalKey
import ScriptHost.Proofs.Record.Derived

/-!
# Enumeration

The keys of a value are listed in one way and looked up in another, and both agree. Under
the keys of a mapping, an object node or a record there is something to read, and under no
other name (`NamedKeys`). The keys of an indexed value are the numerals below its length, in
order, and each reads its own slot (`IndexKeys`).

A record counts here if no layer of its type refuses it: a layer whose accessor or whose step
to the ancestor does not know the instance makes a read fail for another reason than that
the name is unknown.
-/

namespace ScriptHost

namespace Value

/-- **Where a value has its places**, by its kind. -/
inductive Layout (h : Heap) : Value → Kind → Prop where
  | named {v : Value} {k : Kind} {es : Entries Slot} (entries : v.entries? h = some es)
      (kind : k = .mapping ∨ k = .documentNode) : Layout h v k
  | indexed {v : Value} {k : Kind} {ss : List Slot} (slots : v.slots? h = some ss)
      (kind : k.isIndexed = true) : Layout h v k
  | record {a : Address} (plain : (h.record a).content.type.own.scriptObject = false) :
      Layout h (.record a) .typedRecord

theorem layout_of_kind {h : Heap} {v : Value} {k : Kind} (hk : v.kind h = some k)
    (hplain : k ≠ .scriptObject) : Layout h v k := by
  cases v with
  | mapping a =>
    cases hk
    exact .named rfl (.inl rfl)
  | list a =>
    cases hk
    exact .indexed rfl rfl
  | array a =>
    cases hk
    exact .indexed rfl rfl
  | object a =>
    cases hk
    exact absurd rfl hplain
  | record a =>
    cases hview : (h.record a).content.type.own.scriptObject with
    | true =>
      rw [kind, classify_record, if_pos hview] at hk
      cases hk
      exact absurd rfl hplain
    | false =>
      rw [kind, classify_record, hview] at hk
      cases hk
      exact .record hview
  | document d =>
    rw [kind_document] at hk
    cases hn : d.isNode h with
    | true =>
      rw [hn] at hk
      cases hk
      obtain ⟨members, hd⟩ := Document.isNode_iff.mp hn
      exact .named (Document.entries?_eq_some_iff.mpr ⟨members, hd, rfl⟩) (.inr rfl)
    | false =>
      cases ha : d.isArray h with
      | true =>
        rw [hn, ha] at hk
        cases hk
        obtain ⟨items, hd⟩ := Document.isArray_iff.mp ha
        exact .indexed (Document.slots?_eq_some_iff.mpr ⟨items, hd, rfl⟩) rfl
      | false =>
        rw [hn, ha] at hk
        cases hk
  | _ => cases hk

/-- In a well-formed heap no name stands twice in a value. -/
theorem wellFormed_entries {h : Heap} {v : Value} {es : Entries Slot} (wf : h.WellFormed)
    (hv : v.entries? h = some es) : es.WellFormed := by
  cases v with
  | mapping a =>
    cases hv
    exact wf.mapping a
  | document d =>
    obtain ⟨members, hd, rfl⟩ := Document.entries?_eq_some_iff.mp hv
    obtain ⟨path, -, hpath⟩ := Document.exists_path_of_node? hd
    have hmembers := (Json.wellFormed_object_iff.mp ((wf.tree d.tree).follow hpath)).1
    rwa [Entries.WellFormed, Entries.names_map_snd]
  | _ => cases hv

end Value

namespace Access

variable {P : Protocol} {h : Heap} {v : Value} {k : Kind} {ks : List String} {ss : List Slot}

/-! ### Names -/

/-- **The keys are the names under which there is something to read.** -/
structure NamedKeys (P : Protocol) (h : Heap) (v : Value) (ks : List String) : Prop where
  keys : tryKeys P h v = .quiet (.ok ks)
  distinct : ks.Nodup
  read : ∀ key ∈ ks, ∃ s, tryGet P h v key = .quiet (.ok s)
  missing : ∀ key, key ∉ ks → tryGet P h v key = .quiet (.error (.notFound key))

theorem namedKeys_entries {es : Entries Slot} (hv : v.entries? h = some es) (wf : es.WellFormed)
    (hopen : Readable h v) : NamedKeys P h v es.names := by
  refine ⟨tryKeys_entries hv hopen, wf, fun key hkey => ?_, fun key hkey => ?_⟩
  · obtain ⟨s, hs⟩ := Entries.exists_mem_of_mem_names hkey
    refine ⟨s, ?_⟩
    rw [tryGet_entries hv hopen, (Entries.value?_eq_some_iff wf).mpr hs]
  · rw [tryGet_entries hv hopen, (Entries.value?_eq_none_iff key es).mpr hkey]

/-- The names of a record are those that its type exposes, whatever the instance holds. -/
theorem namedKeys_record {a : Address}
    (plain : (h.record a).content.type.own.scriptObject = false) (hopen : Readable h (.record a))
    (accepted : Instance.Accepted (h.record a).content.type (h.record a).content.fields) :
    NamedKeys P h (.record a) (h.record a).content.type.scriptNames := by
  have hclass : Value.classify h (.record a) = some (.record a) := by
    rw [Value.classify_record, plain]
    rfl
  refine ⟨by simp only [tryKeys, hclass], ?_, fun key hkey => ?_, fun key hkey => ?_⟩
  · exact (RecordType.pairwise_scriptNames _).imp fun hlt => String.ne_of_lt hlt
  · obtain ⟨s, hs⟩ := accepted.readable (RecordType.mem_scriptNames.mp hkey)
    exact ⟨s, by rw [tryGet_record plain hopen, hs]⟩
  · rw [tryGet_record plain hopen,
      (accepted.undeclared fun hd => hkey (RecordType.mem_scriptNames.mpr hd)).1]

/-! ### Indices -/

/-- **The keys are the numerals below the number of slots**, in order. -/
structure IndexKeys (P : Protocol) (h : Heap) (v : Value) (ks : List String) (ss : List Slot) :
    Prop where
  keys : tryKeys P h v = .quiet (.ok ks)
  distinct : ks.Nodup
  slots : v.slots? h = some ss
  length : length h v = some ss.length
  /-- There are as many keys as elements. -/
  count : ks.length = ss.length
  /-- The number of elements is read as a property, too. -/
  counted : ∃ c, tryGet P h v lengthKey = .quiet (.ok (some c)) ∧
    c.widenToInt64?.map Int64.toInt = some (ss.length : Int)
  /-- Each key reads the slot in its place. -/
  read : ∀ (i : Nat) key s, ks[i]? = some key → ss[i]? = some s → tryGet P h v key = .quiet (.ok s)
  /-- The numerals from the length on are out of range. -/
  beyond : ∀ n, ss.length ≤ n → n < 2147483648 →
    tryGet P h v n.repr = .quiet (.error (.outOfRange n ss.length))

/-- A number of elements is read back from its value. -/
theorem widenToInt64?_lengthValue {n : Nat} (hn : n < 9223372036854775808) :
    (lengthValue n).widenToInt64?.map Int64.toInt = some (n : Int) := by
  rw [lengthValue, Numeral.narrow32?_natCast]
  by_cases hsmall : n < 2147483648
  · rw [if_pos hsmall]
    simp only [Value.widenToInt64?, Option.map_some, Int32.toInt_toInt64]
    rw [Int32.toInt_ofInt_of_le (by omega) (by omega)]
  · rw [if_neg hsmall]
    simp only [Value.widenToInt64?, Option.map_some, Int64.toInt_ofNat_of_lt hn]

theorem length_indexKeys (n : Nat) : (indexKeys n).length = n := by
  rw [indexKeys, List.length_map, List.length_range]

theorem nodup_indexKeys (n : Nat) : (indexKeys n).Nodup := by
  refine List.nodup_range.map fun i j hij => ?_
  have hidx := congrArg Pointer.index? hij
  rwa [Pointer.index?_repr, Pointer.index?_repr, Option.some.injEq] at hidx

/-- The key in a place is the numeral of that place. -/
theorem getElem?_indexKeys {n i : Nat} {key : String} (hkey : (indexKeys n)[i]? = some key) :
    i < n ∧ key = i.repr := by
  have hi : i < n := length_indexKeys n ▸ (List.getElem?_eq_some_iff.mp hkey).1
  rw [indexKeys, List.getElem?_map, List.getElem?_range hi] at hkey
  exact ⟨hi, (Option.some.inj hkey).symm⟩

/-- What is read under a numeral that 32 bits hold. -/
theorem tryGet_repr (hv : v.slots? h = some ss) (hopen : Readable h v) {n : Nat}
    (hn : n < 2147483648) : tryGet P h v n.repr = .quiet (slotAt ss n) := by
  rw [tryGet_slots hv hopen (repr_ne_lengthKey n), indexOf_repr, if_pos hn]

theorem indexKeys_slots (hv : v.slots? h = some ss) (hopen : Readable h v)
    (hlen : ss.length ≤ 2147483648) : IndexKeys P h v (indexKeys ss.length) ss := by
  refine ⟨tryKeys_slots hv hopen, nodup_indexKeys _, hv, length_slots hv hopen,
    length_indexKeys _, ⟨_, tryGet_lengthKey hv hopen, widenToInt64?_lengthValue (by omega)⟩,
    fun i key s hkey hs => ?_, fun n hle hlt => ?_⟩
  · obtain ⟨hi, rfl⟩ := getElem?_indexKeys hkey
    rw [tryGet_repr hv hopen (by omega), slotAt_of_lt hi, (List.getElem?_eq_some_iff.mp hs).2]
  · rw [tryGet_repr hv hopen hlt, slotAt_out (by omega)]

/-! ### Every kind -/

/-- **Listing agrees with reading**, for every value but script objects that nobody is
writing to. -/
theorem keys_agree (wf : h.WellFormed) (hk : v.kind h = some k) (hplain : k ≠ .scriptObject)
    (hopen : Readable h v) (hlen : ∀ n, length h v = some n → n ≤ 2147483648)
    (accepted : ∀ a, v = .record a →
      Instance.Accepted (h.record a).content.type (h.record a).content.fields) :
    (k.isIndexed = false →
      ∃ ks, NamedKeys P h v ks ∧ (k = .typedRecord → ks.Pairwise (· < ·))) ∧
    (k.isIndexed = true → ∃ ks ss, IndexKeys P h v ks ss) := by
  cases Value.layout_of_kind hk hplain with
  | named entries kind =>
    refine ⟨fun _ => ⟨_, namedKeys_entries entries (Value.wellFormed_entries wf entries) hopen,
      fun hrecord => ?_⟩, fun hindexed => ?_⟩
    · rcases kind with rfl | rfl <;> cases hrecord
    · rcases kind with rfl | rfl <;> cases hindexed
  | indexed slots kind =>
    refine ⟨fun hnamed => ?_, fun _ => ?_⟩
    · rw [kind] at hnamed
      cases hnamed
    · exact ⟨_, _, indexKeys_slots slots hopen (hlen _ (length_slots slots hopen))⟩
  | record plain =>
    refine ⟨fun _ => ?_, fun hindexed => nomatch hindexed⟩
    exact ⟨_, namedKeys_record plain hopen (accepted _ rfl),
      fun _ => RecordType.pairwise_scriptNames _⟩

/-- A heap with one record, of a type that is derived at every level. -/
def derivedRecord : Heap :=
  (({} : Heap).newRecord ⟨Blueprint.level2Type, Blueprint.level2, none⟩).1

/-- The names of a record with two ancestors, where names are declared again. -/
theorem keys_agree_level2 :
    derivedRecord.WellFormed ∧ Value.kind derivedRecord (.record 0) = some .typedRecord ∧
      Readable derivedRecord (.record 0) ∧
      ∃ ks, NamedKeys .inert derivedRecord (.record 0) ks ∧ ks.Pairwise (· < ·) := by
  have wf : derivedRecord.WellFormed := Heap.WellFormed.empty.newRecord _
  have hopen : Readable derivedRecord (.record 0) := by decide
  have accepted : ∀ a, Value.record 0 = .record a →
      Instance.Accepted (derivedRecord.record a).content.type
        (derivedRecord.record a).content.fields := by
    rintro a ⟨⟩
    exact Instance.derived_level2.accepted
  obtain ⟨ks, hks, hsorted⟩ := (@keys_agree .inert _ _ _ wf rfl (by decide) hopen
    (fun n hn => nomatch hn) accepted).1 rfl
  exact ⟨wf, rfl, hopen, ks, hks, hsorted rfl⟩

/-- A heap with one record whose type announces an ancestor that the instance lacks. -/
def foreignRecord : Heap :=
  (({} : Heap).newRecord ⟨Blueprint.brokenType, Blueprint.broken, none⟩).1

/-- **A type can refuse its own instance**: no name is not found then. -/
theorem unknown_name_of_foreign_ancestor :
    Value.kind foreignRecord (.record 0) = some .typedRecord ∧
      Readable foreignRecord (.record 0) ∧
      (∃ ks, tryKeys .inert foreignRecord (.record 0) = .quiet (.ok ks) ∧ "nosuch" ∉ ks) ∧
      tryGet .inert foreignRecord (.record 0) "nosuch" =
        .quiet (.error (.wrongReceiver "Broken")) := by
  refine ⟨rfl, by decide, ⟨_, rfl, by decide⟩, rfl⟩

end Access

end ScriptHost
