import ScriptHost.Proofs.Access.View
import ScriptHost.Proofs.Number.Widening

/-!
# Reading in lockstep

Two values that cannot be told apart by reading, apart from how their numbers are
represented: every way of going down by keys, of any length, gives the same on both sides
(`Lockstep`).

The places inside two values are enough to say so. A relation on slots is a bisimulation
when related slots have the same shape and hold related slots at every name and index
(`Matches`), and then related values are read in lockstep (`lockstep_of_matches`).
-/

namespace ScriptHost

namespace Access

/-- **Scalars that are the same** up to the types of numbers. The right one is in normal
form: an integer is a 32-bit one if that has its value, and there is no 32-bit float. -/
inductive SameScalar : Value → Value → Prop where
  | bool (b : Bool) : SameScalar (.bool b) (.bool b)
  | string (s : String) : SameScalar (.string s) (.string s)
  | int32 (n : Int32) : SameScalar (.int32 n) (.int32 n)
  | int64 (n : Int64) (wide : ∀ m : Int32, m.toInt ≠ n.toInt) : SameScalar (.int64 n) (.int64 n)
  /-- A 64-bit integer becomes a 32-bit one of the same value. -/
  | narrowed {n : Int64} {m : Int32} (same : m.toInt = n.toInt) : SameScalar (.int64 n) (.int32 m)
  | float64 (x : Float64Bits) : SameScalar (.float64 x) (.float64 x)
  /-- A 32-bit float becomes a 64-bit one of the same value. -/
  | widened {x : Float32Bits} {y : Float64Bits} (finite : y.isFinite = true)
      (same : x.SameValue y) : SameScalar (.float32 x) (.float64 y)
  /-- A number of elements is the same value on both sides. -/
  | count (n : Nat) : SameScalar (lengthValue n) (lengthValue n)

/-- **Containers with the same keys**: the same names in the same order, the same number of
elements if any, and keys that mean an index on both sides or on neither. -/
structure SameContainer (P : Protocol) (h : Heap) (v w : Value) : Prop where
  keys : ∃ names, tryKeys P h v = .quiet (.ok names) ∧ tryKeys P h w = .quiet (.ok names)
  length : length h v = length h w
  indexed : ∃ b, (v.kind h).map Kind.isIndexed = some b ∧ (w.kind h).map Kind.isIndexed = some b

/-- **What two reads under one key give** when they agree: the same error, nothing on both
sides, or a value on both sides, and these values are related. -/
inductive SameStep (R : Value → Value → Prop) (key : String) : Reading Slot → Reading Slot → Prop
    where
  | notFound : SameStep R key (.quiet (.error (.notFound key))) (.quiet (.error (.notFound key)))
  | outOfRange (i : Int) (n : Nat) :
      SameStep R key (.quiet (.error (.outOfRange i n))) (.quiet (.error (.outOfRange i n)))
  | empty : SameStep R key (.quiet (.ok none)) (.quiet (.ok none))
  | found {v w : Value} (related : R v w) :
      SameStep R key (.quiet (.ok (some v))) (.quiet (.ok (some w)))

/-- **Reading step by step** along the keys gives the same from both values. Both are
scalars, which have no properties, or both are containers, and what stands under the first
key is read in the same way along the others. -/
def Lockstep (P : Protocol) (h : Heap) : List String → Value → Value → Prop
  | [], v, w => SameScalar v w ∨ SameContainer P h v w
  | key :: keys, v, w =>
    (SameScalar v w ∧ tryGet P h v key = .quiet (.error (.noProperties v.type)) ∧
      tryGet P h w key = .quiet (.error (.noProperties w.type))) ∨
    (SameContainer P h v w ∧
      SameStep (Lockstep P h keys) key (tryGet P h v key) (tryGet P h w key))

variable {P : Protocol} {h : Heap} {v w : Value} {keys : List String} {key : String}
  {R : Slot → Slot → Prop}

/-! ### Scalars -/

theorem classify_lengthValue (n : Nat) : (lengthValue n).classify h = none := by
  rw [lengthValue]
  cases Numeral.narrow32? n <;> rfl

theorem SameScalar.classify (hs : SameScalar v w) : v.classify h = none ∧ w.classify h = none := by
  cases hs with
  | count n => exact ⟨classify_lengthValue n, classify_lengthValue n⟩
  | _ => exact ⟨rfl, rfl⟩

theorem lockstep_scalar (hs : SameScalar v w) : Lockstep P h keys v w := by
  obtain ⟨hv, hw⟩ := hs.classify (h := h)
  cases keys with
  | nil => exact .inl hs
  | cons key keys => exact .inl ⟨hs, tryGet_of_classify_none hv, tryGet_of_classify_none hw⟩

/-! ### Shapes -/

/-- **Slots of the same shape** that hold related slots in the same places. -/
inductive Matches (h : Heap) (R : Slot → Slot → Prop) : Slot → Slot → Prop where
  | empty : Matches h R none none
  | scalar {v w : Value} (same : SameScalar v w) : Matches h R (some v) (some w)
  | named {v w : Value} {es fs : Entries Slot} (left : v.entries? h = some es)
      (right : w.entries? h = some fs) (names : es.names = fs.names)
      (slots : ∀ key, Option.Rel R (es.value? key) (fs.value? key)) :
      Matches h R (some v) (some w)
  | indexed {v w : Value} {ss ts : List Slot} (left : v.slots? h = some ss)
      (right : w.slots? h = some ts) (length : ss.length = ts.length)
      (slots : ∀ i : Nat, Option.Rel R ss[i]? ts[i]?) : Matches h R (some v) (some w)

theorem isIndexed_entries {es : Entries Slot} (hv : v.entries? h = some es) :
    (v.kind h).map Kind.isIndexed = some false := by
  cases v with
  | mapping a => rfl
  | document d =>
    obtain ⟨members, hd, -⟩ := Document.entries?_eq_some_iff.mp hv
    rw [Value.kind_document, Document.isNode_of_node? hd]
    rfl
  | _ => cases hv

theorem isIndexed_slots {ss : List Slot} (hv : v.slots? h = some ss) :
    (v.kind h).map Kind.isIndexed = some true := by
  cases v with
  | list a => rfl
  | array a => rfl
  | document d =>
    obtain ⟨items, hd, -⟩ := Document.slots?_eq_some_iff.mp hv
    rw [Value.kind, classify_items hd]
    rfl
  | _ => cases hv

theorem sameContainer_entries {es fs : Entries Slot} (hv : v.entries? h = some es)
    (hw : w.entries? h = some fs) (names : es.names = fs.names) (hopen : ∀ u, Readable h u) :
    SameContainer P h v w := by
  refine ⟨⟨es.names, tryKeys_entries hv (hopen v), ?_⟩, ?_,
    ⟨false, isIndexed_entries hv, isIndexed_entries hw⟩⟩
  · rw [tryKeys_entries hw (hopen w), names]
  · rw [length_entries hv, length_entries hw]

theorem sameContainer_slots {ss ts : List Slot} (hv : v.slots? h = some ss)
    (hw : w.slots? h = some ts) (hlen : ss.length = ts.length) (hopen : ∀ u, Readable h u) :
    SameContainer P h v w := by
  refine ⟨⟨indexKeys ss.length, tryKeys_slots hv (hopen v), ?_⟩, ?_,
    ⟨true, isIndexed_slots hv, isIndexed_slots hw⟩⟩
  · rw [tryKeys_slots hw (hopen w), hlen]
  · rw [length_slots hv (hopen v), length_slots hw (hopen w), hlen]

/-! ### One step -/

/-- What a read gives of slots that match, when the values in them are related. -/
theorem sameStep_of_matches {Q : Value → Value → Prop} {s t : Slot}
    (hR : ∀ s t, R s t → Matches h R s t) (hQ : ∀ v w, R (some v) (some w) → Q v w) (hst : R s t) :
    SameStep Q key (.quiet (.ok s)) (.quiet (.ok t)) := by
  cases s with
  | none =>
    cases hR _ _ hst
    exact .empty
  | some v =>
    cases t with
    | none => cases hR _ _ hst
    | some w => exact .found (hQ v w hst)

theorem sameStep_entries {Q : Value → Value → Prop} {es fs : Entries Slot}
    (hR : ∀ s t, R s t → Matches h R s t) (hQ : ∀ v w, R (some v) (some w) → Q v w)
    (hopen : ∀ u, Readable h u) (hv : v.entries? h = some es) (hw : w.entries? h = some fs)
    (slots : Option.Rel R (es.value? key) (fs.value? key)) :
    SameStep Q key (tryGet P h v key) (tryGet P h w key) := by
  rw [tryGet_entries hv (hopen v), tryGet_entries hw (hopen w)]
  generalize es.value? key = s at slots ⊢
  generalize fs.value? key = t at slots ⊢
  cases slots with
  | none => exact .notFound
  | some hst => exact sameStep_of_matches hR hQ hst

/-- A key of an indexed value is out of range on both sides or on neither. -/
theorem sameStep_slots {Q : Value → Value → Prop} {ss ts : List Slot}
    (hR : ∀ s t, R s t → Matches h R s t) (hQ : ∀ v w, R (some v) (some w) → Q v w)
    (hcount : ∀ n, Q (lengthValue n) (lengthValue n)) (hopen : ∀ u, Readable h u)
    (hv : v.slots? h = some ss) (hw : w.slots? h = some ts) (hlen : ss.length = ts.length)
    (slots : ∀ i : Nat, Option.Rel R ss[i]? ts[i]?) :
    SameStep Q key (tryGet P h v key) (tryGet P h w key) := by
  by_cases hkey : key = lengthKey
  · subst hkey
    rw [tryGet_lengthKey hv (hopen v), tryGet_lengthKey hw (hopen w), hlen]
    exact .found (hcount _)
  · rw [tryGet_slots hv (hopen v) hkey, tryGet_slots hw (hopen w) hkey]
    by_cases hin : 0 ≤ indexOf key ∧ indexOf key < ss.length
    · obtain ⟨i, hi⟩ := Int.eq_ofNat_of_zero_le hin.1
      have hs : i < ss.length := by omega
      have ht : i < ts.length := by omega
      have hrel := slots i
      rw [List.getElem?_eq_getElem hs, List.getElem?_eq_getElem ht] at hrel
      rw [hi, slotAt_of_lt hs, slotAt_of_lt ht]
      cases hrel with
      | some hst => exact sameStep_of_matches hR hQ hst
    · rw [slotAt_out hin, slotAt_out (hlen ▸ hin), hlen]
      exact .outOfRange _ _

/-! ### All steps -/

/-- **Values related by a bisimulation are read in lockstep**, along any keys. -/
theorem lockstep_of_matches (hR : ∀ s t, R s t → Matches h R s t) (hopen : ∀ u, Readable h u)
    (hvw : R (some v) (some w)) : Lockstep P h keys v w := by
  induction keys generalizing v w with
  | nil =>
    cases hR _ _ hvw with
    | scalar same => exact .inl same
    | named left right names slots => exact .inr (sameContainer_entries left right names hopen)
    | indexed left right hlen slots => exact .inr (sameContainer_slots left right hlen hopen)
  | cons key keys ih =>
    have hQ : ∀ v w, R (some v) (some w) → Lockstep P h keys v w := fun v w => ih
    cases hR _ _ hvw with
    | scalar same => exact lockstep_scalar same
    | named left right names slots =>
      exact .inr ⟨sameContainer_entries left right names hopen,
        sameStep_entries hR hQ hopen left right (slots key)⟩
    | indexed left right hlen slots =>
      exact .inr ⟨sameContainer_slots left right hlen hopen,
        sameStep_slots hR hQ (fun n => lockstep_scalar (.count n)) hopen left right hlen slots⟩

end Access

end ScriptHost
