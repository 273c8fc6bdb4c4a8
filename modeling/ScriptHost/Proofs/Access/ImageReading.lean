import Mathlib.Logic.Relation
import ScriptHost.Proofs.Access.Lockstep
import ScriptHost.Proofs.Image.Walk

/-!
# Reading an image

The image of a value, made a document, reads like the value (`image_lockstep`): whatever keys
are followed, both give the same errors, the same empty places, the same scalars up to the
types of their numbers, and containers with the same keys.

## The model

Twins are slots that come from the same JSON: the right one is read of a node of the new
document, and the left one is mirrored by that node, or is itself read of a node, of some
other document, that is equal to it. The left side changes from the one to the other where
the value holds a document. Twins are a bisimulation (`Twin.matches`).
-/

namespace ScriptHost

/-! ### What a node shows -/

/-- What is read of a node through a handle to it. -/
def Json.read (e : Document) : Json → Slot
  | null => none
  | bool b => some (.bool b)
  | number n => some n.toValue
  | string s => some (.string s)
  | array _ => some (.document e)
  | object _ => some (.document e)

namespace Document

variable {g : Heap} {d : Document}

theorem adopt_eq_read (d : Document) (token : String) (j : Json) :
    d.adopt token j = j.read (d.child token) := by
  cases j <;> rfl

/-- The entries of an object node are what is read of its members. -/
theorem exists_entries {members : Entries Json} (hd : d.node? g = some (.object members)) :
    ∃ es, d.entries? g = some es ∧ es.names = members.names ∧
      ∀ key, es.value? key = (members.value? key).map (Json.read (d.child key)) := by
  refine ⟨_, entries?_eq_some_iff.mpr ⟨members, hd, rfl⟩, Entries.names_map_snd _ members,
    fun key => ?_⟩
  rw [Entries.value?_map_snd]
  exact congrArg (fun f => (members.value? key).map f) (funext (d.adopt_eq_read key))

/-- The slots of an array node are what is read of its items. -/
theorem exists_slots {items : List Json} (hd : d.node? g = some (.array items)) :
    ∃ ss, d.slots? g = some ss ∧ ss.length = items.length ∧
      ∀ i : Nat, ss[i]? = items[i]?.map (Json.read (d.child i.repr)) := by
  refine ⟨_, slots?_eq_some_iff.mpr ⟨items, hd, rfl⟩, List.length_mapIdx, fun i => ?_⟩
  rw [List.getElem?_mapIdx]
  exact congrArg (fun f => items[i]?.map f) (funext (d.adopt_eq_read i.repr))

theorem node?_member {members : Entries Json} (hd : d.node? g = some (.object members))
    (key : String) : (d.child key).node? g = members.value? key := node?_child hd key

theorem node?_item {items : List Json} (hd : d.node? g = some (.array items)) (i : Nat) :
    (d.child i.repr).node? g = items[i]? := by
  rw [node?_child hd, Pointer.child?, Pointer.index?_repr, Option.bind_some]

end Document

/-! ### Relations between sequences -/

theorem rel_getElem? {α β : Type} {R : α → β → Prop} {xs : List α} {ys : List β}
    (h : List.Forall₂ R xs ys) (i : Nat) : Option.Rel R xs[i]? ys[i]? := by
  induction h generalizing i with
  | nil => exact .none
  | cons hxy _ ih =>
    cases i with
    | zero => exact .some hxy
    | succ i => exact ih i

/-- Entries with the same names and related contents are related under each name. -/
theorem Entries.rel_value? {α β : Type} {R : α → β → Prop} {es : Entries α} {fs : Entries β}
    (names : fs.names = es.names) (h : List.Forall₂ R (es.map Prod.snd) (fs.map Prod.snd))
    (key : String) : Option.Rel R (es.value? key) (fs.value? key) := by
  induction es generalizing fs with
  | nil =>
    cases fs with
    | nil => exact .none
    | cons f fs => cases names
  | cons e es ih =>
    cases fs with
    | nil => cases names
    | cons f fs =>
      obtain ⟨hname, hnames⟩ := List.cons.inj names
      obtain ⟨hef, hrest⟩ := List.forall₂_cons.mp h
      obtain ⟨k, a⟩ := e
      obtain ⟨_, b⟩ := f
      cases hname
      rw [value?, value?]
      split
      · exact .some hef
      · exact ih hnames hrest

/-! ### Normal forms of numbers -/

namespace Access

/-- A 32-bit integer is read back as itself. -/
theorem toValue_int32 (n : Int32) : (JsonNumber.integer n.toInt).toValue = .int32 n := by
  have hle := n.minValue_le_toInt
  have hge := n.toInt_le
  rw [JsonNumber.toValue, if_pos ⟨hle, hge⟩, Int32.ofInt_toInt]

/-- A 64-bit integer is read back as the narrowest integer of its value. -/
theorem sameScalar_int64 (n : Int64) :
    SameScalar (.int64 n) (JsonNumber.integer n.toInt).toValue := by
  rw [JsonNumber.toValue]
  split
  · next hn =>
    refine .narrowed (Int32.toInt_ofInt_of_le ?_ ?_)
    · exact Int32.toInt_minValue ▸ hn.1
    · exact Int.lt_of_le_of_lt hn.2 (by decide)
  · next hn =>
    rw [if_pos ⟨n.minValue_le_toInt, n.toInt_le⟩, Int64.ofInt_toInt]
    exact .int64 n fun m hm => hn (hm ▸ ⟨m.minValue_le_toInt, m.toInt_le⟩)

/-- A number of a document stays as it is read. -/
theorem sameScalar_toValue (n : JsonNumber) : SameScalar n.toValue n.toValue := by
  cases n with
  | float x finite => exact .float64 x
  | integer n =>
    rw [JsonNumber.toValue]
    split
    · exact .int32 _
    · next hn =>
      split
      · next hn' =>
        refine .int64 _ fun m hm => hn ?_
        have heq : (Int64.ofInt n).toInt = n :=
          Int64.toInt_ofInt_of_le (Int64.toInt_minValue ▸ hn'.1)
            (Int.lt_of_le_of_lt hn'.2 (by decide))
        rw [heq] at hm
        exact hm ▸ ⟨m.minValue_le_toInt, m.toInt_le⟩
      · exact .float64 _

end Access

/-! ### Twins -/

namespace Heap

open Access

/-- A container holds a value in one of its slots. -/
def Holds (h : Heap) (v w : Value) : Prop := ∃ c : Container, v = c.handle ∧ some w ∈ c.slots h

/-- A value is reached through containers. -/
def Reachable (h : Heap) : Value → Value → Prop := Relation.ReflTransGen h.Holds

/-- **Every document that is reached is there**: its handle leads to an object or an array. -/
def Solid (h : Heap) (s : Slot) : Prop :=
  ∀ v d, s = some v → h.Reachable v (.document d) → d.isNode h = true ∨ d.isArray h = true

/-- What is closed under the slots of containers holds of all that is reached. -/
theorem Reachable.of_closed {h : Heap} {S : Value → Prop} {v w : Value} (hw : h.Reachable v w)
    (hv : S v) (hS : ∀ (c : Container) (u : Value), S c.handle → some u ∈ c.slots h → S u) :
    S w := by
  induction hw with
  | refl => exact hv
  | tail _ hstep ih =>
    obtain ⟨c, rfl, hmem⟩ := hstep
    exact hS c _ ih hmem

theorem Solid.slot {h : Heap} {c : Container} {s : Slot} (hc : h.Solid (some c.handle))
    (hs : s ∈ c.slots h) : h.Solid s := by
  rintro v d rfl hd
  exact hc _ d rfl (.head ⟨c, rfl, hs⟩ hd)

theorem Solid.images {h : Heap} {c : Container} {js : List Json} (hc : h.Solid (some c.handle))
    (images : List.Forall₂ (Mirrors h) (c.slots h) js) :
    List.Forall₂ (fun s j => h.Solid s ∧ Mirrors h s j) (c.slots h) js :=
  (List.forall₂_and_left _ _).mpr ⟨fun _ => hc.slot, images⟩

/-- **A heap with more in it**: the containers are as they were, and so are the nodes of
documents. -/
structure Extends (h g : Heap) : Prop where
  mapping : ∀ a, g.mapping a = h.mapping a
  list : ∀ a, g.list a = h.list a
  array : ∀ a, g.array a = h.array a
  node : ∀ (d : Document) (j : Json), d.node? h = some j → j ≠ .null → d.node? g = some j

/-- **Slots that come from the same JSON**: mirrored by a node and read of it, or read of
two equal nodes. -/
inductive Twin (h g : Heap) : Slot → Slot → Prop where
  | mirrored {s : Slot} {j : Json} {e : Document} (solid : h.Solid s) (image : Mirrors h s j)
      (node : e.node? g = some j) : Twin h g s (j.read e)
  | shared {j : Json} {d e : Document} (left : d.node? g = some j) (right : e.node? g = some j) :
      Twin h g (j.read d) (j.read e)

variable {h g : Heap} {s t : Slot} {j : Json} {d e : Document}

theorem rel_twin_mirrored {x : Option Slot} {y : Option Json} (he : e.node? g = y)
    (hxy : Option.Rel (fun s j => h.Solid s ∧ Mirrors h s j) x y) :
    Option.Rel (Twin h g) x (y.map (Json.read e)) := by
  cases hxy with
  | none => exact .none
  | some hsj => exact .some (.mirrored hsj.1 hsj.2 he)

theorem rel_twin_shared {y : Option Json} (hd : d.node? g = y) (he : e.node? g = y) :
    Option.Rel (Twin h g) (y.map (Json.read d)) (y.map (Json.read e)) := by
  cases y with
  | none => exact .none
  | some j => exact .some (.shared hd he)

/-- What is read of equal nodes matches. -/
theorem matches_shared (hd : d.node? g = some j) (he : e.node? g = some j) :
    Matches g (Twin h g) (j.read d) (j.read e) := by
  cases j with
  | null => exact .empty
  | bool b => exact .scalar (.bool b)
  | number n => exact .scalar (sameScalar_toValue n)
  | string s => exact .scalar (.string s)
  | array items =>
    obtain ⟨ss, hss, hlen, hslots⟩ := Document.exists_slots hd
    obtain ⟨ts, hts, hlen', hslots'⟩ := Document.exists_slots he
    refine .indexed (v := .document d) (w := .document e) hss hts (hlen.trans hlen'.symm)
      fun i => ?_
    rw [hslots, hslots']
    exact rel_twin_shared (Document.node?_item hd i) (Document.node?_item he i)
  | object members =>
    obtain ⟨es, hes, hnames, hvalues⟩ := Document.exists_entries hd
    obtain ⟨fs, hfs, hnames', hvalues'⟩ := Document.exists_entries he
    refine .named (v := .document d) (w := .document e) hes hfs (hnames.trans hnames'.symm)
      fun key => ?_
    rw [hvalues, hvalues']
    exact rel_twin_shared (Document.node?_member hd key) (Document.node?_member he key)

/-- An indexed container matches the array node that mirrors it. -/
theorem matches_items {v : Value} {ss : List Slot} {items : List Json} (hv : v.slots? g = some ss)
    (images : List.Forall₂ (fun s j => h.Solid s ∧ Mirrors h s j) ss items)
    (he : e.node? g = some (.array items)) :
    Matches g (Twin h g) (some v) (Json.read e (.array items)) := by
  obtain ⟨ts, hts, hlen, hslots⟩ := Document.exists_slots he
  refine .indexed (w := .document e) hv hts (images.length_eq.trans hlen.symm) fun i => ?_
  rw [hslots]
  exact rel_twin_mirrored (Document.node?_item he i) (rel_getElem? images i)

/-- **Twins are a bisimulation.** -/
theorem Twin.matches (ext : Extends h g) (hst : Twin h g s t) : Matches g (Twin h g) s t := by
  cases hst with
  | shared left right => exact matches_shared left right
  | @mirrored _ j e solid image node =>
    cases image with
    | absent => exact .empty
    | bool b => exact .scalar (.bool b)
    | string s => exact .scalar (.string s)
    | int32 n =>
      rw [Json.read, toValue_int32]
      exact .scalar (.int32 n)
    | int64 n => exact .scalar (sameScalar_int64 n)
    | float32 finite same => exact .scalar (.widened finite same)
    | float64 finite => exact .scalar (.float64 _)
    | document d =>
      rcases solid _ d rfl .refl with hn | ha
      · obtain ⟨members, hd⟩ := Document.isNode_iff.mp hn
        rw [hd, Option.getD_some] at node ⊢
        exact matches_shared (j := .object members) (ext.node d _ hd (by simp)) node
      · obtain ⟨items, hd⟩ := Document.isArray_iff.mp ha
        rw [hd, Option.getD_some] at node ⊢
        exact matches_shared (j := .array items) (ext.node d _ hd (by simp)) node
    | @mapping a members names images =>
      obtain ⟨fs, hfs, hnames, hvalues⟩ := Document.exists_entries node
      refine .named (v := .mapping a) (w := .document e) rfl hfs ?_ fun key => ?_
      · rw [ext.mapping, hnames, names]
      · rw [ext.mapping, hvalues]
        exact rel_twin_mirrored (Document.node?_member node key)
          (Entries.rel_value? names (solid.images (c := .mapping a) images) key)
    | @list a items images =>
      have hv : Value.slots? g (.list a) = some (h.list a).content := by rw [Value.slots?, ext.list]
      exact matches_items hv (solid.images (c := .list a) images) node
    | @array a items images =>
      have hv : Value.slots? g (.array a) = some (h.array a).content.slots := by
        rw [Value.slots?, ext.array]
      exact matches_items hv (solid.images (c := .array a) images) node

/-! ### The new document -/

theorem extends_newDocument (h : Heap) (j : Json) : Extends h (h.newDocument j).1 :=
  ⟨fun _ => rfl, fun _ => rfl, fun _ => rfl, fun _ _ hd hne => Document.node?_newDocument hd hne j⟩

/-- A new document opens no cell. -/
theorem readable_newDocument (hopen : ∀ u, Readable h u) (j : Json) (u : Value) :
    Readable (h.newDocument j).1 u := by
  have hhold : (h.newDocument j).1.hold? u = h.hold? u := by
    cases u <;> rfl
  rw [Readable, hhold]
  exact hopen u

/-- The image of a container or of a document that is there is read as a document. -/
theorem read_image {v : Value} (hv : (∃ c : Container, v = c.handle) ∨ ∃ d, v = .document d)
    (solid : h.Solid (some v)) (image : Mirrors h (some v) j) (e : Document) :
    j.read e = some (.document e) := by
  rcases hv with ⟨c, rfl⟩ | ⟨d, rfl⟩
  · cases c <;> cases image <;> rfl
  · cases image
    rcases solid _ d rfl .refl with hn | ha
    · obtain ⟨members, hd⟩ := Document.isNode_iff.mp hn
      rw [hd]
      rfl
    · obtain ⟨items, hd⟩ := Document.isArray_iff.mp ha
      rw [hd]
      rfl

/-- **The document image of a value reads like the value**: from a container or a document
whose image is there, and from a new document of that image, every sequence of keys gives
the same, if no cell is being written to and no document that is reached is gone. -/
theorem image_lockstep {P : Protocol} {v : Value} (hopen : ∀ u, Readable h u)
    (hv : (∃ c : Container, v = c.handle) ∨ ∃ d, v = .document d)
    (solid : ∀ d, h.Reachable v (.document d) → d.isNode h = true ∨ d.isArray h = true)
    (image : h.image (some v) = .ok j) (keys : List String) :
    Lockstep P (h.newDocument j).1 keys v (.document (h.newDocument j).2) := by
  have hsolid : h.Solid (some v) := by
    rintro _ d ⟨⟩
    exact solid d
  have hmirrors : Mirrors h (some v) j := (image ▸ converts_image h (some v)).of_ok.1
  have htwin := Twin.mirrored hsolid hmirrors (Document.node?_newDocument_self h j)
  rw [read_image hv hsolid hmirrors] at htwin
  exact lockstep_of_matches (fun s t => Twin.matches (extends_newDocument h j))
    (readable_newDocument hopen j) htwin

/-! ### A mapping with a list and a document -/

/-- A document with one member. -/
def memberNode : Json := .object [("k", .null)]

/-- A heap with a mapping whose name `length` leads to a list, which holds a number and a
document. -/
def nestedMapping : Heap :=
  (((({} : Heap).newDocument memberNode).1.newList
    [some (.int64 7), some (.document ⟨0, ""⟩)]).1.newMapping
      [("length", some (.list 0)), ("x", none)]).1

theorem readable_nestedMapping (u : Value) : Readable nestedMapping u := by
  have hempty {α : Type} [Inhabited α] (a : Address) :
      ((Store.empty : Store (Cell α)).get a).hold ≠ .exclusive := by
    rw [Store.get_empty]
    exact nofun
  have hnew {α : Type} [Inhabited α] (content : α) (a : Address) :
      (((Store.empty : Store (Cell α)).add ⟨content, .free⟩).1.get a).hold ≠ .exclusive :=
    Store.forall_get_add (p := fun c : Cell α => c.hold ≠ .exclusive) hempty (by simp [Hold.free]) a
  cases u with
  | mapping a => exact fun hu => hnew _ a (Option.some.inj hu)
  | list a => exact fun hu => hnew _ a (Option.some.inj hu)
  | array a => exact fun hu => hempty a (Option.some.inj hu)
  | object a => exact fun hu => hempty a (Option.some.inj hu)
  | record a => exact fun hu => hempty a (Option.some.inj hu)
  | _ => exact nofun

/-- Nothing is reached but the mapping, the list, and what the list holds. -/
theorem reachable_nestedMapping {u : Value} (hu : nestedMapping.Reachable (.mapping 0) u) :
    u ∈ [.mapping 0, .list 0, .int64 7, .document ⟨0, ""⟩] := by
  refine hu.of_closed (S := fun u => u ∈ [.mapping 0, .list 0, .int64 7, .document ⟨0, ""⟩])
    List.mem_cons_self fun c w hc hw => ?_
  cases c with
  | mapping a =>
    obtain rfl : a = 0 := by simpa [Container.handle] using hc
    have hslots : Container.slots nestedMapping (.mapping 0) = [some (.list 0), none] := rfl
    rw [hslots] at hw
    simp_all
  | list a =>
    obtain rfl : a = 0 := by simpa [Container.handle] using hc
    have hslots : Container.slots nestedMapping (.list 0) =
      [some (.int64 7), some (.document ⟨0, ""⟩)] := rfl
    rw [hslots] at hw
    simp_all
  | array a => simp [Container.handle] at hc

/-- A way down through all three of them. -/
theorem image_lockstep_nestedMapping :
    nestedMapping.image (some (.mapping 0)) =
        .ok (.object [("length", .array [.number (.integer 7), memberNode]), ("x", .null)]) ∧
      Lockstep .inert (nestedMapping.newDocument
          (.object [("length", .array [.number (.integer 7), memberNode]), ("x", .null)])).1
        ["length", "1", "k"] (.mapping 0) (.document ⟨1, ""⟩) := by
  have image : nestedMapping.image (some (.mapping 0)) =
      .ok (.object [("length", .array [.number (.integer 7), memberNode]), ("x", .null)]) := rfl
  refine ⟨image, image_lockstep readable_nestedMapping (.inl ⟨.mapping 0, rfl⟩) (fun d hd => ?_)
    image _⟩
  have hmem := reachable_nestedMapping hd
  simp only [List.mem_cons, reduceCtorEq, Value.document.injEq, List.not_mem_nil, or_false,
    false_or] at hmem
  exact .inl (hmem ▸ rfl)

end Heap

end ScriptHost
