import ScriptHost.Proofs.Access.DecimalKey
import ScriptHost.Proofs.Json.Escape

/-!
# Handles that are read from the root

A handle that was read of another one is its pointer with one more token. That it names the
child that was read, and no other node, is a matter of how tokens are written: a member can have
any name, with slashes and tildes in it, or none at all, and may look like an index.

## What is proved

* The handle that reading gives leads to the child under the step that the key means
  (`tryGet_leads`), and reading gives a handle for each child that has children of its own
  (`tryGet_token`).
* The pointer of a handle that was read step by step from the root spells out these steps
  (`ReadAlong.pointer`), so that handles of one tree are equal only if they were read along the
  same tokens, and, in a tree that does not change, along the same steps (`ReadAlong.canonical`).
-/

namespace ScriptHost.Document

open Pointer Access Outcome

/-! ### Steps -/

/-- One step down in a tree. -/
inductive Step where
  /-- To the member of this name. -/
  | member (name : String)
  /-- To the item at this index. -/
  | item (index : Nat)
  deriving DecidableEq

namespace Step

/-- How a pointer names the step. -/
def token : Step → String
  | member name => name
  | item i => i.repr

/-- What is found one step down. -/
def child? : Step → Json → Option Json
  | member name, .object members => Entries.value? name members
  | item i, .array items => items[i]?
  | _, _ => none

variable {s : Step} {c j : Json}

theorem child?_eq_some_iff : s.child? c = some j ↔
    (∃ name members, s = member name ∧ c = .object members ∧ Entries.value? name members = some j) ∨
    (∃ i items, s = item i ∧ c = .array items ∧ items[i]? = some j) := by
  constructor
  · intro h
    cases s <;> cases c <;> simp_all [child?]
  · rintro (⟨name, members, rfl, rfl, h⟩ | ⟨i, items, rfl, rfl, h⟩) <;> exact h

/-- The token leads where the step does. -/
theorem child?_token (h : s.child? c = some j) : Pointer.child? s.token c = some j := by
  rcases child?_eq_some_iff.mp h with ⟨name, members, rfl, rfl, h⟩ | ⟨i, items, rfl, rfl, h⟩
  · rw [token, Pointer.child?]
    exact h
  · rw [token, Pointer.child?, index?_repr]
    exact h

end Step

variable {P : Protocol} {h : Heap} {d e : Document} {key : String}

/-- The step that a key means at a node: the member of that name, or the item at that index. -/
def step (h : Heap) (d : Document) (key : String) : Step :=
  if d.isNode h then .member key else .item (indexOf key).toNat

theorem step_object {members : Entries Json} (hd : d.node? h = some (.object members)) :
    d.step h key = .member key := by
  rw [step, if_pos (isNode_of_node? hd)]

theorem step_array {items : List Json} (hd : d.node? h = some (.array items)) :
    d.step h key = .item (indexOf key).toNat := by
  rw [step, isNode_eq_false_of_isArray (isArray_of_node? hd)]
  rfl

/-- At a node, the token tells the step. -/
theorem Step.eq_of_token {h' : Heap} {key' : String}
    (ht : (d.step h key).token = (d.step h' key').token) (hn : d.isNode h = d.isNode h') :
    d.step h key = d.step h' key' := by
  unfold step at ht ⊢
  rw [← hn] at ht ⊢
  generalize d.isNode h = isNode at ht ⊢
  cases isNode with
  | true => exact congrArg Step.member ht
  | false =>
    have hindex : index? (indexOf key).toNat.repr = index? (indexOf key').toNat.repr :=
      congrArg index? ht
    rw [index?_repr, index?_repr] at hindex
    exact congrArg Step.item (Option.some.inj hindex)

/-- The token of a step is a key for it. An index must be one that a key can name. -/
theorem step_token {s : Step} {c j : Json} (hc : d.node? h = some c) (hj : s.child? c = some j)
    (hs : ∀ i, s = .item i → i < 2147483648) : d.step h s.token = s := by
  rcases Step.child?_eq_some_iff.mp hj with
    ⟨name, members, rfl, rfl, -⟩ | ⟨i, items, rfl, rfl, -⟩
  · exact step_object hc
  · rw [step_array hc, Step.token, indexOf_repr, if_pos (hs i rfl)]
    rfl

/-! ### What reading gives -/

/-- Only objects and arrays are read as handles. -/
theorem adopt_eq_document_iff {token : String} {j : Json} :
    d.adopt token j = some (.document e) ↔
      (j.isObject = true ∨ j.isArray = true) ∧ e = d.child token := by
  have hbranch : ∀ k : Json, d.adopt token k = some (.document (d.child token)) →
      (d.adopt token k = some (.document e) ↔ e = d.child token) := by
    intro k hk
    rw [hk, Option.some.injEq, Value.document.injEq]
    exact eq_comm
  cases j with
  | null => simp [adopt, Json.isObject, Json.isArray, Json.members?, Json.items?]
  | bool b => simp [adopt, Json.isObject, Json.isArray, Json.members?, Json.items?]
  | number n =>
    have hne : n.toValue ≠ .document e := by
      intro heq
      have hnumeric := isNumeric_toValue n
      rw [heq] at hnumeric
      cases hnumeric
    simp [adopt, Json.isObject, Json.isArray, Json.members?, Json.items?, hne]
  | string s => simp [adopt, Json.isObject, Json.isArray, Json.members?, Json.items?]
  | array items =>
    rw [hbranch _ rfl]
    exact ⟨fun he => ⟨.inr rfl, he⟩, And.right⟩
  | object members =>
    rw [hbranch _ rfl]
    exact ⟨fun he => ⟨.inl rfl, he⟩, And.right⟩

theorem lengthValue_ne_document (n : Nat) : lengthValue n ≠ .document e := by
  intro heq
  have hnumeric := isNumeric_lengthValue n
  rw [heq] at hnumeric
  cases hnumeric

/-- Nobody ever holds a document open. -/
theorem readable_document (h : Heap) (d : Document) : Readable h (.document d) := by
  intro hhold
  cases hhold

/-- A handle is read of a child of the node. -/
theorem exists_child_of_tryGet
    (hget : (tryGet P h (.document d) key).result = .ok (some (.document e))) :
    ∃ c j, d.node? h = some c ∧ (d.step h key).child? c = some j ∧
      d.adopt (d.step h key).token j = some (.document e) := by
  cases hn : d.isNode h with
  | true =>
    obtain ⟨members, hd⟩ := isNode_iff.mp hn
    have hread : d.readMember h key = .ok (some (.document e)) := by
      rw [tryGet_node hn] at hget
      exact hget
    rw [readMember, members?_eq_some_iff.mpr hd, Option.bind_some] at hread
    cases hj : Entries.value? key members with
    | none =>
      rw [hj] at hread
      cases hread
    | some j =>
      rw [hj] at hread
      rw [step_object hd]
      exact ⟨_, j, hd, hj, Except.ok.inj hread⟩
  | false =>
    cases ha : d.isArray h with
    | true =>
      obtain ⟨items, hd⟩ := isArray_iff.mp ha
      by_cases hkey : key = lengthKey
      · have hslots : Value.slots? h (.document d) =
            some (items.mapIdx fun i j => d.adopt i.repr j) :=
          slots?_eq_some_iff.mpr ⟨items, hd, rfl⟩
        have hlength := tryGet_lengthKey (P := P) hslots (readable_document h d)
        rw [hkey, hlength] at hget
        exact absurd (Option.some.inj (Except.ok.inj hget)) (lengthValue_ne_document _)
      · have hread : d.readItem h (indexOf key) = .ok (some (.document e)) := by
          rw [tryGet_items hd hkey] at hget
          exact hget
        rw [readItem_eq_slotAt hd] at hread
        obtain ⟨i, hi, hslot⟩ := map_eq_ok_iff.mp hread
        obtain ⟨lo, hi', rfl⟩ := position_eq_ok_iff.mp hi
        rw [List.getElem?_mapIdx] at hslot
        cases hj : items[(indexOf key).toNat]? with
        | none =>
          rw [hj] at hslot
          cases hslot
        | some j =>
          rw [hj] at hslot
          rw [step_array hd]
          exact ⟨_, j, hd, hj, hslot⟩
    | false =>
      rw [tryGet, Value.classify_document, hn, ha] at hget
      cases hget

/-- **What a handle has to do with the child it was read of**: `e` leads to the child `j` that the
key means at the node of `d`, and to nothing else. -/
structure Leads (h : Heap) (d : Document) (key : String) (e : Document) (j : Json) : Prop where
  /-- The member or the item that is read. -/
  held : ∃ c, d.node? h = some c ∧ (d.step h key).child? c = some j
  handle : e = d.child (d.step h key).token
  /-- The pointer is resolved from the root. -/
  resolved : resolve? (h.tree d.tree) e.pointer = some j
  image : h.image (some (.document e)) = .ok j
  kind : (j.isObject = true ∧ Value.kind h (.document e) = some .documentNode) ∨
    (j.isArray = true ∧ Value.kind h (.document e) = some .documentArray)

theorem kind_of_node? {j : Json} (hj : e.node? h = some j)
    (hbranch : j.isObject = true ∨ j.isArray = true) :
    (j.isObject = true ∧ Value.kind h (.document e) = some .documentNode) ∨
      (j.isArray = true ∧ Value.kind h (.document e) = some .documentArray) := by
  have hnode : e.isNode h = j.isObject := by rw [isNode, members?, hj]; rfl
  have harray : e.isArray h = j.isArray := by rw [isArray, items?, hj]; rfl
  rw [Value.kind_document, hnode, harray]
  rcases hbranch with hobject | harray'
  · rw [if_pos hobject]
    exact .inl ⟨hobject, rfl⟩
  · have hnot : ¬ j.isObject = true := by
      cases j <;> simp_all [Json.isObject, Json.isArray, Json.members?, Json.items?]
    rw [if_neg hnot, if_pos harray']
    exact .inr ⟨harray', rfl⟩

/-- **Reading addresses what was read**, whatever the name of the member is. -/
theorem tryGet_leads (hget : (tryGet P h (.document d) key).result = .ok (some (.document e))) :
    ∃ j, Leads h d key e j := by
  obtain ⟨c, j, hc, hj, hadopt⟩ := exists_child_of_tryGet hget
  obtain ⟨hbranch, rfl⟩ := adopt_eq_document_iff.mp hadopt
  have hnode : (d.child (d.step h key).token).node? h = some j := by
    rw [node?_child hc, Step.child?_token hj]
  refine ⟨j, ⟨c, hc, hj⟩, rfl, hnode, ?_, kind_of_node? hnode hbranch⟩
  rw [image_document, hnode]
  rfl

/-- Each child that has children of its own is read as a handle under its token. An index must
be one that a key can name. -/
theorem tryGet_token {s : Step} {c j : Json} (hc : d.node? h = some c) (hj : s.child? c = some j)
    (hbranch : j.isObject = true ∨ j.isArray = true) (hs : ∀ i, s = .item i → i < 2147483648) :
    (tryGet P h (.document d) s.token).result = .ok (some (.document (d.child s.token))) := by
  have hadopt : d.adopt s.token j = some (.document (d.child s.token)) :=
    adopt_eq_document_iff.mpr ⟨hbranch, rfl⟩
  rcases Step.child?_eq_some_iff.mp hj with
    ⟨name, members, rfl, rfl, hmember⟩ | ⟨i, items, rfl, rfl, hitem⟩
  · have hread : d.readMember h name = .ok (d.adopt name j) := by
      rw [readMember, members?_eq_some_iff.mpr hc, Option.bind_some, hmember]
    rw [Step.token] at hadopt ⊢
    rw [tryGet_node (isNode_of_node? hc), hread, hadopt]
    rfl
  · have hread : d.readItem h i = .ok (d.adopt i.repr j) := by
      rw [readItem, items?_eq_some_iff.mpr hc]
      simp only [Int.toNat_natCast, hitem]
      rw [if_neg (by omega)]
      rfl
    rw [Step.token] at hadopt ⊢
    rw [tryGet_items hc (repr_ne_lengthKey i), indexOf_repr, if_pos (hs i rfl), hread, hadopt]
    rfl

/-! ### Reading step by step -/

/-- **A handle is read along these steps** from the root of the tree `a`. Each read is made in a
heap of `S`, so that the tree may change between them. -/
inductive ReadAlong (P : Protocol) (S : Heap → Prop) (a : Address) : List Step → Document → Prop
  where
  | root : ReadAlong P S a [] ⟨a, ""⟩
  | read {path : List Step} {d e : Document} {h : Heap} {key : String} : ReadAlong P S a path d →
    S h → (tryGet P h (.document d) key).result = .ok (some (.document e)) →
    ReadAlong P S a (path ++ [d.step h key]) e

namespace ReadAlong

variable {S S' : Heap → Prop} {a : Address} {path path' : List Step} {d' : Document}

/-- Every way down a tree is read along, as long as there are children. -/
theorem concat {h : Heap} {s : Step} {c j : Json} (hd : ReadAlong P S a path d) (hh : S h)
    (hc : d.node? h = some c) (hj : s.child? c = some j)
    (hbranch : j.isObject = true ∨ j.isArray = true) (hs : ∀ i, s = .item i → i < 2147483648) :
    ReadAlong P S a (path ++ [s]) (d.child s.token) := by
  have hread := hd.read hh (tryGet_token hc hj hbranch hs)
  rwa [step_token hc hj hs] at hread

/-- The handle spells out the steps to it. -/
theorem pointer (hd : ReadAlong P S a path d) : d = ⟨a, ofTokens (path.map Step.token)⟩ := by
  induction hd with
  | root => rfl
  | @read path d e h key _ _ hget ih =>
    obtain ⟨j, hleads⟩ := tryGet_leads hget
    rw [hleads.handle, List.map_append, List.map_singleton, ofTokens_concat, child, ih]

/-- Handles of one tree are equal if they were read along the same tokens. -/
theorem same_iff_tokens (hd : ReadAlong P S a path d) (hd' : ReadAlong P S' a path' d') :
    Value.same (.document d) (.document d') = true ↔
      path.map Step.token = path'.map Step.token := by
  have hsame : Value.same (.document d) (.document d') = true ↔ d = d' := by
    rw [Value.same, beq_iff_eq, Value.document.injEq]
    · simp
    · simp
  rw [hsame, hd.pointer, hd'.pointer, Document.mk.injEq, ofTokens_inj]
  exact and_iff_right rfl

/-- In a tree that stays as it is, a token names one step only: a member cannot stand where an
item stands. -/
theorem path_eq_of_tokens (hfixed : ∀ g g', S g → S g' → g.tree a = g'.tree a)
    (hd : ReadAlong P S a path d) (hd' : ReadAlong P S a path' d')
    (ht : path.map Step.token = path'.map Step.token) : path = path' := by
  induction hd generalizing path' d' with
  | root => exact (List.map_eq_nil_iff.mp ht.symm).symm
  | @read path d e h key hd hh hget ih =>
    cases hd' with
    | root => simp at ht
    | @read path' d' _ h' key' hd' hh' hget' =>
      rw [List.map_append, List.map_append] at ht
      obtain ⟨hpath, hlast⟩ := List.append_inj' ht (List.length_singleton.trans
        List.length_singleton.symm)
      have hpaths := ih hd' hpath
      have heq : d' = d := by rw [hd.pointer, hd'.pointer, hpaths]
      subst heq
      have htree : d'.tree = a := by rw [hd'.pointer]
      have hnode : d'.isNode h = d'.isNode h' := by
        rw [isNode, isNode, members?, members?, node?, node?, htree, hfixed h h' hh hh']
      rw [hpaths, Step.eq_of_token (List.cons.inj hlast).1 hnode]

/-- **Handles are canonical.** Let `d` be read from the root of the tree `a`, one read after the
other. Then each handle that is read of `d`, now or later, leads to the child that was read;
`d` itself is spelled by the tokens on its way, and so are all other handles of the tree; no two
ways are spelled alike; so two handles of the tree are equal exactly when they were read along
the same tokens, and if the tree stayed as it was, exactly when they were read along the same
members and items. -/
theorem canonical (hd : ReadAlong P S a path d) :
    (∀ h key e, (tryGet P h (.document d) key).result = .ok (some (.document e)) →
      ∃ j, Leads h d key e j) ∧
    d = ⟨a, ofTokens (path.map Step.token)⟩ ∧
    (∀ p q : List String, ofTokens p = ofTokens q ↔ p = q) ∧
    (∀ S' path' d', ReadAlong P S' a path' d' → (Value.same (.document d) (.document d') = true ↔
      path.map Step.token = path'.map Step.token)) ∧
    ((∀ g g', S g → S g' → g.tree a = g'.tree a) → ∀ path' d', ReadAlong P S a path' d' →
      (Value.same (.document d) (.document d') = true ↔ path = path')) := by
  refine ⟨?_, hd.pointer, ?_, ?_, ?_⟩
  · intro h key e hget
    exact tryGet_leads hget
  · intro p q
    exact ofTokens_inj
  · intro S' path' d' hd'
    exact hd.same_iff_tokens hd'
  · intro hfixed path' d' hd'
    rw [hd.same_iff_tokens hd']
    constructor
    · intro ht
      exact hd.path_eq_of_tokens hfixed hd' ht
    · rintro rfl
      rfl

/-- A heap with a document whose member names look like parts of pointers. -/
def oddNames : Heap :=
  (({} : Heap).newDocument (.object [("a/b", .object [("", .null),
    ("~01", .array [.bool true, .object [("0", .array [])]])])])).1

theorem canonical_oddNames :
    ReadAlong .inert (· = oddNames) 0 [.member "a/b", .member "~01", .item 1, .member "0"]
        ⟨0, "/a~1b/~001/1/0"⟩ ∧
      ∀ path' d', ReadAlong .inert (· = oddNames) 0 path' d' →
        (Value.same (.document ⟨0, "/a~1b/~001/1/0"⟩) (.document d') = true ↔
          [.member "a/b", .member "~01", .item 1, .member "0"] = path') := by
  have hroot : ReadAlong .inert (· = oddNames) 0 [] ⟨0, ""⟩ := .root
  have hslash := hroot.concat (s := .member "a/b") rfl rfl rfl (.inl rfl) (by simp)
  have htilde := hslash.concat (s := .member "~01") rfl rfl rfl (.inr rfl) (by simp)
  have hitem := htilde.concat (s := .item 1) rfl rfl rfl (.inl rfl) (by simp)
  have hdigit := hitem.concat (s := .member "0") rfl rfl rfl (.inr rfl) (by simp)
  refine ⟨hdigit, (canonical hdigit).2.2.2.2 ?_⟩
  rintro g g' rfl rfl
  rfl

end ReadAlong

end ScriptHost.Document
