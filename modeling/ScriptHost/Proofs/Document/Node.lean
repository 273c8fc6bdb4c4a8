import ScriptHost.Image
import ScriptHost.Proofs.Heap.WellFormed

/-!
# The node of a handle

A document handle leads to the node at the end of its path, and a step down from the handle
is a step down from the node. A change through a handle is a change at the end of its path.
-/

namespace ScriptHost.Document

open Pointer

variable {h : Heap} {d q : Document}

theorem members?_eq_some_iff {members : Entries Json} :
    d.members? h = some members ↔ d.node? h = some (.object members) := by
  simp only [members?, Option.bind_eq_some_iff, Json.members?_eq_some_iff, exists_eq_right]

theorem items?_eq_some_iff {items : List Json} :
    d.items? h = some items ↔ d.node? h = some (.array items) := by
  simp only [items?, Option.bind_eq_some_iff, Json.items?_eq_some_iff, exists_eq_right]

theorem isNode_iff : d.isNode h = true ↔ ∃ members, d.node? h = some (.object members) := by
  simp only [isNode, Option.isSome_iff_exists, members?_eq_some_iff]

theorem isArray_iff : d.isArray h = true ↔ ∃ items, d.node? h = some (.array items) := by
  simp only [isArray, Option.isSome_iff_exists, items?_eq_some_iff]

theorem isNode_eq_false_of_isArray (ha : d.isArray h = true) : d.isNode h = false := by
  obtain ⟨items, hd⟩ := isArray_iff.mp ha
  rw [isNode, members?, hd]
  rfl

/-- A node that is there stands at the end of a path. -/
theorem exists_path_of_node? {j : Json} (hj : d.node? h = some j) :
    ∃ path, Pointer.tokens? d.pointer = some path ∧ Pointer.follow? (h.tree d.tree) path = some j :=
  Option.bind_eq_some_iff.mp hj

/-- A node other than null lies in a tree that is there. -/
theorem live_of_node? {j : Json} (hj : d.node? h = some j) (hne : j ≠ .null) :
    h.Live (.document d) := by
  obtain ⟨path, -, hpath⟩ := exists_path_of_node? hj
  by_contra hlive
  rw [Heap.tree_of_size_le (Nat.le_of_not_lt hlive)] at hpath
  cases path with
  | nil => exact hne (Option.some.inj hpath).symm
  | cons t ts => cases hpath

/-- A number is read as a number. -/
theorem isNumeric_toValue (n : JsonNumber) : n.toValue.isNumeric = true := by
  cases n with
  | float x _ => rfl
  | integer n =>
    rw [JsonNumber.toValue]
    split
    · rfl
    · split <;> rfl

theorem image_document (h : Heap) (q : Document) :
    h.image (some (.document q)) = .ok ((q.node? h).getD .null) := by
  simp only [Heap.image, Heap.imageWithin]

variable {f : Json → Json} {path qpath : List String}

theorem node?_eq (hq : tokens? q.pointer = some qpath) (h : Heap) :
    q.node? h = follow? (h.tree q.tree) qpath := by
  rw [node?, resolve?, hq, Option.bind_some]

/-- The node of a new document is its tree. -/
theorem node?_newDocument_self (h : Heap) (j : Json) :
    (h.newDocument j).2.node? (h.newDocument j).1 = some j := by
  have htokens : tokens? (h.newDocument j).2.pointer = some [] := rfl
  rw [node?_eq htokens, follow?_nil, Heap.tree_newDocument]
  exact congrArg some (if_pos rfl)

/-- A new document leaves the nodes of the others alone. -/
theorem node?_newDocument {j : Json} (hd : d.node? h = some j) (hne : j ≠ .null) (k : Json) :
    d.node? (h.newDocument k).1 = some j := by
  have hlive : d.tree ≠ h.trees.size := Nat.ne_of_lt (live_of_node? hd hne)
  rw [node?, Heap.tree_newDocument, if_neg hlive]
  exact hd

theorem modify_eq (hd : tokens? d.pointer = some path) (h : Heap) (f : Json → Json) :
    d.modify h f = h.setTree d.tree (modifyAt f path (h.tree d.tree)) := by
  rw [Document.modify, Pointer.modify, hd]

theorem tree_modify_self (hd : tokens? d.pointer = some path) (hlive : h.Live (.document d)) :
    (d.modify h f).tree d.tree = modifyAt f path (h.tree d.tree) := by
  rw [modify_eq hd, Heap.tree_setTree_self hlive]

theorem node?_modify (hd : tokens? d.pointer = some path) (hlive : h.Live (.document d))
    (hq : tokens? q.pointer = some qpath) (htree : q.tree = d.tree) :
    q.node? (d.modify h f) = follow? (modifyAt f path (h.tree d.tree)) qpath := by
  rw [node?_eq hq, htree, tree_modify_self hd hlive]

theorem node?_modify_self (hd : tokens? d.pointer = some path) (hlive : h.Live (.document d)) :
    d.node? (d.modify h f) = (d.node? h).map f := by
  rw [node?_modify hd hlive hd rfl, follow?_modifyAt_self, node?_eq hd]

/-- One step down from a handle is one step down from its node. -/
theorem node?_child {c : Json} (hc : d.node? h = some c) (token : String) :
    (d.child token).node? h = child? token c := by
  obtain ⟨path, hd, hpath⟩ := exists_path_of_node? hc
  have hchild : tokens? (d.child token).pointer = some (path ++ [token]) := tokens?_extend hd
  have htree : (d.child token).tree = d.tree := rfl
  rw [node?_eq hchild, htree, follow?_append, hpath, Option.bind_some]
  exact Option.bind_fun_some _

/-- Writing back the node that is there changes nothing. -/
theorem modify_eq_self {c : Json} (hc : d.node? h = some c) : (d.modify h fun _ => c) = h := by
  obtain ⟨path, hd, hpath⟩ := exists_path_of_node? hc
  rw [modify_eq hd, modifyAt_eq_self hpath rfl]
  exact congrArg (fun trees => { h with trees }) (Store.set_get h.trees d.tree)

end ScriptHost.Document
