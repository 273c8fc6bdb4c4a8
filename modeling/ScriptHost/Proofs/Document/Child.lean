import ScriptHost.Proofs.Document.Locality
import ScriptHost.Proofs.Json.Overwrite

/-!
# Replacing a child

A write through a document handle under a key that is there replaces the child at the end of a
path, whether that is a member or an item (`ReplacesChild.write_iff`). What such a write comes to,
and whether it can be done, is not changed by replacing a child somewhere else
(`ReplacesChild.of_apart`).
-/

namespace ScriptHost.Document

open Pointer Access

variable {P : Protocol} {h h' : Heap} {d : Document} {base path qpath : List String}
  {key : String} {s : Slot} {j : Json}

/-- **What is stored replaces a child that is there**, the one at this path from the root. Nothing
is stored in place of a member that is to be removed, so something must be in the slot. -/
structure ReplacesChild (h : Heap) (d : Document) (key : String) (s : Slot)
    (path : List String) : Prop where
  named : ∃ base, tokens? d.pointer = some base ∧ path = base ++ [d.token h key]
  there : follow? (h.tree d.tree) path ≠ none
  present : d.isNode h = true → s ≠ none

theorem repr_eq_iff {i : Int} {n : Nat} : i.repr = n.repr ↔ i = n := by
  refine ⟨fun heq => ?_, fun heq => by rw [heq]; rfl⟩
  cases i with
  | ofNat m =>
    have hidx : index? m.repr = index? n.repr := congrArg index? heq
    rw [index?_repr, index?_repr] at hidx
    rw [Option.some.inj hidx]
    rfl
  | negSucc m =>
    -- a sign is no digit
    have hminus : '-' ∈ n.repr.toList := by
      rw [← heq]
      simp [Int.repr]
    rw [Nat.toList_repr] at hminus
    exact absurd (Numeral.isDigit_of_mem_toDigits hminus) (by decide)

/-- A change of one child of the node, as a change of the tree at the path of the child. -/
theorem modify_child {c c' : Json} {token : String} (hd : tokens? d.pointer = some base)
    (hc : d.node? h = some c) (hc' : c' = modifyChild token (fun _ => j) c) :
    (d.modify h fun _ => c') =
      h.setTree d.tree (modifyAt (fun _ => j) (base ++ [token]) (h.tree d.tree)) := by
  rw [modify_eq hd, modifyAt_append]
  refine congrArg (h.setTree d.tree) (modifyAt_congr fun i hi => ?_)
  rw [node?_eq hd, hi] at hc
  rw [hc', ← Option.some.inj hc]
  rfl

/-- What is found under the last token is a child of the node. -/
theorem exists_node_of_follow? (hd : tokens? d.pointer = some base) {token : String}
    (hthere : follow? (h.tree d.tree) (base ++ [token]) ≠ none) :
    ∃ c, d.node? h = some c ∧ child? token c ≠ none := by
  rw [follow?_append, ← node?_eq hd] at hthere
  cases hc : d.node? h with
  | none =>
    rw [hc] at hthere
    exact absurd rfl hthere
  | some c =>
    refine ⟨c, rfl, fun hnone => hthere ?_⟩
    rw [hc, Option.bind_some, follow?_cons, hnone, Option.bind_none]

namespace ReplacesChild

theorem live (hr : ReplacesChild h d key s path) : h.Live (.document d) := by
  obtain ⟨base, hd, rfl⟩ := hr.named
  obtain ⟨c, hc, hchild⟩ := exists_node_of_follow? hd hr.there
  refine live_of_node? hc ?_
  rintro rfl
  exact hchild rfl

/-- A node with children is an object or an array, and the key leads to one of them. -/
theorem node_cases (hr : ReplacesChild h d key s path) :
    ∃ base, tokens? d.pointer = some base ∧
      ((∃ members, d.node? h = some (.object members) ∧ key ∈ Entries.names members ∧
          path = base ++ [key]) ∨
        ∃ items, ∃ i : Nat, d.node? h = some (.array items) ∧ indexOf key = i ∧
          i < items.length ∧ path = base ++ [i.repr]) := by
  obtain ⟨base, hd, hpath⟩ := hr.named
  obtain ⟨c, hc, hchild⟩ := exists_node_of_follow? hd (hpath ▸ hr.there)
  refine ⟨base, hd, ?_⟩
  cases c with
  | object members =>
    rw [token_object hc] at hchild hpath
    refine .inl ⟨members, hc, ?_, hpath⟩
    by_contra hkey
    exact hchild ((Entries.value?_eq_none_iff key members).mpr hkey)
  | array items =>
    rw [token_array hc] at hchild hpath
    rw [child?] at hchild
    cases hi : index? (indexOf key).repr with
    | none =>
      rw [hi] at hchild
      exact absurd rfl hchild
    | some i =>
      rw [hi, Option.bind_some] at hchild
      have hrepr := index?_eq_some_iff.mp hi
      refine .inr ⟨items, i, hc, repr_eq_iff.mp hrepr, ?_, hrepr ▸ hpath⟩
      by_contra hlt
      exact hchild (List.getElem?_eq_none (Nat.le_of_not_lt hlt))
  | _ => exact absurd rfl hchild

/-- **The write that replaces a child** succeeds if what is stored has an image, and puts the image
at the path. -/
theorem write_iff (hr : ReplacesChild h d key s path) :
    Write P h key s (.document d) h' ↔ ∃ j, h.image s = .ok j ∧
      h' = h.setTree d.tree (modifyAt (fun _ => j) path (h.tree d.tree)) := by
  obtain ⟨base, hd, ⟨members, hnode, hkey, rfl⟩ | ⟨items, i, hnode, hidx, hi, rfl⟩⟩ := hr.node_cases
  · have hmodify : ∀ j, (d.modify h fun _ => .object (Entries.put key j members)) =
        h.setTree d.tree (modifyAt (fun _ => j) (base ++ [key]) (h.tree d.tree)) := by
      intro j
      refine modify_child hd hnode ?_
      exact congrArg Json.object (put_eq_modifyEntry hkey j)
    constructor
    · intro hw
      cases hw with
      | scripted kind _ _ => exact absurd kind (Value.classify_document_ne_scriptObject h d)
      | @member _ members' v j present node image =>
        rw [hnode] at node
        cases node
        exact ⟨j, image, hmodify j⟩
      | removed absent node =>
        exact absurd absent (hr.present (isNode_iff.mpr ⟨members, hnode⟩))
      | item node lo hi image =>
        rw [hnode] at node
        cases node
    · rintro ⟨j, himage, rfl⟩
      obtain ⟨v, hv⟩ := Option.ne_none_iff_exists'.mp
        (hr.present (isNode_iff.mpr ⟨members, hnode⟩))
      rw [← hmodify j]
      exact .member hv hnode himage
  · have hmodify : ∀ j, (d.modify h fun _ => .array (items.set (indexOf key).toNat j)) =
        h.setTree d.tree (modifyAt (fun _ => j) (base ++ [i.repr]) (h.tree d.tree)) := by
      intro j
      refine modify_child hd hnode ?_
      rw [hidx, Int.toNat_natCast, set_eq_modifyChild]
    constructor
    · intro hw
      cases hw with
      | scripted kind _ _ => exact absurd kind (Value.classify_document_ne_scriptObject h d)
      | member present node image =>
        rw [hnode] at node
        cases node
      | removed absent node =>
        rw [hnode] at node
        cases node
      | @item _ items' j node lo hi image =>
        rw [hnode] at node
        cases node
        exact ⟨j, image, hmodify j⟩
    · rintro ⟨j, himage, rfl⟩
      rw [← hmodify j]
      exact .item hnode (by omega) (by omega) himage

theorem isNode_eq (h : Heap) (d : Document) :
    d.isNode h = ((d.node? h).map Json.isObject).getD false := by
  rw [isNode, members?]
  cases d.node? h <;> rfl

/-- **A change at a path apart** leaves the child to be replaced where it is. -/
theorem of_apart (hr : ReplacesChild h d key s path) (hapart : Apart path qpath)
    (f : Json → Json) :
    ReplacesChild (h.setTree d.tree (modifyAt f qpath (h.tree d.tree))) d key s path := by
  obtain ⟨base, hd, hpath⟩ := hr.named
  have htree := Heap.tree_setTree_self (h := h) hr.live (modifyAt f qpath (h.tree d.tree))
  have hisNode : d.isNode (h.setTree d.tree (modifyAt f qpath (h.tree d.tree))) = d.isNode h := by
    rw [isNode_eq, isNode_eq, node?_eq hd, node?_eq hd, htree, outline_modifyAt (hpath ▸ hapart)]
  refine ⟨⟨base, hd, ?_⟩, ?_, ?_⟩
  · rw [hpath, token, token, hisNode]
  · rw [htree, follow?_modifyAt_apart hapart.symm]
    exact hr.there
  · rw [hisNode]
    exact hr.present

end ReplacesChild

end ScriptHost.Document
