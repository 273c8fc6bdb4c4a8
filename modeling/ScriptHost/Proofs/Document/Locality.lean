import ScriptHost.Proofs.Access.Write

/-!
# What a document write touches

A handle names its node by a path, and is resolved from the root again at each use. So what a
write through one handle does to the others is a matter of their paths: let `t` be the path
of the handle that is written, and behind it the token of the child that the key addresses.

* Handles apart from `t` see what they saw before (`Unchanged`).
* Handles above the written one keep their outline, the names or the number of their
  children (`SameOutline`).
* The written node keeps its other children (`Rewritten`).
* Nothing outside the tree changes (`OnlyTree`).

`trySet_document_local` says all of this of every write that succeeds.
-/

namespace ScriptHost

open Pointer

/-! ### What a document handle shows -/

namespace Document

variable {P : Protocol} {h h' : Heap} {d q : Document}

/-- A handle shows the same in both heaps: its JSON, its kind, its keys and its length. -/
structure Unchanged (h h' : Heap) (q : Document) : Prop where
  node : q.node? h' = q.node? h
  image : h'.image (some (.document q)) = h.image (some (.document q))
  kind : Value.kind h' (.document q) = Value.kind h (.document q)
  keys : ∀ P, Access.tryKeys P h' (.document q) = Access.tryKeys P h (.document q)
  length : Access.length h' (.document q) = Access.length h (.document q)

/-- A handle has the same kind in both heaps, and as many children under the same names. -/
structure SameOutline (h h' : Heap) (q : Document) : Prop where
  kind : Value.kind h' (.document q) = Value.kind h (.document q)
  names : q.names? h' = q.names? h
  length : q.length? h' = q.length? h

/-- All that a handle shows comes from its node. -/
theorem Unchanged.of_node (hnode : q.node? h' = q.node? h) : Unchanged h h' q := by
  have hm : q.members? h' = q.members? h := by rw [members?, members?, hnode]
  have hi : q.items? h' = q.items? h := by rw [items?, items?, hnode]
  have hn : q.isNode h' = q.isNode h := congrArg Option.isSome hm
  have ha : q.isArray h' = q.isArray h := congrArg Option.isSome hi
  have hc : Value.classify h' (.document q) = Value.classify h (.document q) := by
    rw [Value.classify_document, Value.classify_document, hn, ha]
  refine ⟨hnode, ?_, ?_, fun P => ?_, ?_⟩
  · rw [image_document, image_document, hnode]
  · rw [Value.kind, Value.kind, hc]
  · simp only [Access.tryKeys, hc]
    rw [Value.classify_document]
    cases q.isNode h with
    | true => simp only [if_true, names?, hm]
    | false => cases q.isArray h <;> simp [length?, hi]
  · simp only [Access.length, hc]
    rw [Value.classify_document]
    cases q.isNode h with
    | true => rfl
    | false => cases q.isArray h <;> simp [length?, hi]

theorem SameOutline.of_names_length (hn : q.names? h' = q.names? h)
    (hl : q.length? h' = q.length? h) : SameOutline h h' q := by
  have hnode : q.isNode h' = q.isNode h := by
    have hsome := congrArg Option.isSome hn
    rw [names?, names?, Option.isSome_map, Option.isSome_map] at hsome
    exact hsome
  have harray : q.isArray h' = q.isArray h := by
    have hsome := congrArg Option.isSome hl
    rw [length?, length?, Option.isSome_map, Option.isSome_map] at hsome
    exact hsome
  exact ⟨by rw [Value.kind_document, Value.kind_document, hnode, harray], hn, hl⟩

/-! ### Other handles -/

variable {path qpath : List String}

/-- A change that keeps all children but one is not seen apart from that one. -/
theorem node?_modify_apart (hd : tokens? d.pointer = some path) (hlive : h.Live (.document d))
    {c c' : Json} (hc : d.node? h = some c) {token : String}
    (hchild : ∀ u, u ≠ token → child? u c' = child? u c)
    (hq : tokens? q.pointer = some qpath) (htree : q.tree = d.tree)
    (hapart : Apart (path ++ [token]) qpath) :
    q.node? (d.modify h fun _ => c') = q.node? h := by
  rw [node?_modify hd hlive hq htree, node?_eq hq, htree]
  rw [node?_eq hd] at hc
  rcases hapart.append_singleton with hleft | ⟨u, us, hu, rfl⟩
  · exact follow?_modifyAt_apart hleft _ _
  · rw [follow?_append, follow?_append, follow?_modifyAt_self, hc]
    simp only [Option.map_some, Option.bind_some, follow?_cons, hchild u hu]

/-- Above a change, nothing of the outline is lost. -/
theorem sameOutline_modify (hd : tokens? d.pointer = some path) (hlive : h.Live (.document d))
    (hq : tokens? q.pointer = some qpath) (htree : q.tree = d.tree) (hpre : qpath <+: path)
    (hne : qpath ≠ path) : SameOutline h (d.modify h f) q := by
  obtain ⟨rest, rfl⟩ := hpre
  have hnode : q.node? (d.modify h f) = (q.node? h).map (modifyAt f rest) := by
    rw [node?_modify hd hlive hq htree, follow?_modifyAt_append, node?_eq hq, htree]
  cases rest with
  | nil => exact absurd (List.append_nil qpath).symm hne
  | cons t ts =>
    cases hj : q.node? h with
    | none =>
      rw [hj] at hnode
      refine .of_names_length ?_ ?_ <;>
        simp only [names?, length?, members?, items?, hnode, hj, Option.map_none]
    | some j =>
      rw [hj] at hnode
      obtain ⟨hnames, hlength⟩ := outline_modifyChild t (modifyAt f ts) j
      refine .of_names_length ?_ ?_
      · rw [names?, names?, members?, members?, hnode, hj]
        exact hnames
      · rw [length?, length?, items?, items?, hnode, hj]
        exact hlength

/-! ### The written node -/

/-- The token of the child that a key addresses: a member name, or the numeral of an index. -/
def token (h : Heap) (d : Document) (key : String) : String :=
  if d.isNode h then key else (Access.indexOf key).repr

/-- **What a write does to the children of its node** when it stores `s` under `key`. -/
inductive Rewritten (h h' : Heap) (d : Document) (key : String) : Slot → Prop where
  /-- A member is replaced in its place, or put behind all others; those keep their values. -/
  | put {v : Value} {before after : Entries Json} (node : d.node? h = some (.object before))
      (node' : d.node? h' = some (.object after))
      (names : after.names = if key ∈ before.names then before.names else before.names ++ [key])
      (others : ∀ k, k ≠ key → Entries.value? k after = Entries.value? k before) :
      Rewritten h h' d key (some v)
  /-- A member is taken out, and the last member moves into its place. -/
  | removed {j : Json} {front back : Entries Json}
      (node : d.node? h = some (.object (front ++ (key, j) :: back)))
      (node' : d.node? h' = some (.object (front ++ Entries.lastFirst back))) :
      Rewritten h h' d key none
  /-- There is no such member, and nothing changes. -/
  | missing {members : Entries Json} (node : d.node? h = some (.object members))
      (absent : key ∉ members.names) (same : h' = h) : Rewritten h h' d key none
  /-- An item is replaced; the array keeps its length and all other items. -/
  | item {s : Slot} {before after : List Json} (node : d.node? h = some (.array before))
      (node' : d.node? h' = some (.array after)) (length : after.length = before.length)
      (others : ∀ i : Nat, (i : Int) ≠ Access.indexOf key → after[i]? = before[i]?) :
      Rewritten h h' d key s

/-- Two heaps that differ in one tree at most. -/
structure OnlyTree (h h' : Heap) (a : Address) : Prop where
  trees : ∀ b, b ≠ a → h'.tree b = h.tree b
  mappings : h'.mappings = h.mappings
  lists : h'.lists = h.lists
  arrays : h'.arrays = h.arrays
  objects : h'.objects = h.objects
  records : h'.records = h.records

/-- **A local change**: all that the rest of the heap and the other handles see of a write
through `d`, whose path is `path`. -/
structure LocalWrite (h h' : Heap) (d : Document) (path : List String) (key : String)
    (s : Slot) : Prop where
  apart : ∀ q qpath, q.tree = d.tree → tokens? q.pointer = some qpath →
    Apart (path ++ [d.token h key]) qpath → Unchanged h h' q
  astray : ∀ q, tokens? q.pointer = none → Unchanged h h' q
  above : ∀ q qpath, q.tree = d.tree → tokens? q.pointer = some qpath → qpath <+: path →
    qpath ≠ path → SameOutline h h' q
  node : Rewritten h h' d key s
  rest : OnlyTree h h' d.tree

theorem onlyTree_modify (h : Heap) (d : Document) (f : Json → Json) :
    OnlyTree h (d.modify h f) d.tree :=
  ⟨fun _ hb => Heap.tree_setTree_ne (Ne.symm hb) _, rfl, rfl, rfl, rfl, rfl⟩

/-- A change of a node is local if it keeps all children but the one that is addressed. -/
theorem localWrite_modify (hd : tokens? d.pointer = some path) {key : String} {s : Slot}
    {c c' : Json} (hc : d.node? h = some c) (hne : c ≠ .null)
    (hchild : ∀ u, u ≠ d.token h key → child? u c' = child? u c)
    (hnode : d.node? (d.modify h fun _ => c') = some c' →
      Rewritten h (d.modify h fun _ => c') d key s) :
    LocalWrite h (d.modify h fun _ => c') d path key s := by
  have hlive := live_of_node? hc hne
  refine ⟨fun q qpath htree hq hapart => ?_, fun q hq => ?_,
    fun q qpath htree hq hpre hlt => ?_, hnode ?_, onlyTree_modify h d _⟩
  · exact .of_node (node?_modify_apart hd hlive hc hchild hq htree hapart)
  · refine .of_node ?_
    rw [node?, node?, resolve?, resolve?, hq, Option.bind_none, Option.bind_none]
  · exact sameOutline_modify hd hlive hq htree hpre hlt
  · rw [node?_modify_self hd hlive, hc, Option.map_some]

theorem token_object {members : Entries Json} (hc : d.node? h = some (.object members))
    (key : String) : d.token h key = key := by
  rw [token, if_pos (isNode_iff.mpr ⟨members, hc⟩)]

theorem token_array {items : List Json} (hc : d.node? h = some (.array items)) (key : String) :
    d.token h key = (Access.indexOf key).repr := by
  have hnot : ¬ d.isNode h = true := by
    intro hnode
    obtain ⟨members, hm⟩ := isNode_iff.mp hnode
    rw [hc] at hm
    cases hm
  rw [token, if_neg hnot]

theorem child?_set {items : List Json} {i : Nat} {j : Json} {u : String} (hu : u ≠ i.repr) :
    child? u (.array (items.set i j)) = child? u (.array items) := by
  rw [child?, child?]
  cases hk : index? u with
  | none => rfl
  | some k =>
    have hik : i ≠ k := by
      rintro rfl
      exact hu (index?_eq_some_iff.mp hk)
    simp only [Option.bind_some, List.getElem?_set_ne hik]

theorem rewritten_swapErase {members : Entries Json} {key : String} (wf : members.WellFormed)
    (hc : d.node? h = some (.object members))
    (hnode : d.node? (d.modify h fun _ => .object (members.swapErase key)) =
      some (.object (members.swapErase key))) :
    Rewritten h (d.modify h fun _ => .object (members.swapErase key)) d key none := by
  by_cases hkey : key ∈ members.names
  · obtain ⟨front, j, back, rfl⟩ := Entries.exists_append_cons hkey
    rw [Entries.swapErase_append_cons wf] at hnode ⊢
    exact .removed hc hnode
  · rw [Entries.swapErase_of_not_mem hkey] at hnode ⊢
    exact .missing hc hkey (modify_eq_self hc)

end Document

namespace Access

open Document

/-- **A document write is local to its path.** -/
theorem trySet_document_local {P : Protocol} {h : Heap} {d : Document} {key : String} {s : Slot}
    (wf : (h.tree d.tree).WellFormed) (hok : (trySet P h (.document d) key s).result = .ok ()) :
    ∃ path, tokens? d.pointer = some path ∧
      LocalWrite h (trySet P h (.document d) key s).heap d path key s := by
  have hwrite := trySet_write hok
  generalize (trySet P h (.document d) key s).heap = h' at hwrite ⊢
  cases hwrite with
  | scripted kind _ _ => exact absurd kind (Value.classify_document_ne_scriptObject h d)
  | @member _ members v j present node image =>
    obtain ⟨path, hd, -⟩ := exists_path_of_node? node
    subst present
    refine ⟨path, hd, localWrite_modify hd node (by simp) (fun u hu => ?_) fun node' => ?_⟩
    · rw [token_object node] at hu
      exact Entries.value?_put_ne hu j members
    · exact .put node node' (Entries.names_put key j members)
        fun k hk => Entries.value?_put_ne hk j members
  | @removed _ members absent node =>
    obtain ⟨path, hd, hpath⟩ := exists_path_of_node? node
    subst absent
    have hmembers : members.WellFormed := (Json.wellFormed_object_iff.mp (wf.follow hpath)).1
    refine ⟨path, hd, localWrite_modify hd node (by simp) (fun u hu => ?_) fun node' => ?_⟩
    · rw [token_object node] at hu
      exact Entries.value?_swapErase_ne hmembers hu
    · exact rewritten_swapErase hmembers node node'
  | @item _ items j node lo hi image =>
    obtain ⟨path, hd, -⟩ := exists_path_of_node? node
    obtain ⟨i, hi'⟩ := Int.eq_ofNat_of_zero_le lo
    refine ⟨path, hd, localWrite_modify hd node (by simp) (fun u hu => ?_) fun node' => ?_⟩
    · rw [token_array node, hi'] at hu
      rw [hi', Int.toNat_natCast]
      exact child?_set hu
    · refine .item node node' (List.length_set ..) fun k hk => ?_
      rw [hi'] at hk ⊢
      rw [Int.toNat_natCast, List.getElem?_set_ne (by omega)]

/-- A heap with one document, an object that has an object and a scalar for members. -/
def twoMembers : Heap :=
  (({} : Heap).newDocument (.object [("a", .object [("x", .null)]), ("b", .bool true)])).1

theorem wellFormed_twoMembers : (twoMembers.tree 0).WellFormed := by
  have hinner : Json.WellFormed (.object [("x", .null)]) :=
    .object (List.nodup_singleton "x") fun e he => by
      cases List.mem_singleton.mp he
      exact .null
  refine .object (by simp [Entries.WellFormed, Entries.names]) fun e he => ?_
  rcases List.mem_cons.mp he with rfl | he
  · exact hinner
  · cases List.mem_singleton.mp he
    exact .bool true

/-- Taking a member out of the inner object is local to that object. -/
theorem trySet_removal_local :
    (trySet .inert twoMembers (.document ⟨0, "/a"⟩) "x" none).result = .ok () ∧
      ∃ path, tokens? "/a" = some path ∧
        LocalWrite twoMembers (trySet .inert twoMembers (.document ⟨0, "/a"⟩) "x" none).heap
          ⟨0, "/a"⟩ path "x" none :=
  ⟨rfl, trySet_document_local (d := ⟨0, "/a"⟩) wellFormed_twoMembers rfl⟩

end Access

end ScriptHost
