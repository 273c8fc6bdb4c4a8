import ScriptHost.Proofs.Access.Write
import ScriptHost.Proofs.Image.Container
import ScriptHost.Proofs.Record.Hidden

/-!
# Heaps that differ in hidden fields

Two heaps are indistinguishable if they are equal but for what their records have in hidden
fields. What is seen of a heap without opening a record is the same in both then, and so is a
read of a record; and a change that is made in both leaves heaps that are indistinguishable
again.
-/

namespace ScriptHost

open Outcome

/-! ### Heaps that differ in hidden fields -/

/-- **Records that agree where `q` holds** of a layer and an identifier. Nothing else of them may
differ. -/
structure Record.Agree (q : RecordType → Nat → String → Prop) (c c' : Cell Record) : Prop where
  hold : c.hold = c'.hold
  type : c.content.type = c'.content.type
  view : c.content.view = c'.content.view
  fields : c.content.fields.Agree (q c.content.type) c'.content.fields

/-- **Stores of the same records**, which agree where `q` holds. -/
structure Record.AllAgree (q : RecordType → Nat → String → Prop) (rs rs' : Store (Cell Record)) :
    Prop where
  size : rs.size = rs'.size
  record : ∀ a, Record.Agree q (rs.get a) (rs'.get a)

namespace Record.AllAgree

variable {q : RecordType → Nat → String → Prop} {rs rs' rs'' : Store (Cell Record)}

theorem refl (q : RecordType → Nat → String → Prop) (rs : Store (Cell Record)) : AllAgree q rs rs :=
  ⟨rfl, fun _ => ⟨rfl, rfl, rfl, .refl _ _⟩⟩

theorem trans (heq : AllAgree q rs rs') (heq' : AllAgree q rs' rs'') : AllAgree q rs rs'' := by
  refine ⟨heq.size.trans heq'.size, fun a => ?_⟩
  obtain ⟨hhold, htype, hview, hfields⟩ := heq.record a
  obtain ⟨hhold', htype', hview', hfields'⟩ := heq'.record a
  refine ⟨hhold.trans hhold', htype.trans htype', hview.trans hview', hfields.trans ?_⟩
  rw [htype]
  exact hfields'

/-- Fields that agree are put into a record on both sides. -/
theorem setFields {h h' : Heap} (heq : AllAgree q h.records h'.records) (a : Address)
    {i i' : Instance} (hi : i.Agree (q (h.record a).content.type) i') :
    AllAgree q (h.setFields a i).records (h'.setFields a i').records := by
  obtain ⟨hhold, htype, hview, -⟩ := heq.record a
  refine ⟨?_, Store.rel_get_modify heq.size heq.record ⟨hhold, htype, hview, hi⟩⟩
  rw [Heap.setFields, Heap.setFields, Store.size_modify, Store.size_modify]
  exact heq.size

/-- A record is given fields that agree with its own. -/
theorem setFields_self {h : Heap} (a : Address) {i : Instance}
    (hi : (h.record a).content.fields.Agree (q (h.record a).content.type) i) :
    AllAgree q h.records (h.setFields a i).records := by
  have hset := (refl q h.records).setFields a hi
  rwa [Heap.setFields_fields] at hset

end Record.AllAgree

namespace Heap

/-- **Heaps that are equal but for hidden fields.** -/
structure Indistinguishable (h h' : Heap) : Prop where
  mappings : h.mappings = h'.mappings
  lists : h.lists = h'.lists
  arrays : h.arrays = h'.arrays
  objects : h.objects = h'.objects
  trees : h.trees = h'.trees
  records : Record.AllAgree (fun t k ident => ¬ t.Hidden k ident) h.records h'.records

namespace Indistinguishable

variable {h h' : Heap}

/-- Only the records differ. -/
theorem eq (heq : h.Indistinguishable h') : h' = { h with records := h'.records } := by
  obtain ⟨hmappings, hlists, harrays, hobjects, htrees, -⟩ := heq
  rw [hmappings, hlists, harrays, hobjects, htrees]

theorem record (heq : h.Indistinguishable h') (a : Address) :
    Record.Agree (fun t k ident => ¬ t.Hidden k ident) (h.record a) (h'.record a) :=
  heq.records.record a

theorem classify_eq (heq : h.Indistinguishable h') (v : Value) :
    v.classify h' = v.classify h := by
  have htype := fun a => (heq.record a).type
  rw [heq.eq] at htype ⊢
  cases v with
  | record a =>
    rw [Value.classify_record, Value.classify_record, htype a]
  | _ => rfl

theorem kind_eq (heq : h.Indistinguishable h') (v : Value) : v.kind h' = v.kind h := by
  rw [Value.kind, Value.kind, heq.classify_eq]

theorem length_eq (heq : h.Indistinguishable h') (v : Value) :
    Access.length h' v = Access.length h v := by
  have hclassify := heq.classify_eq v
  rw [heq.eq] at hclassify ⊢
  simp only [Access.length, hclassify]
  rfl

theorem image_eq (heq : h.Indistinguishable h') (s : Slot) : h'.image s = h.image s := by
  have halike : h.Alike { h with records := h'.records } :=
    ⟨fun c => by cases c <;> rfl, fun c _ => by cases c <;> rfl, fun c => by cases c <;> rfl,
      fun _ => rfl⟩
  rw [heq.eq]
  exact halike.imageWithin _ _ _

theorem display_eq (heq : h.Indistinguishable h') (v : Value) : v.display h' = v.display h := by
  have htype := fun a => (heq.record a).type
  rw [heq.eq] at htype ⊢
  have hwithin : ∀ levels v, Value.displayWithin { h with records := h'.records } levels v =
      Value.displayWithin h levels v := by
    intro levels
    induction levels with
    | zero =>
      intro v
      rfl
    | succ levels ih =>
      intro v
      cases v <;> simp only [Value.displayWithin, ih]
      case record a => rw [htype a]
      all_goals rfl
  exact hwithin _ v

/-! ### Changes on both sides -/

theorem setMapping (heq : h.Indistinguishable h') (a : Address) (es : Entries Slot) :
    (h.setMapping a es).Indistinguishable (h'.setMapping a es) :=
  { heq with
    mappings := congrArg (fun m => m.modify a fun c => { c with content := es }) heq.mappings }

theorem setList (heq : h.Indistinguishable h') (a : Address) (ss : List Slot) :
    (h.setList a ss).Indistinguishable (h'.setList a ss) :=
  { heq with lists := congrArg (fun m => m.modify a fun c => { c with content := ss }) heq.lists }

theorem setArray (heq : h.Indistinguishable h') (a : Address) (fa : FixedArray) :
    (h.setArray a fa).Indistinguishable (h'.setArray a fa) :=
  { heq with
    arrays := congrArg (fun m => m.modify a fun c => { c with content := fa }) heq.arrays }

theorem modify (heq : h.Indistinguishable h') (d : Document) (f : Json → Json) :
    (d.modify h f).Indistinguishable (d.modify h' f) := by
  refine { heq with trees := ?_ }
  simp only [Document.modify, setTree, tree, heq.trees]

theorem setFields (heq : h.Indistinguishable h') (a : Address) {i i' : Instance}
    (hi : i.Agree (fun k ident => ¬ (h.record a).content.type.Hidden k ident) i') :
    (h.setFields a i).Indistinguishable (h'.setFields a i') :=
  { heq with records := heq.records.setFields a hi }

theorem mapping_eq (heq : h.Indistinguishable h') (a : Address) : h'.mapping a = h.mapping a := by
  rw [mapping, mapping, heq.mappings]

theorem list_eq (heq : h.Indistinguishable h') (a : Address) : h'.list a = h.list a := by
  rw [list, list, heq.lists]

theorem array_eq (heq : h.Indistinguishable h') (a : Address) : h'.array a = h.array a := by
  rw [array, array, heq.arrays]

theorem node?_eq (heq : h.Indistinguishable h') (d : Document) : d.node? h' = d.node? h := by
  rw [Document.node?, Document.node?, tree, tree, heq.trees]

/-- A reader of a record sees the same in both heaps. -/
theorem read_eq (heq : h.Indistinguishable h') (a : Address) (name : String) :
    ((h'.record a).forReading >>= fun r => r.fields.read r.type name) =
      ((h.record a).forReading >>= fun r => r.fields.read r.type name) := by
  obtain ⟨hhold, htype, -, hfields⟩ := heq.record a
  rw [Cell.forReading, Cell.forReading, ← hhold]
  split
  · have hread := Instance.read_agree hfields name fun k d hfirst => hfirst.not_hidden
    show Instance.read (h'.record a).content.type (h'.record a).content.fields name =
      Instance.read (h.record a).content.type (h.record a).content.fields name
    rw [← htype, hread]
  · rfl

/-! ### Writers on both sides -/

theorem writeMember_alike (heq : h.Indistinguishable h') (d : Document) (name : String)
    (j : Option Json) :
    Outcome.Alike Indistinguishable (d.writeMember h name j) (d.writeMember h' name j) := by
  rw [Document.writeMember, Document.writeMember, Document.members?, Document.members?,
    heq.node?_eq]
  cases (d.node? h).bind Json.members? with
  | none => exact .error _
  | some members => exact .ok (heq.modify d _)

theorem writeItem_alike (heq : h.Indistinguishable h') (d : Document) (index : Int) (j : Json) :
    Outcome.Alike Indistinguishable (d.writeItem h index j) (d.writeItem h' index j) := by
  rw [Document.writeItem, Document.writeItem, Document.items?, Document.items?, heq.node?_eq]
  cases (d.node? h).bind Json.items? with
  | none => exact .error _
  | some items =>
    dsimp only
    split
    · exact .error _
    · exact .ok (heq.modify d _)

/-- A writer of a record fails in both heaps alike, or leaves them alike. -/
theorem write_alike (heq : h.Indistinguishable h') (a : Address) (name : String) (s : Slot) :
    Outcome.Alike Indistinguishable
      ((h.record a).forWriting >>= fun r =>
        r.fields.write r.type name s >>= fun fields => .ok (h.setFields a fields))
      ((h'.record a).forWriting >>= fun r =>
        r.fields.write r.type name s >>= fun fields => .ok (h'.setFields a fields)) := by
  obtain ⟨hhold, htype, -, hfields⟩ := heq.record a
  rw [Cell.forWriting, Cell.forWriting, ← hhold]
  split
  · have hwrite := Instance.write_agree hfields name s
      fun k d hfirst => hfirst.not_hidden
    rw [Outcome.ok_bind, Outcome.ok_bind, ← htype]
    exact hwrite.bind fun i i' hi => .ok (heq.setFields a hi)
  · exact .error _

end Indistinguishable

end Heap

end ScriptHost
