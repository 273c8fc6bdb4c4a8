import ScriptHost.Access.Total
import ScriptHost.Catalog.Records
import ScriptHost.Proofs.Heap.Indistinguishable
import ScriptHost.Proofs.Heap.Objectless

/-!
# Hidden fields stay secret

What a record has in its hidden fields cannot be found out by access, and cannot be changed by
it. The first is a statement about two heaps, which are equal but for hidden fields: whatever a
script does in both, it cannot tell them apart.

## The model

A script chooses each of its operations by all that it was answered before (`Script`), so its
arguments can be constants, handles that it was given, and what it has read. Script objects are
left out, for they answer as they like.

## What is proved

* One operation is answered alike in both heaps, and leaves heaps that are equal but for hidden
  fields again (`Operation.run_alike`).
* In each of them, it keeps all that is in hidden and in read-only fields (`Operation.run_kept`).
* So both hold of any number of operations (`hidden_fields_secret`).
-/

namespace ScriptHost

open Outcome

namespace Access

variable {P : Protocol} {h h' : Heap} {v : Value} {key : String} {s : Slot}

/-! ### Access on both sides -/

theorem tryKeys_eq (heq : h.Indistinguishable h')
    (hv : ∀ o, v.classify h ≠ some (.scriptObject o)) : tryKeys P h' v = tryKeys P h v := by
  have hclassify := heq.classify_eq v
  have htype := fun a => (heq.record a).type
  rw [heq.eq] at hclassify htype ⊢
  simp only [tryKeys, hclassify]
  cases hk : v.classify h with
  | none => rfl
  | some target =>
    cases target with
    | scriptObject o => exact absurd hk (hv o)
    | record a => simp only [htype a]
    | _ => rfl

theorem tryGet_eq (heq : h.Indistinguishable h')
    (hv : ∀ o, v.classify h ≠ some (.scriptObject o)) : tryGet P h' v key = tryGet P h v key := by
  have hclassify := heq.classify_eq v
  have hread := fun a => heq.read_eq a key
  rw [heq.eq] at hclassify hread ⊢
  simp only [tryGet, hclassify]
  cases hk : v.classify h with
  | none => rfl
  | some target =>
    cases target with
    | scriptObject o => exact absurd hk (hv o)
    | record a => exact congrArg Reading.quiet (hread a)
    | _ => rfl

/-- Two writes with the same outcome and the same events, whose heaps are indistinguishable. -/
structure WritesAlike (w w' : Writing) : Prop where
  result : w.result = w'.result
  events : w.events = w'.events
  heap : w.heap.Indistinguishable w'.heap

theorem commit_alike (heq : h.Indistinguishable h') {r r' : Except AccessError Heap}
    (hr : Outcome.Alike Heap.Indistinguishable r r') : WritesAlike (commit h r) (commit h' r') := by
  cases hr with
  | ok related => exact ⟨rfl, rfl, related⟩
  | error e => exact ⟨rfl, rfl, heq⟩

theorem trySet_alike (heq : h.Indistinguishable h')
    (hv : ∀ o, v.classify h ≠ some (.scriptObject o)) (key : String) (s : Slot) :
    WritesAlike (trySet P h v key s) (trySet P h' v key s) := by
  have hclassify := heq.classify_eq v
  cases v with
  | mapping a =>
    rw [trySet_mapping, trySet_mapping, heq.mapping_eq]
    refine commit_alike heq (.bind_same fun entries _ => .ok ?_)
    exact heq.setMapping a _
  | list a =>
    rw [trySet_list, trySet_list, heq.list_eq]
    refine commit_alike heq (.bind_same fun _ _ => .bind_same fun items _ => .ok ?_)
    exact heq.setList a items
  | array a =>
    rw [trySet_array, trySet_array, heq.array_eq]
    refine commit_alike heq
      (.bind_same fun _ _ => .bind_same fun _ _ => .bind_same fun fa _ => .ok ?_)
    exact heq.setArray a fa
  | object a => exact absurd (Value.classify_object h a) (hv _)
  | record a =>
    cases hscript : (h.record a).content.type.own.scriptObject with
    | true => exact absurd (by rw [Value.classify_record, if_pos hscript]) (hv (.view a))
    | false =>
      have hscript' : (h'.record a).content.type.own.scriptObject = false := by
        rw [← (heq.record a).type, hscript]
      rw [trySet_record hscript, trySet_record hscript']
      exact commit_alike heq (heq.write_alike a key s)
  | document d =>
    have hnode : d.isNode h' = d.isNode h := by
      rw [Document.isNode, Document.isNode, Document.members?, Document.members?, heq.node?_eq]
    have harray : d.isArray h' = d.isArray h := by
      rw [Document.isArray, Document.isArray, Document.items?, Document.items?, heq.node?_eq]
    cases hn : d.isNode h with
    | true =>
      have himage : memberImage h' s = memberImage h s := by
        cases s with
        | none => rfl
        | some v => rw [memberImage, memberImage, heq.image_eq]
      rw [trySet_node hn, trySet_node (hnode.trans hn), himage]
      exact commit_alike heq (.bind_same fun j _ => heq.writeMember_alike d key j)
    | false =>
      cases ha : d.isArray h with
      | true =>
        rw [trySet_items hn ha, trySet_items (hnode.trans hn) (harray.trans ha), heq.image_eq]
        exact commit_alike heq (.bind_same fun j _ => heq.writeItem_alike d (indexOf key) j)
      | false =>
        have hnone : Value.classify h (.document d) = none := by
          rw [Value.classify_document, hn, ha]
          rfl
        rw [trySet_none hnone, trySet_none (hclassify.trans hnone)]
        exact ⟨rfl, rfl, heq⟩
  | _ =>
    rw [trySet_none rfl, trySet_none rfl]
    exact ⟨rfl, rfl, heq⟩

/-! ### Total accessors on both sides -/

theorem get_eq (heq : h.Indistinguishable h') {object : Slot} (ho : h.Objectless)
    (hv : object.Plain) (key : Option String) : get P h' object key = get P h object key := by
  cases object with
  | none => rfl
  | some v =>
    cases key with
    | none => rfl
    | some key => rw [get, get, tryGet_eq heq (classify_ne_scriptObject ho hv)]

theorem keys_eq (heq : h.Indistinguishable h') {object : Slot} (ho : h.Objectless)
    (hv : object.Plain) : keys P h' object = keys P h object := by
  cases object with
  | none => rfl
  | some v => rw [keys, keys, tryKeys_eq heq (classify_ne_scriptObject ho hv)]

theorem set_alike (heq : h.Indistinguishable h') {object : Slot} (ho : h.Objectless)
    (hv : object.Plain) (key : Option String) (s : Slot) :
    (set P h object key s).2 = (set P h' object key s).2 ∧
      (set P h object key s).1.Indistinguishable (set P h' object key s).1 := by
  cases object with
  | none => exact ⟨rfl, heq⟩
  | some v =>
    cases key with
    | none => exact ⟨rfl, heq⟩
    | some key =>
      obtain ⟨hresult, hevents, hheap⟩ :=
        trySet_alike (P := P) heq (classify_ne_scriptObject ho hv) key s
      rw [set, set, ← hresult, ← hevents]
      cases (trySet P h v key s).result with
      | ok _ => exact ⟨rfl, hheap⟩
      | error e => exact ⟨rfl, hheap⟩

/-! ### What a write keeps -/

/-- **What becomes of a heap without script objects**: it is left without script objects, and all
that its records had in hidden and in read-only fields is still there. -/
structure Kept (h h' : Heap) : Prop where
  objectless : h'.Objectless
  hidden : Record.AllAgree RecordType.Hidden h.records h'.records
  readOnly : Record.AllAgree RecordType.ReadOnly h.records h'.records

theorem Kept.refl (ho : h.Objectless) : Kept h h := ⟨ho, .refl _ _, .refl _ _⟩

theorem Kept.trans {h'' : Heap} (hk : Kept h h') (hk' : Kept h' h'') : Kept h h'' :=
  ⟨hk'.objectless, hk.hidden.trans hk'.hidden, hk.readOnly.trans hk'.readOnly⟩

/-- A write changes no record, or one field of one record that is neither hidden nor read-only. -/
theorem Write.allAgree (ho : h.Objectless) (hv : Slot.Plain (some v))
    {q : RecordType → Nat → String → Prop}
    (hq : ∀ t name k d, t.FirstDeclares name k d → d.readonly = false → ¬ q t k d.field)
    (hw : Write P h key s v h') : Record.AllAgree q h.records h'.records := by
  cases hw with
  | @scripted _ o kind free state => exact absurd kind (classify_ne_scriptObject ho hv o)
  | @field a fields kind free stored =>
    refine .setFields_self a (Instance.write_keeps stored fun k d hfirst hro => ?_)
    exact hq _ key k d hfirst hro
  | _ => exact .refl q h.records

theorem trySet_kept (ho : h.Objectless) (hv : Slot.Plain (some v)) (hs : s.Plain)
    (key : String) : Kept h (trySet P h v key s).heap := by
  cases hr : (trySet P h v key s).result with
  | ok _ =>
    have hw := trySet_write hr
    refine ⟨hw.objectless ho hv hs, hw.allAgree ho hv ?_, hw.allAgree ho hv ?_⟩
    · intro t name k d hfirst _
      exact hfirst.not_hidden
    · intro t name k d hfirst hro
      exact hfirst.not_readOnly hro
  | error e =>
    rw [(trySet_error hr).1]
    exact .refl ho

theorem set_kept (ho : h.Objectless) {object : Slot} (hv : object.Plain) (hs : s.Plain)
    (key : Option String) : Kept h (set P h object key s).1 := by
  cases object with
  | none => exact .refl ho
  | some v =>
    cases key with
    | none => exact .refl ho
    | some key =>
      have hkept := trySet_kept (P := P) ho hv hs key
      rw [set]
      cases hr : (trySet P h v key s).result with
      | ok _ => exact hkept
      | error e => exact hkept

theorem get_plain (ho : h.Objectless) {object : Slot} (hv : object.Plain) (key : Option String) :
    (get P h object key).1.Plain := by
  cases object with
  | none => exact Slot.plain_none
  | some v =>
    cases key with
    | none => exact Slot.plain_none
    | some key =>
      rw [get]
      cases hr : (tryGet P h v key).result with
      | ok s => exact tryGet_plain ho hv hr
      | error e => exact Slot.plain_none

/-! ### Operations -/

/-- What a script can do with values. -/
inductive Operation where
  | get (object : Slot) (key : Option String)
  | set (object : Slot) (key : Option String) (s : Slot)
  | keys (object : Slot)
  | tryGet (v : Value) (key : String)
  | trySet (v : Value) (key : String) (s : Slot)
  | tryKeys (v : Value)
  | length (v : Value)
  | kind (v : Value)
  | display (v : Value)
  | image (s : Slot)

/-- What a script can be answered. -/
inductive Observation where
  | slot (s : Slot)
  | done
  | names (names : Option (List String))
  | read (r : Except AccessError Slot)
  | written (r : Except AccessError Unit)
  | listed (r : Except AccessError (List String))
  | length (n : Option Nat)
  | kind (k : Option Kind)
  | text (text : String)
  | image (r : Except AccessError Json)

/-- An answer, and what was reported on the way to it. -/
structure Response where
  /-- The answer. -/
  answer : Observation
  /-- The reports. -/
  events : List Event := []

/-- Carries out an operation. -/
def Operation.run (P : Protocol) (h : Heap) : Operation → Response × Heap
  | get object key =>
    let (s, events) := Access.get P h object key
    (⟨.slot s, events⟩, h)
  | set object key s =>
    let (heap, events) := Access.set P h object key s
    (⟨.done, events⟩, heap)
  | keys object =>
    let (names, events) := Access.keys P h object
    (⟨.names names, events⟩, h)
  | tryGet v key =>
    let r := Access.tryGet P h v key
    (⟨.read r.result, r.events⟩, h)
  | trySet v key s =>
    let w := Access.trySet P h v key s
    (⟨.written w.result, w.events⟩, w.heap)
  | tryKeys v =>
    let r := Access.tryKeys P h v
    (⟨.listed r.result, r.events⟩, h)
  | length v => ({ answer := .length (Access.length h v) }, h)
  | kind v => ({ answer := .kind (v.kind h) }, h)
  | display v => ({ answer := .text (v.display h) }, h)
  | image s => ({ answer := .image (h.image s) }, h)

/-- The arguments of an operation that a script object could be passed in. -/
def Operation.arguments : Operation → List Slot
  | get object _ => [object]
  | set object _ s => [object, s]
  | keys object => [object]
  | tryGet v _ => [some v]
  | trySet v _ s => [some v, s]
  | tryKeys v => [some v]
  | length v => [some v]
  | kind v => [some v]
  | display v => [some v]
  | image s => [s]

/-- The slot in an answer, if there is one. -/
def Observation.slot? : Observation → Option Slot
  | slot s => some s
  | read r => r.toOption
  | _ => none

/-- The arguments are no script objects. -/
def Operation.Plain (op : Operation) : Prop := ∀ s ∈ op.arguments, Slot.Plain s

/-- The response holds no script object. -/
def Response.Plain (r : Response) : Prop := ∀ s, r.answer.slot? = some s → s.Plain

/-- **One operation in one heap** comes upon no script object, and keeps what is hidden and what
is read-only. -/
theorem Operation.run_kept (ho : h.Objectless) {op : Operation} (hop : op.Plain) :
    (op.run P h).1.Plain ∧ Kept h (op.run P h).2 := by
  have hfirst : ∀ s ss, op.arguments = s :: ss → s.Plain := by
    intro s ss hargs
    exact hop s (hargs ▸ List.mem_cons_self)
  cases op with
  | get object key =>
    refine ⟨?_, .refl ho⟩
    rintro s ⟨⟩
    exact get_plain ho (hfirst object _ rfl) key
  | set object key s =>
    have hs : s.Plain := hop s (List.mem_cons_of_mem _ List.mem_cons_self)
    refine ⟨?_, set_kept ho (hfirst object _ rfl) hs key⟩
    rintro t ⟨⟩
  | tryGet v key =>
    refine ⟨?_, .refl ho⟩
    intro s hs
    have hread : (Access.tryGet P h v key).result.toOption = some s := hs
    cases hr : (Access.tryGet P h v key).result with
    | error e =>
      rw [hr] at hread
      cases hread
    | ok t =>
      rw [hr] at hread
      cases hread
      exact tryGet_plain ho (hfirst (some v) _ rfl) hr
  | trySet v key s =>
    have hs : s.Plain := hop s (List.mem_cons_of_mem _ List.mem_cons_self)
    refine ⟨?_, trySet_kept ho (hfirst (some v) _ rfl) hs key⟩
    rintro t ⟨⟩
  | _ =>
    refine ⟨?_, .refl ho⟩
    rintro s ⟨⟩

/-- **One operation in two heaps** is answered alike, and leaves heaps that are indistinguishable
again. -/
theorem Operation.run_alike (ho : h.Objectless) (heq : h.Indistinguishable h') {op : Operation}
    (hop : op.Plain) :
    (op.run P h).1 = (op.run P h').1 ∧ (op.run P h).2.Indistinguishable (op.run P h').2 := by
  have hfirst : ∀ s ss, op.arguments = s :: ss → s.Plain := by
    intro s ss hargs
    exact hop s (hargs ▸ List.mem_cons_self)
  cases op with
  | get object key =>
    refine ⟨?_, heq⟩
    rw [run, run, get_eq heq ho (hfirst object _ rfl)]
  | set object key s =>
    obtain ⟨hevents, hheap⟩ := set_alike (P := P) heq ho (hfirst object _ rfl) key s
    refine ⟨?_, hheap⟩
    show Response.mk .done (Access.set P h object key s).2 = _
    rw [hevents]
    rfl
  | keys object =>
    refine ⟨?_, heq⟩
    rw [run, run, keys_eq heq ho (hfirst object _ rfl)]
  | tryGet v key =>
    refine ⟨?_, heq⟩
    rw [run, run, tryGet_eq heq (classify_ne_scriptObject ho (hfirst (some v) _ rfl))]
  | trySet v key s =>
    obtain ⟨hresult, hevents, hheap⟩ := trySet_alike (P := P) heq
      (classify_ne_scriptObject ho (hfirst (some v) _ rfl)) key s
    refine ⟨?_, hheap⟩
    rw [run, run, hresult, hevents]
  | tryKeys v =>
    refine ⟨?_, heq⟩
    rw [run, run, tryKeys_eq heq (classify_ne_scriptObject ho (hfirst (some v) _ rfl))]
  | length v =>
    refine ⟨?_, heq⟩
    rw [run, run, heq.length_eq]
  | kind v =>
    refine ⟨?_, heq⟩
    rw [run, run, heq.kind_eq]
  | display v =>
    refine ⟨?_, heq⟩
    rw [run, run, heq.display_eq]
  | image s =>
    refine ⟨?_, heq⟩
    rw [run, run, heq.image_eq]

/-! ### Scripts -/

/-- **A script** chooses each operation by what it was answered before. -/
abbrev Script := List Response → Operation

/-- The first `n` operations of a script: its responses, and the heap that they leave. -/
def Script.run (P : Protocol) (script : Script) (h : Heap) : Nat → List Response × Heap
  | 0 => ([], h)
  | n + 1 =>
    let (past, before) := run P script h n
    let (r, after) := (script past).run P before
    (past ++ [r], after)

theorem Script.run_succ (P : Protocol) (script : Script) (h : Heap) (n : Nat) :
    script.run P h (n + 1) =
      ((script.run P h n).1 ++
          [((script (script.run P h n).1).run P (script.run P h n).2).1],
        ((script (script.run P h n).1).run P (script.run P h n).2).2) := rfl

/-- A script that was given no script object does not come up with one. -/
def Script.Plain (script : Script) : Prop :=
  ∀ past : List Response, (∀ r ∈ past, r.Plain) → (script past).Plain

variable {script : Script}

/-- A run in one heap comes upon no script object, and keeps what is hidden and what is read-only.
By induction on the number of operations. -/
theorem Script.run_kept (hscript : script.Plain) (ho : h.Objectless) (n : Nat) :
    (∀ r ∈ (script.run P h n).1, r.Plain) ∧ Kept h (script.run P h n).2 := by
  induction n with
  | zero => exact ⟨List.forall_mem_nil _, .refl ho⟩
  | succ n ih =>
    obtain ⟨hpast, hkept⟩ := ih
    obtain ⟨hplain, hstep⟩ := Operation.run_kept (P := P) hkept.objectless (hscript _ hpast)
    refine ⟨?_, hkept.trans hstep⟩
    intro r hr
    rcases List.mem_append.mp hr with hr | hr
    · exact hpast r hr
    · rw [List.mem_singleton.mp hr]
      exact hplain

/-- Runs in two heaps that are indistinguishable are answered alike, and the heaps stay so. -/
theorem Script.run_alike (hscript : script.Plain) (ho : h.Objectless)
    (heq : h.Indistinguishable h') (n : Nat) :
    (script.run P h n).1 = (script.run P h' n).1 ∧
      (script.run P h n).2.Indistinguishable (script.run P h' n).2 := by
  induction n with
  | zero => exact ⟨rfl, heq⟩
  | succ n ih =>
    obtain ⟨hpast, hheaps⟩ := ih
    obtain ⟨hplain, hkept⟩ := Script.run_kept (P := P) hscript ho n
    obtain ⟨hresponse, hheaps'⟩ := Operation.run_alike (P := P) hkept.objectless hheaps
      (hscript _ hplain)
    rw [run_succ, run_succ, ← hpast]
    refine ⟨?_, hheaps'⟩
    simp only [hresponse]

/-- **Hidden fields stay secret and stay as they are.** Take two heaps without script objects that
are equal but for hidden fields. However many operations a script carries out in both: it gets the
same answers and the same reports; the heaps are again equal but for hidden fields; and in both,
all that was in hidden and in read-only fields is still there. -/
theorem hidden_fields_secret (hscript : script.Plain) (ho : h.Objectless) (ho' : h'.Objectless)
    (heq : h.Indistinguishable h') (P : Protocol) (n : Nat) :
    (script.run P h n).1 = (script.run P h' n).1 ∧
    (script.run P h n).2.Indistinguishable (script.run P h' n).2 ∧
    Kept h (script.run P h n).2 ∧ Kept h' (script.run P h' n).2 := by
  obtain ⟨hresponses, hheaps⟩ := Script.run_alike (P := P) hscript ho heq n
  obtain ⟨-, hkept⟩ := Script.run_kept (P := P) hscript ho n
  obtain ⟨-, hkept'⟩ := Script.run_kept (P := P) hscript ho' n
  exact ⟨hresponses, hheaps, hkept, hkept'⟩

/-! ### Two dogs -/

/-- A heap with a dog, whose license is read-only. That it is an animal of another name is hidden
behind its own name, and what it weighs is not exposed at all. -/
def kennel (name : String) (weight : Int64) : Heap :=
  (({} : Heap).newRecord ⟨Blueprint.dogType,
    .extending ⟨"Dog", [Blueprint.string "nickname" "Rex", Blueprint.int64 "license" 1234]⟩
      (.root ⟨"Animal", [Blueprint.string "name" name, Blueprint.int32 "legs" 4,
        Blueprint.int64 "weight_grams" weight]⟩), none⟩).1

theorem objectless_kennel (name : String) (weight : Int64) : (kennel name weight).Objectless := by
  refine Heap.Objectless.newRecord .empty ?_ rfl
  refine Instance.stores_extending.mpr ⟨?_, Instance.stores_root.mpr ?_⟩ <;>
    simp [Slot.Plain, StoredField.read, Blueprint.string, Blueprint.int32, Blueprint.int64,
      FieldType.toSlot]

theorem hidden_name : Blueprint.dogType.Hidden 1 "name" := by
  have hnamed : ∀ d ∈ Blueprint.animalType.own.fields, d.field = "name" → d.name = "name" := by
    decide
  intro s d hs hd hfield
  cases hs
  refine ⟨0, Nat.one_pos, Blueprint.dogType, rfl, ⟨"name", "nickname", false, "Dog", "Dog", "Dog"⟩,
    by decide, ?_⟩
  exact (hnamed d hd hfield).symm

theorem hidden_weight : Blueprint.dogType.Hidden 1 "weight_grams" := by
  have hunmarked : ∀ d ∈ Blueprint.animalType.own.fields, d.field ≠ "weight_grams" := by decide
  intro s d hs hd hfield
  cases hs
  exact absurd hfield (hunmarked d hd)

theorem indistinguishable_kennel (name name' : String) (weight weight' : Int64) :
    (kennel name weight).Indistinguishable (kennel name' weight') := by
  have hname : StoredField.Agree (fun ident => ¬ Blueprint.dogType.Hidden 1 ident)
      (Blueprint.string "name" name) (Blueprint.string "name" name') :=
    ⟨rfl, fun hq => absurd hidden_name hq⟩
  have hweight : StoredField.Agree (fun ident => ¬ Blueprint.dogType.Hidden 1 ident)
      (Blueprint.int64 "weight_grams" weight) (Blueprint.int64 "weight_grams" weight') :=
    ⟨rfl, fun hq => absurd hidden_weight hq⟩
  refine ⟨rfl, rfl, rfl, rfl, rfl, rfl, fun a => ?_⟩
  rw [kennel, kennel, Heap.newRecord, Heap.newRecord, Store.get_add, Store.get_add]
  split
  · refine ⟨rfl, rfl, rfl, .extending (.refl _ _) (.root ⟨rfl, ?_⟩)⟩
    exact .cons hname (.cons (.refl _ _) (.cons hweight .nil))
  · exact ⟨rfl, rfl, rfl, .refl _ _⟩

/-- A script that writes to the dog, and then asks for its name. -/
def nameAfterLegs : Script
  | [] => .trySet (.record 0) "legs" (some (.int32 3))
  | _ :: _ => .get (some (.record 0)) (some "name")

theorem hidden_fields_secret_kennel :
    nameAfterLegs.Plain ∧ (kennel "generic" 12000).Objectless ∧ (kennel "Fido" 9).Objectless ∧
      (kennel "generic" 12000).Indistinguishable (kennel "Fido" 9) ∧
      (nameAfterLegs.run .inert (kennel "generic" 12000) 2).1 =
        (nameAfterLegs.run .inert (kennel "Fido" 9) 2).1 ∧
      (nameAfterLegs.run .inert (kennel "generic" 12000) 2).2.Indistinguishable
        (nameAfterLegs.run .inert (kennel "Fido" 9) 2).2 ∧
      Kept (kennel "generic" 12000) (nameAfterLegs.run .inert (kennel "generic" 12000) 2).2 ∧
      Kept (kennel "Fido" 9) (nameAfterLegs.run .inert (kennel "Fido" 9) 2).2 := by
  have hscript : nameAfterLegs.Plain := by
    intro past _ s hs a
    cases past with
    | nil =>
      rcases List.mem_cons.mp hs with rfl | hs
      · simp
      · rw [List.mem_singleton.mp hs]
        simp
    | cons _ _ =>
      rw [List.mem_singleton.mp hs]
      simp
  have ho := objectless_kennel "generic" 12000
  have ho' := objectless_kennel "Fido" 9
  have heq := indistinguishable_kennel "generic" "Fido" 12000 9
  exact ⟨hscript, ho, ho', heq, hidden_fields_secret hscript ho ho' heq .inert 2⟩

end Access

end ScriptHost
