import ScriptHost.Access.Total
import ScriptHost.Proofs.Access.Write
import ScriptHost.Proofs.Heap.Hold
import ScriptHost.Proofs.Image.Container

/-!
# Writing step by step

A write is described elsewhere by what it leaves when it succeeds, and a write that fails
leaves the heap by decree. Here it is done one step after the other on a heap that is changed
in place: cells are opened and closed again, a conversion holds all the containers that it is
inside of, and an error does not take back what was done before it.

## What is proved

* A conversion leaves every hold as it was, however deep it fails (`exec_convert`).
* Writing step by step comes to the same answer and to the same heap (`exec_write`).
* So no write changes anything before the last point at which it can fail
  (`failed_write_changes_nothing`).
-/

namespace ScriptHost

open Outcome

/-! ### Computations on the heap -/

/-- A computation that changes the heap as it goes and keeps its changes when it fails. -/
abbrev HeapM := ExceptT AccessError (StateM Heap)

namespace HeapM

variable {α β : Type}

/-- What a computation gives on a heap, and the heap afterwards. -/
def exec (m : HeapM α) (h : Heap) : Except AccessError α × Heap := m.run.run h

/-- Runs a computation while a reader has a cell open. The reader leaves in any case. -/
def reading (v : Value) (body : HeapM α) : HeapM α := do
  unless ((← get).hold? v).any Hold.readable do throw .busy
  modify fun h => h.changeHold Hold.enter v
  try body finally modify fun h => h.changeHold Hold.leave v

/-- Runs a computation while a writer has a cell open. The writer leaves in any case. -/
def writing (v : Value) (body : HeapM α) : HeapM α := do
  unless ((← get).hold? v).any Hold.writable do throw .busy
  modify fun h => h.changeHold (fun _ => .exclusive) v
  try body finally modify fun h => h.changeHold Hold.leave v

/-- A step that looks at the heap and may fail. -/
def ask (f : Heap → Except AccessError α) : HeapM α := do
  liftExcept (f (← get))
where
  /-- An outcome as a computation that leaves the heap alone. -/
  liftExcept : Except AccessError α → HeapM α
    | .ok a => pure a
    | .error e => throw e

variable {m : HeapM α} {k : α → HeapM β} {h g : Heap} {a : α} {e : AccessError} {v : Value}

@[simp] theorem exec_pure (a : α) (h : Heap) : exec (pure a) h = (.ok a, h) := rfl

@[simp] theorem exec_get (h : Heap) : exec get h = (.ok h, h) := rfl

@[simp] theorem exec_modify (f : Heap → Heap) (h : Heap) : exec (modify f) h = (.ok (), f h) := rfl

@[simp] theorem exec_ask (f : Heap → Except AccessError α) (h : Heap) :
    exec (ask f) h = (f h, h) := by
  change exec (ask.liftExcept (f h)) h = _
  cases f h <;> rfl

theorem exec_bind_ok (hm : m.exec h = (.ok a, g)) : exec (m >>= k) h = (k a).exec g :=
  run_bind_ok hm

theorem exec_bind_error (hm : m.exec h = (.error e, g)) :
    exec (m >>= k) h = (.error e, g) := run_bind_error hm

theorem exec_finally {body : HeapM α} {r : Except AccessError α} (hb : body.exec h = (r, g))
    (f : Heap → Heap) : exec (try body finally modify f) h = (r, f g) := by
  have hb' : body h = (r, g) := hb
  unfold exec tryFinally
  dsimp only [tryFinally', ExceptT.finally, StateT.tryFinally]
  simp only [ExceptT.run_map, ExceptT.run_mk, StateT.run_map, StateT.run_bind]
  simp only [StateT.run, hb']
  cases r <;> rfl

theorem exec_reading_busy (hr : (h.hold? v).any Hold.readable = false) (body : HeapM α) :
    (reading v body).exec h = (.error .busy, h) := by
  rw [reading, exec_bind_ok (exec_get h), hr]
  rfl

theorem exec_reading {body : HeapM α} {r : Except AccessError α}
    (hr : (h.hold? v).any Hold.readable = true)
    (hb : body.exec (h.changeHold Hold.enter v) = (r, g)) :
    (reading v body).exec h = (r, g.changeHold Hold.leave v) := by
  rw [reading, exec_bind_ok (exec_get h), hr]
  exact exec_finally hb _

theorem exec_writing_busy (hw : (h.hold? v).any Hold.writable = false) (body : HeapM α) :
    (writing v body).exec h = (.error .busy, h) := by
  rw [writing, exec_bind_ok (exec_get h), hw]
  rfl

theorem exec_writing {body : HeapM α} {r : Except AccessError α}
    (hw : (h.hold? v).any Hold.writable = true)
    (hb : body.exec (h.changeHold (fun _ => .exclusive) v) = (r, g)) :
    (writing v body).exec h = (r, g.changeHold Hold.leave v) := by
  rw [writing, exec_bind_ok (exec_get h), hw]
  exact exec_finally hb _

/-- A sequence of computations that leave the heap alone leaves it alone. -/
theorem exec_mapM {γ : Type} {g : γ → HeapM α} {f : γ → Except AccessError α} {xs : List γ}
    (hg : ∀ x ∈ xs, (g x).exec h = (f x, h)) : (xs.mapM g).exec h = (xs.mapM f, h) := by
  induction xs with
  | nil => rfl
  | cons x xs ih =>
    have hx := hg x List.mem_cons_self
    have hxs := ih fun y hy => hg y (List.mem_cons_of_mem x hy)
    rw [List.mapM_cons, List.mapM_cons]
    cases hfx : f x with
    | error e =>
      rw [hfx] at hx
      exact exec_bind_error hx
    | ok a =>
      rw [hfx] at hx
      rw [exec_bind_ok hx]
      cases hfxs : xs.mapM f with
      | error e =>
        rw [hfxs] at hxs
        exact exec_bind_error hxs
      | ok as =>
        rw [hfxs] at hxs
        rw [exec_bind_ok hxs]
        rfl

end HeapM

/-! ### Conversion -/

namespace Stepwise

open HeapM

/-- Converts a container: it is put on the way down, and held by one more reader until its
slots are converted. -/
def convertContainer (opened : List Container) (c : Container) (slot : Slot → HeapM Json) :
    HeapM Json := do
  if c ∈ opened then throw (.unrepresentable c.type)
  reading c.handle do
    let images ← (c.slots (← get)).mapM slot
    return c.assemble (← get) images

/-- Converts what is in a slot, below the open containers. -/
def convert : Nat → List Container → Slot → HeapM Json
  | 0, opened, s => ask fun h => h.imageWithin 0 opened s
  | steps + 1, opened, s =>
    match s.bind Value.container? with
    | some c => convertContainer opened c (convert steps (c :: opened))
    | none => ask fun h => h.imageWithin 0 opened s

/-- One more reader makes no difference to a conversion. -/
theorem alike_enter (h : Heap) (v : Value) : h.Alike (h.changeHold Hold.enter v) := by
  have hread : ∀ k : Hold, k.enter.readable = k.readable := fun k => by cases k <;> rfl
  refine ⟨fun c => ?_, fun c images => ?_, fun c => ?_, fun d => ?_⟩
  · cases c with
    | mapping a =>
      exact Heap.mapping_changeHold (p := fun c => c.content.map Prod.snd) fun _ => rfl
    | list a => exact Heap.list_changeHold (p := Cell.content) fun _ => rfl
    | array a => exact Heap.array_changeHold (p := fun c => c.content.slots) fun _ => rfl
  · cases c with
    | mapping a =>
      exact Heap.mapping_changeHold (p := fun c => Json.object (c.content.names.zip images))
        fun _ => rfl
    | list a => rfl
    | array a => rfl
  · cases c with
    | mapping a => exact Heap.mapping_changeHold (p := fun c => c.hold.readable) fun _ => hread _
    | list a => exact Heap.list_changeHold (p := fun c => c.hold.readable) fun _ => hread _
    | array a => exact Heap.array_changeHold (p := fun c => c.hold.readable) fun _ => hread _
  · rw [Document.node?, Document.node?, Heap.tree_changeHold]

theorem hold?_handle (h : Heap) (c : Container) : h.hold? c.handle = some (c.hold h) := by
  cases c <;> rfl

theorem leave_enter {k : Hold} (hk : k.readable = true) : k.enter.leave = k := by
  cases k with
  | shared n => rfl
  | exclusive => cases hk

/-- A container whose slots are converted without a trace is converted without a trace. -/
theorem exec_convertContainer {h : Heap} {opened : List Container} {c : Container}
    {slot : Slot → HeapM Json} {image : Slot → Except AccessError Json}
    (hslot : ∀ s ∈ c.slots h, (slot s).exec (h.changeHold Hold.enter c.handle) =
      (image s, h.changeHold Hold.enter c.handle)) :
    (convertContainer opened c slot).exec h =
      (h.openable opened c >>= fun _ => ((c.slots h).mapM image).map (c.assemble h), h) := by
  unfold convertContainer Heap.openable
  by_cases hin : c ∈ opened
  · rw [if_pos hin, if_pos hin]
    exact exec_bind_error rfl
  rw [if_neg hin, if_neg hin]
  change (reading c.handle _).exec h = _
  cases hr : (c.hold h).readable with
  | false => exact exec_reading_busy (by rw [hold?_handle, Option.any_some, hr]) _
  | true =>
    have hany : (h.hold? c.handle).any Hold.readable = true := by
      rw [hold?_handle, Option.any_some, hr]
    have hback : (h.changeHold Hold.enter c.handle).changeHold Hold.leave c.handle = h :=
      Heap.changeHold_release (hold?_handle h c) (leave_enter hr)
    have hall := exec_mapM hslot
    have hsame := alike_enter h c.handle
    refine (exec_reading hany (g := h.changeHold Hold.enter c.handle)
      (r := ((c.slots h).mapM image).map (c.assemble h)) ?_).trans ?_
    · rw [exec_bind_ok (exec_get _), hsame.slots]
      cases him : (c.slots h).mapM image with
      | error e =>
        rw [him] at hall
        exact exec_bind_error hall
      | ok images =>
        rw [him] at hall
        rw [exec_bind_ok hall, exec_bind_ok (exec_get _), exec_pure, hsame.assemble]
        rfl
    · rw [hback]
      rfl

/-- **A conversion leaves no trace**: it gives the image, and the heap is what it was, its
holds included, also when an obstacle ends it in the depth of a value. -/
theorem exec_convert (steps : Nat) (opened : List Container) (s : Slot) (h : Heap) :
    (convert steps opened s).exec h = (h.imageWithin steps opened s, h) := by
  induction steps generalizing opened s h with
  | zero => rw [convert, exec_ask]
  | succ steps ih =>
    obtain hs | ⟨c, rfl⟩ := Heap.leaf_or_container s
    · rw [convert, hs, exec_ask, Heap.imageWithin_leaf hs h 0,
        Heap.imageWithin_leaf hs h (steps + 1)]
    · have hc : (some c.handle).bind Value.container? = some c := by cases c <;> rfl
      have hslot : ∀ t ∈ c.slots h,
          (convert steps (c :: opened) t).exec (h.changeHold Hold.enter c.handle) =
            (h.imageWithin steps (c :: opened) t, h.changeHold Hold.enter c.handle) := by
        intro t _
        rw [ih, (alike_enter h c.handle).imageWithin]
      rw [convert, hc, Heap.imageWithin_container]
      exact exec_convertContainer hslot

/-! ### Writing -/

/-- Converts what is in a slot. -/
def image (s : Slot) : HeapM Json := do
  convert ((← get).containers + 2) [] s

/-- Converts what is to become a member; nothing is to be converted for a removal. -/
def memberImage : Slot → HeapM (Option Json)
  | some v => some <$> image (some v)
  | none => pure none

/-- Opens a cell for writing, looks for its new content, and puts that into the cell. -/
def store {α : Type} (v : Value) (find : Heap → Except AccessError α) (put : α → Heap → Heap) :
    HeapM Unit :=
  writing v do
    let x ← ask find
    modify (put x)

/-- The array with the element under a key replaced. -/
def storeElement (fa : FixedArray) (key : String) (s : Slot) : Except AccessError FixedArray := do
  let i ← Access.position (Access.indexOf key) fa.size
  fa.store i s

/-- **A write, step by step**: cells are opened before anything is looked up in them, and a
value is converted before its document is touched. -/
def write (P : Protocol) (v : Value) (key : String) (s : Slot) : HeapM Unit := do
  match v.classify (← get) with
  | none => throw (.noProperties v.type)
  | some (.mapping a) =>
    store (.mapping a) (fun h => .ok ((h.mapping a).content.put key s)) fun es h =>
      h.setMapping a es
  | some (.list a) =>
    store (.list a) (fun h => Access.storeItem (h.list a).content (Access.indexOf key) s)
      fun items h => h.setList a items
  | some (.array a) =>
    store (.array a) (fun h => storeElement (h.array a).content key s) fun items h =>
      h.setArray a items
  | some (.scriptObject o) =>
    writing o.handle do
      match o.state? (← get) with
      | none => throw (.noProperties .record)
      | some _ => modify fun h => (P.set h o key s).1
  | some (.node d) =>
    let j ← memberImage s
    set (← ask fun h => d.writeMember h key j)
  | some (.items d) =>
    let j ← image s
    set (← ask fun h => d.writeItem h (Access.indexOf key) j)
  | some (.record a) =>
    store (.record a)
      (fun h => (h.record a).content.fields.write (h.record a).content.type key s)
      fun fields h => h.setFields a fields

section

variable {P : Protocol} {h : Heap} {v : Value} {key : String} {s : Slot}

theorem exec_image (s : Slot) (h : Heap) : (image s).exec h = (h.image s, h) := by
  rw [image, exec_bind_ok (exec_get h), exec_convert]
  rfl

theorem forWriting_bind {α β : Type} (c : Cell α) (f : α → Except AccessError β) :
    c.forWriting >>= f = c.forWriting >>= fun _ => f c.content := by
  rw [Cell.forWriting]
  split <;> rfl

/-- What is put into a cell step by step is put into it in one go. -/
theorem exec_store {α γ : Type} {c : Cell γ} {find : Heap → Except AccessError α}
    {put : α → Heap → Heap} (hc : h.hold? v = some c.hold)
    (hfind : find (h.changeHold (fun _ => .exclusive) v) = find h)
    (hput : ∀ x, Hold.leave .exclusive = c.hold →
      (put x (h.changeHold (fun _ => .exclusive) v)).changeHold Hold.leave v = put x h) :
    let r := c.forWriting >>= fun _ => find h >>= fun x => .ok (put x h)
    (store v find put).exec h = ((Access.commit h r).result, (Access.commit h r).heap) := by
  intro r
  cases hw : c.hold.writable with
  | false =>
    have hany : (h.hold? v).any Hold.writable = false := by rw [hc, Option.any_some, hw]
    have hr : r = .error .busy := by simp only [r, Cell.forWriting, hw]; rfl
    rw [hr, store, exec_writing_busy hany]
    rfl
  | true =>
    have hany : (h.hold? v).any Hold.writable = true := by rw [hc, Option.any_some, hw]
    have hfree : Hold.leave .exclusive = c.hold := (beq_iff_eq.mp hw).symm
    have hr : r = find h >>= fun x => .ok (put x h) := by simp only [r, Cell.forWriting, hw]; rfl
    rw [hr, store]
    cases hx : find h with
    | error e =>
      have hask := exec_ask find (h.changeHold (fun _ => .exclusive) v)
      rw [hfind, hx] at hask
      rw [exec_writing hany (exec_bind_error hask), Heap.changeHold_release hc hfree]
      rfl
    | ok x =>
      have hask := exec_ask find (h.changeHold (fun _ => .exclusive) v)
      rw [hfind, hx] at hask
      rw [exec_writing hany ((exec_bind_ok hask).trans (exec_modify _ _)), hput x hfree]
      rfl

/-- A document is written in one go once the value is converted. -/
theorem exec_convert_set {α : Type} {m : HeapM α} {x : Except AccessError α}
    (hm : m.exec h = (x, h)) (f : α → Heap → Except AccessError Heap) :
    let r := x >>= fun j => f j h
    (do let j ← m; set (← ask (f j)) : HeapM Unit).exec h =
      ((Access.commit h r).result, (Access.commit h r).heap) := by
  intro r
  cases hx : x with
  | error e =>
    rw [hx] at hm
    have hr : r = .error e := by simp only [r, hx]; rfl
    rw [hr]
    exact exec_bind_error hm
  | ok j =>
    rw [hx] at hm
    have hr : r = f j h := by simp only [r, hx]; rfl
    rw [hr, exec_bind_ok hm]
    have hask := exec_ask (f j) h
    cases hf : f j h with
    | error e =>
      rw [hf] at hask
      exact exec_bind_error hask
    | ok h' =>
      rw [hf] at hask
      exact exec_bind_ok hask

theorem exec_memberImage (s : Slot) (h : Heap) :
    (memberImage s).exec h = (Access.memberImage h s, h) := by
  cases s with
  | none => rfl
  | some v =>
    have him := exec_image (some v) h
    rw [memberImage, map_eq_pure_bind, Access.memberImage]
    cases hj : h.image (some v) with
    | error e =>
      rw [hj] at him
      exact exec_bind_error him
    | ok j =>
      rw [hj] at him
      exact exec_bind_ok him

theorem hold?_handle_objectRef (h : Heap) (o : ObjectRef) : h.hold? o.handle = some (o.hold h) := by
  cases o <;> rfl

theorem exec_scriptObject (o : ObjectRef) :
    (writing o.handle (do
      match o.state? (← get) with
      | none => throw (.noProperties .record)
      | some _ => modify fun h => (P.set h o key s).1)).exec h =
      ((Access.setObject P h o key s).result, (Access.setObject P h o key s).heap) := by
  unfold Access.setObject
  cases hw : (o.hold h).writable with
  | false =>
    have hany : (h.hold? o.handle).any Hold.writable = false := by
      rw [hold?_handle_objectRef, Option.any_some, hw]
    exact exec_writing_busy hany _
  | true =>
    have hany : (h.hold? o.handle).any Hold.writable = true := by
      rw [hold?_handle_objectRef, Option.any_some, hw]
    cases hst : o.state? h with
    | none =>
      have hback :
          (h.changeHold (fun _ => .exclusive) o.handle).changeHold Hold.leave o.handle = h :=
        Heap.changeHold_release (hold?_handle_objectRef h o) (beq_iff_eq.mp hw).symm
      refine (exec_writing hany (r := .error (.noProperties .record))
        (g := h.changeHold (fun _ => .exclusive) o.handle) ?_).trans (congrArg _ hback)
      rw [exec_bind_ok (exec_get _), Heap.state?_changeHold, hst]
      rfl
    | some st =>
      refine exec_writing hany (r := .ok ()) ?_
      rw [exec_bind_ok (exec_get _), Heap.state?_changeHold, hst]
      rfl

/-- **Writing step by step** comes to the same answer and the same heap as a write that is
done in one go or not at all. -/
theorem exec_write (P : Protocol) (h : Heap) (v : Value) (key : String) (s : Slot) :
    (write P v key s).exec h =
      ((Access.trySet P h v key s).result, (Access.trySet P h v key s).heap) := by
  rw [write, exec_bind_ok (exec_get h), Access.trySet]
  cases v.classify h with
  | none => rfl
  | some t =>
    cases t with
    | mapping a =>
      dsimp only
      rw [forWriting_bind]
      exact exec_store (v := .mapping a) (c := h.mapping a) rfl
        (congrArg Except.ok
          (Heap.mapping_changeHold (p := fun c => c.content.put key s) fun _ => rfl))
        fun es hfree => Heap.setMapping_release hfree es
    | list a =>
      dsimp only
      rw [forWriting_bind]
      exact exec_store (v := .list a) (c := h.list a) rfl
        (Heap.list_changeHold (p := fun c => Access.storeItem c.content (Access.indexOf key) s)
          fun _ => rfl)
        fun items hfree => Heap.setList_release hfree items
    | array a =>
      have hfind : ∀ (fa : FixedArray) (f : FixedArray → Except AccessError Heap),
          (Access.position (Access.indexOf key) fa.size >>= fun i => fa.store i s >>= f) =
            storeElement fa key s >>= f := fun fa f => (bind_assoc _ _ _).symm
      dsimp only
      rw [forWriting_bind]
      simp only [hfind]
      exact exec_store (v := .array a) (c := h.array a) rfl
        (Heap.array_changeHold (p := fun c => storeElement c.content key s) fun _ => rfl)
        fun items hfree => Heap.setArray_release hfree items
    | scriptObject o => exact exec_scriptObject o
    | node d => exact exec_convert_set (exec_memberImage s h) fun j h => d.writeMember h key j
    | items d =>
      exact exec_convert_set (exec_image s h) fun j h => d.writeItem h (Access.indexOf key) j
    | record a =>
      dsimp only
      rw [forWriting_bind]
      exact exec_store (v := .record a) (c := h.record a) rfl
        (Heap.record_changeHold
          (p := fun c => c.content.fields.write c.content.type key s) fun _ => rfl)
        fun fields hfree => Heap.setFields_release hfree fields

end

end Stepwise

namespace Access

/-- What a script object reports on a write, and nothing for any other value. -/
theorem trySet_events {P : Protocol} {h : Heap} {o : Value} {key : String} {s : Slot}
    (hok : (trySet P h o key s).result = .ok ()) :
    (o.kind h ≠ some .scriptObject → (trySet P h o key s).events = []) ∧
      ∀ r, o.classify h = some (.scriptObject r) → (trySet P h o key s).events =
        (P.set (h.changeHold (fun _ => .exclusive) r.handle) r key s).2 := by
  rw [trySet] at hok ⊢
  rw [Value.kind]
  cases hv : o.classify h with
  | none =>
    rw [hv] at hok
    cases hok
  | some t =>
    rw [hv] at hok
    cases t with
    | scriptObject r =>
      refine ⟨fun hne => absurd rfl hne, ?_⟩
      rintro _ ⟨⟩
      rcases setObject_cases P h r key s with ⟨-, -, heq⟩ | ⟨e, heq⟩
      · dsimp only
        rw [heq]
      · dsimp only at hok
        rw [heq] at hok
        cases hok
    | _ =>
      refine ⟨fun _ => commit_events, fun r hr => ?_⟩
      cases hr

/-- **A failed write changes nothing.** If a write fails, the heap with all its holds is what
it was, also when the write is done step by step in place; the total write then leaves the
heap alone and reports that it did. If a write succeeds, the total write does the same, and
has nothing to report but what a script object says itself. -/
theorem failed_write_changes_nothing (P : Protocol) (h : Heap) (o : Value) (key : String)
    (s : Slot) :
    (∀ e, (trySet P h o key s).result = .error e →
      (trySet P h o key s).heap = h ∧
      (Stepwise.write P o key s).exec h = (.error e, h) ∧
      set P h (some o) (some key) s = (h, [.writeIgnored key o.type e])) ∧
    ((trySet P h o key s).result = .ok () →
      (Stepwise.write P o key s).exec h = (.ok (), (trySet P h o key s).heap) ∧
      (set P h (some o) (some key) s).1 = (trySet P h o key s).heap ∧
      (o.kind h ≠ some .scriptObject → (set P h (some o) (some key) s).2 = []) ∧
      ∀ r, o.classify h = some (.scriptObject r) → (set P h (some o) (some key) s).2 =
        (P.set (h.changeHold (fun _ => .exclusive) r.handle) r key s).2) := by
  refine ⟨fun e he => ?_, fun hok => ?_⟩
  · obtain ⟨hheap, hevents⟩ := trySet_error he
    refine ⟨hheap, ?_, ?_⟩
    · rw [Stepwise.exec_write, he, hheap]
    · simp only [set, he, hheap, hevents, List.nil_append]
  · obtain ⟨hquiet, hreport⟩ := trySet_events hok
    have hset : set P h (some o) (some key) s =
        ((trySet P h o key s).heap, (trySet P h o key s).events) := by
      simp only [set, hok]
    rw [hset, Stepwise.exec_write, hok]
    exact ⟨rfl, rfl, hquiet, hreport⟩

/-- A heap with a document that is an empty object, and with a list that contains itself. -/
def selfContained : Heap :=
  ((({} : Heap).newList [some (.list 0)]).1.newDocument (.object [])).1

/-- A list that contains itself is not stored, and the document stays empty. -/
theorem failed_write_of_cycle :
    (trySet .inert selfContained (.document ⟨0, ""⟩) "k" (some (.list 0))).heap = selfContained ∧
      (Stepwise.write .inert (.document ⟨0, ""⟩) "k" (some (.list 0))).exec selfContained =
        (.error (.unrepresentable .list), selfContained) ∧
      set .inert selfContained (some (.document ⟨0, ""⟩)) (some "k") (some (.list 0)) =
        (selfContained, [.writeIgnored "k" .document (.unrepresentable .list)]) :=
  (failed_write_changes_nothing .inert selfContained (.document ⟨0, ""⟩) "k" (some (.list 0))).1
    (.unrepresentable .list) rfl

end Access

end ScriptHost
