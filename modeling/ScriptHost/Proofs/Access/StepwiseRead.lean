import ScriptHost.Proofs.Access.Stepwise

/-!
# Reading step by step

A reader is given no heap that it could change. Here it is given one, as the writer is in
`ScriptHost.Proofs.Access.Stepwise`: the kind is found first, then the cell is opened, and only
then is anything looked up in it. The reader leaves whether there was something to be found or not.

## What is proved

Listing, reading and counting step by step come to the same answers, and leave the heap with all
its holds as it was (`exec_keys`, `exec_read`, `exec_count`).
-/

namespace ScriptHost.Stepwise

open HeapM Outcome

/-- Looks something up in a cell that a reader has open meanwhile. -/
def lookUp {α : Type} (v : Value) (find : Heap → Except AccessError α) : HeapM α :=
  reading v (ask find)

/-- What a document answers. It is only asked for what it was found to have, so the second case does
not come up. -/
def present {α : Type} : Option α → Except AccessError α
  | some a => .ok a
  | none => .error .busy

/-- **Listing, step by step.** The names of a record are those of its type; its cell stays shut. -/
def keys (P : Protocol) (v : Value) : HeapM (List String) := do
  let h ← get
  match v.classify h with
  | none => throw (.noProperties v.type)
  | some (.mapping a) => lookUp (.mapping a) fun h => .ok (h.mapping a).content.names
  | some (.list a) => lookUp (.list a) fun h => .ok (Access.indexKeys (h.list a).content.length)
  | some (.array a) => lookUp (.array a) fun h => .ok (Access.indexKeys (h.array a).content.size)
  | some (.scriptObject o) =>
    -- an object answers for the heap as it was before it was asked
    lookUp o.handle fun g =>
      match o.state? g with
      | some _ => .ok (P.keys h o).1
      | none => .error (.noProperties .record)
  | some (.node d) => ask fun h => present (d.names? h)
  | some (.items d) => ask fun h => (present (d.length? h)).map Access.indexKeys
  | some (.record a) => ask fun h => .ok (h.record a).content.type.scriptNames

/-- The slot under a key of a mapping. -/
def entryUnder (key : String) (es : Entries Slot) : Except AccessError Slot :=
  match es.value? key with
  | some s => .ok s
  | none => .error (.notFound key)

/-- What an indexed value of this size has under a key: its size, or the element at an index. -/
def elementUnder (key : String) (size : Nat) (element : Nat → Slot) : Except AccessError Slot :=
  if key = Access.lengthKey then .ok (some (Access.lengthValue size))
  else do
    let i ← Access.position (Access.indexOf key) size
    .ok (element i)

/-- **A read, step by step.** -/
def read (P : Protocol) (v : Value) (key : String) : HeapM Slot := do
  let h ← get
  match v.classify h with
  | none => throw (.noProperties v.type)
  | some (.mapping a) => lookUp (.mapping a) fun h => entryUnder key (h.mapping a).content
  | some (.list a) =>
    lookUp (.list a) fun h =>
      elementUnder key (h.list a).content.length fun i => (h.list a).content[i]?.join
  | some (.array a) =>
    lookUp (.array a) fun h =>
      elementUnder key (h.array a).content.size fun i => (h.array a).content.get i
  | some (.scriptObject o) =>
    lookUp o.handle fun g =>
      match o.state? g with
      | some _ => .ok (P.get h o key).1
      | none => .ok none
  | some (.node d) => ask fun h => d.readMember h key
  | some (.items d) =>
    if key = Access.lengthKey then
      ask fun h => (present (d.length? h)).map fun n => some (Access.lengthValue n)
    else ask fun h => d.readItem h (Access.indexOf key)
  | some (.record a) =>
    lookUp (.record a) fun h => (h.record a).content.fields.read (h.record a).content.type key

/-- **Counting, step by step.** -/
def count (v : Value) : HeapM Nat := do
  match v.classify (← get) with
  | some (.list a) => lookUp (.list a) fun h => .ok (h.list a).content.length
  | some (.array a) => lookUp (.array a) fun h => .ok (h.array a).content.size
  | some (.items d) => ask fun h => present (d.length? h)
  | _ => throw (.noProperties v.type)

variable {α γ : Type} {P : Protocol} {h : Heap} {v : Value} {key : String}

/-- **Looking something up leaves no trace**: the cell is held as before, whatever was found. -/
theorem exec_lookUp {find : Heap → Except AccessError α} {r : Except AccessError α} {k : Hold}
    (hk : h.hold? v = some k) (hfind : find (h.changeHold Hold.enter v) = r) :
    (lookUp v find).exec h = (if k.readable then r else .error .busy, h) := by
  have hany : (h.hold? v).any Hold.readable = k.readable := by rw [hk, Option.any_some]
  rw [lookUp]
  cases hr : k.readable with
  | false =>
    rw [exec_reading_busy (hany.trans hr)]
    rfl
  | true =>
    have hask := exec_ask find (h.changeHold Hold.enter v)
    rw [exec_reading (hany.trans hr) hask, Heap.changeHold_release hk (leave_enter hr), hfind]
    rfl

/-- Looking something up in a cell, with its content as the place to look in. -/
theorem exec_lookUp_cell {c : Cell γ} {find : Heap → Except AccessError α}
    {f : γ → Except AccessError α} (hc : h.hold? v = some c.hold)
    (hfind : find (h.changeHold Hold.enter v) = f c.content) :
    (lookUp v find).exec h = (c.forReading >>= f, h) := by
  rw [exec_lookUp hc hfind, Cell.forReading]
  cases c.hold.readable <;> rfl

theorem exec_keys (P : Protocol) (h : Heap) (v : Value) :
    (keys P v).exec h = ((Access.tryKeys P h v).result, h) := by
  rw [keys, exec_bind_ok (exec_get h), Access.tryKeys]
  cases v.classify h with
  | none => rfl
  | some t =>
    cases t with
    | mapping a =>
      dsimp only [Reading.quiet]
      rw [map_eq_bind]
      exact exec_lookUp_cell (v := .mapping a) (c := h.mapping a) rfl
        (congrArg Except.ok
          (Heap.mapping_changeHold (p := fun c => c.content.names) fun _ => rfl))
    | list a =>
      dsimp only [Reading.quiet]
      rw [map_eq_bind]
      exact exec_lookUp_cell (v := .list a) (c := h.list a) rfl
        (congrArg Except.ok
          (Heap.list_changeHold (p := fun c => Access.indexKeys c.content.length) fun _ => rfl))
    | array a =>
      dsimp only [Reading.quiet]
      rw [map_eq_bind]
      exact exec_lookUp_cell (v := .array a) (c := h.array a) rfl
        (congrArg Except.ok
          (Heap.array_changeHold (p := fun c => Access.indexKeys c.content.size) fun _ => rfl))
    | scriptObject o =>
      dsimp only
      rw [exec_lookUp (hold?_handle_objectRef h o) rfl, Heap.state?_changeHold]
      cases (o.hold h).readable with
      | false => rfl
      | true => cases o.state? h <;> rfl
    | node d =>
      dsimp only
      rw [exec_ask]
      cases d.names? h <;> rfl
    | items d =>
      dsimp only
      rw [exec_ask]
      cases d.length? h <;> rfl
    | record a => rfl

theorem exec_read (P : Protocol) (h : Heap) (v : Value) (key : String) :
    (read P v key).exec h = ((Access.tryGet P h v key).result, h) := by
  rw [read, exec_bind_ok (exec_get h), Access.tryGet]
  cases v.classify h with
  | none => rfl
  | some t =>
    cases t with
    | mapping a =>
      exact exec_lookUp_cell (v := .mapping a) (c := h.mapping a) (f := entryUnder key) rfl
        (Heap.mapping_changeHold (p := fun c => entryUnder key c.content) fun _ => rfl)
    | list a =>
      exact exec_lookUp_cell (v := .list a) (c := h.list a)
        (f := fun items => elementUnder key items.length fun i => items[i]?.join) rfl
        (Heap.list_changeHold
          (p := fun c => elementUnder key c.content.length fun i => c.content[i]?.join)
          fun _ => rfl)
    | array a =>
      exact exec_lookUp_cell (v := .array a) (c := h.array a)
        (f := fun items => elementUnder key items.size items.get) rfl
        (Heap.array_changeHold (p := fun c => elementUnder key c.content.size c.content.get)
          fun _ => rfl)
    | scriptObject o =>
      dsimp only
      rw [exec_lookUp (hold?_handle_objectRef h o) rfl, Heap.state?_changeHold]
      cases (o.hold h).readable with
      | false => rfl
      | true => cases o.state? h <;> rfl
    | node d => exact exec_ask _ h
    | items d =>
      dsimp only
      by_cases hkey : key = Access.lengthKey
      · rw [if_pos hkey, if_pos hkey, exec_ask]
        cases d.length? h <;> rfl
      · rw [if_neg hkey, if_neg hkey]
        exact exec_ask _ h
    | record a =>
      exact exec_lookUp_cell (v := .record a) (c := h.record a)
        (f := fun r => r.fields.read r.type key) rfl
        (Heap.record_changeHold (p := fun c => c.content.fields.read c.content.type key)
          fun _ => rfl)

/-- Counting step by step gives the length, if there is one. -/
theorem exec_count (h : Heap) (v : Value) :
    ((count v).exec h).1.toOption = Access.length h v ∧ ((count v).exec h).2 = h := by
  rw [count, exec_bind_ok (exec_get h), Access.length]
  cases v.classify h with
  | none => exact ⟨rfl, rfl⟩
  | some t =>
    cases t with
    | list a =>
      have hlook : (lookUp (.list a) fun h => .ok (h.list a).content.length).exec h =
          ((h.list a).forReading >>= fun items => .ok items.length, h) :=
        exec_lookUp_cell rfl
          (congrArg Except.ok (Heap.list_changeHold (p := fun c => c.content.length) fun _ => rfl))
      dsimp only
      rw [hlook]
      refine ⟨?_, rfl⟩
      cases (h.list a).forReading <;> rfl
    | array a =>
      have hlook : (lookUp (.array a) fun h => .ok (h.array a).content.size).exec h =
          ((h.array a).forReading >>= fun items => .ok items.size, h) :=
        exec_lookUp_cell rfl
          (congrArg Except.ok (Heap.array_changeHold (p := fun c => c.content.size) fun _ => rfl))
      dsimp only
      rw [hlook]
      refine ⟨?_, rfl⟩
      cases (h.array a).forReading <;> rfl
    | items d =>
      dsimp only
      rw [exec_ask]
      refine ⟨?_, rfl⟩
      cases d.length? h <;> rfl
    | _ => exact ⟨rfl, rfl⟩

end ScriptHost.Stepwise
