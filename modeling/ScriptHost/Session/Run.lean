import ScriptHost.Session.Command

/-!
# Running commands

A command changes the session and gives an answer, unless a panic passes through it. What
was changed before a panic stays changed; only answers are lost. On its way out a panic
ends the holds and scopes that it leaves, but not the scopes whose guards have names.
-/

namespace ScriptHost

/-- Why a command ends early. -/
inductive Interruption where
  /-- The answer is already clear. -/
  | answered (a : Answer)
  /-- Everything is given up until somebody catches it. -/
  | panicked (message : String)

/-- What happens in a session. -/
abbrev SessionM := ExceptT Interruption (StateM Session)

namespace Session

/-! ### Parts of commands -/

/-- Ends a command with an answer. -/
def answer {α : Type} (a : Answer) : SessionM α :=
  throw (.answered a)

/-- Evaluates an expression. -/
def eval (e : Expression) : SessionM Slot := do
  let s ← get
  match e.eval s.scope s.heap with
  | .ok (heap, v) =>
    set { s with heap }
    pure v
  | .error (.unreadable e) => answer (.unreadable e)
  | .error .meaningless => answer .meaningless

/-- Evaluates an expression that must have a value. -/
def evalValue (e : Expression) : SessionM Value := do
  match ← eval e with
  | some v => pure v
  | none => answer .meaningless

/-- Evaluates an expression that must be an array. -/
def evalArray (e : Expression) : SessionM Address := do
  match ← eval e with
  | some (.array a) => pure a
  | _ => answer .meaningless

/-- Evaluates an expression that must be a record. -/
def evalRecord (e : Expression) : SessionM Address := do
  match ← eval e with
  | some (.record a) => pure a
  | _ => answer .meaningless

/-- Evaluates an expression that must be a document handle. -/
def evalDocument (e : Expression) : SessionM Document := do
  match ← eval e with
  | some (.document d) => pure d
  | _ => answer .meaningless

/-- The context of a name. -/
def context (name : String) : SessionM Frame := do
  match (← get).contexts.value? name with
  | some f => pure f
  | none => answer .meaningless

/-- The blueprint of a struct. -/
def blueprint (struct : String) : SessionM Blueprint :=
  match Blueprint.find? struct with
  | some b => pure b
  | none => answer .meaningless

/-- The result of an access; a failure is the answer. -/
def require {α : Type} (r : Except AccessError α) : SessionM α :=
  match r with
  | .ok a => pure a
  | .error e => answer (.failed e)

/-- Stores a slot in a variable, if one is named. -/
def store (name : Option String) (v : Slot) : SessionM Unit :=
  match name with
  | some name => modify fun s => { s with scope := s.scope.put name v }
  | none => pure ()

/-- Adds events to those that wait to be collected. -/
def emit (events : List Event) : SessionM Unit :=
  modify fun s => { s with events := s.events ++ events }

/-- Replaces the heap. -/
def setHeap (heap : Heap) : SessionM Unit :=
  modify fun s => { s with heap }

/-- Replaces the stack of contexts and reports how that came. -/
def setStack (stack : ContextStack) (events : List Event) : SessionM Unit :=
  modify fun s => { s with stack, events := s.events ++ events }

/-- A slot as an answer shows it. -/
def refer (v : Slot) : SessionM (Option Reference) := do
  pure ((← get).reference v)

/-- The number of contexts in flight. -/
def depth : SessionM Nat := do
  pure (← get).stack.depth

/-- Does something at the end of an action, also if a panic passes. -/
def withEnding {α : Type} (action : SessionM α) (ending : SessionM Unit) : SessionM α := do
  let a ← tryCatch action fun e => do
    ending
    throw e
  ending
  pure a

/-- Drops a guard. -/
def close (g : ContextGuard) : SessionM Unit := do
  let (stack, events) := ContextStack.close (← get).stack g
  setStack stack events

/-- A scalar coerced from a slot, of the type of the default. -/
def coerced (h : Heap) (v : Slot) : Value → Slot
  | .bool b => some (.bool (Coercion.toBool v b))
  | .int32 n => some (.int32 (Coercion.toInt32 v n))
  | .int64 n => some (.int64 (Coercion.toInt64 v n))
  | .float32 x => some (.float32 (Coercion.toFloat32 v x))
  | .float64 x => some (.float64 (Coercion.toFloat64 v x))
  | .string s => some (.string (Coercion.toText h v s))
  | _ => none

/-- A slot coerced to every type, with defaults that stand out. -/
def coercions (h : Heap) (v : Slot) (flag : Bool) : CoercionSheet where
  string := Coercion.toText h v "dflt"
  int32 := Coercion.toInt32 v (-77)
  int64 := Coercion.toInt64 v (-7777)
  float32 := Coercion.toFloat32 v (.ofRatio _ true 1 2)
  float64 := Coercion.toFloat64 v (.ofRatio _ true 1 4)
  bool := Coercion.toBool v flag

/-- All views of a value. -/
def viewSheet (h : Heap) (v : Value) : ViewSheet where
  value := v
  display := v.display h
  diagnostic := v.diagnostic h
  kind := v.kind h
  length := Access.length h v

/-- The description of a document handle. -/
def documentSheet (h : Heap) (d : Document) : DocumentSheet where
  document := d
  text := (d.node? h).map Json.write
  isNode := d.isNode h
  isArray := d.isArray h
  names := d.names? h
  length := d.length? h

/-- The descriptor of a struct's own field. -/
def ownDescriptor (struct name : String) : SessionM FieldDescriptor := do
  match (← blueprint struct).type.ownField? name with
  | some d => pure d
  | none => answer .meaningless

/-- Collects the waiting events and the pictures of the watched variables. -/
def report (watch : List String) : SessionM Report := do
  let s ← get
  set { s with events := [] }
  let watched := watch.filterMap fun name =>
    (s.scope.value? name).map fun v => (name, s.picture v)
  pure { events := s.events, watched }

/-! ### Commands -/

mutual

/-- Runs a command. -/
def run (watch : List String) : Command → SessionM Answer
  | .assign name e => do
    let v ← eval e
    store (some name) v
    pure (.slot (← refer v))
  | .dump e => do
    let v ← eval e
    pure (.picture ((← get).picture v))
  | .display e => do
    let v ← evalValue e
    pure (.text (v.display (← get).heap))
  | .diagnostic e => do
    let v ← evalValue e
    pure (.text (v.diagnostic (← get).heap))
  | .equal a b => do
    let a ← eval a
    let b ← eval b
    pure (.truth (Slot.same a b))
  | .views e => do
    let v ← eval e
    pure (.views (v.map (viewSheet (← get).heap)))
  | .coerce e default => do
    let v ← eval e
    pure (.slot (← refer (coerced (← get).heap v default)))
  | .coerceAll e flag => do
    let v ← eval e
    pure (.coercions (coercions (← get).heap v flag))
  | .parseInt32 text default => pure (.number (Coercion.parseInt32 text default).toInt)
  | .get object key target => do
    let object ← eval object
    let s ← get
    let (v, events) := Access.get s.protocol s.heap object key
    emit events
    store target v
    pure (.slot (← refer v))
  | .tryGet object key target => do
    let object ← evalValue object
    let s ← get
    let r := Access.tryGet s.protocol s.heap object key
    emit r.events
    let v ← require r.result
    store target v
    pure (.accessed (← refer v))
  | .set object key e => do
    let object ← eval object
    let v ← eval e
    let s ← get
    let (heap, events) := Access.set s.protocol s.heap object key v
    setHeap heap
    emit events
    pure .done
  | .trySet object key e => do
    let object ← evalValue object
    let v ← eval e
    let s ← get
    let w := Access.trySet s.protocol s.heap object key v
    setHeap w.heap
    emit w.events
    require w.result
    pure .stored
  | .keys object => do
    let object ← eval object
    let s ← get
    let (names, events) := Access.keys s.protocol s.heap object
    emit events
    pure (.names names)
  | .tryKeys object => do
    let object ← evalValue object
    let s ← get
    let r := Access.tryKeys s.protocol s.heap object
    emit r.events
    let names ← require r.result
    pure (.listed names)
  | .length object => do
    let v ← eval object
    pure (.count (v.bind (Access.length (← get).heap)))
  | .kind object => do
    let v ← eval object
    pure (.kind (v.bind (Value.kind (← get).heap)))
  | .arrayInfo array => do
    let a ← evalArray array
    let items ← require ((← get).heap.array a).forReading
    pure (.array items)
  | .arrayGet array index => do
    let a ← evalArray array
    let items ← require ((← get).heap.array a).forReading
    pure (.slot (← refer (items.get index)))
  | .arrayStore array index e => do
    let a ← evalArray array
    let v ← eval e
    let h := (← get).heap
    let items ← require (h.array a).forWriting
    let items ← require (items.store index v)
    setHeap (h.setArray a items)
    pure .stored
  | .arrayEqual a b => do
    let a ← evalArray a
    let b ← evalArray b
    let h := (← get).heap
    let xs ← require (h.array a).forReading
    let ys ← require (h.array b).forReading
    pure (.truth (xs.same ys))
  | .recordType struct => do
    pure (.recordType (← blueprint struct).type)
  | .lookup struct name => do
    let t := (← blueprint struct).type
    pure (.lookup (t.ownField? name) (t.lookup? name))
  | .readWith struct name receiver => do
    let d ← ownDescriptor struct name
    let a ← evalRecord receiver
    let r ← require ((← get).heap.record a).forReading
    let v ← require (r.fields.readWith d)
    pure (.accessed (← refer v))
  | .writeWith struct name receiver e => do
    let d ← ownDescriptor struct name
    let a ← evalRecord receiver
    let v ← eval e
    let h := (← get).heap
    let r ← require (h.record a).forWriting
    let fields ← require (r.fields.writeWith d v)
    setHeap (h.setFields a fields)
    pure .stored
  | .readField record name => do
    let a ← evalRecord record
    let r ← require ((← get).heap.record a).forReading
    let v ← require (r.fields.read r.type name)
    pure (.accessed (← refer v))
  | .writeField record name e => do
    let a ← evalRecord record
    let v ← eval e
    let h := (← get).heap
    let r ← require (h.record a).forWriting
    let fields ← require (r.fields.write r.type name v)
    setHeap (h.setFields a fields)
    pure .stored
  | .rawFields record => do
    let a ← evalRecord record
    let s ← get
    let r ← require (s.heap.record a).forReading
    let fields := r.fields.parts.flatMap fun p =>
      p.fields.map fun f => (p.struct, f.ident, s.reference f.read)
    pure (.rawFields r.type.name r.view.isSome fields)
  | .convert type e => do
    let v ← eval e
    let content ← require (type.ofSlot v)
    pure (.accessed (← refer (type.toSlot content)))
  | .parse text target => do
    match Json.parse text with
    | .ok j =>
      let (heap, d) := (← get).heap.newDocument j
      setHeap heap
      store target (some (.document d))
      pure (.document j.write)
    | .error e => pure (.unreadable e)
  | .image e target => do
    let v ← eval e
    let j ← require ((← get).heap.image v)
    let (heap, d) := (← get).heap.newDocument j
    setHeap heap
    store target (some (.document d))
    pure (.document j.write)
  | .documentInfo document => do
    let d ← evalDocument document
    pure (.documentInfo (documentSheet (← get).heap d))
  | .documentRoot document target => do
    let d ← evalDocument document
    let v : Slot := some (.document d.root)
    store target v
    pure (.slot (← refer v))
  | .sameNode a b => do
    let a ← evalDocument a
    let b ← evalDocument b
    pure (.truth (a == b))
  | .withHeld object mode steps => do
    let v ← evalValue object
    let h := (← get).heap
    match h.hold? v with
    | none => pure .meaningless
    | some hold =>
      let allowed := match mode with
        | .read => hold.readable
        | .write => hold.writable
      if !allowed then pure .refused
      else
        setHeap (h.changeHold (match mode with
          | .read => Hold.enter
          | .write => fun _ => .exclusive) v)
        let results ← withEnding (runAll watch steps)
          (modify fun s => { s with heap := s.heap.changeHold Hold.leave v })
        pure (.held results)
  | .newContext name payload => do
    let s ← get
    let f : Frame := ⟨s.contextCount, payload⟩
    set { s with contexts := s.contexts.put name f, contextCount := s.contextCount + 1 }
    pure (.context (some ((← get).contextSheet f)))
  | .sameContext a b => do
    let a ← context a
    let b ← context b
    pure (.truth (a.id == b.id))
  | .push name => do
    let f ← context name
    let (stack, events) := ContextStack.push (← get).stack f
    setStack stack events
    pure (.depth (← depth))
  | .peek => do
    let s ← get
    pure (.context (s.stack.peek.map s.contextSheet))
  | .pop => do
    let s ← get
    let (popped, stack, events) := ContextStack.pop s.stack
    setStack stack events
    pure (.popped (popped.map s.contextSheet) (← depth))
  | .depth => do
    pure (.number (← depth))
  | .enter name context => do
    let f ← Session.context context
    let (g, stack, events) := ContextStack.enter (← get).stack f
    setStack stack events
    match (← get).guards.value? name with
    | some old => close old
    | none => pure ()
    modify fun s => { s with guards := s.guards.put name g }
    pure (.guarded g (← depth))
  | .release name => do
    match (← get).guards.value? name with
    | some g =>
      modify fun s => { s with guards := s.guards.erase name }
      close g
      pure (.depth (← depth))
    | none => pure .meaningless
  | .withContext name steps => do
    let f ← context name
    let (g, stack, events) := ContextStack.enter (← get).stack f
    setStack stack events
    let results ← withEnding (runAll watch steps) (close g)
    pure (.scope results (← depth))
  | .panic message => throw (.panicked message)
  | .catch steps => do
    let outcome ← tryCatch (Except.ok <$> runAll watch steps) fun e =>
      match e with
      | .panicked message => pure (.error message)
      | .answered a => answer a
    match outcome with
    | .ok results => pure (.scope results (← depth))
    | .error message => pure (.caught message (← depth))
  | .thread steps =>
    match ((runAll [] steps).run {}).1 with
    | .ok results => pure (.thread results)
    | .error e => throw e

/-- Runs commands in order; each answer comes with a report. -/
def runAll (watch : List String) : List Command → SessionM (List (Answer × Report))
  | [] => pure []
  | c :: cs => do
    let a ← tryCatch (run watch c) fun e =>
      match e with
      | .answered a => pure a
      | .panicked message => throw (.panicked message)
    let r ← report watch
    let rest ← runAll watch cs
    pure ((a, r) :: rest)

end

/-- The answers to commands given to a new session; a panic that nobody catches leaves
none. -/
def transcript (watch : List String) (cs : List Command) : List (Answer × Report) :=
  match ((runAll watch cs).run {}).1 with
  | .ok results => results
  | .error _ => []

end Session

end ScriptHost
