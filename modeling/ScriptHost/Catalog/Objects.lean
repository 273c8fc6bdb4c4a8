import ScriptHost.Access.Total

/-!
# The object classes at hand

The protocol of the script objects that come with the library. A proxy passes every access
on to the total accessors of its target, so its protocol is defined from the accessors and
these from a protocol. The knot is tied by levels: a proxy of one level uses accessors of
the level below. A chain of proxies that does not come back to itself is no longer than
there are objects, so a level above that number is enough for every one of them.

An object of another class has no properties here; a host that adds the class gives its protocol.
-/

namespace ScriptHost

/-- The key under which a proxy takes a new target. -/
def ScriptObject.targetKey : String := "__target"

namespace Protocol

/-- The protocol of the classes at hand, for chains of proxies of bounded length. -/
def ofLevel : Nat → Protocol
  | 0 => inert
  | level + 1 => {
    keys := fun h o =>
      match o.state? h with
      | some (.shouter texts) => (texts.names, [])
      | some (.plain slots) => (slots.names, [])
      | some (.overrides values) => (values.names, [])
      | some (.proxy target) =>
        let (names, events) := Access.keys (ofLevel level) h target
        (names.getD [], events)
      | some (.other _ _) | none => ([], [])
    get := fun h o key =>
      match o.state? h with
      | some (.shouter texts) =>
        ((texts.value? key).map fun s => .string (s.map Char.toUpper), [])
      | some (.plain slots) => ((slots.value? key).join, [])
      | some (.overrides values) => (values.value? key, [])
      | some (.proxy target) => Access.get (ofLevel level) h target (some key)
      | some (.other _ _) | none => (none, [])
    set := fun h o key s =>
      match o.state? h with
      | some (.shouter texts) =>
        (o.setState h (.shouter (texts.renew key (s.map (Value.display h)))), [])
      | some (.plain slots) => (o.setState h (.plain (slots.put key s)), [])
      | some (.overrides values) => (o.setState h (.overrides (values.renew key s)), [])
      | some (.proxy target) =>
        if key = ScriptObject.targetKey then (o.setState h (.proxy s), [])
        else Access.set (ofLevel level) h target (some key) s
      | some (.other _ _) | none => (h, []) }

/-- The protocol of the classes at hand on a heap. -/
def standard (h : Heap) : Protocol :=
  ofLevel (h.objects.size + h.records.size + 1)

end Protocol

end ScriptHost
