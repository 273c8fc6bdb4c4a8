import ScriptHost.Display
import ScriptHost.Proofs.Image.Container

/-!
# The text of a graph

Values refer to each other in any way, and yet every value has a text, for values are written out
down to a fixed depth only. The text is told here by what a value unfolds to.

## What is proved

* The text is what one gets by going down and counting the levels (`Written`): at the depth
  `displayLevels` a value is an ellipsis, and an empty slot is null at every depth.
* Values that unfold alike through the levels that are written (`AlikeTo`) have the same text, in
  whatever heaps they are (`displayWithin_of_alikeTo`), and what lies deeper is not looked at
  (`alikeTo_of_agrees`).
* The text of a value that unfolds to no more than these levels, and of which no part is being
  written to, is the text of all of it (`Rendered`).
-/

namespace ScriptHost

/-! ### One level -/

namespace Value

variable {h : Heap} {v : Value} {t : String}

/-- Somebody is writing to the value, and so it does not show what it holds. A record never does. -/
def Shut (h : Heap) (v : Value) : Prop := h.hold? v = some .exclusive ∧ v.type ≠ .record

instance : Decidable (Shut h v) := inferInstanceAs (Decidable (_ ∧ _))

/-- What stands for a value that is shut. -/
def shutText : Value → String
  | mapping _ => "\x7b...\x7d"
  | object _ => "[object]"
  | _ => "[...]"

/-- The text of a value that is no container. -/
def leaf? (h : Heap) : Value → Option String
  | bool b => some (if b then "true" else "false")
  | int32 n => some n.toInt.repr
  | int64 n => some n.toInt.repr
  | float32 x => some (Layout.display.write x)
  | float64 x => some (Layout.display.write x)
  | string s => some s
  | object a => some ("[object " ++ (h.object a).content.className ++ "]")
  | record a => some ("[record " ++ (h.record a).content.type.name ++ "]")
  | document d => some ((d.node? h).getD .null).write
  | mapping _ | list _ | array _ => none

/-- The text of a slot, the levels of a value in it being limited. -/
def slotWithin (h : Heap) (levels : Nat) : Slot → String
  | none => "null"
  | some w => displayWithin h levels w

/-- A value is a container, or it has a text of its own. -/
theorem leaf_or_container (h : Heap) (v : Value) :
    (∃ t, v.leaf? h = some t) ∨ ∃ c : Container, v = c.handle := by
  cases v with
  | mapping a => exact .inr ⟨.mapping a, rfl⟩
  | list a => exact .inr ⟨.list a, rfl⟩
  | array a => exact .inr ⟨.array a, rfl⟩
  | _ => exact .inl ⟨_, rfl⟩

end Value

namespace Container

/-- The names that a container keeps its slots under, if it does. -/
def names (h : Heap) : Container → List String
  | mapping a => (h.mapping a).content.names
  | list _ => []
  | array _ => []

/-- The text of a container whose slots have these texts. -/
def enclose (h : Heap) (c : Container) (texts : List String) : String :=
  match c with
  | mapping _ =>
    "\x7b" ++
      String.intercalate ", " (List.zipWith (fun k t => k ++ ": " ++ t) (c.names h) texts) ++
      "\x7d"
  | list _ => "[" ++ String.intercalate ", " texts ++ "]"
  | array _ => "[" ++ String.intercalate ", " texts ++ "]"

theorem enclose_congr {h g : Heap} {c c' : Container} (type : c.type = c'.type)
    (names : c.names h = c'.names g) (texts : List String) :
    c.enclose h texts = c'.enclose g texts := by
  cases c <;> cases c' <;> cases type <;> simp only [enclose, names]

end Container

namespace Value

variable {h g : Heap} {v w : Value} {t : String}

theorem readable_of_not_shut {k : Hold} (hopen : ¬ Shut h v) (hk : h.hold? v = some k)
    (hv : v.type ≠ .record) : k.readable = true :=
  Hold.readable_iff.mpr fun hexclusive => hopen ⟨by rw [hk, hexclusive], hv⟩

theorem displayWithin_shut (hshut : Shut h v) (levels : Nat) :
    displayWithin h (levels + 1) v = v.shutText := by
  obtain ⟨hk, hv⟩ := hshut
  cases v with
  | record a => exact absurd rfl hv
  | mapping a =>
    simp [displayWithin, Option.some.inj hk, Hold.readable, shutText]
  | list a => simp [displayWithin, Option.some.inj hk, Hold.readable, shutText]
  | array a => simp [displayWithin, Option.some.inj hk, Hold.readable, shutText]
  | object a => simp [displayWithin, Option.some.inj hk, Hold.readable, shutText]
  | _ => cases hk

theorem displayWithin_leaf (hopen : ¬ Shut h v) (ht : v.leaf? h = some t) (levels : Nat) :
    displayWithin h (levels + 1) v = t := by
  cases v with
  | object a =>
    cases ht
    have hreadable := readable_of_not_shut hopen rfl (by simp [type])
    simp [displayWithin, hreadable]
  | document d =>
    cases ht
    simp only [displayWithin]
    cases d.node? h <;> rfl
  | mapping a => cases ht
  | list a => cases ht
  | array a => cases ht
  | _ =>
    cases ht
    rfl

theorem map_entries (f : Slot → String) (es : Entries Slot) :
    (es.map fun e => e.1 ++ ": " ++ f e.2) =
      List.zipWith (fun k t => k ++ ": " ++ t) es.names ((es.map Prod.snd).map f) := by
  rw [Entries.names, List.map_map, List.zipWith_map, List.zipWith_self]
  rfl

/-- **A container is written** by writing its slots, with one level less, and putting the texts
together. -/
theorem displayWithin_container {c : Container} (hopen : ¬ Shut h c.handle) (levels : Nat) :
    displayWithin h (levels + 1) c.handle =
      c.enclose h ((c.slots h).map (slotWithin h levels)) := by
  cases c with
  | mapping a =>
    have hreadable := readable_of_not_shut hopen rfl (by simp [Container.handle, type])
    simp only [Container.handle, displayWithin, hreadable, if_true, Container.slots,
      Container.enclose, Container.names]
    rw [← map_entries]
    rfl
  | list a =>
    have hreadable := readable_of_not_shut hopen rfl (by simp [Container.handle, type])
    simp only [Container.handle, displayWithin, hreadable, if_true]
    rfl
  | array a =>
    have hreadable := readable_of_not_shut hopen rfl (by simp [Container.handle, type])
    simp only [Container.handle, displayWithin, hreadable, if_true]
    rfl

/-! ### Counting the levels -/

/-- **The text of a slot at a depth**, by going down: a value is written as long as the depth is
one of the levels, and nothing is asked of the heap about a value that is deeper. -/
inductive Written (h : Heap) : Nat → Slot → String → Prop where
  | absent {depth : Nat} : Written h depth none "null"
  | cut {depth : Nat} {v : Value} (deep : displayLevels ≤ depth) : Written h depth (some v) "..."
  | shut {depth : Nat} {v : Value} (level : depth < displayLevels) (shut : Shut h v) :
      Written h depth (some v) v.shutText
  | leaf {depth : Nat} {v : Value} {t : String} (level : depth < displayLevels)
      (opened : ¬ Shut h v) (leaf : v.leaf? h = some t) : Written h depth (some v) t
  | container {depth : Nat} {c : Container} {texts : List String} (level : depth < displayLevels)
      (opened : ¬ Shut h c.handle) (length : texts.length = (c.slots h).length)
      (slots : ∀ p ∈ (c.slots h).zip texts, Written h (depth + 1) p.1 p.2) :
      Written h depth (some c.handle) (c.enclose h texts)

theorem forall₂_map_eq {α β γ : Type} {R : α → β → Prop} {f : α → γ} {f' : β → γ} {xs : List α}
    {ys : List β} (hR : ∀ x y, R x y → f x = f' y) (h : List.Forall₂ R xs ys) :
    xs.map f = ys.map f' := by
  rw [← List.forall₂_eq_eq_eq, List.forall₂_map_left_iff, List.forall₂_map_right_iff]
  exact h.imp hR

/-- The texts of slots, told from each of them. -/
theorem eq_map_of_zip {α β : Type} {f : α → β} {xs : List α} {ys : List β}
    (length : ys.length = xs.length) (h : ∀ p ∈ xs.zip ys, p.2 = f p.1) : ys = xs.map f := by
  have hzip : List.Forall₂ (fun x y => f x = id y) xs ys :=
    List.forall₂_iff_zip.mpr ⟨length.symm, fun hp => (h _ hp).symm⟩
  rw [forall₂_map_eq (fun _ _ hxy => hxy) hzip, List.map_id]

theorem mem_zip_map {α β : Type} {f : α → β} {xs : List α} {p : α × β}
    (hp : p ∈ xs.zip (xs.map f)) : p.1 ∈ xs ∧ p.2 = f p.1 := by
  rw [← List.map_prod_left_eq_zip] at hp
  obtain ⟨x, hx, rfl⟩ := List.mem_map.mp hp
  exact ⟨hx, rfl⟩

/-- The text of a slot at a depth that leaves this many levels. -/
theorem written_slotWithin {depth levels : Nat} (hd : depth + levels = displayLevels) (s : Slot) :
    Written h depth s (slotWithin h levels s) := by
  -- on the levels that are left: going down trades one of them for one of the depth
  induction levels generalizing depth s with
  | zero =>
    cases s with
    | none => exact .absent
    | some v => exact .cut (by omega)
  | succ levels ih =>
    cases s with
    | none => exact .absent
    | some v =>
      have hlevel : depth < displayLevels := by omega
      by_cases hopen : Shut h v
      · rw [slotWithin, displayWithin_shut hopen]
        exact .shut hlevel hopen
      · obtain ⟨t, ht⟩ | ⟨c, rfl⟩ := leaf_or_container h v
        · rw [slotWithin, displayWithin_leaf hopen ht]
          exact .leaf hlevel hopen ht
        · rw [slotWithin, displayWithin_container hopen]
          refine .container hlevel hopen (List.length_map _) fun p hp => ?_
          rw [(mem_zip_map hp).2]
          exact ih (by omega) p.1

/-- There is no other text. -/
theorem Written.eq {depth levels : Nat} {s : Slot} (hw : Written h depth s t)
    (hd : depth + levels = displayLevels) : t = slotWithin h levels s := by
  induction hw generalizing levels with
  | absent => rfl
  | cut deep =>
    obtain rfl : levels = 0 := by omega
    rfl
  | shut level shut =>
    obtain ⟨n, rfl⟩ : ∃ n, levels = n + 1 := ⟨levels - 1, by omega⟩
    exact (displayWithin_shut shut n).symm
  | leaf level opened leaf =>
    obtain ⟨n, rfl⟩ : ∃ n, levels = n + 1 := ⟨levels - 1, by omega⟩
    exact (displayWithin_leaf opened leaf n).symm
  | container level opened length _ ih =>
    obtain ⟨n, rfl⟩ : ∃ n, levels = n + 1 := ⟨levels - 1, by omega⟩
    rw [slotWithin, displayWithin_container opened,
      ← eq_map_of_zip length fun p hp => ih p hp (by omega)]

/-! ### Unfolding alike -/

/-- **Two values that look alike** in two heaps, as far as their slots are related: the same scalar;
two of the same type that somebody is writing to; two containers of one type with the same names
and with related slots; two objects of the same class; two records of types with the same name;
two documents with the same JSON. -/
inductive Alike (h g : Heap) (R : Slot → Slot → Prop) : Value → Value → Prop where
  | scalar {v : Value} (scalar : v.isHandle = false) : Alike h g R v v
  | shut {v w : Value} (type : v.type = w.type) (left : Shut h v) (right : Shut g w) :
      Alike h g R v w
  | container {c c' : Container} {v w : Value} (left : v = c.handle) (right : w = c'.handle)
      (opened : ¬ Shut h v) (opened' : ¬ Shut g w) (type : c.type = c'.type)
      (names : c.names h = c'.names g) (slots : List.Forall₂ R (c.slots h) (c'.slots g)) :
      Alike h g R v w
  | object {a b : Address} (opened : ¬ Shut h (.object a)) (opened' : ¬ Shut g (.object b))
      (className : (h.object a).content.className = (g.object b).content.className) :
      Alike h g R (.object a) (.object b)
  | record {a b : Address}
      (name : (h.record a).content.type.name = (g.record b).content.type.name) :
      Alike h g R (.record a) (.record b)
  | document {d e : Document} (json : (d.node? h).getD .null = (e.node? g).getD .null) :
      Alike h g R (.document d) (.document e)

/-- **Two values that unfold alike** through this many levels: they look alike, and their slots are
empty together or hold values that unfold alike through one level less. -/
def AlikeTo (h g : Heap) : Nat → Value → Value → Prop
  | 0, _, _ => True
  | levels + 1, v, w => Alike h g (Option.Rel (AlikeTo h g levels)) v w

theorem shutText_eq_of_type (htype : v.type = w.type) : v.shutText = w.shutText := by
  cases v <;> cases w <;> cases htype <;> rfl

theorem leaf?_of_scalar (hv : v.isHandle = false) :
    ∃ t, (∀ h, v.leaf? h = some t) ∧ ∀ h, ¬ Shut h v := by
  cases v <;> cases hv <;> exact ⟨_, fun _ => rfl, fun _ hshut => by cases hshut.1⟩

/-- **Values that unfold alike have the same text**, as far as the levels go. -/
theorem displayWithin_of_alikeTo {levels : Nat} (hvw : AlikeTo h g levels v w) :
    displayWithin h levels v = displayWithin g levels w := by
  induction levels generalizing v w with
  | zero => rfl
  | succ levels ih =>
    have hslot (s s' : Slot) (hs : Option.Rel (AlikeTo h g levels) s s') :
        slotWithin h levels s = slotWithin g levels s' := by
      cases hs with
      | none => rfl
      | some hs => exact ih hs
    cases hvw with
    | scalar scalar =>
      obtain ⟨t, ht, hopen⟩ := leaf?_of_scalar scalar
      rw [displayWithin_leaf (hopen h) (ht h), displayWithin_leaf (hopen g) (ht g)]
    | shut type left right =>
      rw [displayWithin_shut left, displayWithin_shut right, shutText_eq_of_type type]
    | container left right opened opened' type names slots =>
      subst left right
      rw [displayWithin_container opened, displayWithin_container opened',
        forall₂_map_eq hslot slots, Container.enclose_congr type names]
    | object opened opened' className =>
      rw [displayWithin_leaf opened rfl, displayWithin_leaf opened' rfl, className]
    | record name =>
      have hopen (f : Heap) (a : Address) : ¬ Shut f (.record a) := fun hshut => hshut.2 rfl
      rw [displayWithin_leaf (hopen h _) rfl, displayWithin_leaf (hopen g _) rfl, name]
    | document json =>
      have hopen (f : Heap) (d : Document) : ¬ Shut f (.document d) := fun hshut => by
        cases hshut.1
      rw [displayWithin_leaf (hopen h _) rfl, displayWithin_leaf (hopen g _) rfl, json]

/-! ### How deep a value goes -/

/-- **What lies in a value at a depth**, down through containers that are not shut. -/
inductive Lies (h : Heap) : Value → Nat → Value → Prop where
  | here (v : Value) : Lies h v 0 v
  | inside {v w u : Value} {c : Container} {depth : Nat} (container : v.container? = some c)
      (opened : ¬ Shut h v) (slot : some w ∈ c.slots h) (rest : Lies h w depth u) :
      Lies h v (depth + 1) u

/-- **What is deeper than the levels is not looked at**: where two heaps show the same of everything
that lies above, a value unfolds alike in both. -/
theorem alikeTo_of_agrees {levels : Nat}
    (agrees : ∀ depth w, Lies h v depth w → depth < levels → Alike h g Eq w w) :
    AlikeTo h g levels v v := by
  induction levels generalizing v with
  | zero => trivial
  | succ levels ih =>
    cases agrees 0 v (.here v) (Nat.succ_pos levels) with
    | scalar scalar => exact .scalar scalar
    | shut type left right => exact .shut type left right
    | @container c c' _ _ left right opened opened' type names slots =>
      refine .container left right opened opened' type names ?_
      rw [List.forall₂_eq_eq_eq] at slots
      rw [← slots]
      refine List.forall₂_same.mpr fun s hs => ?_
      -- what lies in a slot lies one level deeper in the container
      cases s with
      | none => exact .none
      | some w =>
        refine .some (ih fun depth u hu hlt => agrees (depth + 1) u ?_ (by omega))
        exact .inside (Container.container?_eq_some_iff.mpr left) opened hs hu
    | object opened opened' className => exact .object opened opened' className
    | record name => exact .record name
    | document json => exact .document json

/-- **The text of all of a slot**, however deep it goes and whoever has it open. -/
inductive Rendered (h : Heap) : Slot → String → Prop where
  | absent : Rendered h none "null"
  | leaf {v : Value} {t : String} (leaf : v.leaf? h = some t) : Rendered h (some v) t
  | container {c : Container} {texts : List String}
      (slots : List.Forall₂ (Rendered h) (c.slots h) texts) :
      Rendered h (some c.handle) (c.enclose h texts)

/-- All that lies in a value is within this many levels, and none of it is shut. -/
def Fits (h : Heap) (levels : Nat) (v : Value) : Prop :=
  ∀ depth w, Lies h v depth w → depth < levels ∧ ¬ Shut h w

theorem Fits.slot {levels : Nat} {c : Container} (hfits : Fits h (levels + 1) c.handle)
    (hw : some w ∈ c.slots h) : Fits h levels w := by
  intro depth u hu
  have hopen : ¬ Shut h c.handle := (hfits 0 _ (.here _)).2
  obtain ⟨hdepth, hshut⟩ := hfits (depth + 1) u
    (.inside (Container.container?_eq_some_iff.mpr rfl) hopen hw hu)
  exact ⟨by omega, hshut⟩

theorem fits_leaf {levels : Nat} (hv : v.container? = none) (hopen : ¬ Shut h v) :
    Fits h (levels + 1) v := by
  intro depth u hu
  cases hu with
  | here => exact ⟨Nat.succ_pos levels, hopen⟩
  | inside container _ _ _ =>
    rw [hv] at container
    cases container

theorem fits_container {levels : Nat} {c : Container} (hopen : ¬ Shut h c.handle)
    (hslots : ∀ w, some w ∈ c.slots h → Fits h levels w) : Fits h (levels + 1) c.handle := by
  intro depth u hu
  have hc : c.handle.container? = some c := Container.container?_eq_some_iff.mpr rfl
  cases hu with
  | here => exact ⟨Nat.succ_pos levels, hopen⟩
  | inside container _ slot rest =>
    rw [hc] at container
    cases container
    obtain ⟨hdepth, hshut⟩ := hslots _ slot _ u rest
    exact ⟨by omega, hshut⟩

theorem rendered_slotWithin {levels : Nat} {s : Slot} (hs : ∀ v, s = some v → Fits h levels v) :
    Rendered h s (slotWithin h levels s) := by
  induction levels generalizing s with
  | zero =>
    cases s with
    | none => exact .absent
    | some v => exact absurd (hs v rfl 0 v (.here v)).1 (Nat.not_lt_zero 0)
  | succ levels ih =>
    cases s with
    | none => exact .absent
    | some v =>
      have hopen : ¬ Shut h v := (hs v rfl 0 v (.here v)).2
      obtain ⟨t, ht⟩ | ⟨c, rfl⟩ := leaf_or_container h v
      · rw [slotWithin, displayWithin_leaf hopen ht]
        exact .leaf ht
      · rw [slotWithin, displayWithin_container hopen]
        refine .container (List.forall₂_map_right_iff.mpr (List.forall₂_same.mpr fun s' hs' => ?_))
        refine ih fun w hw => ?_
        subst hw
        exact (hs c.handle rfl).slot hs'

theorem Rendered.eq {levels : Nat} {s : Slot} (hr : Rendered h s t)
    (hs : ∀ v, s = some v → Fits h levels v) : t = slotWithin h levels s := by
  induction levels generalizing s t with
  | zero =>
    cases s with
    | none =>
      cases hr
      rfl
    | some v => exact absurd (hs v rfl 0 v (.here v)).1 (Nat.not_lt_zero 0)
  | succ levels ih =>
    cases hr with
    | absent => rfl
    | @leaf v t leaf => exact (displayWithin_leaf (hs v rfl 0 v (.here v)).2 leaf levels).symm
    | @container c texts slots =>
      have hopen : ¬ Shut h c.handle := (hs c.handle rfl 0 _ (.here _)).2
      obtain ⟨length, hslots⟩ := List.forall₂_iff_zip.mp slots
      rw [slotWithin, displayWithin_container hopen, ← eq_map_of_zip length.symm fun p hp => ?_]
      refine ih (hslots hp) fun w hw => ?_
      have hmem := (List.of_mem_zip hp).1
      rw [hw] at hmem
      exact (hs c.handle rfl).slot hmem

/-- **The text of a value is that of what it unfolds to**, in every heap, with whatever cycles and
whatever holds.

* There is exactly one text that going down and counting the levels gives, and it is this one. At
  the depth `displayLevels` a value is an ellipsis, without a look at it.
* Values that unfold alike through the levels have the same text, in one heap or in two.
* A heap that shows the same of everything that lies above gives the same text.
* If all that lies in the value is within the levels and nothing of it is shut, this is the text of
  all of it. -/
theorem display_unfolding (h : Heap) (v : Value) :
    (∀ t, Written h 0 (some v) t ↔ t = v.display h) ∧
    (∀ g w, AlikeTo h g displayLevels v w → v.display h = w.display g) ∧
    (∀ g, (∀ depth w, Lies h v depth w → depth < displayLevels → Alike h g Eq w w) →
      v.display h = v.display g) ∧
    (Fits h displayLevels v → ∀ t, Rendered h (some v) t ↔ t = v.display h) := by
  refine ⟨fun t => ?_, fun g w => displayWithin_of_alikeTo,
    fun g agrees => displayWithin_of_alikeTo (alikeTo_of_agrees agrees), fun hfits t => ?_⟩
  · constructor
    · intro hw
      exact hw.eq (Nat.zero_add displayLevels)
    · rintro rfl
      exact written_slotWithin (Nat.zero_add displayLevels) (some v)
  · have hs : ∀ w, some v = some w → Fits h displayLevels w := by
      rintro w ⟨⟩
      exact hfits
    constructor
    · intro hr
      exact hr.eq hs
    · rintro rfl
      exact rendered_slotWithin hs

/-- A list that contains itself, and one that contains a third list twice. -/
def loopAndDiamond : Heap :=
  let loop := (({} : Heap).newList [some (.list 0)]).1
  ((loop.newList [some (.int32 1), none, some (.list 2), some (.list 2)]).1.newList
    [some (.bool true)]).1

theorem fits_diamond : Fits loopAndDiamond displayLevels (.list 1) := by
  refine fits_container (c := .list 1) (by decide) fun w hw => ?_
  have hw' : some w ∈ [some (int32 1), none, some (list 2), some (list 2)] := hw
  simp only [List.mem_cons, Option.some.injEq, reduceCtorEq, List.not_mem_nil, or_false, or_self,
    false_or] at hw'
  rcases hw' with rfl | rfl
  · exact fits_leaf rfl (by decide)
  · refine fits_container (c := .list 2) (by decide) fun w hw => ?_
    obtain rfl := Option.some.inj (List.mem_singleton.mp hw)
    exact fits_leaf rfl (by decide)

/-- The list that contains itself is written out nine times, and the shared one in full each
time. -/
theorem display_unfolding_lists :
    Written loopAndDiamond 0 (some (.list 0)) "[[[[[[[[[...]]]]]]]]]" ∧
      Fits loopAndDiamond displayLevels (.list 1) ∧
      Rendered loopAndDiamond (some (.list 1)) "[1, null, [true], [true]]" := by
  refine ⟨((display_unfolding loopAndDiamond (.list 0)).1 _).mpr ?_, fits_diamond,
    ((display_unfolding loopAndDiamond (.list 1)).2.2.2 fits_diamond _).mpr ?_⟩
  · rfl
  · rfl

end Value

end ScriptHost
