import Mathlib.Data.List.Lex
import ScriptHost.Proofs.Image.Container
import ScriptHost.Proofs.Number.Widening

/-!
# The walk behind a conversion

Whether a value has an image in JSON, and what stops it otherwise, is said here without
the conversion: by the places that a walk down from the value comes to, and by what is in
the way there.

## The model

A way down is the list of the positions at which it goes into one container after the
other; `Place.follow?` is where it ends. Depth first in slot order is the lexicographic order
of the ways, where a way comes before all that go on from its end. A cycle makes ways of
any length, but they all come to a container that is open already, which is an obstacle.

The conversion succeeds if no way meets an obstacle, and then mirrors the value; otherwise
it fails as the first obstacle does (`image_walk`).
-/

namespace ScriptHost

open Outcome

/-- A place that a walk comes to: what is there, and the containers it lies in, the
innermost first. -/
structure Place where
  opened : List Container
  slot : Slot

namespace Place

/-- Where the walk from a slot begins. -/
def start (s : Slot) : Place := ⟨[], s⟩

/-- The place at a position of the container that is here. -/
def step? (h : Heap) (p : Place) (i : Nat) : Option Place :=
  (p.slot.bind Value.container?).bind fun c =>
    (c.slots h)[i]?.map fun s => ⟨c :: p.opened, s⟩

/-- Where a way down from a place ends. -/
def follow? (h : Heap) : Place → List Nat → Option Place
  | p, [] => some p
  | p, i :: w => (p.step? h i).bind fun q => follow? h q w

/-- **What is in the way** at a place: something without a form in JSON, a container that is
open already, or one that a writer holds. -/
def obstacle? (h : Heap) (p : Place) : Option AccessError :=
  match p.slot with
  | none => none
  | some (.object _) => some (.unrepresentable .object)
  | some (.record _) => some (.unrepresentable .record)
  | some (.float32 x) => if x.isFinite then none else some (.unrepresentable .float32)
  | some (.float64 x) => if x.isFinite then none else some (.unrepresentable .float64)
  | some v =>
    match v.container? with
    | none => none
    | some c =>
      if c ∈ p.opened then some (.unrepresentable c.type)
      else if c.hold h = .exclusive then some .busy
      else none

/-- Nothing is in the way, here or further down. -/
def Clear (h : Heap) (p : Place) : Prop :=
  ∀ w q, p.follow? h w = some q → q.obstacle? h = none

/-- The first obstacle of the walk from here on gives this error. -/
def FirstObstacle (h : Heap) (p : Place) (e : AccessError) : Prop :=
  ∃ w q, p.follow? h w = some q ∧ q.obstacle? h = some e ∧
    ∀ w' < w, ∀ q', p.follow? h w' = some q' → q'.obstacle? h = none

end Place

/-- **The JSON that mirrors a slot**: nothing is null, a scalar keeps its value, a document
is the subtree that it leads to, and a container mirrors its slots in their order. -/
inductive Mirrors (h : Heap) : Slot → Json → Prop where
  | absent : Mirrors h none .null
  | bool (b : Bool) : Mirrors h (some (.bool b)) (.bool b)
  | int32 (n : Int32) : Mirrors h (some (.int32 n)) (.number (.integer n.toInt))
  | int64 (n : Int64) : Mirrors h (some (.int64 n)) (.number (.integer n.toInt))
  /-- A 32-bit float becomes a 64-bit one of the same value. -/
  | float32 {x : Float32Bits} {y : Float64Bits} (finite : y.isFinite = true)
      (same : x.SameValue y) : Mirrors h (some (.float32 x)) (.number (.float y finite))
  | float64 {x : Float64Bits} (finite : x.isFinite = true) :
      Mirrors h (some (.float64 x)) (.number (.float x finite))
  | string (s : String) : Mirrors h (some (.string s)) (.string s)
  /-- A document whose node is gone is null. -/
  | document (d : Document) : Mirrors h (some (.document d)) ((d.node? h).getD .null)
  /-- A mapping becomes an object with the same names in the same order. -/
  | mapping {a : Address} {members : Entries Json}
      (names : members.names = (h.mapping a).content.names)
      (images : List.Forall₂ (Mirrors h) ((h.mapping a).content.map Prod.snd)
        (members.map Prod.snd)) :
      Mirrors h (some (.mapping a)) (.object members)
  | list {a : Address} {items : List Json}
      (images : List.Forall₂ (Mirrors h) (h.list a).content items) :
      Mirrors h (some (.list a)) (.array items)
  | array {a : Address} {items : List Json}
      (images : List.Forall₂ (Mirrors h) (h.array a).content.slots items) :
      Mirrors h (some (.array a)) (.array items)

namespace Place

variable {h : Heap} {opened : List Container} {s : Slot} {c : Container} {e : AccessError}

/-! ### One place -/

theorem obstacle?_container :
    obstacle? h ⟨opened, some c.handle⟩ =
      if c ∈ opened then some (.unrepresentable c.type)
      else if c.hold h = .exclusive then some .busy
      else none := by
  cases c <;> rfl

theorem obstacle?_of_openable_ok (hopen : h.openable opened c = .ok ()) :
    obstacle? h ⟨opened, some c.handle⟩ = none := by
  obtain ⟨hout, hread⟩ := Heap.openable_eq_ok_iff.mp hopen
  rw [obstacle?_container, if_neg hout, if_neg (Hold.readable_iff.mp hread)]

theorem obstacle?_of_openable_error (hopen : h.openable opened c = .error e) :
    obstacle? h ⟨opened, some c.handle⟩ = some e := by
  rw [obstacle?_container]
  rcases Heap.openable_eq_error_iff.mp hopen with ⟨hin, rfl⟩ | ⟨hout, hread, rfl⟩
  · rw [if_pos hin]
  · have hexclusive : c.hold h = .exclusive := by
      by_contra hne
      rw [Hold.readable_iff.mpr hne] at hread
      cases hread
    rw [if_neg hout, if_pos hexclusive]

theorem step?_container (i : Nat) :
    step? h ⟨opened, some c.handle⟩ i = (c.slots h)[i]?.map fun s => ⟨c :: opened, s⟩ := by
  cases c <;> rfl

theorem step?_leaf (hs : s.bind Value.container? = none) (i : Nat) :
    step? h ⟨opened, s⟩ i = none := by
  simp only [step?, hs, Option.bind_none]

theorem follow?_cons_eq_some_iff {p q : Place} {i : Nat} {w : List Nat} :
    follow? h p (i :: w) = some q ↔ ∃ r, p.step? h i = some r ∧ r.follow? h w = some q :=
  Option.bind_eq_some_iff

/-- Below a container, a way goes on from one of its slots. -/
theorem exists_slot_of_follow? {q : Place} {i : Nat} {w : List Nat}
    (hq : follow? h ⟨opened, some c.handle⟩ (i :: w) = some q) :
    ∃ s, (c.slots h)[i]? = some s ∧ follow? h ⟨c :: opened, s⟩ w = some q := by
  obtain ⟨r, hr, hq⟩ := follow?_cons_eq_some_iff.mp hq
  rw [step?_container] at hr
  obtain ⟨s, hs, rfl⟩ := Option.map_eq_some_iff.mp hr
  exact ⟨s, hs, hq⟩

theorem follow?_slot {i : Nat} (hs : (c.slots h)[i]? = some s) (w : List Nat) :
    follow? h ⟨opened, some c.handle⟩ (i :: w) = follow? h ⟨c :: opened, s⟩ w := by
  simp only [follow?, step?_container, hs, Option.map_some, Option.bind_some]

/-! ### All places below -/

theorem clear_leaf (hs : s.bind Value.container? = none)
    (hfree : obstacle? h ⟨opened, s⟩ = none) : Clear h ⟨opened, s⟩ := by
  intro w q hq
  cases w with
  | nil =>
    cases hq
    exact hfree
  | cons i w =>
    obtain ⟨r, hr, -⟩ := follow?_cons_eq_some_iff.mp hq
    rw [step?_leaf hs] at hr
    cases hr

theorem clear_container (hfree : obstacle? h ⟨opened, some c.handle⟩ = none)
    (hslots : ∀ s ∈ c.slots h, Clear h ⟨c :: opened, s⟩) :
    Clear h ⟨opened, some c.handle⟩ := by
  intro w q hq
  cases w with
  | nil =>
    cases hq
    exact hfree
  | cons i w =>
    obtain ⟨s, hs, hq⟩ := exists_slot_of_follow? hq
    exact hslots s (List.mem_of_getElem? hs) w q hq

/-- What is in the way at once is the first obstacle. -/
theorem firstObstacle_here {p : Place} (hp : p.obstacle? h = some e) : FirstObstacle h p e :=
  ⟨[], p, rfl, hp, fun w' hw' => absurd hw' (List.not_lt_nil w')⟩

/-- The first obstacle of a container is that of its first slot with one. -/
theorem firstObstacle_container {i : Nat} (hfree : obstacle? h ⟨opened, some c.handle⟩ = none)
    (hs : (c.slots h)[i]? = some s) (hfirst : FirstObstacle h ⟨c :: opened, s⟩ e)
    (hbefore : ∀ k < i, ∀ t, (c.slots h)[k]? = some t → Clear h ⟨c :: opened, t⟩) :
    FirstObstacle h ⟨opened, some c.handle⟩ e := by
  obtain ⟨w, q, hq, he, hmin⟩ := hfirst
  refine ⟨i :: w, q, by rw [follow?_slot hs, hq], he, fun w' hw' q' hq' => ?_⟩
  cases w' with
  | nil =>
    cases hq'
    exact hfree
  | cons k w' =>
    obtain ⟨t, ht, hq'⟩ := exists_slot_of_follow? hq'
    rcases List.cons_lt_cons_iff.mp hw' with hk | ⟨rfl, hlt⟩
    · exact hbefore k hk t ht w' q' hq'
    · rw [hs] at ht
      cases ht
      exact hmin w' hlt q' hq'

theorem FirstObstacle.not_clear {p : Place} (hfirst : FirstObstacle h p e) : ¬ Clear h p := by
  obtain ⟨w, q, hq, he, -⟩ := hfirst
  intro hclear
  rw [hclear w q hq] at he
  cases he

/-- A walk has one first obstacle. -/
theorem FirstObstacle.unique {p : Place} {e' : AccessError} (h₁ : FirstObstacle h p e)
    (h₂ : FirstObstacle h p e') : e = e' := by
  obtain ⟨w₁, q₁, hq₁, he₁, hmin₁⟩ := h₁
  obtain ⟨w₂, q₂, hq₂, he₂, hmin₂⟩ := h₂
  rcases lt_trichotomy w₁ w₂ with hlt | rfl | hgt
  · rw [hmin₂ w₁ hlt q₁ hq₁] at he₁
    cases he₁
  · rw [hq₁] at hq₂
    cases hq₂
    exact Option.some.inj (he₁.symm.trans he₂)
  · rw [hmin₁ w₂ hgt q₂ hq₂] at he₂
    cases he₂

end Place

namespace Heap

open Place

variable {h : Heap} {opened : List Container} {steps : Nat}

/-! ### The conversion along the walk -/

/-- What comes of converting what is at a place: a mirror if the walk from there is clear,
and else the first obstacle. -/
def Converts (h : Heap) (opened : List Container) (s : Slot) (r : Except AccessError Json) : Prop :=
  (∃ j, r = .ok j ∧ Mirrors h s j ∧ Clear h ⟨opened, s⟩) ∨
    ∃ e, r = .error e ∧ FirstObstacle h ⟨opened, s⟩ e

theorem Converts.of_ok {s : Slot} {j : Json} (hr : h.Converts opened s (.ok j)) :
    Mirrors h s j ∧ Clear h ⟨opened, s⟩ := by
  rcases hr with ⟨j, hj, hm⟩ | ⟨e, he, -⟩
  · cases hj
    exact hm
  · cases he

theorem Converts.of_error {s : Slot} {e : AccessError} (hr : h.Converts opened s (.error e)) :
    FirstObstacle h ⟨opened, s⟩ e := by
  rcases hr with ⟨j, hj, -⟩ | ⟨e, he, hfirst⟩
  · cases hj
  · cases he
    exact hfirst

theorem converts_ok {s : Slot} {j : Json} (hs : s.bind Value.container? = none)
    (hm : Mirrors h s j) (hfree : obstacle? h ⟨opened, s⟩ = none) :
    h.Converts opened s (.ok j) :=
  .inl ⟨j, rfl, hm, clear_leaf hs hfree⟩

theorem converts_error {s : Slot} {e : AccessError} (he : obstacle? h ⟨opened, s⟩ = some e) :
    h.Converts opened s (.error e) :=
  .inr ⟨e, rfl, firstObstacle_here he⟩

theorem converts_float32 (x : Float32Bits) :
    h.Converts opened (some (.float32 x)) (floatImage .float32 (x.convert _)) := by
  cases hr : floatImage .float32 (x.convert _) with
  | ok j =>
    obtain ⟨hy, rfl⟩ := floatImage_eq_ok_iff.mp hr
    have hx : x.isFinite = true := by rwa [Binary.isFinite_convert] at hy
    exact converts_ok rfl (.float32 hy (Binary.convert_widens hx).2) (if_pos hx)
  | error e =>
    obtain ⟨hy, rfl⟩ := floatImage_eq_error_iff.mp hr
    have hx : x.isFinite = false := by rwa [Binary.isFinite_convert] at hy
    exact converts_error (if_neg (by simp [hx]))

theorem converts_float64 (x : Float64Bits) :
    h.Converts opened (some (.float64 x)) (floatImage .float64 x) := by
  cases hr : floatImage .float64 x with
  | ok j =>
    obtain ⟨hx, rfl⟩ := floatImage_eq_ok_iff.mp hr
    exact converts_ok rfl (.float64 hx) (if_pos hx)
  | error e =>
    obtain ⟨hx, rfl⟩ := floatImage_eq_error_iff.mp hr
    exact converts_error (if_neg (by simp [hx]))

theorem converts_leaf {s : Slot} (hs : s.bind Value.container? = none) :
    h.Converts opened s (h.imageWithin steps opened s) := by
  cases s with
  | none =>
    simp only [imageWithin]
    exact converts_ok rfl .absent rfl
  | some v =>
    cases v with
    | bool b =>
      simp only [imageWithin]
      exact converts_ok rfl (.bool b) rfl
    | int32 n =>
      simp only [imageWithin]
      exact converts_ok rfl (.int32 n) rfl
    | int64 n =>
      simp only [imageWithin]
      exact converts_ok rfl (.int64 n) rfl
    | float32 x =>
      simp only [imageWithin]
      exact converts_float32 x
    | float64 x =>
      simp only [imageWithin]
      exact converts_float64 x
    | string t =>
      simp only [imageWithin]
      exact converts_ok rfl (.string t) rfl
    | document d =>
      simp only [imageWithin]
      exact converts_ok rfl (.document d) rfl
    | object a =>
      simp only [imageWithin]
      exact converts_error rfl
    | record a =>
      simp only [imageWithin]
      exact converts_error rfl
    | mapping a => cases hs
    | list a => cases hs
    | array a => cases hs

theorem mirrors_assemble {c : Container} {images : List Json}
    (him : List.Forall₂ (Mirrors h) (c.slots h) images) :
    Mirrors h (some c.handle) (c.assemble h images) := by
  cases c with
  | mapping a =>
    have hlen : (h.mapping a).content.names.length = images.length := by
      simpa [Container.slots, Entries.names] using him.length_eq
    refine .mapping ?_ ?_
    · exact List.map_fst_zip hlen.le
    · rw [List.map_snd_zip hlen.ge]
      exact him
  | list a => exact .list him
  | array a => exact .array him

/-- A container is converted along the walk if its slots are. -/
theorem converts_container {c : Container} {image : Slot → Except AccessError Json}
    (hopen : h.openable opened c = .ok ())
    (hslot : ∀ t ∈ c.slots h, h.Converts (c :: opened) t (image t)) :
    h.Converts opened (some c.handle) (((c.slots h).mapM image).map (c.assemble h)) := by
  have hfree := obstacle?_of_openable_ok hopen
  -- what a slot has come to decides which of the two sides of `Converts` it is on
  have hok : ∀ t ∈ c.slots h, ∀ j, image t = .ok j → Mirrors h t j ∧ Clear h ⟨c :: opened, t⟩ := by
    intro t ht j hj
    have hc := hslot t ht
    rw [hj] at hc
    exact hc.of_ok
  cases hr : (c.slots h).mapM image with
  | ok images =>
    refine .inl ⟨c.assemble h images, rfl, mirrors_assemble ?_, clear_container hfree ?_⟩
    · refine ((List.forall₂_and_left _ _).mpr ⟨hok, forall₂_of_mapM hr⟩).imp ?_
      rintro t j ⟨ht, hj⟩
      exact (ht j hj).1
    · intro t ht
      obtain ⟨j, hj⟩ := exists_of_mapM_ok hr t ht
      exact (hok t ht j hj).2
  | error e =>
    obtain ⟨i, t, hi, he, hbefore⟩ := exists_of_mapM_error hr
    have hc := hslot t (List.mem_of_getElem? hi)
    rw [he] at hc
    refine .inr ⟨e, rfl, firstObstacle_container hfree hi hc.of_error fun k hk u hu => ?_⟩
    obtain ⟨j, hj⟩ := hbefore k u hk hu
    exact (hok u (List.mem_of_getElem? hu) j hj).2

/-- The conversion keeps to the walk, from every place that it comes to. -/
theorem converts_imageWithin (s : Slot) (hw : h.WayDown opened steps) :
    h.Converts opened s (h.imageWithin steps opened s) := by
  induction steps generalizing opened s with
  | zero => exact absurd hw.pos (Nat.lt_irrefl 0)
  | succ steps ih =>
    obtain hs | ⟨c, rfl⟩ := leaf_or_container s
    · exact converts_leaf hs
    · rw [imageWithin_container]
      cases hopen : h.openable opened c with
      | error e => exact converts_error (obstacle?_of_openable_error hopen)
      | ok _ =>
        have hc : c ∉ opened := (openable_eq_ok_iff.mp hopen).1
        exact converts_container hopen fun t ht =>
          ih t (hw.step hc (Container.live_of_mem_slots ht))

theorem converts_image (h : Heap) (s : Slot) : h.Converts [] s (h.image s) :=
  converts_imageWithin s (.start (Nat.le_refl _))

/-- **The image of a value is decided by the walk**: without an obstacle it is there and
mirrors the value, otherwise the first obstacle is the reason why it is not. The walk ends
on every heap, for no bound on the recursion beyond the number of containers changes anything. -/
theorem image_walk (h : Heap) (s : Slot) :
    (Clear h (start s) → ∃ j, h.image s = .ok j ∧ Mirrors h s j) ∧
      (∀ e, FirstObstacle h (start s) e → h.image s = .error e) ∧
      (Clear h (start s) ∨ ∃ e, FirstObstacle h (start s) e) ∧
      ∀ steps, h.containers + 2 ≤ steps → h.imageWithin steps [] s = h.image s := by
  refine ⟨fun hclear => ?_, fun e hfirst => ?_, ?_, fun steps => imageWithin_eq_image h s⟩
  · rcases converts_image h s with ⟨j, hj, hm, -⟩ | ⟨e, -, hfirst⟩
    · exact ⟨j, hj, hm⟩
    · exact absurd hclear hfirst.not_clear
  · rcases converts_image h s with ⟨j, -, -, hclear⟩ | ⟨e', he, hfirst'⟩
    · exact absurd hclear hfirst.not_clear
    · rw [he, hfirst.unique hfirst']
  · rcases converts_image h s with ⟨j, -, -, hclear⟩ | ⟨e, -, hfirst⟩
    · exact .inl hclear
    · exact .inr ⟨e, hfirst⟩

/-- A heap with a list that has a number and itself for elements. -/
def cyclicList : Heap := (({} : Heap).newList [some (.int32 1), some (.list 0)]).1

/-- The second element of such a list is the first obstacle. -/
theorem image_walk_cyclicList :
    FirstObstacle cyclicList (start (some (.list 0))) (.unrepresentable .list) ∧
      cyclicList.image (some (.list 0)) = .error (.unrepresentable .list) := by
  have hfirst : FirstObstacle cyclicList (start (some (.list 0))) (.unrepresentable .list) := by
    refine firstObstacle_container (c := .list 0) (i := 1) rfl rfl (firstObstacle_here rfl) ?_
    intro k hk t ht
    obtain rfl : k = 0 := Nat.lt_one_iff.mp hk
    cases ht
    exact clear_leaf rfl rfl
  exact ⟨hfirst, (image_walk cyclicList (some (.list 0))).2.1 _ hfirst⟩

end Heap

end ScriptHost
