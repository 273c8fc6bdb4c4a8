import Mathlib.Data.List.Perm.Subperm
import ScriptHost.Image
import ScriptHost.Proofs.Heap.WellFormed
import ScriptHost.Proofs.Outcome

/-!
# Images of containers

The conversion to JSON goes into three kinds of containers, and does the same in each: admit
the container, convert its slots in order, put the images together
(`imageWithin_container`). It goes down at most as many steps as there are containers, for
those that are open are distinct (`length_le_containers`), so the bound on its recursion
never shows (`imageWithin_eq_image`).
-/

namespace ScriptHost

open Outcome

/-! ### Containers -/

/-- The container that a handle leads to. -/
def Value.container? : Value → Option Container
  | .mapping a => some (.mapping a)
  | .list a => some (.list a)
  | .array a => some (.array a)
  | _ => none

namespace Container

/-- The handle that leads to a container. -/
def handle : Container → Value
  | mapping a => .mapping a
  | list a => .list a
  | array a => .array a

/-- The slots of a container in order. -/
def slots (h : Heap) : Container → List Slot
  | mapping a => (h.mapping a).content.map Prod.snd
  | list a => (h.list a).content
  | array a => (h.array a).content.slots

/-- The JSON of a container whose slots have these images. -/
def assemble (h : Heap) (images : List Json) : Container → Json
  | mapping a => .object ((h.mapping a).content.names.zip images)
  | list _ => .array images
  | array _ => .array images

theorem container?_eq_some_iff {v : Value} {c : Container} :
    v.container? = some c ↔ v = c.handle := by
  cases v <;> cases c <;> simp [Value.container?, handle]

theorem slots_of_not_live {h : Heap} {c : Container} (hc : ¬ h.Live c.handle) : c.slots h = [] := by
  cases c with
  | mapping a =>
    have hd : h.mapping a = default := Store.get_of_size_le (Nat.le_of_not_lt hc)
    rw [slots, hd]
    rfl
  | list a =>
    have hd : h.list a = default := Store.get_of_size_le (Nat.le_of_not_lt hc)
    rw [slots, hd]
    rfl
  | array a =>
    have hd : h.array a = default := Store.get_of_size_le (Nat.le_of_not_lt hc)
    rw [slots, hd]
    rfl

theorem live_of_mem_slots {h : Heap} {c : Container} {s : Slot} (hs : s ∈ c.slots h) :
    h.Live c.handle := by
  by_contra hc
  rw [slots_of_not_live hc] at hs
  cases hs

/-! ### Counting -/

/-- The number of a container when all those of a heap are counted. -/
def index (h : Heap) : Container → Nat
  | mapping a => a
  | list a => h.mappings.size + a
  | array a => h.mappings.size + h.lists.size + a

theorem index_lt {h : Heap} {c : Container} (hc : h.Live c.handle) : c.index h < h.containers := by
  cases c with
  | mapping a =>
    exact Nat.lt_of_lt_of_le hc (Nat.le_trans (Nat.le_add_right _ _) (Nat.le_add_right _ _))
  | list a => exact Nat.lt_of_lt_of_le (Nat.add_lt_add_left hc _) (Nat.le_add_right _ _)
  | array a => exact Nat.add_lt_add_left hc _

/-- A number below a bound is not one from the bound on. -/
theorem ne_add_of_lt {m n k : Nat} (hk : k < m) (hle : m ≤ n) (i : Nat) : k ≠ n + i := by
  omega

theorem index_inj {h : Heap} {c d : Container} (hc : h.Live c.handle) (hd : h.Live d.handle)
    (heq : c.index h = d.index h) : c = d := by
  cases c with
  | mapping a =>
    cases d with
    | mapping b => exact congrArg mapping heq
    | list b => exact absurd heq (ne_add_of_lt hc (Nat.le_refl _) b)
    | array b => exact absurd heq (ne_add_of_lt hc (Nat.le_add_right _ _) b)
  | list a =>
    cases d with
    | mapping b => exact absurd heq.symm (ne_add_of_lt hd (Nat.le_refl _) a)
    | list b => exact congrArg list (Nat.add_left_cancel heq)
    | array b => exact absurd heq (ne_add_of_lt (Nat.add_lt_add_left hc _) (Nat.le_refl _) b)
  | array a =>
    cases d with
    | mapping b => exact absurd heq.symm (ne_add_of_lt hd (Nat.le_add_right _ _) a)
    | list b =>
      exact absurd heq.symm (ne_add_of_lt (Nat.add_lt_add_left hd _) (Nat.le_refl _) a)
    | array b => exact congrArg array (Nat.add_left_cancel heq)

/-- There are no more containers than a heap has cells for. -/
theorem length_le_containers {h : Heap} {opened : List Container} (hnd : opened.Nodup)
    (hlive : ∀ c ∈ opened, h.Live c.handle) : opened.length ≤ h.containers := by
  have hmap : (opened.map (index h)).Nodup :=
    hnd.map_on fun c hc d hd => index_inj (hlive c hc) (hlive d hd)
  have hsub : opened.map (index h) ⊆ List.range h.containers := by
    intro i hi
    obtain ⟨c, hc, rfl⟩ := List.mem_map.mp hi
    exact List.mem_range.mpr (index_lt (hlive c hc))
  simpa using (hmap.subperm hsub).length_le

end Container

/-! ### The way down -/

namespace Heap

/-- **The way down** to where the conversion is: the open containers are distinct and in the
heap, and the steps that are left are enough for all others. -/
structure WayDown (h : Heap) (opened : List Container) (steps : Nat) : Prop where
  nodup : opened.Nodup
  live : ∀ c ∈ opened, h.Live c.handle
  enough : h.containers + 2 ≤ steps + opened.length

namespace WayDown

variable {h : Heap} {opened : List Container} {steps : Nat} {c : Container}

theorem start {steps : Nat} (hs : h.containers + 2 ≤ steps) : h.WayDown [] steps :=
  ⟨List.nodup_nil, List.forall_mem_nil _, hs⟩

/-- There is always a step left. -/
theorem pos (hw : h.WayDown opened steps) : 0 < steps := by
  have hlen := Container.length_le_containers hw.nodup hw.live
  have henough := hw.enough
  omega

theorem step (hw : h.WayDown opened (steps + 1)) (hc : c ∉ opened) (hlive : h.Live c.handle) :
    h.WayDown (c :: opened) steps := by
  refine ⟨List.nodup_cons.mpr ⟨hc, hw.nodup⟩, ?_, ?_⟩
  · rintro d (- | ⟨-, hd⟩)
    · exact hlive
    · exact hw.live d hd
  · have henough := hw.enough
    rw [List.length_cons]
    omega

end WayDown

/-! ### Equations of the conversion -/

theorem floatImage_eq_ok_iff {t : ValueType} {x : Float64Bits} {j : Json} :
    floatImage t x = .ok j ↔ ∃ hx : x.isFinite = true, j = .number (.float x hx) := by
  unfold floatImage JsonNumber.ofFloat?
  split
  · next n hn =>
    split at hn
    · next hx =>
      cases hn
      simp [hx, eq_comm]
    · cases hn
  · next hn =>
    split at hn
    · cases hn
    · next hx => simp [hx]

theorem floatImage_eq_error_iff {t : ValueType} {x : Float64Bits} {e : AccessError} :
    floatImage t x = .error e ↔ x.isFinite = false ∧ e = .unrepresentable t := by
  unfold floatImage JsonNumber.ofFloat?
  by_cases hx : x.isFinite = true
  · simp [hx]
  · simp [hx, eq_comm]

theorem openable_eq_ok_iff {h : Heap} {opened : List Container} {c : Container} :
    h.openable opened c = .ok () ↔ c ∉ opened ∧ (c.hold h).readable = true := by
  unfold openable
  split
  · simp_all
  · split <;> simp_all

theorem openable_eq_error_iff {h : Heap} {opened : List Container} {c : Container}
    {e : AccessError} :
    h.openable opened c = .error e ↔
      (c ∈ opened ∧ e = .unrepresentable c.type) ∨
        (c ∉ opened ∧ (c.hold h).readable = false ∧ e = .busy) := by
  unfold openable
  by_cases hc : c ∈ opened
  · rw [if_pos hc]
    constructor
    · rintro ⟨⟩
      exact .inl ⟨hc, rfl⟩
    · rintro (⟨-, rfl⟩ | ⟨hout, -, -⟩)
      · rfl
      · exact absurd hc hout
  · cases hr : (c.hold h).readable with
    | true => simp [hc]
    | false => simp [hc, eq_comm]

/-- What holds no container is converted without going down. -/
theorem imageWithin_leaf {s : Slot} (hs : s.bind Value.container? = none) (h : Heap) (steps : Nat)
    (opened : List Container) : h.imageWithin steps opened s = h.imageWithin 0 [] s := by
  cases s with
  | none => simp only [imageWithin]
  | some v =>
    cases v with
    | mapping a => cases hs
    | list a => cases hs
    | array a => cases hs
    | _ => simp only [imageWithin]

theorem mapM_entries (f : Slot → Except AccessError Json) (es : Entries Slot) :
    (es.mapM fun (k, s) => do
      let j ← f s
      pure (k, j)) = ((es.map Prod.snd).mapM f).map (es.names.zip ·) := by
  induction es with
  | nil => rfl
  | cons e es ih =>
    simp only [List.mapM_cons, List.map_cons, Entries.names_cons]
    rw [ih]
    cases f e.2 with
    | error err => rfl
    | ok j =>
      cases (es.map Prod.snd).mapM f with
      | error err => rfl
      | ok js => rfl

/-- **A container is converted** by admitting it, converting its slots, and putting the
images together. -/
theorem imageWithin_container (h : Heap) (steps : Nat) (opened : List Container) (c : Container) :
    h.imageWithin (steps + 1) opened (some c.handle) =
      h.openable opened c >>= fun _ =>
        ((c.slots h).mapM (h.imageWithin steps (c :: opened))).map (c.assemble h) := by
  cases c with
  | mapping a =>
    simp only [Container.handle, imageWithin, Container.slots]
    congr 1
    funext _
    rw [mapM_entries]
    cases ((h.mapping a).content.map Prod.snd).mapM
      (h.imageWithin steps (.mapping a :: opened)) <;> rfl
  | list a => rfl
  | array a => rfl

/-- A slot holds a container, or there is nothing to go down into. -/
theorem leaf_or_container (s : Slot) :
    s.bind Value.container? = none ∨ ∃ c : Container, s = some c.handle := by
  cases s with
  | none => exact .inl rfl
  | some v =>
    cases hv : v.container? with
    | none => exact .inl hv
    | some c => exact .inr ⟨c, congrArg some (Container.container?_eq_some_iff.mp hv)⟩

theorem mapM_congr {f g : Slot → Except AccessError Json} {ss : List Slot}
    (hfg : ∀ s ∈ ss, f s = g s) : ss.mapM f = ss.mapM g := by
  induction ss with
  | nil => rfl
  | cons s ss ih =>
    rw [List.mapM_cons, List.mapM_cons, hfg s List.mem_cons_self,
      ih fun t ht => hfg t (List.mem_cons_of_mem s ht)]

theorem imageWithin_succ {h : Heap} {opened : List Container} {steps : Nat} (s : Slot)
    (hw : h.WayDown opened steps) :
    h.imageWithin (steps + 1) opened s = h.imageWithin steps opened s := by
  induction steps generalizing opened s with
  | zero => exact absurd hw.pos (Nat.lt_irrefl 0)
  | succ steps ih =>
    obtain hs | ⟨c, rfl⟩ := leaf_or_container s
    · rw [imageWithin_leaf hs, imageWithin_leaf hs h (steps + 1)]
    · rw [imageWithin_container, imageWithin_container]
      cases hopen : h.openable opened c with
      | error e => rfl
      | ok _ =>
        have hc := (openable_eq_ok_iff.mp hopen).1
        have hslots : (c.slots h).mapM (h.imageWithin (steps + 1) (c :: opened)) =
            (c.slots h).mapM (h.imageWithin steps (c :: opened)) :=
          mapM_congr fun t ht => ih t (hw.step hc (Container.live_of_mem_slots ht))
        exact congrArg (Except.map (c.assemble h)) hslots

/-- The bound on the recursion never shows: any larger one gives the same. -/
theorem imageWithin_eq_image (h : Heap) (s : Slot) {steps : Nat} (hs : h.containers + 2 ≤ steps) :
    h.imageWithin steps [] s = h.image s := by
  induction hs with
  | refl => rfl
  | step hle ih => rw [imageWithin_succ s (.start hle), ih]

/-- **What every image has** is what the image of a leaf has, and what is kept when images are put
together. By induction on the steps that are left. -/
theorem imageWithin_induction {h : Heap} {q : Json → Prop}
    (leaf : ∀ s j, s.bind Value.container? = none → h.imageWithin 0 [] s = .ok j → q j)
    (assemble : ∀ (c : Container) images, images.length = (c.slots h).length →
      (∀ j ∈ images, q j) → q (c.assemble h images))
    {steps : Nat} {opened : List Container} {s : Slot} {j : Json}
    (hj : h.imageWithin steps opened s = .ok j) : q j := by
  induction steps generalizing opened s j with
  | zero =>
    obtain hs | ⟨c, rfl⟩ := leaf_or_container s
    · rw [imageWithin_leaf hs] at hj
      exact leaf s j hs hj
    · cases c <;> simp [Container.handle, imageWithin] at hj
  | succ steps ih =>
    obtain hs | ⟨c, rfl⟩ := leaf_or_container s
    · rw [imageWithin_leaf hs] at hj
      exact leaf s j hs hj
    · rw [imageWithin_container] at hj
      obtain ⟨-, -, hj⟩ := bind_eq_ok_iff.mp hj
      obtain ⟨images, him, rfl⟩ := map_eq_ok_iff.mp hj
      refine assemble c images (forall₂_of_mapM him).length_eq.symm fun i hi => ?_
      obtain ⟨t, -, ht⟩ := exists_of_mem_mapM him i hi
      exact ih ht

/-! ### What a conversion sees of a heap -/

/-- Two heaps that a conversion cannot tell apart: containers with the same content that are
both readable or both not, and the same nodes of documents. -/
structure Alike (h h' : Heap) : Prop where
  slots : ∀ c : Container, c.slots h' = c.slots h
  assemble : ∀ (c : Container) (images : List Json), c.assemble h' images = c.assemble h images
  readable : ∀ c : Container, (c.hold h').readable = (c.hold h).readable
  node : ∀ d : Document, d.node? h' = d.node? h

theorem Alike.openable {h h' : Heap} (heq : Alike h h') (opened : List Container)
    (c : Container) : h'.openable opened c = h.openable opened c := by
  rw [Heap.openable, Heap.openable, heq.readable]

theorem Alike.imageWithin {h h' : Heap} (heq : Alike h h') (steps : Nat)
    (opened : List Container) (s : Slot) :
    h'.imageWithin steps opened s = h.imageWithin steps opened s := by
  induction steps generalizing opened s with
  | zero =>
    cases s with
    | none => simp only [Heap.imageWithin]
    | some v => cases v <;> simp only [Heap.imageWithin, heq.node]
  | succ steps ih =>
    obtain hs | ⟨c, rfl⟩ := leaf_or_container s
    · rw [imageWithin_leaf hs h' (steps + 1), imageWithin_leaf hs h (steps + 1),
        ← imageWithin_leaf hs h' steps opened, ← imageWithin_leaf hs h steps opened, ih]
    · rw [imageWithin_container, imageWithin_container, heq.openable, heq.slots,
        mapM_congr fun t _ => ih (c :: opened) t, funext (heq.assemble c)]

end Heap

end ScriptHost
