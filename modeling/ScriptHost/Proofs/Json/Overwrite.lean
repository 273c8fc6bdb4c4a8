import Mathlib.Data.List.Basic
import ScriptHost.Proofs.Json.Path

/-!
# Changes at several paths

A change further down a path is a change of the node that the path goes through
(`modifyAt_append`), and only what a change does to the node at its path counts
(`modifyAt_congr`). Changes at paths apart from each other can be made in either order
(`modifyAt_comm`). To replace a child that is there is a change at the path of the child, whether
it is a member or an item (`put_eq_modifyEntry`, `set_eq_modifyChild`).
-/

namespace ScriptHost.Pointer

/-! ### One step -/

theorem modifyEntry_congr {token : String} {f g : Json → Json} {es : Entries Json}
    (hfg : ∀ c, Entries.value? token es = some c → f c = g c) :
    modifyEntry token f es = modifyEntry token g es := by
  induction es with
  | nil => rfl
  | cons e es ih =>
    obtain ⟨k, j⟩ := e
    rw [modifyEntry, modifyEntry]
    rw [Entries.value?] at hfg
    by_cases hk : k = token
    · rw [if_pos hk] at hfg
      rw [if_pos hk, if_pos hk, hfg j rfl]
    · rw [if_neg hk] at hfg
      rw [if_neg hk, if_neg hk, ih hfg]

theorem modifyChild_congr {token : String} {f g : Json → Json} {j : Json}
    (hfg : ∀ c, child? token j = some c → f c = g c) :
    modifyChild token f j = modifyChild token g j := by
  cases j with
  | object members => exact congrArg Json.object (modifyEntry_congr hfg)
  | array items =>
    rw [modifyChild, modifyChild]
    rw [child?] at hfg
    cases hi : index? token with
    | none => rfl
    | some i =>
      rw [hi, Option.bind_some] at hfg
      refine congrArg Json.array (List.ext_getElem? fun k => ?_)
      rw [List.getElem?_modify, List.getElem?_modify]
      split
      · next hik =>
        subst hik
        exact Option.map_congr hfg
      · rfl
  | _ => rfl

theorem modifyEntry_modifyEntry (token : String) (f g : Json → Json) (es : Entries Json) :
    modifyEntry token f (modifyEntry token g es) = modifyEntry token (fun c => f (g c)) es := by
  induction es with
  | nil => rfl
  | cons e es ih =>
    obtain ⟨k, j⟩ := e
    by_cases hk : k = token <;> simp [modifyEntry, hk, ih]

theorem modifyEntry_comm {token other : String} (hne : token ≠ other) (f g : Json → Json)
    (es : Entries Json) :
    modifyEntry token f (modifyEntry other g es) =
      modifyEntry other g (modifyEntry token f es) := by
  induction es with
  | nil => rfl
  | cons e es ih =>
    obtain ⟨k, j⟩ := e
    by_cases hk : k = token
    · subst hk
      simp [modifyEntry, hne]
    · by_cases hk' : k = other
      · subst hk'
        simp [modifyEntry, hk]
      · simp [modifyEntry, hk, hk', ih]

theorem modifyChild_modifyChild (token : String) (f g : Json → Json) (j : Json) :
    modifyChild token f (modifyChild token g j) = modifyChild token (fun c => f (g c)) j := by
  cases j with
  | object members => exact congrArg Json.object (modifyEntry_modifyEntry token f g members)
  | array items =>
    cases hi : index? token with
    | none => simp only [modifyChild, hi]
    | some i =>
      simp only [modifyChild, hi]
      refine congrArg Json.array (List.ext_getElem? fun k => ?_)
      simp only [List.getElem?_modify]
      cases items[k]? <;> split <;> rfl
  | _ => rfl

/-- Changes of different children can be made in either order. -/
theorem modifyChild_comm {token other : String} (hne : token ≠ other) (f g : Json → Json)
    (j : Json) :
    modifyChild token f (modifyChild other g j) =
      modifyChild other g (modifyChild token f j) := by
  cases j with
  | object members => exact congrArg Json.object (modifyEntry_comm hne f g members)
  | array items =>
    cases hi : index? token with
    | none => cases hk : index? other <;> simp only [modifyChild, hi, hk]
    | some i =>
      cases hk : index? other with
      | none => simp only [modifyChild, hi, hk]
      | some k =>
        have hik : i ≠ k := by
          rintro rfl
          rw [index?_eq_some_iff] at hi hk
          exact hne (hi.trans hk.symm)
        simp only [modifyChild, hi, hk]
        refine congrArg Json.array (List.ext_getElem? fun n => ?_)
        simp only [List.getElem?_modify]
        by_cases hin : i = n
        · have hkn : k ≠ n := fun hkn => hik (hin.trans hkn.symm)
          simp [hin, hkn]
        · simp [hin]
  | _ => rfl

/-! ### Whole paths -/

theorem modifyAt_congr {p : List String} {f g : Json → Json} {j : Json}
    (hfg : ∀ c, follow? j p = some c → f c = g c) : modifyAt f p j = modifyAt g p j := by
  induction p generalizing j with
  | nil => exact hfg j rfl
  | cons t ts ih =>
    refine modifyChild_congr fun c hc => ih fun d hd => hfg d ?_
    rw [follow?_cons, hc, Option.bind_some, hd]

/-- A change along `p ++ q` is a change along `q` of the node at `p`. -/
theorem modifyAt_append (f : Json → Json) (p q : List String) (j : Json) :
    modifyAt f (p ++ q) j = modifyAt (modifyAt f q) p j := by
  induction p generalizing j with
  | nil => rfl
  | cons t ts ih =>
    rw [List.cons_append, modifyAt, modifyAt, funext ih]

/-- **Changes at paths apart from each other** can be made in either order. -/
theorem modifyAt_comm {p q : List String} (hpq : Apart p q) (f g : Json → Json) (j : Json) :
    modifyAt f p (modifyAt g q j) = modifyAt g q (modifyAt f p j) := by
  induction p generalizing q j with
  | nil => exact absurd List.nil_prefix hpq.1
  | cons t p ih =>
    cases q with
    | nil => exact absurd List.nil_prefix hpq.2
    | cons u q =>
      simp only [modifyAt]
      by_cases htu : t = u
      · subst htu
        rw [modifyChild_modifyChild, modifyChild_modifyChild, funext (ih hpq.of_cons)]
      · exact modifyChild_comm htu _ _ j

theorem Apart.symm {p q : List String} (h : Apart p q) : Apart q p := ⟨h.2, h.1⟩

/-- What a node is, an object or an array or neither, is not changed further down or apart. -/
theorem outline_modifyAt {p path : List String} {t : String} (hapart : Apart (path ++ [t]) p)
    (f : Json → Json) (j : Json) :
    (follow? (modifyAt f p j) path).map Json.isObject = (follow? j path).map Json.isObject := by
  rcases hapart.append_singleton with hleft | ⟨u, us, -, rfl⟩
  · rw [follow?_modifyAt_apart hleft.symm]
  · rw [follow?_modifyAt_append, Option.map_map]
    refine congrFun (congrArg Option.map (funext fun c => ?_)) _
    have hnames := congrArg Option.isSome (outline_modifyChild u (modifyAt f us) c).1
    rwa [Option.isSome_map, Option.isSome_map] at hnames

/-! ### Children that are there -/

theorem put_eq_modifyEntry {token : String} {es : Entries Json}
    (htoken : token ∈ Entries.names es) (j : Json) :
    Entries.put token j es = modifyEntry token (fun _ => j) es := by
  induction es with
  | nil => cases htoken
  | cons e es ih =>
    obtain ⟨k, i⟩ := e
    by_cases hk : k = token
    · simp [Entries.put, modifyEntry, hk]
    · have hes : token ∈ Entries.names es := by
        rcases List.mem_cons.mp htoken with heq | hes
        · exact absurd heq.symm hk
        · exact hes
      simp [Entries.put, modifyEntry, hk, ih hes]

theorem set_eq_modifyChild (i : Nat) (items : List Json) (j : Json) :
    Json.array (items.set i j) = modifyChild i.repr (fun _ => j) (.array items) := by
  rw [modifyChild, index?_repr, List.set_eq_modify]

end ScriptHost.Pointer
