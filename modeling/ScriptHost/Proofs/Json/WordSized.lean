import Mathlib.Algebra.Group.Int.Defs
import ScriptHost.Json.Reading
import ScriptHost.Proofs.Json.WellFormed
import ScriptHost.Proofs.Outcome

/-!
# Integers of one word

The integers of documents are those that a machine word holds, with or without a sign. That is how
trees come about, and no change breaks it: a text is read into such a tree (`parse_wordSized`), and
a tree keeps it when a subtree is replaced by one that has it (`WordSized.modifyAt`).
-/

namespace ScriptHost

/-- **The number fits a word** of 64 bits, with or without a sign, or it is a float. -/
def JsonNumber.WordSized : JsonNumber → Prop
  | integer n => -2 ^ 63 ≤ n ∧ n < 2 ^ 64
  | float _ _ => True

namespace Json

open Pointer Outcome

/-- All numbers of the tree fit a word. -/
inductive WordSized : Json → Prop where
  | null : WordSized .null
  | bool (b : Bool) : WordSized (.bool b)
  | number {n : JsonNumber} : n.WordSized → WordSized (.number n)
  | string (s : String) : WordSized (.string s)
  | array {items : List Json} : (∀ j ∈ items, WordSized j) → WordSized (.array items)
  | object {members : Entries Json} : (∀ e ∈ members, WordSized e.2) → WordSized (.object members)

theorem wordSized_number_iff {n : JsonNumber} : WordSized (.number n) ↔ n.WordSized :=
  ⟨fun | .number h => h, .number⟩

theorem wordSized_array_iff {items : List Json} :
    WordSized (.array items) ↔ ∀ j ∈ items, WordSized j :=
  ⟨fun | .array h => h, .array⟩

theorem wordSized_object_iff {members : Entries Json} :
    WordSized (.object members) ↔ ∀ e ∈ members, WordSized e.2 :=
  ⟨fun | .object h => h, .object⟩

/-! ### Nodes and changes -/

namespace WordSized

variable {j c : Json} {token : String} {path : List String} {f : Json → Json}

theorem child (hj : j.WordSized) (hc : child? token j = some c) : c.WordSized := by
  cases hj with
  | object hm => exact hm _ (Entries.mem_of_value? hc)
  | array hi =>
    obtain ⟨i, -, hc⟩ := Option.bind_eq_some_iff.mp hc
    exact hi c (List.mem_of_getElem? hc)
  | _ => cases hc

theorem follow (hj : j.WordSized) (hc : follow? j path = some c) : c.WordSized := by
  induction path generalizing j with
  | nil => exact Option.some.inj hc ▸ hj
  | cons t ts ih =>
    rw [follow?_cons] at hc
    obtain ⟨d, hd, hc⟩ := Option.bind_eq_some_iff.mp hc
    exact ih (hj.child hd) hc

theorem modifyChild (hj : j.WordSized) (hf : ∀ c, c.WordSized → (f c).WordSized) :
    (modifyChild token f j).WordSized := by
  cases hj with
  | object hm =>
    refine .object fun e he => ?_
    rcases mem_modifyEntry he with he | ⟨c, hc, rfl⟩
    · exact hm e he
    · exact hf c (hm _ hc)
  | @array items hi =>
    rw [Pointer.modifyChild]
    split
    · next i _ =>
      refine .array fun k hk => ?_
      obtain ⟨n, hn⟩ := List.mem_iff_getElem?.mp hk
      rw [List.getElem?_modify] at hn
      obtain ⟨c, hc, rfl⟩ := Option.map_eq_some_iff.mp hn
      split
      · exact hf c (hi c (List.mem_of_getElem? hc))
      · exact hi c (List.mem_of_getElem? hc)
    · exact .array hi
  | null => exact .null
  | bool b => exact .bool b
  | number hn => exact .number hn
  | string s => exact .string s

theorem modifyAt (hj : j.WordSized) (hf : ∀ c, c.WordSized → (f c).WordSized) :
    (modifyAt f path j).WordSized := by
  induction path generalizing j with
  | nil => exact hf j hj
  | cons t ts ih => exact hj.modifyChild fun c hc => ih hc

end WordSized

/-! ### Reading numbers -/

/-- A reading step gives such a number, if it gives one. -/
def ReadsWordSized (r : Except ParseError (Rest JsonNumber)) : Prop :=
  ∀ n rest, r = .ok (n, rest) → n.WordSized

theorem wordSized_ofFloat? {x : Float64Bits} {n : JsonNumber}
    (hn : JsonNumber.ofFloat? x = some n) : n.WordSized := by
  unfold JsonNumber.ofFloat? at hn
  split at hn
  · cases hn
    trivial
  · cases hn

theorem wordSized_floatOf {negative : Bool} {significand : Nat} {e : Int} {n : JsonNumber}
    (hn : floatOf negative significand e = .ok n) : n.WordSized := by
  unfold floatOf at hn
  split at hn
  · next hbind =>
    cases hn
    obtain ⟨x, -, hx⟩ := Option.bind_eq_some_iff.mp hbind
    exact wordSized_ofFloat? hx
  · cases hn

theorem wordSized_integerOf {negative : Bool} {k : Nat} (hk : k ≤ maxSignificand) {n : JsonNumber}
    (hn : integerOf negative k = .ok n) : n.WordSized := by
  have hmax : maxSignificand = 18446744073709551615 := rfl
  unfold integerOf at hn
  split at hn
  · split at hn
    · exact wordSized_floatOf hn
    · next hfit =>
      have hpow : (2 : Nat) ^ 63 = 9223372036854775808 := rfl
      cases hn
      show -2 ^ 63 ≤ -(k : Int) ∧ -(k : Int) < 2 ^ 64
      omega
  · cases hn
    show -2 ^ 63 ≤ (k : Int) ∧ (k : Int) < 2 ^ 64
    omega

theorem wordSized_withExponent {negative : Bool} {significand : Nat} {e : Int} {down : Bool}
    {digits : List Char} {n : JsonNumber}
    (hn : withExponent negative significand e down digits = .ok n) : n.WordSized := by
  unfold withExponent at hn
  dsimp only at hn
  split at hn
  · exact wordSized_floatOf hn
  · split at hn
    · cases hn
    · exact wordSized_floatOf hn

theorem not_ok_complain {α : Type} {cs : List Char} {a : α} : complain cs ≠ .ok a := by
  cases cs <;> simp [complain]

theorem reads_map {r : Except ParseError JsonNumber} {rest : List Char}
    (hr : ∀ n, r = .ok n → n.WordSized) : ReadsWordSized (r.map (·, rest)) := by
  intro n rest' hn
  obtain ⟨m, hm, heq⟩ := map_eq_ok_iff.mp hn
  cases heq
  exact hr n hm

theorem reads_finishFloat {negative : Bool} {significand : Nat} {e : Int} {cs : List Char} :
    ReadsWordSized (finishFloat negative significand e cs) := by
  have hexponent : ∀ cs, ReadsWordSized (readExponent negative significand e cs) := by
    intro cs n rest hn
    unfold readExponent at hn
    dsimp only at hn
    split at hn
    · exact absurd hn not_ok_complain
    · obtain ⟨m, hm, hn⟩ := bind_eq_ok_iff.mp hn
      cases hn
      exact wordSized_withExponent hm
  unfold finishFloat
  split
  · exact hexponent _
  · exact hexponent _
  · exact reads_map fun n hn => wordSized_floatOf hn

theorem reads_readPlaces {negative : Bool} {significand : Nat} {e : Int} {cs : List Char} :
    ReadsWordSized (readPlaces negative significand e cs) := by
  intro n rest hn
  unfold readPlaces at hn
  dsimp only at hn
  split at hn
  · exact absurd hn not_ok_complain
  · exact reads_finishFloat n rest hn

/-- What is collected is not larger than the largest significand. -/
theorem collect_le {significand : Nat} (hs : significand ≤ maxSignificand) (taken : Nat)
    (cs : List Char) : (collect significand taken cs).1 ≤ maxSignificand := by
  induction cs generalizing significand taken with
  | nil => exact hs
  | cons c cs ih =>
    rw [collect]
    split
    · next hnext => exact ih hnext.2 _
    · exact hs

theorem reads_readNumber {negative : Bool} {cs : List Char} :
    ReadsWordSized (readNumber negative cs) := by
  have hzero : ∀ n, integerOf negative 0 = .ok n → n.WordSized :=
    fun n hn => wordSized_integerOf (Nat.zero_le _) hn
  intro n rest hn
  unfold readNumber at hn
  split at hn
  · cases hn
  · split at hn
    · exact reads_readPlaces n rest hn
    · exact reads_finishFloat n rest hn
    · exact reads_finishFloat n rest hn
    · split at hn
      · cases hn
      · exact reads_map hzero n rest hn
    · exact reads_map hzero n rest hn
  · next c tail _ =>
    split at hn
    · cases hn
    · have hle := collect_le (Nat.zero_le maxSignificand) 0 (c :: tail)
      dsimp only at hn
      split at hn
      · exact reads_readPlaces n rest hn
      · exact reads_finishFloat n rest hn
      · exact reads_finishFloat n rest hn
      · split at hn
        · exact reads_map (fun m hm => wordSized_integerOf hle hm) n rest hn
        · exact reads_map (fun m hm => wordSized_floatOf hm) n rest hn

/-! ### Reading trees -/

/-- A reading step gives such a tree, if it gives one. -/
def ReadsTree (r : Except ParseError (Rest Json)) : Prop :=
  ∀ j rest, r = .ok (j, rest) → j.WordSized

theorem readsTree_map {α : Type} {r : Except ParseError (Rest α)} {f : α → Json}
    (hf : ∀ a rest, r = .ok (a, rest) → (f a).WordSized) :
    ReadsTree (r.map fun p => (f p.1, p.2)) := by
  intro j rest hj
  obtain ⟨⟨a, rest'⟩, ha, heq⟩ := map_eq_ok_iff.mp hj
  cases heq
  exact hf a _ ha

theorem readsTree_word {r : Except ParseError (List Char)} {j : Json} (hj : j.WordSized) :
    ReadsTree (r.map (j, ·)) := by
  intro k rest hk
  obtain ⟨cs, -, heq⟩ := map_eq_ok_iff.mp hk
  cases heq
  exact hj

/-- What the readers of trees, of items and of members give in so many rounds. -/
structure RoundsWordSized (size rounds : Nat) : Prop where
  tree : ∀ depth cs, ReadsTree (readTree size rounds depth cs)
  items : ∀ depth acc cs, (∀ j ∈ acc, j.WordSized) → ReadsTree (readItems size rounds depth acc cs)
  members : ∀ depth (acc : Entries Json) cs, (∀ e ∈ acc, e.2.WordSized) →
    ReadsTree (readMembers size rounds depth acc cs)

/-- By induction on the rounds, for the three readers call each other. -/
theorem roundsWordSized (size rounds : Nat) : RoundsWordSized size rounds := by
  induction rounds with
  | zero =>
    refine ⟨?_, ?_, ?_⟩
    · intro depth cs j rest hj
      cases hj
    · intro depth acc cs _ j rest hj
      cases hj
    · intro depth acc cs _ j rest hj
      cases hj
  | succ rounds ih =>
    refine ⟨?_, ?_, ?_⟩
    · intro depth cs
      unfold readTree
      split
      · exact readsTree_word .null
      · exact readsTree_word (.bool true)
      · exact readsTree_word (.bool false)
      · exact readsTree_map fun n rest hn => .number (reads_readNumber n rest hn)
      · exact readsTree_map fun s _ _ => .string s
      · split
        · intro j rest hj
          cases hj
        · split
          · intro j rest hj
            cases hj
            exact .array (List.forall_mem_nil _)
          · exact ih.items _ _ _ (List.forall_mem_nil _)
      · split
        · intro j rest hj
          cases hj
        · split
          · intro j rest hj
            cases hj
            exact .object (List.forall_mem_nil _)
          · exact ih.members _ _ _ (List.forall_mem_nil _)
      · split
        · exact readsTree_map fun n rest hn => .number (reads_readNumber n rest hn)
        · intro j rest hj
          cases hj
      · intro j rest hj
        cases hj
    · intro depth acc cs hacc j rest hj
      unfold readItems at hj
      obtain ⟨⟨item, cs'⟩, hitem, hj⟩ := bind_eq_ok_iff.mp hj
      have hall : ∀ k ∈ item :: acc, k.WordSized :=
        List.forall_mem_cons.mpr ⟨ih.tree _ _ _ _ hitem, hacc⟩
      dsimp only at hj
      split at hj
      · exact ih.items _ _ _ hall _ _ hj
      · cases hj
        exact .array fun k hk => hall k (List.mem_reverse.mp hk)
      · exact absurd hj not_ok_complain
    · intro depth acc cs hacc j rest hj
      unfold readMembers at hj
      split at hj
      · obtain ⟨⟨name, cs₁⟩, -, hj⟩ := bind_eq_ok_iff.mp hj
        obtain ⟨cs₂, -, hj⟩ := bind_eq_ok_iff.mp hj
        obtain ⟨⟨k, cs₃⟩, hk, hj⟩ := bind_eq_ok_iff.mp hj
        have hall : ∀ e ∈ Entries.put name k acc, e.2.WordSized := by
          intro e he
          rcases Entries.mem_put he with rfl | he
          · exact ih.tree _ _ _ _ hk
          · exact hacc e he
        dsimp only at hj
        split at hj
        · exact ih.members _ _ _ hall _ _ hj
        · cases hj
          exact .object hall
        · exact absurd hj not_ok_complain
      · exact absurd hj not_ok_complain

/-- **The numbers of a text fit a word** once it is read. -/
theorem parse_wordSized {text : String} {j : Json} (hj : parse text = .ok j) : j.WordSized := by
  unfold parse at hj
  obtain ⟨⟨k, rest⟩, hk, hj⟩ := bind_eq_ok_iff.mp hj
  dsimp only at hj
  split at hj
  · cases hj
    exact (roundsWordSized _ _).tree _ _ _ _ hk
  · cases hj

end Json

end ScriptHost
