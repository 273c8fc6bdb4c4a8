import ScriptHost.Proofs.Outcome
import ScriptHost.Session.Run

/-!
# Scopes restore the stack

Commands that run inside a scope can do with the stack what they like: leave frames behind,
pop frames that were there before the scope, open scopes of their own, and panic inside of
those. The scope knows nothing of this. It cuts the stack back to the depth that it found, also
when a panic passes through it.

## What is proved

* A scope ends as the commands inside it do, and cuts the stack where it was entered
  (`exec_withContext`).
* What is below the lowest depth that commands reach is not touched by them, however deep their
  scopes nest and wherever they panic (`ScopeBody.take_eq`).
* So a scope puts back the stack that it found, unless the commands went below it, and then it
  puts back what they left of it (`withContext_restores`).
-/

namespace ScriptHost.Session

open Outcome

/-! ### Running computations -/

/-- What a computation gives in a session, and the session afterwards. -/
def exec {α : Type} (m : SessionM α) (s : Session) : Except Interruption α × Session :=
  m.run.run s

section Exec

variable {α β : Type} {m : SessionM α} {k : α → SessionM β} {s t u : Session} {a : α}
  {e : Interruption}

theorem exec_get (s : Session) : exec get s = (.ok s, s) := rfl

theorem exec_bind_ok (hm : exec m s = (.ok a, t)) : exec (m >>= k) s = exec (k a) t :=
  run_bind_ok hm

theorem exec_bind_error (hm : exec m s = (.error e, t)) : exec (m >>= k) s = (.error e, t) :=
  run_bind_error hm

/-- What is done at the end of an action is done in any case. -/
theorem exec_withEnding {r : Except Interruption α} {ending : SessionM Unit}
    (hm : exec m s = (r, t)) (hending : exec ending t = (.ok (), u)) :
    exec (withEnding m ending) s = (r, u) := by
  unfold withEnding
  cases r with
  | ok a =>
    rw [exec_bind_ok (run_tryCatch_ok hm), exec_bind_ok hending]
    rfl
  | error e =>
    have hcatch : exec (tryCatch m fun e => do ending; throw e) s = (.error e, u) := by
      unfold exec
      rw [run_tryCatch_error hm]
      exact exec_bind_ok hending
    exact exec_bind_error hcatch

end Exec

variable {watch : List String} {c : Command} {cs body : List Command} {s t : Session}
  {name : String} {f : Frame}

/-! ### Commands on the stack -/

theorem exec_context_some (h : s.contexts.value? name = some f) :
    exec (context name) s = (.ok f, s) := by
  unfold context
  rw [exec_bind_ok (exec_get s), h]
  rfl

theorem exec_context_none (h : s.contexts.value? name = none) :
    exec (context name) s = (.error (.answered .meaningless), s) := by
  unfold context
  rw [exec_bind_ok (exec_get s), h]
  rfl

theorem stack_push :
    (exec (run watch (.push name)) s).2.stack = s.stack ++ (s.contexts.value? name).toList := by
  rw [run]
  cases h : s.contexts.value? name with
  | none =>
    rw [exec_bind_error (exec_context_none h)]
    simp
  | some f =>
    rw [exec_bind_ok (exec_context_some h)]
    rfl

theorem stack_pop : (exec (run watch .pop) s).2.stack = s.stack.dropLast := by
  have h : (exec (run watch .pop) s).2.stack = s.stack.pop.2.1 := by
    rw [run]
    rfl
  rw [h, ContextStack.pop]
  cases hlast : s.stack.getLast? with
  | none => simp [List.getLast?_eq_none_iff.mp hlast]
  | some f => rfl

theorem stack_peek : (exec (run watch .peek) s).2.stack = s.stack := by
  rw [run]
  rfl

theorem stack_depth : (exec (run watch .depth) s).2.stack = s.stack := by
  rw [run]
  rfl

theorem exec_panic (message : String) :
    exec (run watch (.panic message)) s = (.error (.panicked message), s) := by
  rw [run]
  rfl

/-! ### Scopes -/

/-- The session in which the commands of a scope start. -/
def entered (s : Session) (f : Frame) : Session :=
  let (_, stack, events) := s.stack.enter f
  { s with stack, events := s.events ++ events }

/-- The session after a guard has been dropped. -/
def closed (s : Session) (g : ContextGuard) : Session :=
  let (stack, events) := s.stack.close g
  { s with stack, events := s.events ++ events }

theorem stack_entered : (s.entered f).stack = s.stack ++ [f] := rfl

theorem stack_closed (g : ContextGuard) : (s.closed g).stack = s.stack.take g.baseDepth := rfl

theorem exec_close (g : ContextGuard) : exec (close g) s = (.ok (), s.closed g) := rfl

/-- The guard that is dropped has the depth at which the scope was entered, and the stack that
it is dropped on is the one that the commands leave, whether they end or panic. -/
theorem exec_withContext (watch : List String) (body : List Command)
    (h : s.contexts.value? name = some f) :
    let ended := exec (runAll watch body) (s.entered f)
    let left := ended.2.closed ⟨s.stack.depth⟩
    exec (run watch (.withContext name body)) s =
      (ended.1.map fun results => .scope results left.stack.depth, left) := by
  intro ended left
  have hscope : exec (withEnding (runAll watch body) (close ⟨s.stack.depth⟩)) (s.entered f) =
      (ended.1, left) := exec_withEnding rfl (exec_close _)
  rw [run, exec_bind_ok (exec_context_some h)]
  change exec (withEnding (runAll watch body) (close ⟨s.stack.depth⟩) >>= _) (s.entered f) = _
  cases hended : ended.1 with
  | ok results =>
    rw [hended] at hscope
    rw [exec_bind_ok hscope]
    rfl
  | error e =>
    rw [hended] at hscope
    rw [exec_bind_error hscope]
    rfl

/-! ### Commands in order -/

/-- The session in which the commands behind `c` run. There is none if `c` panics. -/
def next? (watch : List String) (c : Command) (s : Session) : Option Session :=
  match exec (run watch c) s with
  | (.error (.panicked _), _) => none
  | (_, t) => some { t with events := [] }

theorem stack_next? (h : next? watch c s = some t) : t.stack = (exec (run watch c) s).2.stack := by
  unfold next? at h
  split at h
  · cases h
  · next heq =>
    cases h
    rw [heq]

/-- How an interruption is met between two commands: an early answer is an answer, and a panic
goes on. -/
def settle : Interruption → SessionM Answer
  | .answered a => pure a
  | .panicked message => throw (.panicked message)

theorem runAll_cons : runAll watch (c :: cs) = (do
    let a ← tryCatch (run watch c) settle
    let r ← report watch
    let rest ← runAll watch cs
    pure ((a, r) :: rest)) := by
  rw [runAll]
  rfl

/-- Commands that come after a panic are not run. -/
theorem exec_runAll_none (h : next? watch c s = none) :
    (exec (runAll watch (c :: cs)) s).2 = (exec (run watch c) s).2 := by
  unfold next? at h
  split at h
  · next message u hc =>
    have hcaught : exec (tryCatch (run watch c) settle) s = (.error (.panicked message), u) :=
      run_tryCatch_error hc
    rw [runAll_cons, exec_bind_error hcaught, hc]
  · cases h

/-- What the commands behind `c` leave is what is left in the end. -/
theorem exec_runAll_some (h : next? watch c s = some t) :
    (exec (runAll watch (c :: cs)) s).2 = (exec (runAll watch cs) t).2 := by
  have hfirst : ∃ a u, exec (tryCatch (run watch c) settle) s = (.ok a, u) ∧
      t = { u with events := [] } := by
    unfold next? at h
    cases hc : exec (run watch c) s with
    | mk r u =>
      rw [hc] at h
      match r, hc, h with
      | .ok a, hc, rfl => exact ⟨a, u, run_tryCatch_ok hc, rfl⟩
      | .error (.answered a), hc, rfl => exact ⟨a, u, run_tryCatch_error hc, rfl⟩
  obtain ⟨a, u, hfirst, rfl⟩ := hfirst
  obtain ⟨r, hreport⟩ : ∃ r, exec (report watch) u = (.ok r, { u with events := [] }) := ⟨_, rfl⟩
  rw [runAll_cons, exec_bind_ok hfirst, exec_bind_ok hreport]
  cases hrest : exec (runAll watch cs) { u with events := [] } with
  | mk rest v =>
    cases rest with
    | ok results =>
      rw [exec_bind_ok hrest]
      rfl
    | error e => rw [exec_bind_error hrest]

/-! ### Bodies of scopes -/

/-- **The commands that work on the stack**: pushing, popping and looking, panicking, and the
same inside of further scopes. -/
inductive ScopeBody : List Command → Prop where
  | done : ScopeBody []
  | push {name : String} {cs : List Command} : ScopeBody cs → ScopeBody (.push name :: cs)
  | pop {cs : List Command} : ScopeBody cs → ScopeBody (.pop :: cs)
  | peek {cs : List Command} : ScopeBody cs → ScopeBody (.peek :: cs)
  | depth {cs : List Command} : ScopeBody cs → ScopeBody (.depth :: cs)
  | panic {message : String} {cs : List Command} : ScopeBody cs → ScopeBody (.panic message :: cs)
  | withContext {name : String} {body cs : List Command} :
    ScopeBody body → ScopeBody cs → ScopeBody (.withContext name body :: cs)

/-- **The stacks that commands pass through**, the one they start with and the one they end with
among them. -/
inductive Reached (watch : List String) : List Command → Session → ContextStack → Prop where
  /-- The stack before the first command. -/
  | here {cs : List Command} {s : Session} : Reached watch cs s s.stack
  /-- The stack that the first command leaves, also when it panics. -/
  | behind {c : Command} {cs : List Command} {s : Session} :
    Reached watch (c :: cs) s (exec (run watch c) s).2.stack
  /-- A stack inside of a scope. -/
  | inside {name : String} {body cs : List Command} {s : Session} {f : Frame}
    {stack : ContextStack} : s.contexts.value? name = some f →
    Reached watch body (s.entered f) stack → Reached watch (.withContext name body :: cs) s stack
  /-- A stack after the first command. -/
  | later {c : Command} {cs : List Command} {s t : Session} {stack : ContextStack} :
    next? watch c s = some t → Reached watch cs t stack → Reached watch (c :: cs) s stack

/-- What commands leave is among them, however they end. -/
theorem Reached.last (cs : List Command) (s : Session) :
    Reached watch cs s (exec (runAll watch cs) s).2.stack := by
  induction cs generalizing s with
  | nil =>
    rw [runAll]
    exact .here
  | cons c cs ih =>
    cases h : next? watch c s with
    | none =>
      rw [exec_runAll_none h]
      exact .behind
    | some t =>
      rw [exec_runAll_some h]
      exact .later h (ih t)

/-- Commands keep a front part of the stack if the first does and the rest do. -/
theorem take_runAll_cons {m : Nat}
    (hfirst : (exec (run watch c) s).2.stack.take m = s.stack.take m)
    (hrest : ∀ t, next? watch c s = some t →
      (exec (runAll watch cs) t).2.stack.take m = t.stack.take m) :
    (exec (runAll watch (c :: cs)) s).2.stack.take m = s.stack.take m := by
  cases h : next? watch c s with
  | none => rw [exec_runAll_none h, hfirst]
  | some t => rw [exec_runAll_some h, hrest t h, stack_next? h, hfirst]

/-- **What lies below all stacks that commands pass through is not touched.** By induction on
the commands; the guard of an inner scope cuts at a depth that was passed through before. -/
theorem ScopeBody.take_eq (hcs : ScopeBody cs) {m : Nat}
    (hm : ∀ stack, Reached watch cs s stack → m ≤ stack.length) :
    (exec (runAll watch cs) s).2.stack.take m = s.stack.take m := by
  induction hcs generalizing s with
  | done =>
    rw [runAll]
    rfl
  | push _ ih =>
    refine take_runAll_cons ?_ fun t ht => ih fun stack hstack => hm stack (.later ht hstack)
    rw [stack_push, List.take_append_of_le_length (hm _ .here)]
  | pop _ ih =>
    refine take_runAll_cons ?_ fun t ht => ih fun stack hstack => hm stack (.later ht hstack)
    have hle := hm _ .behind
    rw [stack_pop] at hle ⊢
    rw [List.length_dropLast] at hle
    rw [List.dropLast_eq_take, List.take_take, Nat.min_eq_left hle]
  | peek _ ih =>
    refine take_runAll_cons ?_ fun t ht => ih fun stack hstack => hm stack (.later ht hstack)
    rw [stack_peek]
  | depth _ ih =>
    refine take_runAll_cons ?_ fun t ht => ih fun stack hstack => hm stack (.later ht hstack)
    rw [stack_depth]
  | panic _ ih =>
    refine take_runAll_cons ?_ fun t ht => ih fun stack hstack => hm stack (.later ht hstack)
    rw [exec_panic]
  | @withContext name body cs _ _ ihbody ih =>
    refine take_runAll_cons ?_ fun t ht => ih fun stack hstack => hm stack (.later ht hstack)
    cases h : s.contexts.value? name with
    | none => rw [run, exec_bind_error (exec_context_none h)]
    | some f =>
      have hle : m ≤ s.stack.length := hm _ .here
      have hinner := ihbody fun stack hstack => hm stack (.inside h hstack)
      rw [exec_withContext _ _ h, stack_closed, List.take_take]
      rw [show min m s.stack.depth = m from Nat.min_eq_left hle, hinner, stack_entered,
        List.take_append_of_le_length hle]

/-! ### Restoring -/

/-- **What a scope of `f` does to the stack of `s`** when these commands run inside of it. -/
structure Restores (watch : List String) (name : String) (body : List Command) (s : Session)
    (f : Frame) : Prop where
  /-- The commands find the frame of the scope innermost. -/
  innermost : (s.entered f).stack.peek = some f
  /-- The scope ends as the commands do, with their answers or with their panic. -/
  ending : (exec (run watch (.withContext name body)) s).1 =
    (exec (runAll watch body) (s.entered f)).1.map fun results =>
      .scope results (exec (run watch (.withContext name body)) s).2.stack.depth
  /-- In both cases it leaves their stack, cut back to the depth before the scope. -/
  cut : (exec (run watch (.withContext name body)) s).2.stack =
    (exec (runAll watch body) (s.entered f)).2.stack.take s.stack.depth
  depth : (exec (run watch (.withContext name body)) s).2.stack.depth ≤ s.stack.depth
  /-- Frames below all depths that the commands reach are those from before. -/
  below : ∀ m ≤ s.stack.depth,
    (∀ stack, Reached watch body (s.entered f) stack → m ≤ stack.depth) →
    (exec (run watch (.withContext name body)) s).2.stack.take m = s.stack.take m
  /-- If the commands never reach below the scope, then the stack is as it was. -/
  whole : (∀ stack, Reached watch body (s.entered f) stack → s.stack.depth ≤ stack.depth) →
    (exec (run watch (.withContext name body)) s).2.stack = s.stack

/-- **A scope restores the stack on every exit**, whatever the commands inside of it leave
behind, pop or give up. -/
theorem withContext_restores (hname : s.contexts.value? name = some f) (hbody : ScopeBody body) :
    Restores watch name body s f := by
  have hleft := exec_withContext watch body hname
  have hcut : (exec (run watch (.withContext name body)) s).2.stack =
      (exec (runAll watch body) (s.entered f)).2.stack.take s.stack.depth := by
    rw [hleft, stack_closed]
  have hdepth : (exec (run watch (.withContext name body)) s).2.stack.depth ≤ s.stack.depth := by
    rw [hcut]
    exact List.length_take_le ..
  have hbelow : ∀ m ≤ s.stack.depth,
      (∀ stack, Reached watch body (s.entered f) stack → m ≤ stack.depth) →
      (exec (run watch (.withContext name body)) s).2.stack.take m = s.stack.take m := by
    intro m hle hm
    rw [hcut, List.take_take, Nat.min_eq_left hle, hbody.take_eq hm, stack_entered,
      List.take_append_of_le_length hle]
  refine ⟨?_, ?_, hcut, hdepth, hbelow, ?_⟩
  · show (s.stack ++ [f]).getLast? = some f
    exact List.getLast?_concat
  · rw [hleft]
  · intro hreached
    have htake := hbelow s.stack.depth (Nat.le_refl _) hreached
    rw [List.take_of_length_le hdepth] at htake
    rw [htake]
    exact List.take_length

/-- Frames that are left behind, a scope inside the scope, pops below both, and a panic. -/
theorem withContext_restores_unwound :
    let f : Frame := ⟨1, .text "inner"⟩
    let s : Session := {
      contexts := [("outer", ⟨0, .text "outer"⟩), ("inner", f)]
      stack := [⟨0, .text "outer"⟩, f] }
    let body : List Command := [.push "outer", .withContext "outer" [.pop, .pop, .pop, .pop,
      .push "inner", .push "inner", .panic "lost"], .peek]
    s.contexts.value? "inner" = some f ∧ ScopeBody body ∧ Restores [] "inner" body s f := by
  intro f s body
  have hname : s.contexts.value? "inner" = some f := rfl
  have hbody : ScopeBody body :=
    .push (.withContext (.pop (.pop (.pop (.pop (.push (.push (.panic .done))))))) (.peek .done))
  exact ⟨hname, hbody, withContext_restores hname hbody⟩

end ScriptHost.Session
