import PlasmaStream.Basic

/-!
# Tasks that run concurrently

A tokio task runs until it awaits, and the runtime runs several tasks at once on its threads:
between two of a task's accesses to what the tasks share, any other task may run. A task is a
`Conc` program, a tree of atomic steps, each an `EStateM` program over the state the task sees:
the shared part and its own. Threads run under a schedule, the list of the threads that take a
step, in order; after the schedule each thread runs to its end, in order. Every interleaving of
the threads' steps is the run of some schedule.

* `Conc.solo_step`: a step, then the rest of the program alone, is the program alone.
* `Threads.finish_run_alone`: threads each local to its own footprint, the footprints disjoint,
  end under every schedule as each would alone on the state they found: with the same result,
  and with the state at its footprint as it would leave it; outside every footprint the state
  is as they found it.
-/

namespace PlasmaStream

/-- `x` with its error returned as a value. -/
def attempt {ε ε' σ α : Type} (x : EStateM ε σ α) : EStateM ε' σ (Except ε α) := fun s =>
  match x s with
  | .ok a s' => .ok (.ok a) s'
  | .error e s' => .ok (.error e) s'

theorem attempt_apply_of_ok {ε ε' σ α : Type} {x : EStateM ε σ α} {s s' : σ} {a : α}
    (h : x s = .ok a s') : (attempt x : EStateM ε' σ (Except ε α)) s = .ok (.ok a) s' := by
  simp only [attempt, h]

theorem attempt_apply_of_error {ε ε' σ α : Type} {x : EStateM ε σ α} {s s' : σ} {e : ε}
    (h : x s = .error e s') : (attempt x : EStateM ε' σ (Except ε α)) s = .ok (.error e) s' := by
  simp only [attempt, h]

theorem Local.attempt {ε ε' σ α ι γ δ : Type} {rest : σ → δ} {view : ι → σ → γ}
    {inside : ι → Prop} {x : EStateM ε σ α} (hx : Local rest view inside x) :
    Local rest view inside (attempt x : EStateM ε' σ (Except ε α)) where
  respects s t h := by
    obtain ⟨hres, hst⟩ := hx.respects s t h
    unfold PlasmaStream.attempt
    cases hs : x s <;> cases ht : x t <;> rw [hs, ht] at hres hst <;> cases hres <;> exact ⟨rfl, hst⟩
  frames y hy s := by
    have := hx.frames y hy s
    unfold PlasmaStream.attempt
    cases hs : x s <;> rw [hs] at this <;> exact this

/-- `x` run on the part `get t` of a larger state `t`, put back with `set`, with its error mapped
by `g`. -/
def onPart {ε ε' σ τ α : Type} (get : τ → σ) (set : τ → σ → τ) (g : ε → ε') (x : EStateM ε σ α) :
    EStateM ε' τ α := fun t =>
  match x (get t) with
  | .ok a s => .ok a (set t s)
  | .error e s => .error (g e) (set t s)

/-- A program of atomic steps over a state `σ`: ended with a value or an error, or running `x`
atomically and going on with `k` of its value; an error of `x` ends it. -/
inductive Conc (ε σ α : Type) : Type 1 where
  | pure (a : α)
  | throw (e : ε)
  | atom {β : Type} (x : EStateM ε σ β) (k : β → Conc ε σ α)

namespace Conc

variable {ε ε' σ α β : Type}

def bind : Conc ε σ α → (α → Conc ε σ β) → Conc ε σ β
  | pure a, f => f a
  | throw e, _ => throw e
  | atom x k, f => atom x fun b => (k b).bind f

instance : Monad (Conc ε σ) where
  pure := pure
  bind := bind

/-- One atomic step. -/
def lift (x : EStateM ε σ α) : Conc ε σ α := atom x pure

/-- The program run alone: its steps one after the other. -/
def solo : Conc ε σ α → EStateM ε σ α
  | pure a => Pure.pure a
  | throw e => EStateM.throw e
  | atom x k => x >>= fun b => (k b).solo

/-- The program's next step from `s`, and what is left of it; an ended program stays. -/
def step : Conc ε σ α → σ → Conc ε σ α × σ
  | atom x k, s =>
    match x s with
    | .ok b s' => (k b, s')
    | .error e s' => (throw e, s')
  | c, s => (c, s)

/-- The program with its error returned as a value. -/
def attempt : Conc ε σ α → Conc ε' σ (Except ε α)
  | pure a => pure (.ok a)
  | throw e => pure (.error e)
  | atom x k => atom (PlasmaStream.attempt x) fun
    | .ok b => (k b).attempt
    | .error e => pure (.error e)

/-- `c`, then `d` however `c` ended, with `c`'s result: a value dropped at the end of its
scope. -/
def ensuring (c : Conc ε σ α) (d : EStateM ε σ Unit) : Conc ε σ α :=
  c.attempt >>= fun r => atom d fun _ =>
    match r with
    | .ok a => pure a
    | .error e => throw e

/-- The program run on a part of a larger state, each step with `PlasmaStream.onPart`. -/
def onPart {τ : Type} (get : τ → σ) (set : τ → σ → τ) (g : ε → ε') : Conc ε σ α → Conc ε' τ α
  | pure a => pure a
  | throw e => throw (g e)
  | atom x k => atom (PlasmaStream.onPart get set g x) fun b => (k b).onPart get set g

/-! ## Alone -/

@[simp] theorem solo_pure (a : α) : (Pure.pure a : Conc ε σ α).solo = Pure.pure a := rfl

@[simp] theorem solo_throw (e : ε) : (throw e : Conc ε σ α).solo = EStateM.throw e := rfl

@[simp] theorem solo_lift (x : EStateM ε σ α) : (lift x).solo = x :=
  show x >>= (fun a => Pure.pure a) = x from bind_pure x

@[simp] theorem solo_bind (c : Conc ε σ α) (f : α → Conc ε σ β) :
    (c >>= f).solo = c.solo >>= fun a => (f a).solo := by
  induction c with
  | pure a => exact (pure_bind (m := EStateM ε σ) a fun a => (f a).solo).symm
  | throw e => rfl
  | atom x k ih =>
    show (x >>= fun b => ((k b).bind f).solo) = (x >>= fun b => (k b).solo) >>= _
    rw [bind_assoc]
    exact congrArg _ (funext ih)

@[simp] theorem solo_attempt (c : Conc ε σ α) :
    (c.attempt : Conc ε' σ (Except ε α)).solo = PlasmaStream.attempt c.solo := by
  induction c with
  | pure a => rfl
  | throw e => rfl
  | atom x k ih =>
    funext s
    simp only [Conc.attempt, solo]
    cases hx : x s with
    | ok b s' =>
      have h : (PlasmaStream.attempt x : EStateM ε' σ _) s = .ok (.ok b) s' := attempt_apply_of_ok hx
      rw [bind_apply_of_ok h]
      simp only [ih, PlasmaStream.attempt, bind_apply_of_ok hx]
    | error e s' =>
      have h : (PlasmaStream.attempt x : EStateM ε' σ _) s = .ok (.error e) s' :=
        attempt_apply_of_error hx
      rw [bind_apply_of_ok h]
      simp only [PlasmaStream.attempt, bind_apply_of_error hx]
      rfl

theorem solo_ensuring (c : Conc ε σ α) (d : EStateM ε σ Unit) (s : σ) :
    (c.ensuring d).solo s =
      match c.solo s with
      | .ok a s' => (d >>= fun _ => Pure.pure a) s'
      | .error e s' => (d >>= fun _ => EStateM.throw e) s' := by
  simp only [ensuring, solo_bind, solo_attempt, solo]
  cases h : c.solo s with
  | ok a s' => rw [bind_apply_of_ok (attempt_apply_of_ok h)]; rfl
  | error e s' => rw [bind_apply_of_ok (attempt_apply_of_error h)]; rfl

/-- Run alone, a program on a part of the state is its run alone on that part, when `set`
puts back what `get` takes. -/
theorem solo_onPart {τ : Type} {get : τ → σ} {set : τ → σ → τ} (g : ε → ε')
    (hget : ∀ t s, get (set t s) = s) (hset : ∀ t s s', set (set t s) s' = set t s')
    (hput : ∀ t, set t (get t) = t) (c : Conc ε σ α) :
    (c.onPart get set g).solo = PlasmaStream.onPart get set g c.solo := by
  induction c with
  | pure a =>
    funext t
    show EStateM.Result.ok a t = .ok a (set t (get t))
    rw [hput]
  | throw e =>
    funext t
    show EStateM.Result.error (g e) t = .error (g e) (set t (get t))
    rw [hput]
  | atom x k ih =>
    funext t
    simp only [Conc.onPart, solo, ih]
    cases hx : x (get t) with
    | ok b s =>
      have h : PlasmaStream.onPart get set g x t = .ok b (set t s) := by
        simp only [PlasmaStream.onPart, hx]
      rw [bind_apply_of_ok h]
      unfold PlasmaStream.onPart
      rw [hget, bind_apply_of_ok hx]
      cases (k b).solo s <;> simp only [hset]
    | error e s =>
      have h : PlasmaStream.onPart get set g x t = .error (g e) (set t s) := by
        simp only [PlasmaStream.onPart, hx]
      rw [bind_apply_of_error h]
      unfold PlasmaStream.onPart
      rw [bind_apply_of_error hx]

@[simp] theorem solo_ite {c : Prop} [Decidable c] (a b : Conc ε σ α) :
    (if c then a else b).solo = if c then a.solo else b.solo := by
  split_ifs <;> rfl

/-- A step, then the rest alone, is the program alone. -/
theorem solo_step (c : Conc ε σ α) (s : σ) : (c.step s).1.solo (c.step s).2 = c.solo s := by
  cases c with
  | pure a => rfl
  | throw e => rfl
  | atom x k =>
    cases hx : x s with
    | ok b s' => simp only [step, solo, hx, bind_apply_of_ok hx]
    | error e s' => simp only [step, solo, hx, bind_apply_of_error hx]; rfl

/-! ## Steps local to a footprint -/

section Local

variable {ι γ δ : Type} {rest : σ → δ} {view : ι → σ → γ} {inside : ι → Prop}

/-- Every step the program can take is local to the footprint. -/
def Local (rest : σ → δ) (view : ι → σ → γ) (inside : ι → Prop) : Conc ε σ α → Prop
  | pure _ => True
  | throw _ => True
  | atom x k => PlasmaStream.Local rest view inside x ∧ ∀ b, (k b).Local rest view inside

theorem Local.pure (a : α) : (Pure.pure a : Conc ε σ α).Local rest view inside := trivial

theorem Local.throw (e : ε) : (throw e : Conc ε σ α).Local rest view inside := trivial

theorem Local.ite {c : Prop} [Decidable c] {a b : Conc ε σ α} (ha : a.Local rest view inside)
    (hb : b.Local rest view inside) : (if c then a else b).Local rest view inside := by
  split_ifs
  · exact ha
  · exact hb

theorem Local.lift {x : EStateM ε σ α} (hx : PlasmaStream.Local rest view inside x) :
    (lift x).Local rest view inside :=
  ⟨hx, fun _ => trivial⟩

theorem Local.bind {c : Conc ε σ α} {f : α → Conc ε σ β} (hc : c.Local rest view inside)
    (hf : ∀ a, (f a).Local rest view inside) : (c >>= f).Local rest view inside := by
  induction c with
  | pure a => exact hf a
  | throw e => trivial
  | atom x k ih => exact ⟨hc.1, fun b => ih b (hc.2 b)⟩

theorem Local.attempt {c : Conc ε σ α} (hc : c.Local rest view inside) :
    (c.attempt : Conc ε' σ (Except ε α)).Local rest view inside := by
  induction c with
  | pure a => trivial
  | throw e => trivial
  | atom x k ih =>
    rw [Conc.attempt]
    refine And.intro hc.1.attempt fun r => ?_
    cases r with
    | ok b => exact ih b (hc.2 b)
    | error e => trivial

theorem Local.ensuring {c : Conc ε σ α} {d : EStateM ε σ Unit} (hc : c.Local rest view inside)
    (hd : PlasmaStream.Local rest view inside d) : (c.ensuring d).Local rest view inside :=
  Local.bind hc.attempt fun r => ⟨hd, fun _ => by cases r <;> trivial⟩

theorem Local.solo {c : Conc ε σ α} (hc : c.Local rest view inside) :
    PlasmaStream.Local rest view inside c.solo := by
  induction c with
  | pure a => exact PlasmaStream.Local.pure a
  | throw e => exact PlasmaStream.Local.throw e
  | atom x k ih => exact PlasmaStream.Local.bind hc.1 fun b => ih b (hc.2 b)

theorem Local.mono {c : Conc ε σ α} {inside' : ι → Prop} (hc : c.Local rest view inside)
    (h : ∀ i, inside i → inside' i) : c.Local rest view inside' := by
  induction c with
  | pure a => trivial
  | throw e => trivial
  | atom x k ih => exact ⟨hc.1.mono h, fun b => ih b (hc.2 b)⟩

/-- What is left after a step is local again. -/
theorem Local.step {c : Conc ε σ α} (hc : c.Local rest view inside) (s : σ) :
    (c.step s).1.Local rest view inside := by
  cases c with
  | pure a | throw e => exact hc
  | atom x k =>
    simp only [Conc.step]
    cases x s with
    | ok b s' => exact hc.2 b
    | error e s' => trivial

/-- A step keeps every view outside the footprint. -/
theorem Local.step_frames {c : Conc ε σ α} (hc : c.Local rest view inside) {y : ι}
    (hy : ¬inside y) (s : σ) : view y (c.step s).2 = view y s := by
  cases c with
  | pure a | throw e => rfl
  | atom x k =>
    have := hc.1.frames y hy s
    simp only [Conc.step]
    cases hx : x s <;> rw [hx] at this <;> exact this

/-- A step from states that agree at the footprint leaves the same program, and states that
agree there again. -/
theorem Local.step_agree {c : Conc ε σ α} (hc : c.Local rest view inside) {s t : σ}
    (h : AgreeAt rest view inside s t) :
    (c.step s).1 = (c.step t).1 ∧ AgreeAt rest view inside (c.step s).2 (c.step t).2 := by
  cases c with
  | pure a | throw e => exact ⟨rfl, h⟩
  | atom x k =>
    obtain ⟨hres, hst⟩ := hc.1.respects s t h
    simp only [Conc.step]
    cases hs : x s <;> cases ht : x t <;> rw [hs, ht] at hres hst <;> cases hres <;>
      exact ⟨rfl, hst⟩

end Local

end Conc

/-! ## Threads -/

/-- A thread: what it still has to run, over the shared state and its own. -/
structure Thread (ε S L α : Type) : Type 1 where
  prog : Conc ε (S × L) α
  own : L

namespace Thread

variable {ε S L α ι γ : Type} {view : ι → S → γ} {inside : ι → Prop}

/-- The thread's steps are local to `inside`: each sees and changes the shared state only at
`inside`, through `view`, and keeps to its own part otherwise. -/
def Local (view : ι → S → γ) (inside : ι → Prop) (t : Thread ε S L α) : Prop :=
  t.prog.Local Prod.snd (fun y s => view y s.1) inside

/-- The thread run alone on `shared`: its result, and the state it leaves. -/
def alone (t : Thread ε S L α) (shared : S) : Except ε α × (S × L) :=
  outcome (t.prog.solo (shared, t.own))

/-- The thread's next step. -/
def step (t : Thread ε S L α) (shared : S) : Thread ε S L α × S :=
  match t.prog.step (shared, t.own) with
  | (c, shared', own') => (⟨c, own'⟩, shared')

/-- The thread, on `shared`, is on the track of a run alone that ends in `out`: run alone from
here, it returns what that run returns, and leaves the footprint as that run leaves it. -/
def OnTrack (view : ι → S → γ) (inside : ι → Prop) (out : Except ε α × (S × L)) (shared : S)
    (t : Thread ε S L α) : Prop :=
  t.Local view inside ∧ (t.alone shared).1 = out.1 ∧
    AgreeAt Prod.snd (fun y s => view y s.1) inside (t.alone shared).2 out.2

theorem alone_step (t : Thread ε S L α) (shared : S) :
    (t.step shared).1.alone (t.step shared).2 = t.alone shared := by
  have h := Conc.solo_step t.prog (shared, t.own)
  unfold Thread.step alone
  rcases hs : t.prog.step (shared, t.own) with ⟨c, shared', own'⟩
  rw [hs] at h
  exact congrArg outcome h

theorem Local.step {t : Thread ε S L α} (h : t.Local view inside) (shared : S) :
    (t.step shared).1.Local view inside := by
  have := Conc.Local.step h (shared, t.own)
  unfold Thread.step
  rcases hs : t.prog.step (shared, t.own) with ⟨c, shared', own'⟩
  rw [hs] at this
  exact this

theorem Local.step_frames {t : Thread ε S L α} (h : t.Local view inside) {y : ι} (hy : ¬inside y)
    (shared : S) : view y (t.step shared).2 = view y shared := by
  have := Conc.Local.step_frames h hy (shared, t.own)
  unfold Thread.step
  rcases hs : t.prog.step (shared, t.own) with ⟨c, shared', own'⟩
  rw [hs] at this
  exact this

theorem Local.alone_frames {t : Thread ε S L α} (h : t.Local view inside) {y : ι} (hy : ¬inside y)
    (shared : S) : view y (t.alone shared).2.1 = view y shared :=
  (Conc.Local.solo h).frames y hy (shared, t.own)

/-- From states that agree at the footprint, the thread's step leaves the same thread and states
that agree there again. -/
theorem Local.step_agree {t : Thread ε S L α} (h : t.Local view inside) {s s' : S}
    (hs : ∀ y, inside y → view y s = view y s') :
    (t.step s).1 = (t.step s').1 ∧ ∀ y, inside y → view y (t.step s).2 = view y (t.step s').2 := by
  obtain ⟨hprog, hown, hview⟩ := Conc.Local.step_agree h (s := (s, t.own)) (t := (s', t.own))
    ⟨rfl, hs⟩
  unfold Thread.step
  rcases h₁ : t.prog.step (s, t.own) with ⟨c, shared, own⟩
  rcases h₂ : t.prog.step (s', t.own) with ⟨c', shared', own'⟩
  rw [h₁, h₂] at hprog hown hview
  dsimp only at hprog hown hview
  subst hprog hown
  exact ⟨rfl, hview⟩

theorem Local.alone_agree {t : Thread ε S L α} (h : t.Local view inside) {s s' : S}
    (hs : ∀ y, inside y → view y s = view y s') :
    (t.alone s).1 = (t.alone s').1 ∧ ∀ y, inside y → view y (t.alone s).2.1 = view y (t.alone s').2.1 :=
  let h' := (Conc.Local.solo h).respects (s, t.own) (s', t.own) ⟨rfl, hs⟩
  ⟨h'.1, h'.2.2⟩

theorem OnTrack.start {t : Thread ε S L α} (h : t.Local view inside) (shared : S) :
    t.OnTrack view inside (t.alone shared) shared :=
  ⟨h, rfl, AgreeAt.refl _⟩

/-- Steps of other threads, which keep the shared state at the footprint, keep the thread on
its track. -/
theorem OnTrack.of_agree {t : Thread ε S L α} {out : Except ε α × (S × L)} {s s' : S}
    (h : t.OnTrack view inside out s) (hs : ∀ y, inside y → view y s' = view y s) :
    t.OnTrack view inside out s' :=
  let h' := (Conc.Local.solo h.1).respects (s', t.own) (s, t.own) ⟨rfl, hs⟩
  ⟨h.1, h'.1.trans h.2.1, h'.2.trans h.2.2⟩

/-- The thread's own step keeps it on its track. -/
theorem OnTrack.step {t : Thread ε S L α} {out : Except ε α × (S × L)} {s : S}
    (h : t.OnTrack view inside out s) : (t.step s).1.OnTrack view inside out (t.step s).2 := by
  refine ⟨h.1.step s, ?_, ?_⟩ <;> rw [alone_step]
  · exact h.2.1
  · exact h.2.2

end Thread

namespace Threads

variable {ε S L α ι γ : Type} {view : ι → S → γ}

/-- Thread `i` takes its next step; with no thread `i`, nothing happens. -/
def step (shared : S) (ts : List (Thread ε S L α)) (i : Nat) : S × List (Thread ε S L α) :=
  match ts[i]? with
  | some t => ((t.step shared).2, ts.set i (t.step shared).1)
  | none => (shared, ts)

/-- The threads under a schedule: the threads that take a step, in order. -/
def run (shared : S) (ts : List (Thread ε S L α)) : List Nat → S × List (Thread ε S L α)
  | [] => (shared, ts)
  | i :: schedule => run (step shared ts i).1 (step shared ts i).2 schedule

/-- Each thread runs to its end, one after the other: their results, in order, and the shared
state they leave. -/
def finish (shared : S) : List (Thread ε S L α) → List (Except ε α) × S
  | [] => ([], shared)
  | t :: ts =>
    ((t.alone shared).1 :: (finish (t.alone shared).2.1 ts).1, (finish (t.alone shared).2.1 ts).2)

theorem length_step (shared : S) (ts : List (Thread ε S L α)) (i : Nat) :
    (step shared ts i).2.length = ts.length := by
  unfold step
  split
  · exact List.length_set _ _ _
  · rfl

theorem length_run : ∀ (shared : S) (ts : List (Thread ε S L α)) (schedule : List Nat),
    (run shared ts schedule).2.length = ts.length
  | _, _, [] => rfl
  | shared, ts, i :: schedule => (length_run _ _ schedule).trans (length_step shared ts i)

/-! ### Threads over disjoint footprints -/

section Disjoint

variable {inside : Nat → ι → Prop} (hdisj : ∀ i j, i ≠ j → ∀ y, inside i y → ¬inside j y)

/-- The invariant of a run: thread `i` is on the track of `outs[i]` at its footprint
`inside i`, and outside every footprint the shared state is `shared₀`'s. -/
def Tracks (view : ι → S → γ) (inside : Nat → ι → Prop) (outs : List (Except ε α × (S × L)))
    (shared₀ shared : S) (ts : List (Thread ε S L α)) : Prop :=
  ts.length = outs.length ∧
    (∀ (i : Nat) (t : Thread ε S L α) out, ts[i]? = some t → outs[i]? = some out →
      t.OnTrack view (inside i) out shared) ∧
    ∀ y, (∀ i < ts.length, ¬inside i y) → view y shared = view y shared₀

include hdisj in
theorem Tracks.step {outs : List (Except ε α × (S × L))} {shared₀ shared : S}
    {ts : List (Thread ε S L α)} (h : Tracks view inside outs shared₀ shared ts) (j : Nat) :
    Tracks view inside outs shared₀ (step shared ts j).1 (step shared ts j).2 := by
  unfold Threads.step
  cases hj : ts[j]? with
  | none => exact h
  | some t =>
    obtain ⟨hlen, htrack, hout⟩ := h
    have hjlt : j < ts.length := (List.getElem?_eq_some_iff.1 hj).1
    have hout' := List.getElem?_eq_getElem (hlen ▸ hjlt : j < outs.length)
    have htj := htrack j t _ hj hout'
    have hframe : ∀ y, ¬inside j y → view y (t.step shared).2 = view y shared :=
      fun y hy => htj.1.step_frames hy shared
    refine ⟨(List.length_set _ _ _).trans hlen, fun i u o hu ho => ?_, fun y hy => ?_⟩
    · rw [List.getElem?_set] at hu
      by_cases hji : j = i
      · subst hji
        rw [if_pos rfl, if_pos hjlt, Option.some.injEq] at hu
        rw [hout', Option.some.injEq] at ho
        subst hu ho
        exact htj.step
      · rw [if_neg hji] at hu
        exact (htrack i u o hu ho).of_agree fun y hy => hframe y (hdisj i j (Ne.symm hji) y hy)
    · rw [List.length_set] at hy
      rw [hframe y (hy j hjlt)]
      exact hout y hy

include hdisj in
theorem Tracks.run {outs : List (Except ε α × (S × L))} {shared₀ : S} :
    ∀ {shared : S} {ts : List (Thread ε S L α)} (schedule : List Nat),
      Tracks view inside outs shared₀ shared ts →
        Tracks view inside outs shared₀ (run shared ts schedule).1 (run shared ts schedule).2
  | _, _, [], h => h
  | _, _, j :: schedule, h => Tracks.run schedule (h.step hdisj j)

include hdisj in
/-- Threads on their tracks, each run to its end in turn, return the tracks' results and leave
each footprint as its track does. -/
theorem finish_of_onTrack :
    ∀ (k : Nat) (ts : List (Thread ε S L α)) (outs : List (Except ε α × (S × L))) (shared : S),
      ts.length = outs.length →
      (∀ (i : Nat) (t : Thread ε S L α) out, ts[i]? = some t → outs[i]? = some out →
        t.OnTrack view (inside (k + i)) out shared) →
      (finish shared ts).1 = outs.map Prod.fst ∧
        (∀ i out, outs[i]? = some out → ∀ y, inside (k + i) y →
          view y (finish shared ts).2 = view y out.2.1) ∧
        ∀ y, (∀ i < ts.length, ¬inside (k + i) y) → view y (finish shared ts).2 = view y shared
  | _, [], [], _, _, _ => ⟨rfl, fun _ _ h => by simp at h, fun _ _ => rfl⟩
  | _, [], _ :: _, _, h, _ | _, _ :: _, [], _, h, _ => by simp at h
  | k, t :: ts, o :: outs, shared, hlen, h => by
    have ht : t.OnTrack view (inside k) o shared :=
      h 0 t o List.getElem?_cons_zero List.getElem?_cons_zero
    have hdisj₀ : ∀ i, ∀ y, inside (k + 1 + i) y → ¬inside k y := fun i y hy =>
      hdisj (k + 1 + i) k (by omega) y hy
    have hrest : ∀ (i : Nat) (u : Thread ε S L α) out, ts[i]? = some u → outs[i]? = some out →
        u.OnTrack view (inside (k + 1 + i)) out (t.alone shared).2.1 := by
      intro i u out hu ho
      have hi := h (i + 1) u out (by rwa [List.getElem?_cons_succ])
        (by rwa [List.getElem?_cons_succ])
      rw [show k + (i + 1) = k + 1 + i by omega] at hi
      exact hi.of_agree fun y hy => ht.1.alone_frames (hdisj₀ i y hy) shared
    obtain ⟨hres, hfoot, hout⟩ :=
      finish_of_onTrack (k + 1) ts outs _ (Nat.succ.inj hlen) hrest
    refine ⟨by rw [finish, hres, ht.2.1]; rfl, fun i out ho y hy => ?_, fun y hy => ?_⟩
    · cases i with
      | zero =>
        rw [List.getElem?_cons_zero, Option.some.injEq] at ho
        subst ho
        have hkeep : view y (finish (t.alone shared).2.1 ts).2 = view y (t.alone shared).2.1 :=
          hout y fun i _ hi => hdisj (k + 1 + i) k (by omega) y hi hy
        exact hkeep.trans (ht.2.2.2 y hy)
      | succ i =>
        rw [List.getElem?_cons_succ] at ho
        exact hfoot i out ho y (by simpa only [Nat.add_right_comm k 1 i] using hy)
    · have hk : ¬inside k y := by simpa using hy 0 (by simp)
      refine (hout y fun i hi => ?_).trans (ht.1.alone_frames hk shared)
      simpa only [Nat.add_right_comm k 1 i] using hy (i + 1) (by simp; omega)

include hdisj in
/-- Threads local to disjoint footprints end, under every schedule, as each would alone on the
shared state they found: with the same result, and with its footprint as it would leave it;
outside every footprint the shared state is as they found it. -/
theorem finish_run_alone (ts : List (Thread ε S L α))
    (hloc : ∀ (i : Nat) (t : Thread ε S L α), ts[i]? = some t → t.Local view (inside i))
    (shared : S)
    (schedule : List Nat) :
    (finish (run shared ts schedule).1 (run shared ts schedule).2).1 =
        ts.map (fun t => (t.alone shared).1) ∧
      (∀ (i : Nat) (t : Thread ε S L α), ts[i]? = some t → ∀ y, inside i y →
        view y (finish (run shared ts schedule).1 (run shared ts schedule).2).2 =
          view y (t.alone shared).2.1) ∧
      ∀ y, (∀ i < ts.length, ¬inside i y) →
        view y (finish (run shared ts schedule).1 (run shared ts schedule).2).2 = view y shared := by
  have h₀ : Tracks view inside (ts.map (·.alone shared)) shared shared ts :=
    ⟨(List.length_map _ _).symm, fun i t out ht ho => by
      rw [List.getElem?_map, ht, Option.map_some', Option.some.injEq] at ho
      subst ho
      exact Thread.OnTrack.start (hloc i t ht) shared, fun _ _ => rfl⟩
  obtain ⟨hlen, htrack, hout⟩ := h₀.run hdisj schedule
  obtain ⟨hres, hfoot, hfin⟩ := finish_of_onTrack hdisj 0 _ _ _ hlen
    (by simpa only [Nat.zero_add] using htrack)
  refine ⟨by rw [hres, List.map_map]; rfl, fun i t ht y hy => ?_, fun y hy => ?_⟩
  · exact hfoot i _ (by rw [List.getElem?_map, ht]; rfl) y (by simpa only [Nat.zero_add] using hy)
  · rw [length_run] at hfin hout
    exact (hfin y (by simpa only [Nat.zero_add] using hy)).trans (hout y hy)

end Disjoint

/-! ### Threads within one footprint -/

section Within

variable {G : ι → Prop}

theorem step_within {shared : S} {ts : List (Thread ε S L α)} (h : ∀ t ∈ ts, t.Local view G)
    (j : Nat) : ∀ t ∈ (step shared ts j).2, t.Local view G := by
  unfold step
  split
  · next t hj =>
    intro u hu
    rcases List.mem_or_eq_of_mem_set hu with hu | rfl
    · exact h u hu
    · exact (h t (List.mem_iff_getElem?.2 ⟨_, hj⟩)).step shared
  · exact h

theorem step_frames {shared : S} {ts : List (Thread ε S L α)} (h : ∀ t ∈ ts, t.Local view G)
    {y : ι} (hy : ¬G y) (j : Nat) : view y (step shared ts j).1 = view y shared := by
  unfold step
  split
  · next t hj => exact (h t (List.mem_iff_getElem?.2 ⟨_, hj⟩)).step_frames hy shared
  · rfl

theorem step_agree {s s' : S} {ts : List (Thread ε S L α)} (h : ∀ t ∈ ts, t.Local view G)
    (hs : ∀ y, G y → view y s = view y s') (j : Nat) :
    (step s ts j).2 = (step s' ts j).2 ∧ ∀ y, G y → view y (step s ts j).1 = view y (step s' ts j).1 := by
  unfold step
  split
  · next t hj =>
    obtain ⟨ht, hv⟩ := (h t (List.mem_iff_getElem?.2 ⟨_, hj⟩)).step_agree hs
    exact ⟨by rw [ht], hv⟩
  · exact ⟨rfl, hs⟩

theorem run_within : ∀ {shared : S} {ts : List (Thread ε S L α)} (schedule : List Nat),
    (∀ t ∈ ts, t.Local view G) → ∀ t ∈ (run shared ts schedule).2, t.Local view G
  | _, _, [], h => h
  | _, _, j :: schedule, h => run_within schedule (step_within h j)

/-- Threads all local to `G` keep every view outside it, under every schedule and to their
end. -/
theorem run_frames : ∀ {shared : S} {ts : List (Thread ε S L α)} (schedule : List Nat),
    (∀ t ∈ ts, t.Local view G) → ∀ {y : ι}, ¬G y → view y (run shared ts schedule).1 = view y shared
  | _, _, [], _, _, _ => rfl
  | _, _, j :: schedule, h, _, hy => (run_frames schedule (step_within h j) hy).trans (step_frames h hy j)

theorem finish_frames : ∀ {shared : S} {ts : List (Thread ε S L α)}, (∀ t ∈ ts, t.Local view G) →
    ∀ {y : ι}, ¬G y → view y (finish shared ts).2 = view y shared
  | _, [], _, _, _ => rfl
  | _, t :: _, h, _, hy =>
    (finish_frames (fun u hu => h u (List.mem_cons_of_mem _ hu)) hy).trans
      ((h t (List.mem_cons_self _ _)).alone_frames hy _)

/-- Threads all local to `G`, from shared states that agree at `G`, end the same and leave
states that agree there again. -/
theorem run_agree : ∀ {s s' : S} {ts : List (Thread ε S L α)} (schedule : List Nat),
    (∀ t ∈ ts, t.Local view G) → (∀ y, G y → view y s = view y s') →
      (run s ts schedule).2 = (run s' ts schedule).2 ∧
        ∀ y, G y → view y (run s ts schedule).1 = view y (run s' ts schedule).1
  | _, _, _, [], _, hs => ⟨rfl, hs⟩
  | s, s', ts, j :: schedule, h, hs => by
    obtain ⟨hts, hv⟩ := step_agree h hs j
    simp only [run]
    rw [← hts]
    exact run_agree schedule (step_within h j) hv

theorem finish_agree : ∀ {s s' : S} {ts : List (Thread ε S L α)}, (∀ t ∈ ts, t.Local view G) →
    (∀ y, G y → view y s = view y s') →
      (finish s ts).1 = (finish s' ts).1 ∧ ∀ y, G y → view y (finish s ts).2 = view y (finish s' ts).2
  | _, _, [], _, hs => ⟨rfl, hs⟩
  | _, _, t :: _, h, hs => by
    obtain ⟨hres, hv⟩ := (h t (List.mem_cons_self _ _)).alone_agree hs
    obtain ⟨hrest, hv'⟩ := finish_agree (fun u hu => h u (List.mem_cons_of_mem _ hu)) hv
    exact ⟨by simp only [finish, hres, hrest], hv'⟩

end Within

end Threads

end PlasmaStream
