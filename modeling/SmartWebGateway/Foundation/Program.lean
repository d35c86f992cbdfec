import Mathlib.Tactic

/-!
# Sequential programs against a moving environment

A program owns a state, may throw, and reads an environment that it does not
control. Each read is one observation: it sees the world at the current
position and moves the position on. A throw keeps the state reached so far.
That no program moves the position back is part of what a program is.

The second half is the calculus the developments above use: the weakest
precondition of each construct, and the invariant rules for the two loops.
-/
namespace Foundation

/-- `run w i s` is the outcome from position `i` and state `s` in the worlds `w`. -/
structure Program (W σ ε α : Type) where
  run : (ℕ → W) → ℕ → σ → Except ε α × ℕ × σ
  forward : ∀ w i s, i ≤ (run w i s).2.1

namespace Program

variable {W σ ε α β ι : Type}

protected def pure (a : α) : Program W σ ε α where
  run _ i s := (.ok a, i, s)
  forward _ _ _ := le_rfl

protected def bind (x : Program W σ ε α) (f : α → Program W σ ε β) : Program W σ ε β where
  run w i s :=
    match x.run w i s with
    | (.ok a, j, t) => (f a).run w j t
    | (.error e, j, t) => (.error e, j, t)
  forward w i s := by
    have hx := x.forward w i s
    split
    next a j t h => exact (by simpa [h] using hx : i ≤ j).trans ((f a).forward w j t)
    next e j t h => simpa [h] using hx

instance : Monad (Program W σ ε) where
  pure := Program.pure
  bind := Program.bind

def observe (f : W → α) : Program W σ ε α where
  run w i s := (.ok (f (w i)), i + 1, s)
  forward _ i _ := Nat.le_succ i

/-- The position of the next observation; the program learns nothing of the world. -/
def position : Program W σ ε ℕ where
  run _ i s := (.ok i, i, s)
  forward _ _ _ := le_rfl

def get : Program W σ ε σ where
  run _ i s := (.ok s, i, s)
  forward _ _ _ := le_rfl

def modify (f : σ → σ) : Program W σ ε Unit where
  run _ i s := (.ok (), i, f s)
  forward _ _ _ := le_rfl

def throw (e : ε) : Program W σ ε α where
  run _ i s := (.error e, i, s)
  forward _ _ _ := le_rfl

def ofExcept : Except ε α → Program W σ ε α
  | .ok a => pure a
  | .error e => throw e

def tryCatch (x : Program W σ ε α) (handler : ε → Program W σ ε α) : Program W σ ε α where
  run w i s :=
    match x.run w i s with
    | (.ok a, j, t) => (.ok a, j, t)
    | (.error e, j, t) => (handler e).run w j t
  forward w i s := by
    have hx := x.forward w i s
    split
    next a j t h => simpa [h] using hx
    next e j t h => exact (by simpa [h] using hx : i ≤ j).trans ((handler e).forward w j t)

/-- A program on a part of the state, with its exceptions as others see them. -/
def within {τ ε' : Type} (part : σ → τ) (replace : σ → τ → σ) (wrap : ε → ε')
    (x : Program W τ ε α) : Program W σ ε' α where
  run w i s :=
    match x.run w i (part s) with
    | (.ok a, j, t) => (.ok a, j, replace s t)
    | (.error e, j, t) => (.error (wrap e), j, replace s t)
  forward w i s := by
    have hx := x.forward w i (part s)
    split
    next a j t h => simpa [h] using hx
    next e j t h => simpa [h] using hx

/-- A loop over a list that carries a value from one round to the next. -/
def foldl (f : β → α → Program W σ ε β) : β → List α → Program W σ ε β
  | b, [] => pure b
  | b, a :: as => do
    let b ← f b a
    foldl f b as

def forEach (f : α → Program W σ ε Unit) : List α → Program W σ ε Unit :=
  foldl (fun _ => f) ()

/-- `n` rounds of a body, after an initialisation, on the successive inputs. -/
def rounds (init : Program W σ ε Unit) (body : ι → Program W σ ε Unit) (inputs : ℕ → ι) :
    ℕ → Program W σ ε Unit
  | 0 => init
  | n + 1 => do
    rounds init body inputs n
    body (inputs n)

/-- Weakest precondition: `Q` after a normal end, `E` after a throw. -/
def wp (x : Program W σ ε α) (w : ℕ → W) (Q : α → ℕ → σ → Prop) (E : ε → ℕ → σ → Prop)
    (i : ℕ) (s : σ) : Prop :=
  match x.run w i s with
  | (.ok a, j, t) => Q a j t
  | (.error e, j, t) => E e j t

variable {w : ℕ → W} {Q Q' : α → ℕ → σ → Prop} {E E' : ε → ℕ → σ → Prop} {i : ℕ} {s : σ}

@[simp] theorem wp_pure (a : α) : wp (pure a : Program W σ ε α) w Q E i s ↔ Q a i s := Iff.rfl

@[simp] theorem wp_bind (x : Program W σ ε β) (f : β → Program W σ ε α) :
    wp (x >>= f) w Q E i s ↔ wp x w (fun b => wp (f b) w Q E) E i s := by
  change (match (Program.bind x f).run w i s with
    | (.ok a, j, t) => Q a j t
    | (.error e, j, t) => E e j t) ↔ _
  unfold wp Program.bind
  dsimp only
  rcases x.run w i s with ⟨_ | _, j, t⟩ <;> rfl

@[simp] theorem wp_observe (f : W → α) :
    wp (observe f) w Q E i s ↔ Q (f (w i)) (i + 1) s := Iff.rfl

@[simp] theorem wp_position {Q : ℕ → ℕ → σ → Prop} : wp position w Q E i s ↔ Q i i s := Iff.rfl

@[simp] theorem wp_get {Q : σ → ℕ → σ → Prop} : wp get w Q E i s ↔ Q s i s := Iff.rfl

@[simp] theorem wp_modify {Q : Unit → ℕ → σ → Prop} (f : σ → σ) :
    wp (modify f) w Q E i s ↔ Q () i (f s) := Iff.rfl

@[simp] theorem wp_throw (e : ε) : wp (throw e : Program W σ ε α) w Q E i s ↔ E e i s := Iff.rfl

@[simp] theorem wp_ofExcept (x : Except ε α) :
    wp (ofExcept x : Program W σ ε α) w Q E i s ↔
      match x with
      | .ok a => Q a i s
      | .error e => E e i s := by
  cases x <;> rfl

@[simp] theorem wp_tryCatch (x : Program W σ ε α) (handler : ε → Program W σ ε α) :
    wp (tryCatch x handler) w Q E i s ↔
      wp x w Q (fun e => wp (handler e) w Q E) i s := by
  unfold wp tryCatch
  dsimp only
  rcases x.run w i s with ⟨_ | _, j, t⟩ <;> rfl

@[simp] theorem wp_within {τ ε' : Type} {E : ε' → ℕ → σ → Prop} (part : σ → τ)
    (replace : σ → τ → σ) (wrap : ε → ε') (x : Program W τ ε α) :
    wp (within part replace wrap x) w Q E i s ↔
      wp x w (fun a j t => Q a j (replace s t)) (fun e j t => E (wrap e) j (replace s t)) i
        (part s) := by
  unfold wp within
  dsimp only
  rcases x.run w i (part s) with ⟨_ | _, j, t⟩ <;> rfl

@[simp] theorem wp_ite (c : Prop) [Decidable c] (x y : Program W σ ε α) :
    wp (if c then x else y) w Q E i s ↔ if c then wp x w Q E i s else wp y w Q E i s := by
  split <;> rfl

theorem wp_true (x : Program W σ ε α) : wp x w (fun _ _ _ => True) (fun _ _ _ => True) i s := by
  unfold wp
  rcases x.run w i s with ⟨_ | _, j, t⟩ <;> trivial

theorem wp_and {x : Program W σ ε α} (h : wp x w Q E i s) (h' : wp x w Q' E' i s) :
    wp x w (fun a j t => Q a j t ∧ Q' a j t) (fun e j t => E e j t ∧ E' e j t) i s := by
  unfold wp at *
  rcases hr : x.run w i s with ⟨_ | _, j, t⟩ <;> rw [hr] at h h' <;> exact ⟨h, h'⟩

/-- Consequence; the conclusion may also use that the position has not moved back. -/
theorem wp_mono {x : Program W σ ε α} (h : wp x w Q E i s)
    (hQ : ∀ a j t, i ≤ j → Q a j t → Q' a j t) (hE : ∀ e j t, i ≤ j → E e j t → E' e j t) :
    wp x w Q' E' i s := by
  have hf := x.forward w i s
  unfold wp at h ⊢
  rcases hr : x.run w i s with ⟨_ | _, j, t⟩ <;> rw [hr] at h hf
  · exact hE _ _ _ hf h
  · exact hQ _ _ _ hf h

theorem wp_ok {x : Program W σ ε α} {a : α} {j : ℕ} {t : σ} (h : wp x w Q E i s)
    (hr : x.run w i s = (.ok a, j, t)) : Q a j t := by
  unfold wp at h
  rwa [hr] at h

theorem wp_of_ok {x : Program W σ ε α} {a : α} {j : ℕ} {t : σ}
    (hr : x.run w i s = (.ok a, j, t)) (h : Q a j t) : wp x w Q E i s := by
  unfold wp
  rwa [hr]

theorem run_bind_of_ok {x : Program W σ ε β} {f : β → Program W σ ε α} {b : β} {j : ℕ} {t : σ}
    (h : x.run w i s = (.ok b, j, t)) : (x >>= f).run w i s = (f b).run w j t := by
  change (Program.bind x f).run w i s = _
  simp only [Program.bind, h]

theorem wp_error {x : Program W σ ε α} {e : ε} {j : ℕ} {t : σ} (h : wp x w Q E i s)
    (hr : x.run w i s = (.error e, j, t)) : E e j t := by
  unfold wp at h
  rwa [hr] at h

theorem returns_of_wp {x : Program W σ ε α} (h : wp x w Q (fun _ _ _ => False) i s) :
    ∃ a j t, x.run w i s = (.ok a, j, t) ∧ Q a j t := by
  rcases hr : x.run w i s with ⟨e | a, j, t⟩
  · exact (wp_error h hr).elim
  · exact ⟨a, j, t, rfl, wp_ok h hr⟩

/-- Invariant rule for `foldl`: the invariant speaks of the elements already done. -/
theorem wp_foldl {f : β → α → Program W σ ε β} {xs : List α} {b : β}
    (Inv : List α → β → ℕ → σ → Prop) (h0 : Inv [] b i s)
    (hstep : ∀ done a rest b j t, xs = done ++ a :: rest → i ≤ j → Inv done b j t →
      wp (f b a) w (Inv (done ++ [a])) E j t) :
    wp (foldl f b xs) w (Inv xs) E i s := by
  suffices h : ∀ rest done b j t, xs = done ++ rest → i ≤ j → Inv done b j t →
      wp (foldl f b rest) w (Inv xs) E j t from h xs [] b i s rfl le_rfl h0
  intro rest
  induction rest with
  | nil =>
    intro done b j t hxs _ hinv
    rw [hxs, List.append_nil]
    exact hinv
  | cons a rest ih =>
    intro done b j t hxs hij hinv
    rw [foldl, wp_bind]
    refine wp_mono (hstep done a rest b j t hxs hij hinv) ?_ (fun _ _ _ _ he => he)
    intro b' j' t' hj hb
    exact ih (done ++ [a]) b' j' t' (by simpa using hxs) (hij.trans hj) hb

theorem wp_forEach {f : α → Program W σ ε Unit} {xs : List α} (Inv : List α → ℕ → σ → Prop)
    (h0 : Inv [] i s)
    (hstep : ∀ done a rest j t, xs = done ++ a :: rest → i ≤ j → Inv done j t →
      wp (f a) w (fun _ => Inv (done ++ [a])) E j t) :
    wp (forEach f xs) w (fun _ => Inv xs) E i s :=
  wp_foldl (fun done _ => Inv done) h0
    (fun done a rest _ j t hxs hij h => hstep done a rest j t hxs hij h)

/-- Invariant rule for `rounds`. -/
theorem wp_rounds {init : Program W σ ε Unit} {body : ι → Program W σ ε Unit} {inputs : ℕ → ι}
    (Inv : ℕ → ℕ → σ → Prop) (h0 : wp init w (fun _ => Inv 0) E i s)
    (hstep : ∀ n j t, i ≤ j → Inv n j t → wp (body (inputs n)) w (fun _ => Inv (n + 1)) E j t)
    (n : ℕ) : wp (rounds init body inputs n) w (fun _ => Inv n) E i s := by
  induction n with
  | zero => exact h0
  | succ n ih =>
    rw [rounds, wp_bind]
    exact wp_mono ih (fun _ j t hij h => hstep n j t hij h) (fun _ _ _ _ he => he)

end Program
end Foundation
