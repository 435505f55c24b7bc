/-
**Programs with a state and errors.**

A program takes a state and returns a result or an error together with the state it has left; unlike
in a transaction, what was done before an error stays done. `attempt` turns an error into a value,
as a match on a result does.

`Moves allowed p s`: started in `s`, the program moves the state by allowed steps only. Its rules
follow the shape of programs (`Moves.bind`, `Moves.attempt`, `Moves.ofExcept`); in a sequence the
second program is entered with what the first one is known to have returned. `Moves.keeps` derives
invariants from the allowed steps.

`Ends ok bad p s`: what the program returns satisfies `ok` with the state it leaves, and its error `bad`;
the rules say when that is the case for a sequence. `FailsWith post p s` is about the error only.
-/

import Mathlib.Data.List.Forall2
import Mathlib.Logic.Relation

namespace Detrix.Library

theorem except_bind_eq_ok {ε α β : Type} {x : Except ε α} {f : α → Except ε β} {b : β} :
    (x >>= f) = .ok b ↔ ∃ a, x = .ok a ∧ f a = .ok b := by
  cases x with
  | error e | ok a => simp [bind, Except.bind]

theorem ite_error_eq_ok {ε α : Type} {p : Prop} [Decidable p] {e : ε} {x : Except ε α} {a : α} :
    (if p then .error e else x) = .ok a ↔ ¬ p ∧ x = .ok a := by
  split <;> simp [*]

section
variable {ε α β : Type} {f : α → Except ε β} {xs : List α}

/-- What is found for a list is found for each element, in its order. -/
theorem forall₂_of_mapM {ys : List β} (found : xs.mapM f = .ok ys) :
    List.Forall₂ (fun x y => f x = .ok y) xs ys := by
  induction xs generalizing ys with
  | nil =>
    obtain rfl := Except.ok.inj (found : Except.ok [] = _)
    exact .nil
  | cons x xs ih =>
    rw [List.mapM_cons] at found
    obtain ⟨y, first, found⟩ := except_bind_eq_ok.mp found
    obtain ⟨ys, rest, found⟩ := except_bind_eq_ok.mp found
    obtain rfl := Except.ok.inj (found : Except.ok (y :: ys) = _)
    exact .cons first (ih rest)

theorem mapM_ok_of_forall {R : α → β → Prop} (found : ∀ x ∈ xs, ∃ y, f x = .ok y ∧ R x y) :
    ∃ ys, xs.mapM f = .ok ys ∧ List.Forall₂ R xs ys := by
  induction xs with
  | nil => exact ⟨[], rfl, .nil⟩
  | cons x xs ih =>
    obtain ⟨y, isFound, first⟩ := found x (.head _)
    obtain ⟨ys, areFound, rest⟩ := ih fun other later => found other (.tail x later)
    refine ⟨y :: ys, ?_, .cons first rest⟩
    rw [List.mapM_cons, isFound, areFound]
    rfl

end

/-- A program over the state `σ` with errors in `ε`. -/
def Program (σ ε α : Type) : Type := σ → Except ε α × σ

namespace Program

variable {σ ε α β : Type}

def ret (a : α) : Program σ ε α := fun s => (.ok a, s)

/-- Run the second program on the value of the first, unless that failed. -/
def andThen (p : Program σ ε α) (f : α → Program σ ε β) : Program σ ε β := fun s =>
  match p s with
  | (.ok a, t) => f a t
  | (.error e, t) => (.error e, t)

instance : Monad (Program σ ε) where
  pure := ret
  bind := andThen

def fail (e : ε) : Program σ ε α := fun s => (.error e, s)

def get : Program σ ε σ := fun s => (.ok s, s)

def modify (f : σ → σ) : Program σ ε Unit := fun s => (.ok (), f s)

def ofExcept (result : Except ε α) : Program σ ε α := fun s => (result, s)

/-- The outcome of a program as a value. -/
def attempt (p : Program σ ε α) : Program σ ε (Except ε α) := fun s => (.ok (p s).1, (p s).2)

def forEach (f : α → Program σ ε Unit) : List α → Program σ ε Unit
  | [] => ret ()
  | a :: rest => do
    f a
    forEach f rest

@[simp] theorem pure_apply (a : α) (s : σ) : (pure a : Program σ ε α) s = (.ok a, s) := rfl

theorem bind_apply (p : Program σ ε α) (f : α → Program σ ε β) (s : σ) :
    (p >>= f) s = match p s with
      | (.ok a, t) => f a t
      | (.error e, t) => (.error e, t) := rfl

variable {e : ε} {f : α → Program σ ε β} {a : α} {p : Program σ ε α}

theorem bind_of_ok {s t : σ} (ran : p s = (.ok a, t)) (f : α → Program σ ε β) :
    (p >>= f) s = f a t := by
  rw [bind_apply, ran]

theorem bind_of_error {s t : σ} (ran : p s = (.error e, t))
    (f : α → Program σ ε β) : (p >>= f) s = (.error e, t) := by
  rw [bind_apply, ran]

/-- After a program that leaves the state as it is a sequence ends or goes on. -/
theorem bind_of_reads {s : σ} (reads : (p s).2 = s) (f : α → Program σ ε β) :
    ((p >>= f) s).2 = s ∨ ∃ a, p s = (.ok a, s) ∧ (p >>= f) s = f a s := by
  rcases ran : p s with ⟨e | a, t⟩ <;> obtain rfl : t = s := by rw [← reads, ran]
  · exact .inl (by rw [bind_of_error ran])
  · exact .inr ⟨a, rfl, bind_of_ok ran f⟩

theorem discard_state (p : Program σ ε α) (s : σ) : ((p >>= fun _ => pure ()) s).2 = (p s).2 := by
  rcases ran : p s with ⟨e | a, t⟩
  · rw [bind_of_error ran]
  · rw [bind_of_ok ran, pure_apply]

theorem bind_eq_ok {s t : σ} {b : β} (ran : (p >>= f) s = (.ok b, t)) :
    ∃ a u, p s = (.ok a, u) ∧ f a u = (.ok b, t) := by
  rcases first : p s with ⟨e | a, u⟩
  · rw [bind_of_error first] at ran
    nomatch congrArg Prod.fst ran
  · rw [bind_of_ok first] at ran
    exact ⟨a, u, rfl, ran⟩

variable {outcome : Except ε α}

theorem attempt_of {s t : σ} (ran : p s = (outcome, t)) : p.attempt s = (.ok outcome, t) := by
  rw [attempt, ran]

theorem attempt_apply {s t : σ} (ran : p.attempt s = (.ok outcome, t)) : p s = (outcome, t) := by
  have parts : (.ok (p s).1, (p s).2) = ((.ok outcome, t) : Except ε (Except ε α) × σ) := ran
  rw [Prod.mk.injEq, Except.ok.injEq] at parts
  exact Prod.ext parts.1 parts.2

/-! ### Allowed moves -/

/-- **Started in `s`, the program moves the state by allowed steps only.** -/
def Moves (allowed : σ → σ → Prop) (p : Program σ ε α) (s : σ) : Prop :=
  Relation.ReflTransGen allowed s (p s).2

variable {allowed : σ → σ → Prop} {s : σ}

theorem Moves.ret (a : α) : Moves allowed (pure a : Program σ ε α) s := .refl

theorem Moves.fail (e : ε) : Moves allowed (Program.fail e : Program σ ε α) s := .refl

theorem Moves.get : Moves allowed (Program.get : Program σ ε σ) s := .refl

theorem Moves.ofExcept (result : Except ε α) :
    Moves allowed (Program.ofExcept result : Program σ ε α) s := .refl

/-- The second program is entered in the state and with the value the first one has left. -/
theorem Moves.bind (first : Moves allowed p s)
    (second : ∀ a t, p s = (.ok a, t) → Moves allowed (f a) t) : Moves allowed (p >>= f) s := by
  unfold Moves at *
  rcases ran : p s with ⟨e | a, t⟩ <;> rw [ran] at first
  · rwa [bind_of_error ran]
  · rw [bind_of_ok ran]
    exact first.trans (second a t ran)

theorem Moves.attempt (inner : Moves allowed p s) : Moves allowed p.attempt s := inner

theorem Moves.forEach {f : α → Program σ ε Unit} :
    ∀ {items : List α} {s : σ}, (∀ a ∈ items, ∀ t, Moves allowed (f a) t) →
      Moves allowed (Program.forEach f items) s
  | [], _, _ => .refl
  | a :: rest, s, each => by
    refine .bind (each a (.head _) s) fun _ t _ => ?_
    exact .forEach fun b mem t => each b (.tail _ mem) t

theorem Moves.mono {wider : σ → σ → Prop} (moves : Moves allowed p s)
    (weaker : ∀ a b, allowed a b → wider a b) : Moves wider p s :=
  moves.lift id weaker

/-- **What every allowed step keeps, the program keeps.** -/
theorem Moves.keeps {inv : σ → Prop} (moves : Moves allowed p s)
    (step : ∀ a b, allowed a b → inv a → inv b) (start : inv s) : inv (p s).2 := by
  unfold Moves at moves
  generalize (p s).2 = t at moves ⊢
  induction moves with
  | refl => exact start
  | tail _ last ih => exact step _ _ last ih

/-! ### Errors and the states they leave -/

/-- **Started in `s`, the program leaves every error in a state with the postcondition.** -/
def FailsWith (post : ε → σ → Prop) (p : Program σ ε α) (s : σ) : Prop :=
  ∀ e t, p s = (.error e, t) → post e t

section Ends

variable {post : ε → σ → Prop} {p : Program σ ε α} {t : σ}

/-- The program ends with a value and a state that satisfy `ok`, or with an error and a state that
satisfy `bad`. -/
def Ends (ok : α → σ → Prop) (bad : ε → σ → Prop) (p : Program σ ε α) (s : σ) : Prop :=
  match p s with
  | (.ok a, t) => ok a t
  | (.error e, t) => bad e t

variable {ok : α → σ → Prop} {bad : ε → σ → Prop}

theorem failsWith_iff : FailsWith post p s ↔ Ends (fun _ _ => True) post p s := by
  unfold FailsWith Ends
  cases ran : p s with
  | mk result t => cases result <;> simp

theorem ends_of_ok (ran : p s = (.ok a, t)) : Ends ok bad p s ↔ ok a t := by
  rw [Ends, ran]

theorem ends_of_error (ran : p s = (.error e, t)) : Ends ok bad p s ↔ bad e t := by
  rw [Ends, ran]

theorem ends_pure : Ends ok bad (pure a) s ↔ ok a s := Iff.rfl

theorem ends_fail : Ends ok bad (fail e) s ↔ bad e s := Iff.rfl

/-- **The rule of a sequence.** -/
theorem ends_bind {ok : β → σ → Prop} :
    Ends ok bad (p >>= f) s ↔ Ends (fun a t => Ends ok bad (f a) t) bad p s := by
  rcases ran : p s with ⟨e | a, t⟩
  · rw [ends_of_error (bind_of_error ran f), ends_of_error ran]
  · rw [Ends, bind_of_ok ran, ends_of_ok ran]
    rfl

theorem ends_attempt {ok : Except ε α → σ → Prop} :
    Ends ok bad p.attempt s ↔ Ends (fun a t => ok (.ok a) t) (fun e t => ok (.error e) t) p s := by
  rcases ran : p s with ⟨e | a, t⟩ <;> rw [ends_of_ok (attempt_of ran)]
  · rw [ends_of_error ran]
  · rw [ends_of_ok ran]

/-- Only the errors that the program can end with matter. -/
theorem ends_congr {other : ε → σ → Prop} (fails : FailsWith post p s)
    (same : ∀ e t, post e t → (bad e t ↔ other e t)) : Ends ok bad p s ↔ Ends ok other p s := by
  rcases ran : p s with ⟨e | a, t⟩
  · rw [ends_of_error ran, ends_of_error ran]
    exact same e t (fails e t ran)
  · rw [ends_of_ok ran, ends_of_ok ran]

end Ends

end Program

end Detrix.Library
