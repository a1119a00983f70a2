import Attestation.Client.Error

/-!
# Changes in place

What is changed in place is changed bit by bit, and a failure halfway leaves behind whatever was
changed before it. `InPlace σ` is the type of such programs over a state `σ`, and the laws of this
module say what a check, a change and a loop of changes leave behind and come to.
-/

namespace Attestation

/-- Something done to a state in place. What is changed before a failure stays changed. -/
abbrev InPlace (σ : Type) := ExceptT ClientError (StateM σ)

namespace InPlace

variable {σ α β : Type} {x : InPlace σ α} {f : α → InPlace σ β} {s : σ}

/-- The state that is left, and beside it what came out. -/
def runOn (x : InPlace σ α) (s : σ) : σ × Except ClientError α :=
  ((x.run.run s).2, (x.run.run s).1)

/-- Reading the state changes nothing. -/
theorem runOn_get_bind {f : σ → InPlace σ β} : runOn (get >>= f) s = (f s).runOn s := rfl

/-- What follows a change finds the changed state. -/
theorem runOn_modify_bind {change : σ → σ} {f : Unit → InPlace σ β} :
    runOn (modify change >>= f) s = (f ()).runOn (change s) := rfl

/-- A check that fails ends the program and changes nothing. -/
theorem runOn_check_bind (check : Except ClientError α) :
    runOn (ofExcept check >>= f) s =
      match check with
      | .ok a => (f a).runOn s
      | .error cause => (s, .error cause) := by
  cases check <;> rfl

/-- A failure ends the program and leaves the state that it found. -/
theorem runOn_bind : runOn (x >>= f) s =
    match (x.runOn s).2 with
    | .ok a => (f a).runOn (x.runOn s).1
    | .error cause => ((x.runOn s).1, .error cause) := by
  have hbind : runOn (x >>= f) s =
    runOn (.mk (ExceptT.bindCont f (x.runOn s).2)) (x.runOn s).1 := rfl
  rw [hbind]
  cases (x.runOn s).2 with
  | ok a => rfl
  | error cause => rfl

/-- A loop of changes that cannot fail folds the change over the list. -/
theorem runOn_forM {body : α → InPlace σ Unit} {change : σ → α → σ}
    (h : ∀ s a, (body a).runOn s = (change s a, .ok ())) (l : List α) :
    runOn (l.forM body) s = (l.foldl change s, .ok ()) := by
  induction l generalizing s with
  | nil => rfl
  | cons a l ih =>
    have hcons : (a :: l).forM body = (body a >>= fun _ => l.forM body) := rfl
    rw [hcons, runOn_bind, h]
    exact ih

/-! ### Checks before changes -/

/-- What comes of something that gives the next state with an answer, or fails and leaves the state
alone. -/
def outcome (s : σ) : Except ClientError (σ × α) → σ × Except ClientError α
  | .ok (s', a) => (s', .ok a)
  | .error cause => (s, .error cause)

variable {next : α → Except ClientError (σ × β)}

/-- A check in front of what is done as a whole or not at all leaves it so. -/
theorem runOn_check_bind_eq_outcome {check : Except ClientError α}
    (h : ∀ a, (f a).runOn s = outcome s (next a)) :
    runOn (ofExcept check >>= f) s = outcome s (check >>= next) := by
  rw [runOn_check_bind]
  cases check with
  | ok a => exact h a
  | error cause => rfl

/-- A check of the state in front of what is done as a whole or not at all leaves it so. -/
theorem runOn_get_check_bind_eq_outcome {check : σ → Except ClientError α}
    (h : ∀ a, (f a).runOn s = outcome s (next a)) :
    runOn (get >>= fun s => ofExcept (check s) >>= f) s = outcome s (check s >>= next) :=
  runOn_check_bind_eq_outcome h

end InPlace

end Attestation
