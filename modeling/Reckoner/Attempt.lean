/-!
Computations that act on a state and may fail. A failure keeps the state that was reached, so
what was consumed, bound or printed before it stays visible.
-/

namespace Reckoner

def Attempt (σ ε α : Type) : Type :=
  σ → Except ε α × σ

namespace Attempt

variable {σ ε α β : Type}

def succeed (result : α) : Attempt σ ε α :=
  fun state => (.ok result, state)

def fail (error : ε) : Attempt σ ε α :=
  fun state => (.error error, state)

def andThen (first : Attempt σ ε α) (next : α → Attempt σ ε β) : Attempt σ ε β :=
  fun state =>
    match first state with
    | (.ok result, after) => next result after
    | (.error error, after) => (.error error, after)

instance : Monad (Attempt σ ε) where
  pure := succeed
  bind := andThen

def get : Attempt σ ε σ :=
  fun state => (.ok state, state)

def modify (change : σ → σ) : Attempt σ ε Unit :=
  fun state => (.ok (), change state)

def ofExcept : Except ε α → Attempt σ ε α
  | .ok result => succeed result
  | .error error => fail error

/-- The same computation with its errors seen as errors of another kind. -/
def mapError {ε' : Type} (wrap : ε → ε') (attempt : Attempt σ ε α) : Attempt σ ε' α :=
  fun state =>
    match attempt state with
    | (.ok result, after) => (.ok result, after)
    | (.error error, after) => (.error (wrap error), after)

theorem bind_ok {first : Attempt σ ε α} {next : α → Attempt σ ε β} {state after : σ}
    {result : α} (done : first state = (.ok result, after)) :
    (first >>= next) state = next result after := by
  simp [bind, andThen, done]

theorem bind_error {first : Attempt σ ε α} {next : α → Attempt σ ε β} {state after : σ}
    {error : ε} (failed : first state = (.error error, after)) :
    (first >>= next) state = (.error error, after) := by
  simp [bind, andThen, failed]

theorem bind_eq_ok_iff {first : Attempt σ ε α} {next : α → Attempt σ ε β} {state after : σ}
    {result : β} :
    (first >>= next) state = (.ok result, after) ↔
      ∃ value middle, first state = (.ok value, middle) ∧
        next value middle = (.ok result, after) := by
  change andThen first next state = _ ↔ _
  unfold andThen
  rcases first state with ⟨error | value, middle⟩
  · simp
  · constructor
    · intro done
      exact ⟨value, middle, rfl, done⟩
    · rintro ⟨_, _, same, done⟩
      cases same
      exact done

theorem pure_apply (result : α) (state : σ) :
    (pure result : Attempt σ ε α) state = (.ok result, state) := rfl

theorem get_bind (next : σ → Attempt σ ε α) (state : σ) : (get >>= next) state = next state state :=
  rfl

theorem map_id (first : Attempt σ ε α) : id <$> first = first := by
  funext state
  change andThen first (succeed ∘ id) state = first state
  unfold andThen
  rcases first state with ⟨result | error, after⟩ <;> rfl

theorem bind_assoc {γ : Type} (first : Attempt σ ε α) (next : α → Attempt σ ε β)
    (last : β → Attempt σ ε γ) :
    first >>= next >>= last = first >>= fun result => next result >>= last := by
  funext state
  change andThen (andThen first next) last state =
    andThen first (fun result => andThen (next result) last) state
  unfold andThen
  rcases first state with ⟨result | error, after⟩ <;> rfl

instance : LawfulMonad (Attempt σ ε) :=
  LawfulMonad.mk' _ map_id (fun _ _ => rfl) bind_assoc

end Attempt

end Reckoner
