/-
# Steps and attempts

What a wizard does is described by functions of its state.  A step changes the state, writes
entries into a journal and has a result; an attempt is a step that may fail, and then keeps
what it has done to the state and written into the journal up to there.  Both are monads, and
the equations below say what composed steps do to a given state.
-/
import SetupWizard.Failure

namespace SetupWizard

/-- What a step leaves behind. -/
structure Report (ω S α : Type) where
  /-- The result of the step. -/
  result : α
  /-- The state after the step. -/
  state : S
  /-- What the step wrote into the journal. -/
  journal : List ω := []

/-- What an attempt leaves behind, with the state changed by a function. -/
def Report.mapState {ω S S' α : Type} (g : S → S') (r : Report ω S α) : Report ω S' α :=
  ⟨r.result, g r.state, r.journal⟩

/-- A function of a state `S` that writes entries of type `ω` into a journal. -/
def Step (ω S α : Type) := S → Report ω S α

namespace Step

variable {ω S α β : Type}

instance : Monad (Step ω S) where
  pure a := fun s => ⟨a, s, []⟩
  bind m f := fun s =>
    let first := m s
    let second := f first.result first.state
    ⟨second.result, second.state, first.journal ++ second.journal⟩

/-- The current state. -/
def get : Step ω S S := fun s => ⟨s, s, []⟩

/-- Changes the state. -/
def modify (f : S → S) : Step ω S Unit := fun s => ⟨(), f s, []⟩

/-- Writes into the journal. -/
def write (entry : ω) : Step ω S Unit := fun s => ⟨(), s, [entry]⟩

@[simp] theorem pure_apply (a : α) (s : S) : (pure a : Step ω S α) s = ⟨a, s, []⟩ := rfl

@[simp] theorem bind_apply (m : Step ω S α) (f : α → Step ω S β) (s : S) :
    (m >>= f) s =
      ⟨(f (m s).result (m s).state).result, (f (m s).result (m s).state).state,
        (m s).journal ++ (f (m s).result (m s).state).journal⟩ := rfl

@[simp] theorem get_apply (s : S) : (get : Step ω S S) s = ⟨s, s, []⟩ := rfl

@[simp] theorem modify_apply (f : S → S) (s : S) :
    (modify f : Step ω S Unit) s = ⟨(), f s, []⟩ := rfl

@[simp] theorem write_apply (entry : ω) (s : S) :
    (write entry : Step ω S Unit) s = ⟨(), s, [entry]⟩ := rfl

instance : LawfulMonad (Step ω S) :=
  LawfulMonad.mk' (Step ω S)
    (fun m => by
      funext s
      show (⟨(m s).result, (m s).state, (m s).journal ++ []⟩ : Report ω S _) = m s
      rw [List.append_nil])
    (fun a f => by funext s; simp)
    (fun m f g => by funext s; simp)
    (fun m n => rfl)
    (fun m n => rfl)
    (fun f m => rfl)
    (fun m n => rfl)

end Step

/-- A step that may fail. -/
def Attempt (ω S α : Type) := Step ω S (Except Failure α)

namespace Attempt

variable {ω S α β : Type}

instance : Monad (Attempt ω S) where
  pure a := fun s => ⟨.ok a, s, []⟩
  bind m f := fun s =>
    let first := m s
    match first.result with
    | .error failure => ⟨.error failure, first.state, first.journal⟩
    | .ok a =>
      let second := f a first.state
      ⟨second.result, second.state, first.journal ++ second.journal⟩

/-- Fails. -/
def fail (failure : Failure) : Attempt ω S α := fun s => ⟨.error failure, s, []⟩

/-- A step that cannot fail, as an attempt. -/
def ofStep (m : Step ω S α) : Attempt ω S α := fun s =>
  let first := m s
  ⟨.ok first.result, first.state, first.journal⟩

instance : MonadLift (Step ω S) (Attempt ω S) := ⟨ofStep⟩

/-- An attempt whose failure, if it comes to that, is part of the result. -/
def outcome (m : Attempt ω S α) : Attempt ω S (Except Failure α) := ofStep m

/-- The current state. -/
def get : Attempt ω S S := ofStep Step.get

/-- Changes the state. -/
def modify (f : S → S) : Attempt ω S Unit := ofStep (Step.modify f)

/-- Writes into the journal. -/
def write (entry : ω) : Attempt ω S Unit := ofStep (Step.write entry)

@[simp] theorem pure_apply (a : α) (s : S) : (pure a : Attempt ω S α) s = ⟨.ok a, s, []⟩ := rfl

theorem bind_of_ok {m : Attempt ω S α} {s t : S} {a : α} {js : List ω}
    (h : m s = ⟨.ok a, t, js⟩) (f : α → Attempt ω S β) :
    (m >>= f) s = ⟨(f a t).result, (f a t).state, js ++ (f a t).journal⟩ := by
  show (match (m s).result with | .error failure => _ | .ok a => _) = _
  rw [h]

theorem bind_of_error {m : Attempt ω S α} {s t : S} {failure : Failure} {js : List ω}
    (h : m s = ⟨.error failure, t, js⟩) (f : α → Attempt ω S β) :
    (m >>= f) s = ⟨.error failure, t, js⟩ := by
  show (match (m s).result with | .error failure => _ | .ok a => _) = _
  rw [h]

@[simp] theorem fail_apply (failure : Failure) (s : S) :
    (fail failure : Attempt ω S α) s = ⟨.error failure, s, []⟩ := rfl

@[simp] theorem ofStep_apply (m : Step ω S α) (s : S) :
    (ofStep m : Attempt ω S α) s = ⟨.ok (m s).result, (m s).state, (m s).journal⟩ := rfl

@[simp] theorem outcome_apply (m : Attempt ω S α) (s : S) :
    (outcome m : Attempt ω S (Except Failure α)) s =
      ⟨.ok (m s).result, (m s).state, (m s).journal⟩ := rfl

@[simp] theorem get_apply (s : S) : (get : Attempt ω S S) s = ⟨.ok s, s, []⟩ := rfl

@[simp] theorem modify_apply (f : S → S) (s : S) :
    (modify f : Attempt ω S Unit) s = ⟨.ok (), f s, []⟩ := rfl

@[simp] theorem write_apply (entry : ω) (s : S) :
    (write entry : Attempt ω S Unit) s = ⟨.ok (), s, [entry]⟩ := rfl

instance : LawfulMonad (Attempt ω S) :=
  LawfulMonad.mk' (Attempt ω S)
    (fun m => by
      funext s
      rcases h : m s with ⟨failure | a, t, js⟩
      · exact bind_of_error h _
      · exact (bind_of_ok h _).trans (congrArg (Report.mk (Except.ok a) t) (List.append_nil js)))
    (fun a f => by funext s; simp [bind])
    (fun m f g => by
      funext s
      rcases h : m s with ⟨failure | a, t, js⟩
      · rw [bind_of_error (bind_of_error h f), bind_of_error h]
      · rw [bind_of_ok h]
        rcases h' : f a t with ⟨failure | b, u, ks⟩
        · have first : (m >>= f) s = ⟨.error failure, u, js ++ ks⟩ := by rw [bind_of_ok h, h']
          rw [bind_of_error first, bind_of_error h']
        · have first : (m >>= f) s = ⟨.ok b, u, js ++ ks⟩ := by rw [bind_of_ok h, h']
          rw [bind_of_ok first, bind_of_ok h', List.append_assoc])
    (fun m n => rfl)
    (fun m n => rfl)
    (fun f m => rfl)
    (fun m n => rfl)

end Attempt

end SetupWizard
