/-!
# Attempts

Reading a sequence of things one after the other ends in one of two ways: everything was read, or
something could not be read. An attempt keeps what was read before the end along with the failure,
if there was one.
-/

namespace StraightLine

/-- The things that were read, in order, and what stopped the reading before its end, if any. -/
structure Attempt (α ε : Type) where
  items : List α
  failure? : Option ε
deriving DecidableEq

namespace Attempt

variable {α ε : Type}

def finished : Attempt α ε := ⟨[], none⟩

def failed (e : ε) : Attempt α ε := ⟨[], some e⟩

def cons (a : α) (attempt : Attempt α ε) : Attempt α ε :=
  ⟨a :: attempt.items, attempt.failure?⟩

/-- All or nothing: the things read if there was no failure, or the failure. -/
def toExcept (attempt : Attempt α ε) : Except ε (List α) :=
  match attempt.failure? with
  | none => .ok attempt.items
  | some e => .error e

@[simp] theorem items_finished : (finished : Attempt α ε).items = [] := rfl

@[simp] theorem failure?_finished : (finished : Attempt α ε).failure? = none := rfl

@[simp] theorem items_failed (e : ε) : (failed e : Attempt α ε).items = [] := rfl

@[simp] theorem failure?_failed (e : ε) : (failed e : Attempt α ε).failure? = some e := rfl

@[simp] theorem items_cons (a : α) (attempt : Attempt α ε) :
    (attempt.cons a).items = a :: attempt.items := rfl

@[simp] theorem failure?_cons (a : α) (attempt : Attempt α ε) :
    (attempt.cons a).failure? = attempt.failure? := rfl

theorem toExcept_eq_ok_iff {attempt : Attempt α ε} {as : List α} :
    attempt.toExcept = .ok as ↔ attempt.failure? = none ∧ attempt.items = as := by
  unfold toExcept
  split <;> simp_all

theorem toExcept_eq_error_iff {attempt : Attempt α ε} {e : ε} :
    attempt.toExcept = .error e ↔ attempt.failure? = some e := by
  unfold toExcept
  split <;> simp_all

end Attempt

end StraightLine
