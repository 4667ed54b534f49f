import DacBank.Event

namespace DacBank

/-- What an operation asks of a detector, with a branch for every answer to each call. The calls are
addressed to channels `χ`; the program ends with a value in `α` or an error. -/
inductive Program (χ α : Type) : Type where
  | done (result : α)
  | fail (error : DacError)
  | count (next : Nat → Program χ α)
  | read (channel : χ) (modules : List Nat)
      (next : Except DetectorError (List Int32) → Program χ α)
  | write (channel : χ) (value : Int32) (modules : List Nat)
      (next : Except DetectorError Unit → Program χ α)
  | emit (event : Event) (next : Program χ α)

namespace Program

variable {χ α β : Type}

def bind : Program χ α → (α → Program χ β) → Program χ β
  | .done a, f => f a
  | .fail e, _ => .fail e
  | .count next, f => .count fun n => (next n).bind f
  | .read c ms next, f => .read c ms fun r => (next r).bind f
  | .write c v ms next, f => .write c v ms fun r => (next r).bind f
  | .emit ev next, f => .emit ev (next.bind f)

instance : Monad (Program χ) where
  pure := .done
  bind := bind

theorem bind_done (p : Program χ α) : p.bind .done = p := by
  induction p with
  | done | fail => rfl
  | count next ih | read c ms next ih | write c v ms next ih => simp only [bind, ih]
  | emit ev next ih => simp only [bind, ih]

theorem bind_assoc {γ : Type} (p : Program χ α) (f : α → Program χ β) (g : β → Program χ γ) :
    (p.bind f).bind g = p.bind fun a => (f a).bind g := by
  induction p with
  | done | fail => rfl
  | count next ih | read c ms next ih | write c v ms next ih => simp only [bind, ih]
  | emit ev next ih => simp only [bind, ih]

instance : LawfulMonad (Program χ) :=
  LawfulMonad.mk' _ bind_done (fun _ _ => rfl) bind_assoc

/-- Reports an event at a failure, and fails still. -/
def reportFailure (event : DacError → Event) : Program χ α → Program χ α
  | .done a => .done a
  | .fail e => .emit (event e) (.fail e)
  | .count next => .count fun n => (next n).reportFailure event
  | .read c ms next => .read c ms fun r => (next r).reportFailure event
  | .write c v ms next => .write c v ms fun r => (next r).reportFailure event
  | .emit ev next => .emit ev (next.reportFailure event)

def ofExcept : Except DacError α → Program χ α
  | .ok a => .done a
  | .error e => .fail e

/-- The answer to a call, an error of the detector being the error of the operation. -/
def ofAnswer : Except DetectorError α → Program χ α
  | .ok a => .done a
  | .error e => .fail (.communication e)

def moduleCount : Program χ Nat :=
  .count .done

def get (channel : χ) (modules : List Nat) : Program χ (List Int32) :=
  .read channel modules ofAnswer

def set (channel : χ) (value : Int32) (modules : List Nat) : Program χ Unit :=
  .write channel value modules ofAnswer

def report (event : Event) : Program χ Unit :=
  .emit event (.done ())

end Program

end DacBank
