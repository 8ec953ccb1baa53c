/-! The outcome of a check that does not stop at the first fault. -/
namespace ConfigAudit

/-- A value, or everything that speaks against it. -/
inductive Checked (φ α : Type) where
  | ok (value : α)
  | faulty (faults : List φ)
  deriving DecidableEq

namespace Checked

/-- Applies a checked function, keeping the faults of both sides. -/
def seq (f : Checked φ (α → β)) (x : Unit → Checked φ α) : Checked φ β :=
  match f, x () with
  | .ok f, .ok a => .ok (f a)
  | .ok _, .faulty e => .faulty e
  | .faulty e, .ok _ => .faulty e
  | .faulty e, .faulty e' => .faulty (e ++ e')

instance : Applicative (Checked φ) where
  pure := .ok
  seq := seq

def mapFaults (g : φ → ψ) : Checked φ α → Checked ψ α
  | .ok a => .ok a
  | .faulty e => .faulty (e.map g)

/-- The values of a list, or the faults of all its elements. -/
def all : List (Checked φ α) → Checked φ (List α)
  | [] => pure []
  | d :: r => List.cons <$> d <*> all r

/-- A further demand on a value. -/
def check (d : Checked φ α) (demand : α → Checked φ β) : Checked φ β :=
  match d with
  | .ok a => demand a
  | .faulty e => .faulty e

end Checked
end ConfigAudit
