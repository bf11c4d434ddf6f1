import Conversion.Registry.Basic

/-!
# Iteration

A callback visits the entries that the table had when the iteration began. It carries a state of its
own from visit to visit and is an action on the same registry, so it may register, declare or
reinitialize without changing what is visited. After each visit it says whether to go on.
-/

namespace Conversion

/-- Whether an iteration goes on. -/
inductive Flow where
  | proceed
  | stop
  deriving DecidableEq

/-- What is done at each visit, with the state of the visitor so far. -/
abbrev Visitor (σ : Type) : Type :=
  σ → TypePair → Converter → Action (σ × Flow)

namespace Registry

variable {σ : Type}

/-- Visits entries from first to last until the visitor stops. -/
def visitAll (visitor : Visitor σ) (state : σ) : List (TypePair × Converter) → Action σ
  | [] => Action.done state
  | (pair, converter) :: rest =>
      (visitor state pair converter).andThen fun
        | (next, .stop) => Action.done next
        | (next, .proceed) => visitAll visitor next rest

/-- Visits the entries that the table has now. -/
def forEachConverter (visitor : Visitor σ) (state : σ) : Action σ := fun registry =>
  visitAll visitor state registry.table.toList registry

end Registry

end Conversion
