import Conversion.Proofs.Registry.Observation
import Conversion.Proofs.Table.Entries

/-!
# Hierarchies in use

A hierarchy is declared into and asked by programs and by any number of registries that share it,
and whenever somebody asks for ancestors it remembers a chain. A `Hierarchy.Call` is one such use.
When a registry works with the hierarchy, the answer is all there is to see of that work.

The second side of the main statement knows no memory: `answersAnew` keeps the declarations that
were made and works every answer out of them from the beginning. `memory_never_shows` says that both
give the same answers, that the declarations in force are the last of each type, and that histories
with the same last declarations cannot be told apart by any later calls.
-/

namespace Conversion

namespace Hierarchy

/-- One use of a hierarchy. -/
inductive Call where
  | declare (declaration : Declaration)
  | declareAll (declarations : List Declaration)
  | ancestors (key : TypeKey)
  | isAssignable (source target : TypeKey)
  | areConvertible (left right : TypeKey)
  | isPublic (key : TypeKey)
  | isDeclared (key : TypeKey)
  | size
  /-- A registry, whatever it holds at that moment, works with the hierarchy. -/
  | serve (registry : Registry) (operation : Operation)

/-- What a hierarchy answers to a call. -/
inductive Answer where
  | done
  | chain (keys : List TypeKey)
  | verdict (holds : Bool)
  | count (number : Nat)
  /-- What a registry made of the hierarchy. -/
  | served (observation : Observation)

namespace Call

/-- Carries a call out. -/
def perform (hierarchy : Hierarchy) : Call → Answer × Hierarchy
  | declare declaration => (.done, hierarchy.declare declaration)
  | declareAll declarations => (.done, hierarchy.declareAll declarations)
  | ancestors key =>
      let (chain, remembering) := hierarchy.ancestors key
      (.chain chain, remembering)
  | isAssignable source target =>
      let (holds, remembering) := hierarchy.isAssignable source target
      (.verdict holds, remembering)
  | areConvertible left right =>
      let (holds, remembering) := hierarchy.areConvertible left right
      (.verdict holds, remembering)
  | isPublic key => (.verdict (hierarchy.isPublic key), hierarchy)
  | isDeclared key => (.verdict (hierarchy.isDeclared key), hierarchy)
  | size => (.count hierarchy.size, hierarchy)
  | serve registry operation =>
      let outcome := operation.answer { registry with types := hierarchy }
      (.served (outcome.observe true), outcome.registry.types)

/-- The declarations in a call. -/
def declared : Call → List Declaration
  | declare declaration => [declaration]
  | declareAll declarations => declarations
  | serve _ (.declare declaration) => [declaration]
  | serve _ (.declareAll declarations) => declarations
  | _ => []

/-- The answer to a call by the declarations in force, with nothing remembered. -/
def answerBy (declarations : Declarations) : Call → Answer
  | ancestors key => .chain (declarations.walk key)
  | isAssignable source target => .verdict ((declarations.walk source).contains target)
  | areConvertible left right =>
      .verdict ((declarations.walk left).contains right || (declarations.walk right).contains left)
  | isPublic key => .verdict (declarations.isPublic key)
  | isDeclared key => .verdict (declarations.contains key)
  | size => .count declarations.size
  | serve registry operation =>
      let outcome := operation.answer { registry with types := ofDeclarations declarations }
      .served (outcome.observe true)
  | declare _ => .done
  | declareAll _ => .done

end Call

/-- The hierarchy that calls leave. -/
def after (hierarchy : Hierarchy) : List Call → Hierarchy
  | [] => hierarchy
  | call :: rest => (call.perform hierarchy).2.after rest

/-- The answers to calls, in order. -/
def answers (hierarchy : Hierarchy) : List Call → List Answer
  | [] => []
  | call :: rest => (call.perform hierarchy).1 :: (call.perform hierarchy).2.answers rest

/-- The answers to calls when each is worked out from all the declarations made so far. -/
def answersAnew (declared : List Declaration) : List Call → List Answer
  | [] => []
  | call :: rest =>
      call.answerBy (Declarations.declareAll ∅ declared) ::
        answersAnew (declared ++ call.declared) rest

variable {hierarchy : Hierarchy}

/-! ### One call -/

theorem declarations_perform (call : Call) (hierarchy : Hierarchy) :
    (call.perform hierarchy).2.declarations = hierarchy.declarations.declareAll call.declared := by
  cases call with
  | declare declaration => rfl
  | declareAll declarations => rfl
  | ancestors key => exact hierarchy.declarations_ancestors key
  | isAssignable source target => exact hierarchy.declarations_isAssignable source target
  | areConvertible left right => exact hierarchy.declarations_areConvertible left right
  | isPublic key => rfl
  | isDeclared key => rfl
  | size => rfl
  | serve registry operation =>
      rw [Call.perform, operation.registry_answer]
      cases settled : operation.declares with
      | false =>
          rw [Operation.declarations_perform settled]
          cases operation with
          | declare declaration => cases settled
          | declareAll declarations => cases settled
          | _ => rfl
      | true =>
          cases operation with
          | declare declaration => rfl
          | declareAll declarations => rfl
          | _ => cases settled

/-- What a registry makes of a hierarchy depends on the declarations alone. -/
theorem observe_answer_congr {left right : Hierarchy} (alike : left.Alike right)
    (registry : Registry) (operation : Operation) :
    (operation.answer { registry with types := left }).observe true =
      (operation.answer { registry with types := right }).observe true := by
  have sameOtherwise : { registry with types := left }.Alike true
      { registry with types := right } := ⟨alike, rfl, rfl, rfl, rfl, fun _ => rfl⟩
  exact (operation.answer_respects sameOtherwise).observe_eq

/-- A call is answered as it would be with nothing remembered. -/
theorem answer_perform (call : Call) (hierarchy : Hierarchy) :
    (call.perform hierarchy).1 = call.answerBy hierarchy.declarations := by
  cases call with
  | ancestors key => exact congrArg Answer.chain (hierarchy.ancestors_fst key)
  | isAssignable source target =>
      exact congrArg Answer.verdict (hierarchy.isAssignable_eq_contains source target)
  | areConvertible left right =>
      exact congrArg Answer.verdict (hierarchy.areConvertible_eq_contains left right)
  | serve registry operation =>
      have forgotten : hierarchy.Alike (ofDeclarations hierarchy.declarations) := fun _ => rfl
      exact congrArg Answer.served (observe_answer_congr forgotten registry operation)
  | declare declaration => rfl
  | declareAll declarations => rfl
  | isPublic key => rfl
  | isDeclared key => rfl
  | size => rfl

theorem answer_congr {left right : Hierarchy} (alike : left.Alike right) (call : Call) :
    (call.perform left).1 = (call.perform right).1 := by
  cases call with
  | declare declaration => rfl
  | declareAll declarations => rfl
  | ancestors key => exact congrArg Answer.chain (alike.ancestors key)
  | isAssignable source target => exact congrArg Answer.verdict (alike.isAssignable source target)
  | areConvertible first second =>
      exact congrArg Answer.verdict (alike.areConvertible first second)
  | isPublic key => exact congrArg Answer.verdict (alike.isPublic key)
  | isDeclared key => exact congrArg (Answer.verdict ·.isSome) (alike key)
  | size => exact congrArg Answer.count (KeyMap.size_congr alike)
  | serve registry operation =>
      exact congrArg Answer.served (observe_answer_congr alike registry operation)

/-! ### One call after another -/

theorem declarations_after (hierarchy : Hierarchy) (calls : List Call) :
    (hierarchy.after calls).declarations =
      hierarchy.declarations.declareAll (calls.flatMap Call.declared) := by
  induction calls generalizing hierarchy with
  | nil => rfl
  | cons call rest ih =>
      rw [after, ih, declarations_perform, List.flatMap_cons, Declarations.declareAll_append]

theorem answers_eq_answersAnew {declared : List Declaration}
    (inForce : hierarchy.declarations = Declarations.declareAll ∅ declared) (calls : List Call) :
    hierarchy.answers calls = answersAnew declared calls := by
  induction calls generalizing hierarchy declared with
  | nil => rfl
  | cons call rest ih =>
      have next : (call.perform hierarchy).2.declarations =
          Declarations.declareAll ∅ (declared ++ call.declared) := by
        rw [declarations_perform, inForce, Declarations.declareAll_append]
      rw [answers, answersAnew, answer_perform, inForce, ih next]

theorem answers_congr {left right : Hierarchy} (alike : left.Alike right) (calls : List Call) :
    left.answers calls = right.answers calls := by
  induction calls generalizing left right with
  | nil => rfl
  | cons call rest ih =>
      have next : (call.perform left).2.Alike (call.perform right).2 :=
        (alike.declareAll call.declared).of_kept (declarations_perform call left)
          (declarations_perform call right)
      rw [answers, answers, answer_congr alike, ih next]

theorem find?_after_empty (history : List Call) (key : TypeKey) :
    ((∅ : Hierarchy).after history).declarations.find? key =
      Declaration.lastFor key (history.flatMap Call.declared) := by
  rw [declarations_after, Declarations.find?_declareAll]
  exact Option.or_none

/-- What a hierarchy remembers never shows. Asked for ancestors at any moment, it answers with the
walk over the declarations in force. In every history of calls, those of sharing registries
included, each answer is the one that the declarations made so far give when nothing is remembered.
In force is the last declaration of each type, and two histories that agree on those get the same
answers to all later calls. -/
theorem memory_never_shows (history : List Call) :
    (∀ (hierarchy : Hierarchy) (key : TypeKey),
      (hierarchy.ancestors key).1 = hierarchy.declarations.walk key) ∧
      (∅ : Hierarchy).answers history = answersAnew [] history ∧
      (∀ key, ((∅ : Hierarchy).after history).declarations.find? key =
        Declaration.lastFor key (history.flatMap Call.declared)) ∧
      ∀ other : List Call,
        (∀ key, Declaration.lastFor key (other.flatMap Call.declared) =
          Declaration.lastFor key (history.flatMap Call.declared)) →
        ∀ later, ((∅ : Hierarchy).after other).answers later =
          ((∅ : Hierarchy).after history).answers later := by
  refine ⟨ancestors_fst, answers_eq_answersAnew rfl history, find?_after_empty history, ?_⟩
  intro other sameLast later
  apply answers_congr
  intro key
  rw [find?_after_empty, find?_after_empty]
  exact sameLast key

/-- Owned text is asked for, and a registry files a converter to it, before it gets its ancestor and
again before the ancestor gets one. -/
def askedBetween : List Call :=
  [ .declare (Declaration.of .string),
    .ancestors .string,
    .declare ((Declaration.of .string).implementing .text),
    .serve (.ofTypes ∅ {})
      (.register .bool .string ⟨.given 0, .total .bool .string fun _ => "word"⟩),
    .declare ((Declaration.of .text).implementing .number) ]

/-- The last declarations in one batch and the other way round. -/
def declaredAtOnce : List Call :=
  [ .declareAll
      [(Declaration.of .text).implementing .number, (Declaration.of .string).implementing .text] ]

theorem memory_never_shows_between_declarations :
    (∀ key, Declaration.lastFor key (declaredAtOnce.flatMap Call.declared) =
        Declaration.lastFor key (askedBetween.flatMap Call.declared)) ∧
      ((∅ : Hierarchy).after declaredAtOnce).answers [.ancestors .string] =
        ((∅ : Hierarchy).after askedBetween).answers [.ancestors .string] ∧
      ((∅ : Hierarchy).after askedBetween).answers [.ancestors .string] =
        [.chain [.string, .text, .number]] := by
  have sameLast : ∀ key, Declaration.lastFor key (declaredAtOnce.flatMap Call.declared) =
      Declaration.lastFor key (askedBetween.flatMap Call.declared) := by
    intro key
    cases key <;> rfl
  have grown : (((∅ : Hierarchy).after askedBetween).ancestors .string).1 =
      [.string, .text, .number] := by decide +kernel
  refine ⟨sameLast, ?_, congrArg (fun chain => [Answer.chain chain]) grown⟩
  exact (memory_never_shows askedBetween).2.2.2 declaredAtOnce sameLast [.ancestors .string]

end Hierarchy

end Conversion
