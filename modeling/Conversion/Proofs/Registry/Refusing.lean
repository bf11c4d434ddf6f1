import Conversion.Proofs.Registry.Diagnostics

/-!
# Refused registrations

Five things can stand against a registration. `objections` lists those that do, all of them and in
the order in which they count, while a registration stops at the first that it comes to. The main
statement, `register_refuses_cleanly`, is that it fails with the first objection and succeeds when
there is none, and that a failure leaves no trace: what a program finds afterwards, whatever it
does, is what it would have found without the attempt.

Only the last objection looks at the table, and taking the mark off a derived pair is part of the
same test. So nothing may be written before the answer is known, which is why a failure is settled
by the outcome of `registered` alone.
-/

namespace Conversion.Registry

/-- What could stand against a registration, in the order in which it counts, and if it does. -/
def grounds (registry : Registry) (source target : TypeKey) (converter : Converter) :
    List (Bool × RegistryError) :=
  [ (!registry.types.isPublic source, .nonPublicSource source),
    (!registry.types.isPublic target, .nonPublicTarget target),
    (decide (source = target), .sameType source),
    (converter.asRule?.isSome, .ruleAsConverter source target),
    (decide (registry.table.IsExplicit source target), .duplicate source target) ]

/-- All that stands against a registration, in the order in which it counts. -/
def objections (registry : Registry) (source target : TypeKey) (converter : Converter) :
    List RegistryError :=
  ((registry.grounds source target converter).filter Prod.fst).map Prod.snd

variable {source target : TypeKey} {converter : Converter} {registry : Registry}

theorem head?_objections (registry : Registry) (source target : TypeKey) (converter : Converter) :
    (registry.objections source target converter).head? =
      (refusal? registry.types source target converter).or
        (if registry.table.IsExplicit source target then some (.duplicate source target)
          else none) := by
  cases sourcePublic : registry.types.isPublic source <;>
    cases targetPublic : registry.types.isPublic target <;>
    by_cases same : source = target <;> cases isRule : converter.asRule? <;>
    by_cases explicit : registry.table.IsExplicit source target <;>
    simp [objections, grounds, refusal?, sourcePublic, targetPublic, same, isRule, explicit]

theorem refusal?_ne_duplicate {types : Hierarchy} {left right : TypeKey} :
    refusal? types source target converter ≠ some (.duplicate left right) := by
  unfold refusal?
  split
  · simp
  · split
    · simp
    · split
      · simp
      · split <;> simp

theorem events_of_refused {error : RegistryError}
    (failed : (register source target converter registry).result = .error error) :
    (register source target converter registry).events =
      if error = .duplicate source target then (prepare source target registry).events
      else [] := by
  cases registered registry source target converter with
  | refused reason refusal result same events =>
      rw [failed] at result
      cases result
      have notDuplicate : error ≠ .duplicate source target := by
        rintro rfl
        exact refusal?_ne_duplicate refusal
      rw [events, if_neg notDuplicate]
  | duplicate admitted explicit result remembers events =>
      rw [failed] at result
      cases result
      rw [events, if_pos rfl]
  | filed admitted table filingEvents filed result remembers events =>
      rw [result] at failed
      cases failed

/-- A registration fails with the first objection to it and succeeds if there is none. One that
fails leaves the table with its marks, the rules and the declarations as they were, and whatever a
program does afterwards, it gets the same answers and the same reports. All that a failure can
report is that the pair needs no converter, and only when the pair has one of its own already. -/
theorem register_refuses_cleanly (registry : Registry) (source target : TypeKey)
    (converter : Converter) :
    let outcome := register source target converter registry
    outcome.result = (registry.objections source target converter).head?.elim (.ok ()) .error ∧
      ∀ error, outcome.result = .error error →
        outcome.registry.table = registry.table ∧
          outcome.registry.rules = registry.rules ∧
          outcome.registry.types.declarations = registry.types.declarations ∧
          (∀ later, outcome.registry.observations true later =
            registry.observations true later) ∧
          outcome.events =
            if error = .duplicate source target ∧ registry.options.warnRedundant = true ∧
                (registry.types.areConvertible source target).1 = true then
              [.redundant source target]
            else [] := by
  intro outcome
  constructor
  · rw [head?_objections]
    have answer := register_result source target converter registry
    cases refusal : refusal? registry.types source target converter with
    | some error => simpa [refusal] using answer
    | none =>
        by_cases explicit : registry.table.IsExplicit source target <;>
          simpa [refusal, explicit] using answer
  · intro error failed
    have remembers := remembers_of_refused failed
    refine ⟨remembers.table, remembers.rules, remembers.declarations, ?_, ?_⟩
    · intro later
      exact (remembers.alike.observations_eq later).symm
    · have reported := events_of_refused failed
      rw [prepare_events] at reported
      rw [reported]
      by_cases isDuplicate : error = .duplicate source target <;> simp [isDuplicate]

/-- Owned text goes for the interface of text, so a converter between the two is redundant. -/
def redundantPair : List Operation :=
  [ .declare ((Declaration.of .string).implementing .text),
    .register .string .text ⟨.given 0, .total .string .string id⟩ ]

theorem register_refuses_redundant_repetition :
    let registry := (ofTypes ∅ {}).after redundantPair
    let repeated : Converter := ⟨.given 1, .total .string .string id⟩
    let outcome := register .string .text repeated registry
    outcome.result = .error (.duplicate .string .text) ∧
      registry.objections .string .text repeated = [.duplicate .string .text] ∧
      outcome.registry.table = registry.table ∧
      outcome.events = [.redundant .string .text] := by
  intro registry repeated outcome
  have objecting : registry.objections .string .text repeated = [.duplicate .string .text] := by
    decide +kernel
  have warned : registry.options.warnRedundant = true ∧
      (registry.types.areConvertible .string .text).1 = true := by decide +kernel
  have clean := register_refuses_cleanly registry .string .text repeated
  have failed : outcome.result = .error (.duplicate .string .text) := by
    rw [clean.1, objecting]
    rfl
  rcases clean.2 _ failed with ⟨table, _, _, _, events⟩
  refine ⟨failed, objecting, table, ?_⟩
  rw [events]
  exact if_pos ⟨rfl, warned⟩

end Conversion.Registry
