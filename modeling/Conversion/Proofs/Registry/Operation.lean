import Conversion.Registry.Running
import Conversion.Proofs.Registry.Registration

/-!
# Operations and what they file

An `Operation` is one call that a program makes on a registry or on the hierarchy it shares with
others; a history is a list of them, whoever makes them. `Operation.filings` are the registrations
in a call that succeed, each with the chain of ancestors that its target has at that moment.

Two facts about a single operation carry everything said about histories. The table goes on to
record the filings (`records_perform`), and each filing was asked for by the operation and passed
the checks under the declarations then in force (`of_mem_filings`).
-/

namespace Conversion

/-- One call on a registry or on its hierarchy. -/
inductive Operation where
  | declare (declaration : Declaration)
  | declareAll (declarations : List Declaration)
  | register (source target : TypeKey) (converter : Converter)
  | registerForAll (sources : List TypeKey) (target : TypeKey) (converter : Converter)
  | registerRule (rule : Rule)
  | takeIdentity
  | ancestors (key : TypeKey)
  | isAssignable (source target : TypeKey)
  | areConvertible (left right : TypeKey)
  | exact (source target : TypeKey)
  | byAncestor (source target : TypeKey)
  | byRule (source target : TypeKey)
  | find (source target : TypeKey)
  | convert (value : Value) (source target : TypeKey)

namespace Registry

/-- The filing of a registration, when it succeeds. -/
def filed (source target : TypeKey) (converter : Converter) (registry : Registry) : List Filing :=
  match (register source target converter registry).result with
  | .ok () => [⟨source, target, converter, (registry.types.ancestors target).1⟩]
  | .error _ => []

/-- The filings of a registration for one source after another. -/
def filedForAll (target : TypeKey) (converter : Converter) :
    List TypeKey → Registry → List Filing
  | [], _ => []
  | source :: rest, registry =>
      let outcome := register source target converter registry
      filed source target converter registry ++
        match outcome.result with
        | .ok () => filedForAll target converter rest outcome.registry
        | .error _ => []

end Registry

namespace Operation

/-- Carries an operation out; what it answers is dropped. -/
def perform : Operation → Action Unit
  | declare declaration => Registry.declare declaration
  | declareAll declarations => Registry.declareAll declarations
  | register source target converter =>
      (Registry.register source target converter).map fun _ => ()
  | registerForAll sources target converter =>
      (Registry.registerForAll sources target converter).map fun _ => ()
  | registerRule rule => Registry.registerRule rule
  | takeIdentity => Registry.nextIdentity.map fun _ => ()
  | ancestors key => (Action.query (·.ancestors key)).map fun _ => ()
  | isAssignable source target => (Action.query (·.isAssignable source target)).map fun _ => ()
  | areConvertible left right => (Action.query (·.areConvertible left right)).map fun _ => ()
  | exact source target => (Registry.exact source target).map fun _ => ()
  | byAncestor source target => (Registry.byAncestor source target).map fun _ => ()
  | byRule source target => (Registry.byRule source target).map fun _ => ()
  | find source target => (Registry.find source target).map fun _ => ()
  | convert value source target => (Registry.convertAs value source target).map fun _ => ()

/-- Looking something up, as an operation. -/
def ofQuestion : Question → Operation
  | .ancestors key => ancestors key
  | .isAssignable source target => isAssignable source target
  | .areConvertible left right => areConvertible left right
  | .exact source target => exact source target
  | .byAncestor source target => byAncestor source target
  | .byRule source target => byRule source target
  | .find source target => find source target
  | .convert value source target => convert value source target

theorem perform_ofQuestion (question : Question) :
    (ofQuestion question).perform = question.ask := by
  cases question <;> rfl

/-- The registrations in an operation that succeed, the earliest first. -/
def filings : Operation → Registry → List Filing
  | register source target converter => Registry.filed source target converter
  | registerForAll sources target converter => Registry.filedForAll target converter sources
  | _ => fun _ => []

/-- Whether an operation asks for a registration. -/
def AsksFor (source target : TypeKey) (converter : Converter) : Operation → Prop
  | register own requested offered => source = own ∧ target = requested ∧ converter = offered
  | registerForAll sources requested offered =>
      source ∈ sources ∧ target = requested ∧ converter = offered
  | _ => False

def onlyAsks : Operation → Bool
  | declare _ => false
  | declareAll _ => false
  | register .. => false
  | registerForAll .. => false
  | registerRule _ => false
  | takeIdentity => false
  | _ => true

def declares : Operation → Bool
  | declare _ => true
  | declareAll _ => true
  | _ => false

def addsRule : Operation → Bool
  | registerRule _ => true
  | _ => false

end Operation

namespace Registry

variable {source target : TypeKey} {converter : Converter} {registry : Registry}

/-! ### One registration -/

/-- A registration writes to the table and to nothing else. -/
theorem register_frame (source target : TypeKey) (converter : Converter) (registry : Registry) :
    ∃ table, Remembers { registry with table }
      (register source target converter registry).registry := by
  cases registered registry source target converter with
  | refused error refusal result same events =>
      rw [same]
      exact ⟨registry.table, Remembers.refl registry⟩
  | duplicate admitted explicit result remembers events => exact ⟨registry.table, remembers⟩
  | filed admitted table filingEvents filed result remembers events => exact ⟨table, remembers⟩

theorem filed_of_error {error : RegistryError}
    (failed : (register source target converter registry).result = .error error) :
    filed source target converter registry = [] := by
  simp only [filed, failed]

theorem filed_of_ok (succeeded : (register source target converter registry).result = .ok ()) :
    filed source target converter registry =
      [⟨source, target, converter, registry.types.declarations.walk target⟩] := by
  simp only [filed, succeeded, Hierarchy.ancestors_fst]

theorem records_register {log : List Filing} (records : registry.table.Records log) :
    (register source target converter registry).registry.table.Records
      (log ++ filed source target converter registry) := by
  cases registered registry source target converter with
  | refused error refusal result same events =>
      rw [filed_of_error result, List.append_nil, same]
      exact records
  | duplicate admitted explicit result remembers events =>
      rw [filed_of_error result, List.append_nil, remembers.table]
      exact records
  | filed admitted table filingEvents filed result remembers events =>
      rw [filed_of_ok result, remembers.table]
      exact records.append filed

theorem of_mem_filed {filing : Filing} (filed : filing ∈ filed source target converter registry) :
    filing = ⟨source, target, converter, registry.types.declarations.walk target⟩ ∧
      refusal? registry.types source target converter = none := by
  cases registered registry source target converter with
  | refused error refusal result same events =>
      rw [filed_of_error result] at filed
      cases filed
  | duplicate admitted explicit result remembers events =>
      rw [filed_of_error result] at filed
      cases filed
  | filed admitted table filingEvents inTable result remembers events =>
      rw [filed_of_ok result] at filed
      exact ⟨List.mem_singleton.mp filed, admitted⟩

/-! ### One registration after another -/

theorem registerForAll_cons (source target : TypeKey) (rest : List TypeKey)
    (converter : Converter) :
    registerForAll (source :: rest) target converter =
      (register source target converter).followedBy (registerForAll rest target converter) :=
  rfl

theorem followedBy_of_ok {first second : Attempt} (succeeded : (first registry).result = .ok ()) :
    (first.followedBy second registry).registry = (second (first registry).registry).registry := by
  simp only [Attempt.followedBy, Action.andThen, succeeded]

theorem followedBy_of_error {first second : Attempt} {error : RegistryError}
    (failed : (first registry).result = .error error) :
    (first.followedBy second registry).registry = (first registry).registry := by
  simp only [Attempt.followedBy, Action.andThen, failed, Action.done]

theorem registerForAll_frame (target : TypeKey) (converter : Converter)
    (sources : List TypeKey) (registry : Registry) :
    ∃ table, Remembers { registry with table }
      (registerForAll sources target converter registry).registry := by
  induction sources generalizing registry with
  | nil => exact ⟨registry.table, Remembers.refl registry⟩
  | cons source rest ih =>
      rcases register_frame source target converter registry with ⟨table, remembers⟩
      rw [registerForAll_cons]
      cases result : (register source target converter registry).result with
      | error error =>
          rw [followedBy_of_error result]
          exact ⟨table, remembers⟩
      | ok =>
          rw [followedBy_of_ok result]
          rcases ih (register source target converter registry).registry with
            ⟨final, remembersMore⟩
          exact ⟨final, (remembers.withTable final).trans remembersMore⟩

theorem records_registerForAll {log : List Filing} (sources : List TypeKey)
    (records : registry.table.Records log) :
    (registerForAll sources target converter registry).registry.table.Records
      (log ++ filedForAll target converter sources registry) := by
  induction sources generalizing registry log with
  | nil =>
      rw [filedForAll, List.append_nil]
      exact records
  | cons source rest ih =>
      have recordsFirst :
          (register source target converter registry).registry.table.Records
            (log ++ Registry.filed source target converter registry) := records_register records
      rw [registerForAll_cons, filedForAll]
      cases result : (register source target converter registry).result with
      | error error =>
          simp only [followedBy_of_error result, List.append_nil]
          exact recordsFirst
      | ok =>
          simp only [followedBy_of_ok result]
          rw [← List.append_assoc]
          exact ih recordsFirst

theorem of_mem_filedForAll {filing : Filing} {sources : List TypeKey}
    (filed : filing ∈ filedForAll target converter sources registry) :
    ∃ source ∈ sources,
      filing = ⟨source, target, converter, registry.types.declarations.walk target⟩ ∧
        refusal? registry.types source target converter = none := by
  induction sources generalizing registry with
  | nil => cases filed
  | cons source rest ih =>
      rw [filedForAll] at filed
      rcases List.mem_append.mp filed with first | later
      · exact ⟨source, List.mem_cons_self, of_mem_filed first⟩
      · rcases register_frame source target converter registry with ⟨table, remembers⟩
        cases result : (register source target converter registry).result with
        | error error =>
            simp only [result] at later
            cases later
        | ok =>
            simp only [result] at later
            rcases ih later with ⟨other, otherMem, isFiling, admitted⟩
            rw [remembers.declarations] at isFiling
            rw [refusal?_congr remembers.declarations] at admitted
            exact ⟨other, List.mem_cons_of_mem source otherMem, isFiling, admitted⟩

end Registry

namespace Operation

open Registry

variable {operation : Operation} {registry : Registry}

theorem perform_onlyAsks (asks : operation.onlyAsks = true) :
    Action.OnlyAsks operation.perform := by
  cases operation with
  | ancestors key => exact (ancestors_onlyAsks key).map _
  | isAssignable source target => exact (isAssignable_onlyAsks source target).map _
  | areConvertible left right => exact (areConvertible_onlyAsks left right).map _
  | exact source target => exact (exact_onlyAsks source target).map _
  | byAncestor source target => exact (byAncestor_onlyAsks source target).map _
  | byRule source target => exact (byRule_onlyAsks source target).map _
  | find source target => exact (find_onlyAsks source target).map _
  | convert value source target => exact (convertAs_onlyAsks value source target).map _
  | _ => cases asks

theorem declarations_perform (settled : operation.declares = false) :
    (operation.perform registry).registry.types.declarations = registry.types.declarations := by
  cases operation with
  | declare declaration => cases settled
  | declareAll declarations => cases settled
  | register source target converter =>
      rcases register_frame source target converter registry with ⟨table, remembers⟩
      exact remembers.declarations
  | registerForAll sources target converter =>
      rcases registerForAll_frame target converter sources registry with ⟨table, remembers⟩
      exact remembers.declarations
  | registerRule rule => rfl
  | takeIdentity => rfl
  | _ => exact (perform_onlyAsks rfl registry).declarations

theorem rules_perform (ruleless : operation.addsRule = false) :
    (operation.perform registry).registry.rules = registry.rules := by
  cases operation with
  | declare declaration => rfl
  | declareAll declarations => rfl
  | register source target converter =>
      rcases register_frame source target converter registry with ⟨table, remembers⟩
      exact remembers.rules
  | registerForAll sources target converter =>
      rcases registerForAll_frame target converter sources registry with ⟨table, remembers⟩
      exact remembers.rules
  | registerRule rule => cases ruleless
  | takeIdentity => rfl
  | _ => exact (perform_onlyAsks rfl registry).rules

theorem registrars_perform (operation : Operation) (registry : Registry) :
    (operation.perform registry).registry.registrars = registry.registrars := by
  cases operation with
  | register source target converter =>
      rcases register_frame source target converter registry with ⟨table, remembers⟩
      exact remembers.registrars
  | registerForAll sources target converter =>
      rcases registerForAll_frame target converter sources registry with ⟨table, remembers⟩
      exact remembers.registrars
  | declare declaration => rfl
  | declareAll declarations => rfl
  | registerRule rule => rfl
  | takeIdentity => rfl
  | _ => exact (perform_onlyAsks rfl registry).registrars

theorem records_of_sameTable {log : List Filing} {after : Registry}
    (records : registry.table.Records log) (same : after.table = registry.table) :
    after.table.Records (log ++ []) := by
  rw [same, List.append_nil]
  exact records

/-- What a table records before an operation it records after it, with the new filings at the
end. -/
theorem records_perform {log : List Filing} (records : registry.table.Records log) :
    (operation.perform registry).registry.table.Records (log ++ operation.filings registry) := by
  cases operation with
  | register source target converter => exact records_register records
  | registerForAll sources target converter => exact records_registerForAll sources records
  | declare declaration => exact records_of_sameTable records rfl
  | declareAll declarations => exact records_of_sameTable records rfl
  | registerRule rule => exact records_of_sameTable records rfl
  | takeIdentity => exact records_of_sameTable records rfl
  | _ => exact records_of_sameTable records (perform_onlyAsks rfl registry).table

/-- A filing was asked for by its operation and passed the checks, and its chain is that of the
declarations in force. -/
theorem of_mem_filings {filing : Filing} (filed : filing ∈ operation.filings registry) :
    operation.AsksFor filing.source filing.target filing.converter ∧
      filing.chain = registry.types.declarations.walk filing.target ∧
      refusal? registry.types filing.source filing.target filing.converter = none := by
  cases operation with
  | register source target converter =>
      rcases of_mem_filed filed with ⟨rfl, admitted⟩
      exact ⟨⟨rfl, rfl, rfl⟩, rfl, admitted⟩
  | registerForAll sources target converter =>
      rcases of_mem_filedForAll filed with ⟨source, sourceMem, rfl, admitted⟩
      exact ⟨⟨sourceMem, rfl, rfl⟩, rfl, admitted⟩
  | _ => cases filed

end Operation

end Conversion
