import Conversion.Proofs.Registry.History
import Conversion.Proofs.Table.Entries

/-!
# Registrations in any order

Requests for registrations are answered one after another. Two things decide an answer, the checks
and whether the pair has an entry of its own, and neither depends on which converters were filed
before. So the order of the requests decides who wins a pair and nothing else: `outcomes_perm` says
so of the answers, and `contains_served_iff` and `isExplicit_served_iff` describe the pairs that are
served in the end without a word about the order.
-/

namespace Conversion

/-- A converter to be registered for a pair. -/
structure Request where
  source : TypeKey
  target : TypeKey
  converter : Converter

/-- What became of a request. -/
structure Answer where
  request : Request
  result : Except RegistryError Unit

namespace Request

def refusal? (request : Request) (types : Hierarchy) : Option RegistryError :=
  Registry.refusal? types request.source request.target request.converter

/-- Whether a request passes the checks and is for a pair. -/
def Contends (request : Request) (types : Hierarchy) (source target : TypeKey) : Prop :=
  request.refusal? types = none ∧ request.source = source ∧ request.target = target

instance (request : Request) (types : Hierarchy) (source target : TypeKey) :
    Decidable (request.Contends types source target) :=
  inferInstanceAs (Decidable (_ ∧ _))

def operation (request : Request) : Operation :=
  .register request.source request.target request.converter

def filing (request : Request) (declarations : Declarations) : Filing :=
  ⟨request.source, request.target, request.converter, declarations.walk request.target⟩

variable {types others : Hierarchy}

theorem refusal?_eq (same : others.declarations = types.declarations) (request : Request) :
    request.refusal? others = request.refusal? types :=
  Registry.refusal?_congr same _ _ _

theorem contends_iff (same : others.declarations = types.declarations) (request : Request)
    (source target : TypeKey) :
    request.Contends others source target ↔ request.Contends types source target := by
  rw [Contends, Contends, request.refusal?_eq same]

end Request

/-- An answer without the converter, which is all of it that cannot depend on an order. -/
def Answer.outcome (answer : Answer) : TypeKey × TypeKey × Except RegistryError Unit :=
  (answer.request.source, answer.request.target, answer.result)

namespace Registry

def serve (request : Request) : Attempt :=
  register request.source request.target request.converter

/-- The registry after requests that are served one after another. -/
def served (registry : Registry) (requests : List Request) : Registry :=
  registry.after (requests.map Request.operation)

/-- The answers to requests that are served one after another. -/
def answers (registry : Registry) : List Request → List Answer
  | [] => []
  | request :: rest =>
      let outcome := serve request registry
      ⟨request, outcome.result⟩ :: outcome.registry.answers rest

variable {registry : Registry} {log : List Filing} {source target : TypeKey}

theorem served_cons (registry : Registry) (request : Request) (rest : List Request) :
    registry.served (request :: rest) = (serve request registry).registry.served rest :=
  rfl

theorem answers_cons (registry : Registry) (request : Request) (rest : List Request) :
    registry.answers (request :: rest) =
      ⟨request, (serve request registry).result⟩ ::
        (serve request registry).registry.answers rest :=
  rfl

theorem map_request_answers (registry : Registry) (requests : List Request) :
    (registry.answers requests).map Answer.request = requests := by
  induction requests generalizing registry with
  | nil => rfl
  | cons request rest ih => rw [answers_cons, List.map_cons, ih]

/-! ### One request -/

theorem declarations_serve (request : Request) (registry : Registry) :
    (serve request registry).registry.types.declarations = registry.types.declarations := by
  rcases register_frame request.source request.target request.converter registry with
    ⟨table, remembers⟩
  exact remembers.declarations

theorem serve_result (request : Request) (registry : Registry) :
    (serve request registry).result =
      match request.refusal? registry.types with
      | some error => .error error
      | none =>
          if registry.table.IsExplicit request.source request.target then
            .error (.duplicate request.source request.target)
          else .ok () :=
  register_result _ _ _ registry

theorem serve_eq_ok_iff {request : Request} :
    (serve request registry).result = .ok () ↔
      request.refusal? registry.types = none ∧
        ¬registry.table.IsExplicit request.source request.target :=
  register_eq_ok_iff

theorem records_serve (records : registry.table.Records log) (request : Request) :
    (serve request registry).registry.table.Records
      (log ++ filed request.source request.target request.converter registry) :=
  records_register records

/-- Only a request that succeeds changes which pairs have an entry of their own. -/
theorem isExplicit_serve_iff (records : registry.table.Records log) {request : Request} :
    (serve request registry).registry.table.IsExplicit source target ↔
      registry.table.IsExplicit source target ∨
        request.Contends registry.types source target := by
  rw [(records_serve records request).isExplicit_iff, records.isExplicit_iff]
  constructor
  · rintro ⟨filing, logged, isFor⟩
    rcases List.mem_append.mp logged with earlier | now
    · exact Or.inl ⟨filing, earlier, isFor⟩
    · rcases of_mem_filed now with ⟨rfl, passed⟩
      exact Or.inr ⟨passed, isFor.1, isFor.2⟩
  · rintro (⟨filing, earlier, isFor⟩ | ⟨passed, sameSource, sameTarget⟩)
    · exact ⟨filing, List.mem_append_left _ earlier, isFor⟩
    · by_cases explicit : registry.table.IsExplicit request.source request.target
      · rw [sameSource, sameTarget, records.isExplicit_iff] at explicit
        rcases explicit with ⟨filing, earlier, isFor⟩
        exact ⟨filing, List.mem_append_left _ earlier, isFor⟩
      · have succeeded := serve_eq_ok_iff.mpr ⟨passed, explicit⟩
        rw [filed_of_ok succeeded]
        exact ⟨_, List.mem_append_right _ List.mem_cons_self, sameSource, sameTarget⟩

/-! ### One request after another -/

theorem served_frame (registry : Registry) (requests : List Request) :
    ∃ table, Remembers { registry with table } (registry.served requests) := by
  induction requests generalizing registry with
  | nil => exact ⟨registry.table, Remembers.refl registry⟩
  | cons request rest ih =>
      rcases register_frame request.source request.target request.converter registry with
        ⟨_, remembers⟩
      rcases ih (serve request registry).registry with ⟨final, remembersMore⟩
      exact ⟨final, (remembers.withTable final).trans remembersMore⟩

/-- The pairs with an entry of their own in the end are those that had one and those that some
request was for, in whatever order the requests came. -/
theorem isExplicit_served_iff (records : registry.table.Records log) {requests : List Request} :
    (registry.served requests).table.IsExplicit source target ↔
      registry.table.IsExplicit source target ∨
        ∃ request ∈ requests, request.Contends registry.types source target := by
  induction requests generalizing registry log with
  | nil => simp [served, after]
  | cons request rest ih =>
      have same := declarations_serve request registry
      rw [served_cons, ih (records_serve records request), isExplicit_serve_iff records]
      simp only [Request.contends_iff same, List.exists_mem_cons_iff, or_assoc]

theorem result_of_refused {requests : List Request} {answer : Answer} {error : RegistryError}
    (answered : answer ∈ registry.answers requests)
    (refused : answer.request.refusal? registry.types = some error) :
    answer.result = .error error := by
  induction requests generalizing registry with
  | nil => cases answered
  | cons request rest ih =>
      rcases List.mem_cons.mp answered with rfl | later
      · rw [serve_result, refused]
      · have same := declarations_serve request registry
        apply ih later
        rw [Request.refusal?_eq same]
        exact refused

/-- A pair that has an entry of its own turns all requests away. -/
theorem result_of_isExplicit (records : registry.table.Records log) {requests : List Request}
    {answer : Answer} (answered : answer ∈ registry.answers requests)
    (contends : answer.request.Contends registry.types source target)
    (explicit : registry.table.IsExplicit source target) :
    answer.result = .error (.duplicate source target) := by
  induction requests generalizing registry log with
  | nil => cases answered
  | cons request rest ih =>
      rcases List.mem_cons.mp answered with rfl | later
      · rcases contends with ⟨passed, rfl, rfl⟩
        rw [serve_result, passed]
        exact if_pos explicit
      · have same := declarations_serve request registry
        refine ih (records_serve records request) later ?_ ?_
        · rw [Request.contends_iff same]
          exact contends
        · exact (isExplicit_serve_iff records).mpr (Or.inl explicit)

/-- A pair without an entry of its own goes to the first request for it, and the others are turned
away. -/
theorem answers_for_contested (records : registry.table.Records log)
    (vacant : ¬registry.table.IsExplicit source target) {requests : List Request}
    (contested : ∃ request ∈ requests, request.Contends registry.types source target) :
    ∃ winner losers,
      ((registry.answers requests).filter
        (·.request.Contends registry.types source target)) = winner :: losers ∧
      winner.result = .ok () ∧
      ∀ loser ∈ losers, loser.result = .error (.duplicate source target) := by
  induction requests generalizing registry log with
  | nil => simp at contested
  | cons request rest ih =>
      have same := declarations_serve request registry
      have recordsAfter := records_serve records request
      rw [answers_cons]
      by_cases contends : request.Contends registry.types source target
      · have nowExplicit := (isExplicit_serve_iff records).mpr (Or.inr contends)
        refine ⟨_, _, List.filter_cons_of_pos (decide_eq_true contends), ?_, ?_⟩
        · apply serve_eq_ok_iff.mpr
          rcases contends with ⟨passed, rfl, rfl⟩
          exact ⟨passed, vacant⟩
        · intro loser filtered
          rcases List.mem_filter.mp filtered with ⟨later, alsoContends⟩
          refine result_of_isExplicit recordsAfter later ?_ nowExplicit
          rw [Request.contends_iff same]
          exact of_decide_eq_true alsoContends
      · have stillVacant :
            ¬(serve request registry).registry.table.IsExplicit source target := by
          rw [isExplicit_serve_iff records]
          rintro (explicit | now)
          · exact vacant explicit
          · exact contends now
        have contestedLater : ∃ request' ∈ rest,
            request'.Contends (serve request registry).registry.types source target := by
          simpa [Request.contends_iff same, contends] using contested
        have restAnswers := ih recordsAfter stillVacant contestedLater
        rw [List.filter_cons_of_neg (by simpa using contends)]
        simpa only [Request.contends_iff same] using restAnswers

theorem vacant_of_ok (records : registry.table.Records log) {requests : List Request}
    {answer : Answer} (answered : answer ∈ registry.answers requests)
    (succeeded : answer.result = .ok ()) :
    answer.request.refusal? registry.types = none ∧
      ¬registry.table.IsExplicit answer.request.source answer.request.target := by
  cases refusal : answer.request.refusal? registry.types with
  | some error =>
      rw [result_of_refused answered refusal] at succeeded
      cases succeeded
  | none =>
      refine ⟨rfl, ?_⟩
      intro explicit
      rw [result_of_isExplicit records answered ⟨refusal, rfl, rfl⟩ explicit] at succeeded
      cases succeeded

/-- What is filed is what succeeds, with the chains of the declarations at the start. -/
theorem mem_filings_iff {requests : List Request} {filing : Filing} :
    filing ∈ registry.filings (requests.map Request.operation) ↔
      ∃ answer ∈ registry.answers requests, answer.result = .ok () ∧
        filing = answer.request.filing registry.types.declarations := by
  induction requests generalizing registry with
  | nil => simp [filings, answers]
  | cons request rest ih =>
      have now : filing ∈ request.operation.filings registry ↔
          (serve request registry).result = .ok () ∧
            filing = request.filing registry.types.declarations := by
        change filing ∈ filed request.source request.target request.converter registry ↔ _
        cases result : (serve request registry).result with
        | error error => simp [filed_of_error result]
        | ok => simp [filed_of_ok result, Request.filing]
      have later : filing ∈ (request.operation.perform registry).registry.filings
          (rest.map Request.operation) ↔ _ := ih
      rw [List.map_cons, filings, List.mem_append, now, later, answers_cons,
        List.exists_mem_cons_iff, ← declarations_serve request registry]
      rfl

end Registry

end Conversion
