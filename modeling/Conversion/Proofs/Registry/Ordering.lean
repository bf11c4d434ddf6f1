import Conversion.Proofs.Registry.Requests

/-!
# What the order of requests decides

Two orders of the same requests lead to the same answers up to the names of the winners, and to
tables that serve the same pairs. The first part goes by exchanging neighbours: two requests that
contend for one pair swap their roles, and any other two get the answers they would get alone.
The second part reads the final table off the log of the start and the filings of the winners.
-/

namespace Conversion.Registry

/-- Whether two registries give the same answers, whatever the converters in their tables are. -/
structure AnswersAlike (left right : Registry) : Prop where
  declarations : right.types.declarations = left.types.declarations
  isExplicit_iff : ∀ source target,
    right.table.IsExplicit source target ↔ left.table.IsExplicit source target

namespace AnswersAlike

variable {left right : Registry} {leftLog rightLog : List Filing}

theorem result_eq (alike : AnswersAlike left right) (request : Request) :
    (serve request right).result = (serve request left).result := by
  rw [serve_result, serve_result, request.refusal?_eq alike.declarations]
  simp only [alike.isExplicit_iff]

theorem serve (alike : AnswersAlike left right) (leftRecords : left.table.Records leftLog)
    (rightRecords : right.table.Records rightLog) (request : Request) :
    AnswersAlike (serve request left).registry (serve request right).registry where
  declarations := by
    rw [declarations_serve, declarations_serve]
    exact alike.declarations
  isExplicit_iff := by
    intro source target
    rw [isExplicit_serve_iff rightRecords, isExplicit_serve_iff leftRecords,
      alike.isExplicit_iff, request.contends_iff alike.declarations]

theorem outcomes_eq (alike : AnswersAlike left right) (leftRecords : left.table.Records leftLog)
    (rightRecords : right.table.Records rightLog) (requests : List Request) :
    (right.answers requests).map Answer.outcome = (left.answers requests).map Answer.outcome := by
  induction requests generalizing left right leftLog rightLog with
  | nil => rfl
  | cons request rest ih =>
      have restOutcomes := ih (alike.serve leftRecords rightRecords request)
        (records_serve leftRecords request) (records_serve rightRecords request)
      rw [answers_cons, answers_cons, List.map_cons, List.map_cons, restOutcomes,
        alike.result_eq request]

end AnswersAlike

variable {registry : Registry} {log : List Filing} {source target : TypeKey}

/-! ### Exchanging two requests -/

/-- Two neighbours leave registries that answer alike, whichever comes first. -/
theorem answersAlike_swap (records : registry.table.Records log) (first second : Request) :
    AnswersAlike (serve second (serve first registry).registry).registry
      (serve first (serve second registry).registry).registry where
  declarations := by
    simp only [declarations_serve]
  isExplicit_iff := by
    intro source target
    have firstSame := declarations_serve first registry
    have secondSame := declarations_serve second registry
    rw [isExplicit_serve_iff (records_serve records second), isExplicit_serve_iff records,
      isExplicit_serve_iff (records_serve records first), isExplicit_serve_iff records,
      first.contends_iff secondSame, second.contends_iff firstSame]
    exact or_right_comm

/-- An earlier request matters to a later one only when both contend for one pair. -/
theorem serve_result_of_apart (records : registry.table.Records log) {earlier later : Request}
    (apart : later.refusal? registry.types = none →
      ¬earlier.Contends registry.types later.source later.target) :
    (serve later (serve earlier registry).registry).result = (serve later registry).result := by
  have same := declarations_serve earlier registry
  rw [serve_result, serve_result, later.refusal?_eq same]
  cases passed : later.refusal? registry.types with
  | some error => rfl
  | none => simp only [isExplicit_serve_iff records, apart passed, or_false]

theorem outcomes_swap (records : registry.table.Records log) (first second : Request)
    (rest : List Request) :
    ((registry.answers (second :: first :: rest)).map Answer.outcome).Perm
      ((registry.answers (first :: second :: rest)).map Answer.outcome) := by
  have restOutcomes := (answersAlike_swap records first second).outcomes_eq
    (records_serve (records_serve records first) second)
    (records_serve (records_serve records second) first) rest
  simp only [answers_cons, List.map_cons, restOutcomes]
  by_cases rivals : second.refusal? registry.types = none ∧
      first.Contends registry.types second.source second.target
  · rcases rivals with ⟨secondPassed, firstPassed, sameSource, sameTarget⟩
    have secondContends : second.Contends registry.types second.source second.target :=
      ⟨secondPassed, rfl, rfl⟩
    have firstContends : first.Contends registry.types second.source second.target :=
      ⟨firstPassed, sameSource, sameTarget⟩
    simp only [Answer.outcome, serve_result, secondPassed, firstPassed,
      first.refusal?_eq (declarations_serve second registry),
      second.refusal?_eq (declarations_serve first registry),
      isExplicit_serve_iff records, secondContends, firstContends, or_true, if_true, sameSource,
      sameTarget]
    exact List.Perm.refl _
  · have firstApart : first.refusal? registry.types = none →
        ¬second.Contends registry.types first.source first.target := by
      rintro firstPassed ⟨secondPassed, sameSource, sameTarget⟩
      exact rivals ⟨secondPassed, firstPassed, sameSource.symm, sameTarget.symm⟩
    have secondApart : second.refusal? registry.types = none →
        ¬first.Contends registry.types second.source second.target :=
      fun secondPassed firstContends => rivals ⟨secondPassed, firstContends⟩
    simp only [Answer.outcome, serve_result_of_apart records firstApart,
      serve_result_of_apart records secondApart]
    exact List.Perm.swap _ _ _

/-- The same requests in another order get the same answers, up to who the winners are. -/
theorem outcomes_perm (records : registry.table.Records log) {requests others : List Request}
    (same : requests.Perm others) :
    ((registry.answers requests).map Answer.outcome).Perm
      ((registry.answers others).map Answer.outcome) := by
  induction same generalizing registry log with
  | nil => exact List.Perm.refl _
  | cons request _ ih => exact (ih (records_serve records request)).cons _
  | swap first second rest => exact outcomes_swap records first second rest
  | trans _ _ earlier later => exact (earlier records).trans (later records)

/-! ### The table in the end -/

variable {requests : List Request} {answer : Answer}

theorem records_served (records : registry.table.Records log) (requests : List Request) :
    (registry.served requests).table.Records
      (log ++ registry.filings (requests.map Request.operation)) :=
  records_after _ records

theorem request_mem_of_answered (answered : answer ∈ registry.answers requests) :
    answer.request ∈ requests := by
  have mapped := List.mem_map_of_mem (f := Answer.request) answered
  rw [map_request_answers] at mapped
  exact mapped

theorem exists_winner (records : registry.table.Records log)
    (vacant : ¬registry.table.IsExplicit source target)
    (contested : ∃ request ∈ requests, request.Contends registry.types source target) :
    ∃ winner ∈ registry.answers requests, winner.result = .ok () ∧
      winner.request.source = source ∧ winner.request.target = target := by
  rcases answers_for_contested records vacant contested with
    ⟨winner, losers, contending, succeeded, _⟩
  have filtered : winner ∈ (registry.answers requests).filter
      (·.request.Contends registry.types source target) := by
    rw [contending]
    exact List.mem_cons_self
  rcases List.mem_filter.mp filtered with ⟨answered, contends⟩
  exact ⟨winner, answered, succeeded, (of_decide_eq_true contends).2⟩

/-- The pairs that are served in the end are those that were and those that the filing of some
request serves, in whatever order the requests came. -/
theorem contains_served_iff (records : registry.table.Records log) :
    (registry.served requests).table.contains source target = true ↔
      registry.table.contains source target = true ∨
        ∃ request ∈ requests, request.refusal? registry.types = none ∧
          ¬registry.table.IsExplicit request.source request.target ∧
          ((request.filing registry.types.declarations).IsFor source target ∨
            (request.filing registry.types.declarations).Covers source target) := by
  rw [(records_served records requests).contains_iff, records.contains_iff]
  constructor
  · rintro ⟨filing, logged, serves⟩
    rcases List.mem_append.mp logged with earlier | won
    · exact Or.inl ⟨filing, earlier, serves⟩
    · rcases mem_filings_iff.mp won with ⟨answer, answered, succeeded, rfl⟩
      rcases vacant_of_ok records answered succeeded with ⟨passed, vacant⟩
      exact Or.inr ⟨answer.request, request_mem_of_answered answered, passed, vacant, serves⟩
  · rintro (⟨filing, earlier, serves⟩ | ⟨request, requestMem, passed, vacant, serves⟩)
    · exact ⟨filing, List.mem_append_left _ earlier, serves⟩
    · rcases exists_winner records vacant ⟨request, requestMem, passed, rfl, rfl⟩ with
        ⟨winner, answered, succeeded, sameSource, sameTarget⟩
      have won := mem_filings_iff.mpr ⟨winner, answered, succeeded, rfl⟩
      refine ⟨_, List.mem_append_right _ won, ?_⟩
      -- whether a filing serves a pair does not depend on its converter
      simp only [Request.filing, Filing.IsFor, Filing.Covers, sameSource, sameTarget] at serves ⊢
      exact serves

theorem contains_served_perm (records : registry.table.Records log) {others : List Request}
    (same : requests.Perm others) (source target : TypeKey) :
    (registry.served requests).table.contains source target =
      (registry.served others).table.contains source target := by
  rw [Bool.eq_iff_iff, contains_served_iff records, contains_served_iff records]
  simp only [same.mem_iff]

theorem isDerived_served_perm (records : registry.table.Records log) {others : List Request}
    (same : requests.Perm others) (source target : TypeKey) :
    (registry.served requests).table.isDerived source target =
      (registry.served others).table.isDerived source target := by
  rw [Bool.eq_iff_iff, (records_served records requests).isDerived_iff_not_isExplicit,
    (records_served records others).isDerived_iff_not_isExplicit,
    contains_served_perm records same, isExplicit_served_iff records,
    isExplicit_served_iff records]
  simp only [same.mem_iff]

/-! ### The converters in the end -/

/-- A winner's converter is the one of its pair. -/
theorem find?_served_of_ok (records : registry.table.Records log)
    (answered : answer ∈ registry.answers requests) (succeeded : answer.result = .ok ()) :
    (registry.served requests).table.find? answer.request.source answer.request.target =
      some answer.request.converter := by
  have won := mem_filings_iff.mpr ⟨answer, answered, succeeded, rfl⟩
  exact (records_served records requests).find?_of_isFor (List.mem_append_right _ won) ⟨rfl, rfl⟩

theorem find?_served_of_isExplicit (records : registry.table.Records log)
    (explicit : registry.table.IsExplicit source target) :
    (registry.served requests).table.find? source target =
      registry.table.find? source target := by
  rcases records.isExplicit_iff.mp explicit with ⟨filing, earlier, isFor⟩
  rw [records.find?_of_isFor earlier isFor]
  exact (records_served records requests).find?_of_isFor (List.mem_append_left _ earlier) isFor

/-- An entry stays when no request is for its pair, although requests may cover it. -/
theorem find?_served_of_unrequested (records : registry.table.Records log)
    (present : registry.table.contains source target = true)
    (unrequested : ∀ request ∈ requests, ¬request.Contends registry.types source target) :
    (registry.served requests).table.find? source target =
      registry.table.find? source target := by
  by_cases explicit : registry.table.IsExplicit source target
  · exact find?_served_of_isExplicit records explicit
  · have stillDerived : ¬(registry.served requests).table.IsExplicit source target := by
      rw [isExplicit_served_iff records]
      rintro (before | ⟨request, requestMem, contends⟩)
      · exact explicit before
      · exact unrequested request requestMem contends
    have recordsAfter := records_served records requests
    rw [records.isExplicit_iff] at explicit
    rw [recordsAfter.isExplicit_iff] at stillDerived
    have noneBefore : ∀ filing ∈ log, ¬filing.IsFor source target :=
      fun filing logged isFor => explicit ⟨filing, logged, isFor⟩
    have noneAfter : ∀ filing ∈ log ++ registry.filings (requests.map Request.operation),
        ¬filing.IsFor source target :=
      fun filing logged isFor => stillDerived ⟨filing, logged, isFor⟩
    rcases records.contains_iff.mp present with ⟨filing, logged, isFor | covers⟩
    · exact absurd isFor (noneBefore filing logged)
    · have found : (log.find? (·.Covers source target)).isSome = true :=
        List.find?_isSome.mpr ⟨filing, logged, decide_eq_true covers⟩
      rcases Option.isSome_iff_exists.mp found with ⟨earliest, isEarliest⟩
      rw [records.find?_of_not_isFor noneBefore, recordsAfter.find?_of_not_isFor noneAfter,
        List.find?_append, isEarliest, Option.some_or]

/-- A source that had no entries and that is requested for one target only has a single filing in
the end, the one of the winner. -/
theorem filing_eq_of_sole_target (records : registry.table.Records log)
    (unserved : ∀ key, registry.table.contains source key = false)
    (sole : ∀ request ∈ requests, request.source = source → request.target = target)
    (answered : answer ∈ registry.answers requests) (succeeded : answer.result = .ok ())
    (isSource : answer.request.source = source) {filing : Filing}
    (logged : filing ∈ log ++ registry.filings (requests.map Request.operation))
    (sameSource : filing.source = source) :
    filing = answer.request.filing registry.types.declarations := by
  have isTarget := sole answer.request (request_mem_of_answered answered) isSource
  have recordsAfter := records_served records requests
  have filingIsFor : filing.IsFor source target := by
    refine ⟨sameSource, ?_⟩
    rcases List.mem_append.mp logged with earlier | won
    · have served := records.contains_iff.mpr ⟨filing, earlier, Or.inl ⟨sameSource, rfl⟩⟩
      rw [unserved] at served
      cases served
    · rcases mem_filings_iff.mp won with ⟨other, otherAnswered, _, rfl⟩
      exact sole other.request (request_mem_of_answered otherAnswered) sameSource
  have winning := mem_filings_iff.mpr ⟨answer, answered, succeeded, rfl⟩
  have filingFound := recordsAfter.find?_isFor logged filingIsFor
  have winningFound := recordsAfter.find?_isFor (List.mem_append_right _ winning)
    ⟨isSource, isTarget⟩
  exact Option.some.inj (filingFound.symm.trans winningFound)

/-- Such a source serves all ancestors of its one target with the converter of the winner. -/
theorem find?_served_of_sole_target (records : registry.table.Records log)
    (unserved : ∀ key, registry.table.contains source key = false)
    (sole : ∀ request ∈ requests, request.source = source → request.target = target)
    (answered : answer ∈ registry.answers requests) (succeeded : answer.result = .ok ())
    (isSource : answer.request.source = source) {ancestor : TypeKey}
    (above : ancestor ∈ registry.types.declarations.walk target) (apart : ancestor ≠ source) :
    (registry.served requests).table.find? source ancestor = some answer.request.converter := by
  have isTarget := sole answer.request (request_mem_of_answered answered) isSource
  have recordsAfter := records_served records requests
  by_cases same : ancestor = target
  · rw [same, ← isSource, ← isTarget]
    exact find?_served_of_ok records answered succeeded
  · have single : ∀ filing ∈ log ++ registry.filings (requests.map Request.operation),
        filing.source = source → filing = answer.request.filing registry.types.declarations :=
      fun _ logged sameSource =>
        filing_eq_of_sole_target records unserved sole answered succeeded isSource logged sameSource
    have noneFor : ∀ filing ∈ log ++ registry.filings (requests.map Request.operation),
        ¬filing.IsFor source ancestor := by
      rintro filing logged ⟨sameSource, isAncestor⟩
      rw [single filing logged sameSource] at isAncestor
      exact same (isAncestor.symm.trans isTarget)
    have winning := mem_filings_iff.mpr ⟨answer, answered, succeeded, rfl⟩
    have covers :
        (answer.request.filing registry.types.declarations).Covers source ancestor := by
      refine ⟨isSource, ?_, ?_, ?_⟩
      · rw [Request.filing, isTarget]
        exact above
      · rw [Request.filing, isTarget]
        exact same
      · rw [Request.filing, isSource]
        exact apart
    have found : ((log ++ registry.filings (requests.map Request.operation)).find?
        (·.Covers source ancestor)).isSome = true :=
      List.find?_isSome.mpr ⟨_, List.mem_append_right log winning, decide_eq_true covers⟩
    rcases Option.isSome_iff_exists.mp found with ⟨earliest, isEarliest⟩
    have earliestCovers : earliest.Covers source ancestor := by
      simpa using List.find?_some isEarliest
    rw [recordsAfter.find?_of_not_isFor noneFor, isEarliest,
      single earliest (List.mem_of_find?_eq_some isEarliest) earliestCovers.1]
    rfl

end Conversion.Registry
