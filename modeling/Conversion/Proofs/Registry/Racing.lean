import Mathlib.Algebra.GroupWithZero.Nat
import Conversion.Proofs.Registry.Ordering
import Conversion.Proofs.Registry.Reachable

/-!
# Racing registrations

Threads serve requests side by side. A request goes through the checks and asks for its chain
without the lock of the table, and then files under it, so between the two any number of steps of
other threads can lie. `Race` leaves all of these interleavings open.

Every race is equivalent to serving the requests one after another in the order in which they got
their answers (`Race.linearizable`): the checks and the chain depend on declarations, which nobody
changes meanwhile, and what is remembered of chains changes no answer. With this, the order of
threads matters no more than the order of requests.
-/

namespace Conversion

open Registry

/-- Where a thread stands with a request: before the checks, or after them with the chain of the
target in hand but without the lock. -/
inductive Task where
  | waiting (request : Request)
  | prepared (request : Request) (chain : List TypeKey)

namespace Task

/-- Number of steps that a task still takes at most. -/
def steps : Task → Nat
  | waiting _ => 2
  | prepared _ _ => 1

def request : Task → Request
  | waiting request => request
  | prepared request _ => request

/-- Whether a task went through the checks properly. -/
def IsSound (types : Hierarchy) : Task → Prop
  | waiting _ => True
  | prepared request chain =>
      request.refusal? types = none ∧ chain = types.declarations.walk request.target

theorem IsSound.congr {types others : Hierarchy}
    (same : others.declarations = types.declarations) {task : Task}
    (sound : task.IsSound types) : task.IsSound others := by
  cases task with
  | waiting request => trivial
  | prepared request chain =>
      rw [IsSound, request.refusal?_eq same, same]
      exact sound

end Task

/-- Threads with their tasks are served from a registry on, one step of some thread after another,
until no task is left. The answers are in the order in which they are given. -/
inductive Race : Registry → List (List Task) → List Answer → Registry → Prop where
  | finished {registry : Registry} {threads : List (List Task)}
      (idle : ∀ thread ∈ threads, thread = []) : Race registry threads [] registry
  | refused {registry final : Registry} {before after : List (List Task)} {rest : List Task}
      {request : Request} {error : RegistryError} {answers : List Answer}
      (refusal : request.refusal? registry.types = some error)
      (later : Race registry (before ++ rest :: after) answers final) :
      Race registry (before ++ (.waiting request :: rest) :: after)
        (⟨request, .error error⟩ :: answers) final
  | prepared {registry final : Registry} {before after : List (List Task)} {rest : List Task}
      {request : Request} {answers : List Answer}
      (passed : request.refusal? registry.types = none)
      (later :
        let preparation := prepare request.source request.target registry
        Race preparation.registry
          (before ++ (.prepared request preparation.result :: rest) :: after) answers final) :
      Race registry (before ++ (.waiting request :: rest) :: after) answers final
  | filed {registry final : Registry} {before after : List (List Task)} {rest : List Task}
      {request : Request} {chain : List TypeKey} {answers : List Answer}
      (later :
        Race
          (fileInTable request.source request.target request.converter chain registry).registry
          (before ++ rest :: after) answers final) :
      Race registry (before ++ (.prepared request chain :: rest) :: after)
        (⟨request,
          (fileInTable request.source request.target request.converter chain registry).result⟩ ::
          answers) final

/-! ### What is remembered changes no answer -/

section Remembered

variable {before after : Registry}

theorem fileInTable_of_remembers (remembers : Remembers before after) (source target : TypeKey)
    (converter : Converter) (chain : List TypeKey) :
    (fileInTable source target converter chain after).result =
        (fileInTable source target converter chain before).result ∧
      Remembers (fileInTable source target converter chain before).registry
        (fileInTable source target converter chain after).registry := by
  unfold fileInTable
  rw [remembers.table]
  cases before.table.file source target converter chain with
  | none => exact ⟨rfl, remembers⟩
  | some tableWithEvents => exact ⟨rfl, remembers.withTable tableWithEvents.1⟩

theorem fileInTable_types (source target : TypeKey) (converter : Converter)
    (chain : List TypeKey) (registry : Registry) :
    (fileInTable source target converter chain registry).registry.types = registry.types := by
  unfold fileInTable
  split <;> rfl

/-- Filing with the chain that the checks left comes to the same as the whole registration. -/
theorem serve_of_prepared {registry : Registry} {request : Request}
    (passed : request.refusal? registry.types = none) :
    let filing := fileInTable request.source request.target request.converter
      (registry.types.declarations.walk request.target) registry
    (serve request registry).result = filing.result ∧
      Remembers filing.registry (serve request registry).registry := by
  have asks := prepare_onlyAsks request.source request.target registry
  rw [serve, register_of_admitted passed]
  simp only [Action.andThen, prepare_result]
  exact fileInTable_of_remembers asks _ _ _ _

theorem serve_of_remembers (remembers : Remembers before after) (request : Request) :
    (serve request after).result = (serve request before).result ∧
      Remembers (serve request before).registry (serve request after).registry := by
  have same := request.refusal?_eq remembers.declarations
  cases passed : request.refusal? before.types with
  | some error =>
      have first : serve request before = _ := register_of_refused passed
      have second : serve request after = _ := register_of_refused (same.trans passed)
      rw [first, second]
      exact ⟨rfl, remembers⟩
  | none =>
      have first := serve_of_prepared passed
      have second := serve_of_prepared (same.trans passed)
      have between := fileInTable_of_remembers remembers request.source request.target
        request.converter (before.types.declarations.walk request.target)
      rw [remembers.declarations] at second
      constructor
      · rw [second.1, between.1, first.1]
      · exact (first.2.symm.trans between.2).trans second.2

theorem answers_of_remembers (remembers : Remembers before after) (requests : List Request) :
    after.answers requests = before.answers requests ∧
      Remembers (before.served requests) (after.served requests) := by
  induction requests generalizing before after with
  | nil => exact ⟨rfl, remembers⟩
  | cons request rest ih =>
      have first := serve_of_remembers remembers request
      have later := ih first.2
      rw [answers_cons, answers_cons, first.1, later.1]
      exact ⟨rfl, later.2⟩

end Remembered

/-! ### Linearization -/

def stepsLeft (threads : List (List Task)) : Nat :=
  (threads.flatten.map Task.steps).sum

theorem flatten_perm (before after : List (List Task)) (task : Task) (rest : List Task) :
    (before ++ (task :: rest) :: after).flatten.Perm
      (task :: (before ++ rest :: after).flatten) := by
  simp only [List.flatten_append, List.flatten_cons, List.cons_append]
  exact List.perm_middle

theorem stepsLeft_split (before after : List (List Task)) (task : Task) (rest : List Task) :
    stepsLeft (before ++ (task :: rest) :: after) =
      task.steps + stepsLeft (before ++ rest :: after) := by
  rw [stepsLeft, ((flatten_perm before after task rest).map Task.steps).sum_nat, List.map_cons,
    List.sum_cons, stepsLeft]

/-- Threads never get stuck: whatever is left to do, some steps bring it to an end. -/
theorem Race.exists_of_threads (registry : Registry) (threads : List (List Task)) :
    ∃ answers final, Race registry threads answers final := by
  induction left : stepsLeft threads using Nat.strongRecOn generalizing registry threads with
  | ind left ih =>
      subst left
      by_cases idle : ∀ thread ∈ threads, thread = []
      · exact ⟨[], registry, .finished idle⟩
      · simp only [not_forall] at idle
        rcases idle with ⟨thread, threadMem, busy⟩
        rcases List.exists_cons_of_ne_nil busy with ⟨task, rest, rfl⟩
        rcases List.append_of_mem threadMem with ⟨before, after, rfl⟩
        have fewer : stepsLeft (before ++ rest :: after) <
            stepsLeft (before ++ (task :: rest) :: after) := by
          have positive : 0 < task.steps := by cases task <;> simp [Task.steps]
          rw [stepsLeft_split]
          omega
        cases task with
        | waiting request =>
            cases refusal : request.refusal? registry.types with
            | some error =>
                rcases ih _ fewer registry _ rfl with ⟨answers, final, later⟩
                exact ⟨_, final, .refused refusal later⟩
            | none =>
                let preparation := prepare request.source request.target registry
                have fewer : stepsLeft
                      (before ++ (.prepared request preparation.result :: rest) :: after) <
                    stepsLeft (before ++ (.waiting request :: rest) :: after) := by
                  simp only [stepsLeft_split, Task.steps]
                  omega
                rcases ih _ fewer preparation.registry _ rfl with ⟨answers, final, later⟩
                exact ⟨answers, final, .prepared refusal later⟩
        | prepared request chain =>
            let filing :=
              fileInTable request.source request.target request.converter chain registry
            rcases ih _ fewer filing.registry _ rfl with ⟨answers, final, later⟩
            exact ⟨_, final, .filed later⟩

/-- Whether answers and a final registry are those of serving the requests of threads one after
another, in the order of the answers. -/
structure Linearized (registry : Registry) (threads : List (List Task)) (answers : List Answer)
    (final : Registry) : Prop where
  requests : (answers.map Answer.request).Perm (threads.flatten.map Task.request)
  sequential : registry.answers (answers.map Answer.request) = answers
  remembers : Remembers (registry.served (answers.map Answer.request)) final

namespace Linearized

variable {registry final : Registry} {threads before after : List (List Task)} {rest : List Task}
  {request : Request} {answers : List Answer}

theorem finished (idle : ∀ thread ∈ threads, thread = []) :
    Linearized registry threads [] registry where
  requests := by
    rw [List.flatten_eq_nil_iff.mpr idle]
    exact List.Perm.refl _
  sequential := rfl
  remembers := Remembers.refl registry

theorem refused {error : RegistryError}
    (refusal : request.refusal? registry.types = some error)
    (later : Linearized registry (before ++ rest :: after) answers final) :
    Linearized registry (before ++ (.waiting request :: rest) :: after)
      (⟨request, .error error⟩ :: answers) final := by
  have tasks := flatten_perm before after (.waiting request) rest
  have unchanged : serve request registry = ⟨.error error, registry, []⟩ :=
    register_of_refused refusal
  refine ⟨?_, ?_, ?_⟩
  · exact (later.requests.cons request).trans (tasks.map Task.request).symm
  · rw [List.map_cons, answers_cons, unchanged, later.sequential]
  · rw [List.map_cons, served_cons, unchanged]
    exact later.remembers

/-- Going through the checks is not visible from outside. -/
theorem prepared {chain : List TypeKey}
    (later : Linearized (prepare request.source request.target registry).registry
      (before ++ (.prepared request chain :: rest) :: after) answers final) :
    Linearized registry (before ++ (.waiting request :: rest) :: after) answers final := by
  have asks := prepare_onlyAsks request.source request.target registry
  have same := answers_of_remembers asks (answers.map Answer.request)
  have oldTasks := flatten_perm before after (.waiting request) rest
  have newTasks := flatten_perm before after (.prepared request chain) rest
  refine ⟨?_, ?_, ?_⟩
  · have renamed := (newTasks.map Task.request).trans (oldTasks.map Task.request).symm
    exact later.requests.trans renamed
  · exact same.1.symm.trans later.sequential
  · exact same.2.trans later.remembers

/-- Filing is the moment at which the whole registration seems to happen. -/
theorem filed (passed : request.refusal? registry.types = none)
    (later :
      Linearized
        (fileInTable request.source request.target request.converter
          (registry.types.declarations.walk request.target) registry).registry
        (before ++ rest :: after) answers final) :
    let chain := registry.types.declarations.walk request.target
    Linearized registry (before ++ (.prepared request chain :: rest) :: after)
      (⟨request,
        (fileInTable request.source request.target request.converter chain registry).result⟩ ::
        answers) final := by
  intro chain
  have filing := serve_of_prepared passed
  have same := answers_of_remembers filing.2 (answers.map Answer.request)
  have tasks := flatten_perm before after (.prepared request chain) rest
  refine ⟨?_, ?_, ?_⟩
  · exact (later.requests.cons request).trans (tasks.map Task.request).symm
  · rw [List.map_cons, answers_cons, filing.1, same.1, later.sequential]
  · rw [List.map_cons, served_cons]
    exact same.2.symm.trans later.remembers

end Linearized

/-- A race gives the answers, and leaves the registry, of serving the requests one after another
in the order of the answers. -/
theorem Race.linearizable {registry final : Registry} {threads : List (List Task)}
    {answers : List Answer} (race : Race registry threads answers final)
    (sound : ∀ task ∈ threads.flatten, task.IsSound registry.types) :
    Linearized registry threads answers final := by
  induction race with
  | finished idle => exact .finished idle
  | @refused registry final before after rest request error answers refusal _ ih =>
      refine .refused refusal (ih ?_)
      intro task taskMem
      have tasks := flatten_perm before after (.waiting request) rest
      exact sound task (tasks.mem_iff.mpr (List.mem_cons_of_mem _ taskMem))
  | @prepared registry final before after rest request answers passed _ ih =>
      refine .prepared (ih ?_)
      intro task taskMem
      have asks := prepare_onlyAsks request.source request.target registry
      rcases List.mem_cons.mp ((flatten_perm _ _ _ _).mem_iff.mp taskMem) with rfl | other
      · refine ⟨(request.refusal?_eq asks.declarations).trans passed, ?_⟩
        rw [prepare_result, asks.declarations]
      · have tasks := flatten_perm before after (.waiting request) rest
        have oldSound := sound task (tasks.mem_iff.mpr (List.mem_cons_of_mem _ other))
        exact oldSound.congr asks.declarations
  | @filed registry final before after rest request chain answers _ ih =>
      have tasks := flatten_perm before after (.prepared request chain) rest
      rcases sound _ (tasks.mem_iff.mpr List.mem_cons_self) with ⟨passed, rfl⟩
      refine .filed passed (ih ?_)
      intro task taskMem
      rw [fileInTable_types]
      exact sound task (tasks.mem_iff.mpr (List.mem_cons_of_mem _ taskMem))

/-! ### What a race comes to -/

/-- What becomes of requests in a race, and of the registry. -/
structure RaceResult (start : Registry) (requests : List Request) (answers : List Answer)
    (final : Registry) : Prop where
  answered : (answers.map Answer.request).Perm requests
  refused : ∀ answer ∈ answers, ∀ error,
    answer.request.refusal? start.types = some error → answer.result = .error error
  taken : ∀ source target, start.table.IsExplicit source target →
    ∀ answer ∈ answers, answer.request.Contends start.types source target →
      answer.result = .error (.duplicate source target)
  contested : ∀ source target, ¬start.table.IsExplicit source target →
    (∃ request ∈ requests, request.Contends start.types source target) →
      ∃ winner losers,
        answers.filter (·.request.Contends start.types source target) = winner :: losers ∧
        winner.result = .ok () ∧
        ∀ loser ∈ losers, loser.result = .error (.duplicate source target)
  won : ∀ answer ∈ answers, answer.result = .ok () →
    final.table.find? answer.request.source answer.request.target = some answer.request.converter
  kept : ∀ source target, start.table.IsExplicit source target →
    final.table.find? source target = start.table.find? source target
  unrequested : ∀ source target, start.table.contains source target = true →
    (∀ request ∈ requests, ¬request.Contends start.types source target) →
      final.table.find? source target = start.table.find? source target
  soleTarget : ∀ source target, (∀ key, start.table.contains source key = false) →
    (∀ request ∈ requests, request.source = source → request.target = target) →
      ∀ winner ∈ answers, winner.result = .ok () → winner.request.source = source →
        ∀ ancestor ∈ (start.types.ancestors target).1, ancestor ≠ source →
          final.table.find? source ancestor = some winner.request.converter
  frame : Remembers { start with table := final.table } final

/-- What two races have in common, whoever wins. -/
structure RaceAgreement (start : Registry) (answers others : List Answer)
    (final other : Registry) : Prop where
  outcomes : (answers.map Answer.outcome).Perm (others.map Answer.outcome)
  contains_eq : ∀ source target,
    final.table.contains source target = other.table.contains source target
  isDerived_eq : ∀ source target,
    final.table.isDerived source target = other.table.isDerived source target
  converterCount_eq : final.converterCount = other.converterCount
  find?_eq : ∀ source target, start.table.IsExplicit source target →
    final.table.find? source target = other.table.find? source target
  frame : Remembers { final with table := other.table } other

namespace Race

variable {start final other : Registry} {log : List Filing} {threads : List (List Request)}
  {answers others : List Answer}

/-- The linearization of a race in which no thread has begun. -/
theorem linearizable_of_requests
    (race : Race start (threads.map fun thread => thread.map Task.waiting) answers final) :
    ∃ order, order.Perm threads.flatten ∧ answers = start.answers order ∧
      Remembers (start.served order) final := by
  have tasks : (threads.map fun thread => thread.map Task.waiting).flatten =
      threads.flatten.map Task.waiting := List.map_flatten.symm
  have sound : ∀ task ∈ (threads.map fun thread => thread.map Task.waiting).flatten,
      task.IsSound start.types := by
    intro task taskMem
    rw [tasks] at taskMem
    rcases List.mem_map.mp taskMem with ⟨request, _, rfl⟩
    trivial
  rcases race.linearizable sound with ⟨perm, sequential, remembers⟩
  refine ⟨answers.map Answer.request, ?_, sequential.symm, remembers⟩
  have requests : (threads.flatten.map Task.waiting).map Task.request = threads.flatten := by
    rw [List.map_map]
    exact List.map_id _
  rw [tasks, requests] at perm
  exact perm

theorem raceResult_of_served (records : start.table.Records log) {requests order : List Request}
    (perm : order.Perm requests) (remembers : Remembers (start.served order) final) :
    RaceResult start requests (start.answers order) final where
  answered := by
    rw [map_request_answers]
    exact perm
  refused := by
    intro answer answered error refusal
    exact result_of_refused answered refusal
  taken := by
    intro source target explicit answer answered contends
    exact result_of_isExplicit records answered contends explicit
  contested := by
    rintro source target vacant ⟨request, requestMem, contends⟩
    exact answers_for_contested records vacant ⟨request, perm.mem_iff.mpr requestMem, contends⟩
  won := by
    intro answer answered succeeded
    rw [remembers.table]
    exact find?_served_of_ok records answered succeeded
  kept := by
    intro source target explicit
    rw [remembers.table]
    exact find?_served_of_isExplicit records explicit
  unrequested := by
    intro source target present unrequested
    rw [remembers.table]
    refine find?_served_of_unrequested records present ?_
    intro request requestMem
    exact unrequested request (perm.mem_iff.mp requestMem)
  soleTarget := by
    intro source target unserved sole winner answered succeeded isSource ancestor above apart
    rw [Hierarchy.ancestors_fst] at above
    rw [remembers.table]
    refine find?_served_of_sole_target records unserved ?_ answered succeeded isSource above apart
    intro request requestMem
    exact sole request (perm.mem_iff.mp requestMem)
  frame := by
    rcases served_frame start order with ⟨table, framed⟩
    have whole := framed.trans remembers
    rw [whole.table]
    exact whole

end Race

/-- Racing registrations are confluent. Threads bring their requests to an end, and however their
steps interleave and the requests are split among threads, these come to the same answers up to the
names of the winners, to the same pairs, marks and number of entries, and only pairs that had no
entry of their own can differ in their converters. -/
theorem race_confluent {start : Registry} (reachable : Reachable start)
    {threads threads' : List (List Request)} (same : threads.flatten.Perm threads'.flatten) :
    (∃ answers final,
        Race start (threads.map fun thread => thread.map Task.waiting) answers final) ∧
      ∀ answers others final other,
        Race start (threads.map fun thread => thread.map Task.waiting) answers final →
          Race start (threads'.map fun thread => thread.map Task.waiting) others other →
            RaceResult start threads.flatten answers final ∧
              RaceAgreement start answers others final other := by
  refine ⟨Race.exists_of_threads start _, ?_⟩
  intro answers others final other race otherRace
  rcases reachable.exists_records with ⟨log, records⟩
  rcases race.linearizable_of_requests with ⟨order, orderPerm, rfl, remembers⟩
  rcases otherRace.linearizable_of_requests with ⟨otherOrder, otherPerm, rfl, otherRemembers⟩
  have perm := (orderPerm.trans same).trans otherPerm.symm
  have result := Race.raceResult_of_served records orderPerm remembers
  have otherResult := Race.raceResult_of_served records otherPerm otherRemembers
  have samePairs : ∀ source target,
      final.table.contains source target = other.table.contains source target := by
    intro source target
    rw [remembers.table, otherRemembers.table]
    exact contains_served_perm records perm source target
  refine ⟨result, outcomes_perm records perm, samePairs, ?_, ?_, ?_, ?_⟩
  · intro source target
    rw [remembers.table, otherRemembers.table]
    exact isDerived_served_perm records perm source target
  · exact Table.size_eq_of_contains_eq samePairs
  · intro source target explicit
    rw [result.kept source target explicit, otherResult.kept source target explicit]
  · exact (result.frame.withTable other.table).symm.trans otherResult.frame

/-- Borrowed text extends owned text. -/
def racingStart : Registry :=
  ((Operation.declare ((Declaration.of .str).extending .string)).perform
    (Registry.ofTypes ∅ {})).registry

def rival (number : Nat) : Request :=
  ⟨.bool, .str, ⟨.given number, .closure .bool .str fun _ => .ok ""⟩⟩

theorem race_confluent_of_rivals :
    ∃ answers others final other,
      Reachable racingStart ∧
      Race racingStart ([[rival 0], [rival 1]].map fun thread => thread.map Task.waiting)
        answers final ∧
      Race racingStart ([[rival 1, rival 0]].map fun thread => thread.map Task.waiting)
        others other ∧
      (final.table.find? .bool .string).map Converter.identity = some (.given 0) ∧
      (other.table.find? .bool .string).map Converter.identity = some (.given 1) ∧
      RaceResult racingStart [rival 0, rival 1] answers final ∧
      RaceAgreement racingStart answers others final other := by
  have reachable : Reachable racingStart := .performed _ (.created ∅ [] {} 0)
  have swapped : [[rival 0], [rival 1]].flatten.Perm [[rival 1, rival 0]].flatten :=
    List.Perm.swap _ _ _
  have race := @Race.prepared racingStart _ [] [[.waiting (rival 1)]] [] (rival 0) _
    (by decide +kernel)
    (@Race.prepared _ _ [[_]] [] [] (rival 1) _ (by decide +kernel)
      (@Race.filed _ _ [] _ [] (rival 0) _ _
        (@Race.filed _ _ [[]] [] [] (rival 1) _ _ (.finished (by simp)))))
  have otherRace := @Race.prepared racingStart _ [] [] [.waiting (rival 0)] (rival 1) _
    (by decide +kernel)
    (@Race.filed _ _ [] [] _ (rival 1) _ _
      (@Race.prepared _ _ [] [] [] (rival 0) _ (by decide +kernel)
        (@Race.filed _ _ [] [] [] (rival 0) _ _ (.finished (by simp)))))
  rcases race_confluent reachable swapped with ⟨_, confluent⟩
  rcases confluent _ _ _ _ race otherRace with ⟨result, agreement⟩
  exact ⟨_, _, _, _, reachable, race, otherRace, by decide +kernel, by decide +kernel, result,
    agreement⟩

end Conversion
