import Mathlib.Data.List.Induction
import Conversion.Builder
import Conversion.Proofs.Registry.Unrolling

/-!
# What a builder builds

A `Call` is one call on a builder. Each call is about one concern, and the concerns do not meet: of
hierarchies and of options the last counts, declarations add up, and of registrars the first of each
name counts. So the builder that a sequence of calls leaves can be read off concern by concern
(`after_empty`), wherever the calls for the one stand among those for the others. The main statement
is `build_assembles`.

A registrar is turned away if its name is among those that were kept. These are the names of all
registrars offered so far (`any_firstOfName`), so it does not matter how registrars come in batches.
-/

namespace Conversion

namespace Registrar

/-- The registrars of a list whose name was seen earlier in it, or those whose name was not. -/
def whereSeen (seen : Bool) (offered : List Registrar) : List Registrar :=
  (offered.zipIdx.filter fun entry =>
    (offered.take entry.2).any (·.name = entry.1.name) == seen).map Prod.fst

/-- The first registrar of each name. -/
def firstOfName (offered : List Registrar) : List Registrar :=
  whereSeen false offered

/-- The registrars that come after another one of their name. -/
def repeated (offered : List Registrar) : List Registrar :=
  whereSeen true offered

/-- The report on a registrar that is turned away. -/
def skipped (registrar : Registrar) : Event :=
  .registrarSkipped registrar.name

theorem whereSeen_concat (seen : Bool) (offered : List Registrar) (registrar : Registrar) :
    whereSeen seen (offered ++ [registrar]) =
      whereSeen seen offered ++
        if offered.any (·.name = registrar.name) = seen then [registrar] else [] := by
  -- what stands before an old position is the same in both lists
  have earlier : ∀ entry ∈ offered.zipIdx,
      (((offered ++ [registrar]).take entry.2).any (·.name = entry.1.name) == seen) =
        ((offered.take entry.2).any (·.name = entry.1.name) == seen) := by
    intro entry entryMem
    have within : entry.2 ≤ offered.length := Nat.le_of_lt (List.snd_lt_of_mem_zipIdx entryMem)
    rw [List.take_append_of_le_length within]
  unfold whereSeen
  rw [List.zipIdx_append, List.filter_append, List.map_append, List.filter_congr earlier]
  congr 1
  by_cases known : offered.any (·.name = registrar.name) = seen <;> simp [known]

theorem firstOfName_concat (offered : List Registrar) (registrar : Registrar) :
    firstOfName (offered ++ [registrar]) =
      firstOfName offered ++
        if offered.any (·.name = registrar.name) = true then [] else [registrar] := by
  rw [firstOfName, whereSeen_concat, firstOfName]
  cases offered.any (·.name = registrar.name) <;> rfl

theorem repeated_concat (offered : List Registrar) (registrar : Registrar) :
    repeated (offered ++ [registrar]) =
      repeated offered ++
        if offered.any (·.name = registrar.name) = true then [registrar] else [] :=
  whereSeen_concat true offered registrar

/-- What is kept has the names of all that was offered. -/
theorem any_firstOfName (offered : List Registrar) (name : String) :
    (firstOfName offered).any (·.name = name) = offered.any (·.name = name) := by
  induction offered using List.reverseRecOn with
  | nil => rfl
  | append_singleton earlier registrar ih =>
      rw [firstOfName_concat, List.any_append, List.any_append, ih]
      by_cases same : registrar.name = name
      · subst same
        cases earlier.any (·.name = registrar.name) <;> simp
      · split <;> simp [same]

theorem nodup_map_name_firstOfName (offered : List Registrar) :
    ((firstOfName offered).map name).Nodup := by
  induction offered using List.reverseRecOn with
  | nil => exact List.nodup_nil
  | append_singleton earlier registrar ih =>
      rw [firstOfName_concat]
      split
      · rw [List.append_nil]
        exact ih
      · next unknown =>
          rw [← any_firstOfName, List.any_eq_true] at unknown
          rw [List.map_append, List.nodup_append]
          refine ⟨ih, List.pairwise_singleton _ _, ?_⟩
          rintro keptName keptMem _ newMem rfl
          rcases List.mem_map.mp keptMem with ⟨kept, keptIn, sameName⟩
          apply unknown
          refine ⟨kept, keptIn, ?_⟩
          simpa [sameName] using newMem

/-- Every registrar that is offered is either kept or turned away. -/
theorem perm_firstOfName_append_repeated (offered : List Registrar) :
    (firstOfName offered ++ repeated offered).Perm offered := by
  have partitioned := List.filter_append_perm (fun entry : Registrar × Nat =>
    (offered.take entry.2).any (·.name = entry.1.name) == false) offered.zipIdx
  have opposite : (fun entry : Registrar × Nat =>
      !((offered.take entry.2).any (·.name = entry.1.name) == false)) =
      fun entry => (offered.take entry.2).any (·.name = entry.1.name) == true := by
    funext entry
    cases (offered.take entry.2).any (·.name = entry.1.name) <;> rfl
  rw [opposite] at partitioned
  have mapped := partitioned.map Prod.fst
  rw [List.map_append, List.zipIdx_map_fst] at mapped
  exact mapped

end Registrar

namespace Builder

/-- One call on a builder. -/
inductive Call where
  | withTypes (types : Hierarchy)
  | declare (declaration : Declaration)
  | withOptions (options : Options)
  | withRegistrar (registrar : Registrar)
  | withDiscovered

/-- What calls can be about. -/
inductive Concern where
  | types
  | declarations
  | options
  | registrars
  deriving DecidableEq

namespace Call

def concern : Call → Concern
  | withTypes _ => .types
  | declare _ => .declarations
  | withOptions _ => .options
  | withRegistrar _ => .registrars
  | withDiscovered => .registrars

@[simp]
def types : Call → List Hierarchy
  | withTypes types => [types]
  | _ => []

@[simp]
def declarations : Call → List Declaration
  | declare declaration => [declaration]
  | _ => []

@[simp]
def options : Call → List Options
  | withOptions options => [options]
  | _ => []

/-- The registrars that a call offers, with discovered ones in the order of their discovery. -/
@[simp]
def registrars (submitted : List Registrar) : Call → List Registrar
  | withRegistrar registrar => [registrar]
  | withDiscovered => Registrar.discovered submitted
  | _ => []

/-- Makes a call. -/
@[simp]
def perform (submitted : List Registrar) (builder : Builder) : Call → Builder × List Event
  | withTypes types => (builder.withTypes types, [])
  | declare declaration => (builder.declare declaration, [])
  | withOptions options => (builder.withOptions options, [])
  | withRegistrar registrar => builder.withRegistrar registrar
  | withDiscovered => builder.withDiscovered submitted

/-- Whether calls have something of a kind only if they are about one concern. -/
def IsAbout {Part : Type} (part : Call → List Part) (concern : Concern) : Prop :=
  ∀ call, call.concern ≠ concern → part call = []

theorem types_isAbout : IsAbout types .types := by
  intro call differ
  cases call with
  | withTypes types => exact absurd rfl differ
  | _ => rfl

theorem declarations_isAbout : IsAbout declarations .declarations := by
  intro call differ
  cases call with
  | declare declaration => exact absurd rfl differ
  | _ => rfl

theorem options_isAbout : IsAbout options .options := by
  intro call differ
  cases call with
  | withOptions options => exact absurd rfl differ
  | _ => rfl

theorem registrars_isAbout (submitted : List Registrar) :
    IsAbout (registrars submitted) .registrars := by
  intro call differ
  cases call with
  | withRegistrar registrar => exact absurd rfl differ
  | withDiscovered => exact absurd rfl differ
  | _ => rfl

/-- Of two calls that are about different concerns, at most one has something of a kind. -/
theorem IsAbout.flatMap_swap {Part : Type} {part : Call → List Part} {concern : Concern}
    (about : IsAbout part concern) {first second : Call}
    (differ : first.concern ≠ second.concern) (before after : List Call) :
    (before ++ second :: first :: after).flatMap part =
      (before ++ first :: second :: after).flatMap part := by
  by_cases own : first.concern = concern
  · have none := about second (own ▸ differ.symm)
    simp [none]
  · have none := about first own
    simp [none]

end Call

/-- The builder that calls leave, and what they report. -/
def after (submitted : List Registrar) (builder : Builder) : List Call → Builder × List Event
  | [] => (builder, [])
  | call :: rest =>
      let next := call.perform submitted builder
      let final := next.1.after submitted rest
      (final.1, next.2 ++ final.2)

/-- The builder that holds what calls are about, each concern for itself. -/
def holding (profile : BuildProfile) (submitted : List Registrar) (calls : List Call) :
    Builder where
  types := (calls.flatMap Call.types).getLast?
  declarations := calls.flatMap Call.declarations
  registrars := Registrar.firstOfName (calls.flatMap (Call.registrars submitted))
  options := (calls.flatMap Call.options).getLast?
  profile := profile

/-- One report for each registrar that calls offer in vain. -/
def skips (submitted : List Registrar) (calls : List Call) : List Event :=
  (Registrar.repeated (calls.flatMap (Call.registrars submitted))).map Registrar.skipped

variable {profile : BuildProfile} {submitted : List Registrar} {builder : Builder}
  {offered : List Registrar}

/-! ### Adding registrars -/

theorem withRegistrar_of_kept (kept : builder.registrars = Registrar.firstOfName offered)
    (registrar : Registrar) :
    (builder.withRegistrar registrar).1 =
        { builder with registrars := Registrar.firstOfName (offered ++ [registrar]) } ∧
      (Registrar.repeated offered).map Registrar.skipped ++ (builder.withRegistrar registrar).2 =
        (Registrar.repeated (offered ++ [registrar])).map Registrar.skipped := by
  rw [Registrar.firstOfName_concat, Registrar.repeated_concat, withRegistrar, kept,
    Registrar.any_firstOfName]
  split
  · rw [List.append_nil, ← kept, List.map_append]
    exact ⟨rfl, rfl⟩
  · rw [List.append_nil, List.append_nil]
    exact ⟨rfl, rfl⟩

theorem withRegistrars_cons (builder : Builder) (registrar : Registrar) (rest : List Registrar) :
    builder.withRegistrars (registrar :: rest) =
      (((builder.withRegistrar registrar).1.withRegistrars rest).1,
        (builder.withRegistrar registrar).2 ++
          ((builder.withRegistrar registrar).1.withRegistrars rest).2) :=
  rfl

/-- Adding registrars from first to last keeps the first of each name and reports the others. -/
theorem withRegistrars_of_kept (kept : builder.registrars = Registrar.firstOfName offered)
    (more : List Registrar) :
    (builder.withRegistrars more).1 =
        { builder with registrars := Registrar.firstOfName (offered ++ more) } ∧
      (Registrar.repeated offered).map Registrar.skipped ++ (builder.withRegistrars more).2 =
        (Registrar.repeated (offered ++ more)).map Registrar.skipped := by
  induction more generalizing builder offered with
  | nil =>
      rw [List.append_nil, ← kept]
      exact ⟨rfl, List.append_nil _⟩
  | cons registrar rest ih =>
      rcases withRegistrar_of_kept kept registrar with ⟨next, events⟩
      have nextKept : (builder.withRegistrar registrar).1.registrars =
          Registrar.firstOfName (offered ++ [registrar]) := by
        rw [next]
      rcases ih nextKept with ⟨final, later⟩
      rw [List.append_assoc, List.singleton_append] at final later
      constructor
      · rw [withRegistrars_cons, final, next]
      · rw [withRegistrars_cons, ← List.append_assoc, events]
        exact later

/-- Registrars whose names are all known change nothing and are reported one by one. -/
theorem withRegistrars_of_known {more : List Registrar}
    (known : ∀ registrar ∈ more, builder.registrars.any (·.name = registrar.name) = true) :
    builder.withRegistrars more = (builder, more.map Registrar.skipped) := by
  induction more with
  | nil => rfl
  | cons registrar rest ih =>
      have first : builder.withRegistrar registrar = (builder, [registrar.skipped]) :=
        if_pos (known registrar List.mem_cons_self)
      have others := ih fun other otherMem => known other (List.mem_cons_of_mem registrar otherMem)
      rw [withRegistrars_cons, first, others]
      rfl

/-! ### Calls from first to last -/

theorem after_append (submitted : List Registrar) (builder : Builder) (earlier later : List Call) :
    builder.after submitted (earlier ++ later) =
      (((builder.after submitted earlier).1.after submitted later).1,
        (builder.after submitted earlier).2 ++
          ((builder.after submitted earlier).1.after submitted later).2) := by
  induction earlier generalizing builder with
  | nil => rfl
  | cons call rest ih =>
      rw [List.cons_append, after, after, ih, List.append_assoc]

theorem perform_holding (earlier : List Call) (call : Call) :
    (call.perform submitted (holding profile submitted earlier)).1 =
        holding profile submitted (earlier ++ [call]) ∧
      skips submitted earlier ++ (call.perform submitted (holding profile submitted earlier)).2 =
        skips submitted (earlier ++ [call]) := by
  have kept : (holding profile submitted earlier).registrars =
      Registrar.firstOfName (earlier.flatMap (Call.registrars submitted)) := rfl
  cases call with
  | withTypes types => simp [withTypes, holding, skips]
  | declare declaration => simp [declare, holding, skips]
  | withOptions options => simp [withOptions, holding, skips]
  | withRegistrar registrar => simpa [holding, skips] using withRegistrar_of_kept kept registrar
  | withDiscovered =>
      simpa [withDiscovered, holding, skips] using
        withRegistrars_of_kept kept (Registrar.discovered submitted)

theorem after_holding (earlier later : List Call) :
    ((holding profile submitted earlier).after submitted later).1 =
        holding profile submitted (earlier ++ later) ∧
      skips submitted earlier ++ ((holding profile submitted earlier).after submitted later).2 =
        skips submitted (earlier ++ later) := by
  induction later generalizing earlier with
  | nil =>
      rw [List.append_nil]
      exact ⟨rfl, List.append_nil _⟩
  | cons call rest ih =>
      rcases perform_holding earlier call with ⟨next, events⟩
      rcases ih (earlier ++ [call]) with ⟨final, later⟩
      rw [List.append_assoc, List.singleton_append] at final later
      rw [after, next]
      refine ⟨final, ?_⟩
      rw [← List.append_assoc, events]
      exact later

/-- What calls on an empty builder leave and report, concern by concern. -/
theorem after_empty (submitted : List Registrar) (calls : List Call) :
    ({ profile } : Builder).after submitted calls =
      (holding profile submitted calls, skips submitted calls) := by
  have collected :
      (({ profile } : Builder).after submitted calls).1 = holding profile submitted calls ∧
        (({ profile } : Builder).after submitted calls).2 = skips submitted calls :=
    after_holding [] calls
  exact Prod.ext collected.1 collected.2

theorem after_swap (before after : List Call) {first second : Call}
    (differ : first.concern ≠ second.concern) :
    ({ profile } : Builder).after submitted (before ++ second :: first :: after) =
      ({ profile } : Builder).after submitted (before ++ first :: second :: after) := by
  rw [after_empty, after_empty, holding, holding, skips, skips,
    Call.types_isAbout.flatMap_swap differ, Call.declarations_isAbout.flatMap_swap differ,
    Call.options_isAbout.flatMap_swap differ,
    (Call.registrars_isAbout submitted).flatMap_swap differ]

/-- Registrars that were discovered before are all turned away. -/
theorem withDiscovered_again {calls : List Call} (discovered : Call.withDiscovered ∈ calls) :
    (holding profile submitted calls).withDiscovered submitted =
      (holding profile submitted calls,
        (Registrar.discovered submitted).map Registrar.skipped) := by
  apply withRegistrars_of_known
  intro registrar registrarMem
  rw [holding, Registrar.any_firstOfName, List.any_eq_true]
  refine ⟨registrar, ?_, decide_eq_true rfl⟩
  exact List.mem_flatMap.mpr ⟨.withDiscovered, discovered, registrarMem⟩

/-- Repeating a discovery adds one report for each discovered registrar and nothing else. -/
theorem after_again {first : List Call} (discovered : Call.withDiscovered ∈ first)
    (rest : List Call) :
    let once := ({ profile } : Builder).after submitted (first ++ rest)
    let again := ({ profile } : Builder).after submitted (first ++ .withDiscovered :: rest)
    again.1 = once.1 ∧
      ∃ earlier later, once.2 = earlier ++ later ∧
        again.2 =
          earlier ++ ((Registrar.discovered submitted).map Registrar.skipped ++ later) := by
  intro once again
  have afterOnce : once =
      (((holding profile submitted first).after submitted rest).1,
        skips submitted first ++ ((holding profile submitted first).after submitted rest).2) := by
    unfold once
    rw [after_append, after_empty]
  have afterAgain : again =
      (((holding profile submitted first).after submitted rest).1,
        skips submitted first ++ ((Registrar.discovered submitted).map Registrar.skipped ++
          ((holding profile submitted first).after submitted rest).2)) := by
    unfold again
    rw [after_append, after_empty, after, Call.perform, withDiscovered_again discovered]
  rw [afterOnce, afterAgain]
  exact ⟨rfl, _, _, rfl, rfl⟩

/-- What any calls on an empty builder build, and what they report. The registry has the last
hierarchy that was given, or else a fresh one, with all declarations in it, and the last options, or
else the default ones; on it the registrars run in order, the first of each name: it takes one run
of steps for each of them. Each of the others was reported once. So neither the builder nor the
reports change when two calls about different concerns change places, and a further discovery
changes nothing but the reports. -/
theorem build_assembles (profile : BuildProfile) (submitted : List Registrar) (calls : List Call)
    (serial : Nat) :
    let offered := calls.flatMap (Call.registrars submitted)
    let kept := Registrar.firstOfName offered
    let registry : Registry :=
      { types := ((calls.flatMap Call.types).getLast?.getD ∅).declareAll
          (calls.flatMap Call.declarations),
        options := (calls.flatMap Call.options).getLast?.getD (.forBuild profile),
        registrars := kept,
        serial := serial }
    let made := ({ profile } : Builder).after submitted calls
    made.1.build serial =
        (Registry.runAll kept).followedBy Registry.reportInitialized registry ∧
      (∃ runs, List.Forall₂ Registrar.IsRun kept runs ∧
        made.1.build serial =
          (runSteps runs.flatten).followedBy Registry.reportInitialized registry) ∧
      (kept.map Registrar.name).Nodup ∧
      (kept ++ Registrar.repeated offered).Perm offered ∧
      made.2.map (fun event => (event.severity, event.message, event.fields)) =
        (Registrar.repeated offered).map (fun registrar =>
          (.debug, "registrar already added; skipping", [("name", registrar.name)])) ∧
      (∀ before first second after, calls = before ++ first :: second :: after →
        first.concern ≠ second.concern →
          ({ profile } : Builder).after submitted (before ++ second :: first :: after) = made) ∧
      ∀ first rest, calls = first ++ rest → Call.withDiscovered ∈ first →
        let again := ({ profile } : Builder).after submitted (first ++ .withDiscovered :: rest)
        again.1 = made.1 ∧
          ∃ earlier later, made.2 = earlier ++ later ∧
            again.2 =
              earlier ++ ((Registrar.discovered submitted).map Registrar.skipped ++ later) := by
  intro offered kept registry made
  have collected : made = (holding profile submitted calls, skips submitted calls) :=
    after_empty submitted calls
  have assembled : made.1.build serial =
      (Registry.runAll kept).followedBy Registry.reportInitialized registry := by
    rw [collected]
    rfl
  refine ⟨assembled, ?_, Registrar.nodup_map_name_firstOfName offered,
    Registrar.perm_firstOfName_append_repeated offered, ?_, ?_, ?_⟩
  · obtain ⟨runs, areRuns, sameRun⟩ := exists_runs_runAll kept registry
    refine ⟨runs, areRuns, ?_⟩
    rw [assembled]
    exact Attempt.followedBy_congr sameRun fun _ => rfl
  · rw [collected, skips, List.map_map]
    rfl
  · intro before first second after isCalls differ
    unfold made
    rw [isCalls]
    exact after_swap before after differ
  · intro first rest isCalls discovered
    unfold made
    rw [isCalls]
    exact after_again discovered rest

def late : Registrar :=
  ⟨"late", 20, [.fail (.sameType .bool)]⟩

def early : Registrar :=
  ⟨"early", 10, [.register .char .bool (.anew (.total .char .bool fun _ => true))]⟩

theorem discovered_late_early : Registrar.discovered [late, early] = [early, late] := by
  simp [Registrar.discovered, List.mergeSort, List.MergeSort.Internal.splitInTwo,
    Registrar.precedes, late, early]

/-- A registrar that takes the place of the one that is discovered under its name. -/
def ownLate : Registrar :=
  ⟨"late", 100, [.register .str .bool (.anew (.total .str .bool fun _ => true))]⟩

def boolExtendsNumber : Declaration :=
  (Declaration.of .bool).extending .number

/-- The hierarchy comes after the declaration that goes into it. -/
def callsInDisorder : List Call :=
  [.withRegistrar ownLate, .declare boolExtendsNumber, .withDiscovered, .withTypes ∅]

theorem build_assembles_in_disorder :
    let made := ({ profile := .release } : Builder).after [late, early] callsInDisorder
    let built := made.1.build 0
    made.1.registrars = [ownLate, early] ∧ made.2 = [.registrarSkipped "late"] ∧
      built.result = .ok () ∧ built.registry.options = ⟨false, true⟩ ∧
      built.registry.types.declarations.toList = [(.bool, boolExtendsNumber)] ∧
      built.events =
        [.registered .str .bool, .registered .str .number, .registered .char .bool,
          .registered .char .number, .initialized 4 0] ∧
      (∃ first second registry, ownLate.IsRun first ∧ early.IsRun second ∧
        built = (runSteps (first ++ second)).followedBy Registry.reportInitialized registry) ∧
      ({ profile := .release } : Builder).after [late, early]
        [.withRegistrar ownLate, .declare boolExtendsNumber, .withTypes ∅, .withDiscovered] =
          made := by
  intro made built
  rcases build_assembles .release [late, early] callsInDisorder 0 with
    ⟨_, ⟨runs, areRuns, isBuilt⟩, _, _, _, swapped, _⟩
  have isMade : made = (⟨some ∅, [boolExtendsNumber], [ownLate, early], none, .release⟩,
      [.registrarSkipped "late"]) := by
    simp only [made, callsInDisorder, after, Call.perform, withDiscovered, discovered_late_early]
    rfl
  have kept : Registrar.firstOfName (callsInDisorder.flatMap (Call.registrars [late, early])) =
      [ownLate, early] := by
    simp only [callsInDisorder, List.flatMap_cons, List.flatMap_nil, Call.registrars,
      discovered_late_early]
    rfl
  refine ⟨?_, ?_, ?_, ?_, ?_, ?_, ?_, ?_⟩
  · rw [isMade]
  · rw [isMade]
  · simp only [built, isMade]
    exact Attempt.eq_ok_of_isOk (by decide +kernel)
  · simp only [built, isMade]
    decide +kernel
  · simp only [built, isMade]
    decide +kernel
  · simp only [built, isMade]
    decide +kernel
  · rw [kept] at areRuns
    obtain _ | ⟨ofOwnLate, _ | ⟨ofEarly, ⟨⟩⟩⟩ := areRuns
    rw [List.flatten_cons, List.flatten_singleton] at isBuilt
    exact ⟨_, _, _, ofOwnLate, ofEarly, isBuilt⟩
  · exact swapped [.withRegistrar ownLate, .declare boolExtendsNumber] .withDiscovered
      (.withTypes ∅) [] rfl (by decide)

end Builder

end Conversion
