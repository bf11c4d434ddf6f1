import Mathlib.Logic.Function.Basic
import Conversion.Proofs.Hierarchy.LastDeclaration

/-!
# Hierarchies that threads share

The declarations and the remembered chains of a hierarchy have a lock each, so what is one call to
its caller takes several atomic steps, and threads can come between them. Declaring writes the
declarations and then forgets the chains. Asking for ancestors looks for a remembered chain; without
one it locks the declarations against writing, walks, and remembers the chain before it lets go.
`SharedHierarchy.Step` has these steps, for as many threads as there are natural numbers and for
whatever calls they make. Left alone, a call does what it does to a `Hierarchy`
(`run_declareAll`, `run_ancestors`).

Two facts carry the main statement, `no_stale_chain`. A chain that is walked under the lock is still
right when it is remembered (`Coherent`). And whatever was walked before a declaration was written
is gone once the chains have been forgotten, since no walk was under way at the writing
(`HeldSince`, `KeptSince`).
-/

namespace Conversion

/-- Where a thread stands with a hierarchy that it shares. -/
inductive Stage where
  | idle
  /-- The declarations are written, the chains not forgotten yet. -/
  | written
  | missed (key : TypeKey)
  /-- The thread holds the chain, not remembered yet, and keeps others from writing. -/
  | walked (key : TypeKey) (chain : List TypeKey)

/-- One atomic step of a thread. -/
inductive Move where
  | write (declared : List Declaration)
  | forget
  | hit (key : TypeKey) (chain : List TypeKey)
  | miss (key : TypeKey)
  | walk (key : TypeKey) (chain : List TypeKey)
  /-- The chain is the one that is remembered from then on. -/
  | remember (key : TypeKey) (chain : List TypeKey)

namespace Move

def returned? : Move → Option (TypeKey × List TypeKey)
  | hit key chain => some (key, chain)
  | remember key chain => some (key, chain)
  | _ => none

def declared : Move → List Declaration
  | write declared => declared
  | _ => []

end Move

namespace KeyMap

variable {α : Type}

/-- The map with an item under a key that has none yet. -/
def insertNew (map : KeyMap α) (key : TypeKey) (item : α) : KeyMap α :=
  if map.contains key then map else map.insert key item

theorem insertNew_of_absent {map : KeyMap α} {key : TypeKey} (absent : map.find? key = none)
    (item : α) : map.insertNew key item = map.insert key item := by
  simp [insertNew, contains, absent]

theorem find?_insertNew (map : KeyMap α) (key other : TypeKey) (item : α) :
    (map.insertNew key item).find? other =
      (map.find? other).or (if key = other then some item else none) := by
  unfold insertNew contains
  by_cases same : key = other
  · subst same
    cases found : map.find? key <;> simp [found]
  · split <;> simp [find?_insert, same]

end KeyMap

/-- A hierarchy in shared memory, with the stages of all threads. -/
structure SharedHierarchy where
  declarations : Declarations
  chains : KeyMap (List TypeKey)
  stage : Nat → Stage

namespace SharedHierarchy

def ofHierarchy (hierarchy : Hierarchy) : SharedHierarchy where
  declarations := hierarchy.declarations
  chains := hierarchy.chains
  stage := fun _ => .idle

/-- A step of some thread. A thread that is idle may begin any call. -/
inductive Step : SharedHierarchy → Nat × Move → SharedHierarchy → Prop where
  | write {state : SharedHierarchy} {thread : Nat} (declared : List Declaration)
      (idle : state.stage thread = .idle)
      (unlocked : ∀ other key chain, state.stage other ≠ .walked key chain) :
      Step state (thread, .write declared)
        { state with
          declarations := state.declarations.declareAll declared
          stage := Function.update state.stage thread .written }
  | forget {state : SharedHierarchy} {thread : Nat} (written : state.stage thread = .written) :
      Step state (thread, .forget)
        { state with
          chains := ∅
          stage := Function.update state.stage thread .idle }
  | hit {state : SharedHierarchy} {thread : Nat} {key : TypeKey} {chain : List TypeKey}
      (idle : state.stage thread = .idle) (found : state.chains.find? key = some chain) :
      Step state (thread, .hit key chain) state
  | miss {state : SharedHierarchy} {thread : Nat} {key : TypeKey}
      (idle : state.stage thread = .idle) (absent : state.chains.find? key = none) :
      Step state (thread, .miss key)
        { state with stage := Function.update state.stage thread (.missed key) }
  | walk {state : SharedHierarchy} {thread : Nat} {key : TypeKey}
      {chain : List TypeKey} (missed : state.stage thread = .missed key)
      (walks : chain = state.declarations.walk key) :
      Step state (thread, .walk key chain)
        { state with stage := Function.update state.stage thread (.walked key chain) }
  | remember {state : SharedHierarchy} {thread : Nat} {key : TypeKey}
      {chain kept : List TypeKey} (walked : state.stage thread = .walked key chain)
      (keeps : kept = (state.chains.find? key).getD chain) :
      Step state (thread, .remember key kept)
        { state with
          chains := state.chains.insertNew key chain
          stage := Function.update state.stage thread .idle }

inductive Run : SharedHierarchy → List (Nat × Move) → SharedHierarchy → Prop where
  | nil (state : SharedHierarchy) : Run state [] state
  | cons {first second last : SharedHierarchy} {move : Nat × Move} {rest : List (Nat × Move)}
      (step : Step first move second) (later : Run second rest last) :
      Run first (move :: rest) last

variable {state next start : SharedHierarchy} {moves earlier later : List (Nat × Move)}
  {move : Nat × Move}

theorem run_append_iff :
    Run start (earlier ++ later) state ↔
      ∃ middle, Run start earlier middle ∧ Run middle later state := by
  constructor
  · intro run
    induction earlier generalizing start with
    | nil => exact ⟨start, .nil start, run⟩
    | cons move rest ih =>
        cases run with
        | cons step later =>
            rcases ih later with ⟨middle, before, after⟩
            exact ⟨middle, .cons step before, after⟩
  · rintro ⟨middle, before, after⟩
    induction before with
    | nil state => exact after
    | cons step _ ih => exact .cons step (ih after)

theorem run_cons_iff :
    Run start (move :: moves) state ↔
      ∃ middle, Step start move middle ∧ Run middle moves state := by
  constructor
  · intro run
    cases run with
    | cons step later => exact ⟨_, step, later⟩
  · rintro ⟨middle, step, later⟩
    exact .cons step later

theorem declarations_step (step : Step state move next) :
    next.declarations = state.declarations.declareAll move.2.declared := by
  cases step <;> rfl

theorem declarations_run (run : Run start moves state) :
    state.declarations = start.declarations.declareAll (moves.flatMap (·.2.declared)) := by
  induction run with
  | nil state => rfl
  | cons step _ ih =>
      rw [ih, declarations_step step, List.flatMap_cons, Declarations.declareAll_append]

/-! ### Calls that nobody interrupts -/

theorem update_idle (thread : Nat) :
    Function.update (fun _ => Stage.idle) thread .idle = fun _ => .idle := by
  simp

theorem run_declareAll (hierarchy : Hierarchy) (thread : Nat) (declared : List Declaration) :
    Run (ofHierarchy hierarchy) [(thread, .write declared), (thread, .forget)]
      (ofHierarchy (hierarchy.declareAll declared)) := by
  refine .cons (.write declared rfl ?_) (.cons (.forget (by simp)) ?_)
  · intro other key chain walked
    cases walked
  · simp only [ofHierarchy, Function.update_idem, update_idle]
    exact .nil _

/-- The chain is the answer of the hierarchy, which is left with what it remembers then. -/
theorem run_ancestors (hierarchy : Hierarchy) (thread : Nat) (key : TypeKey) :
    ∃ moves last, Run (ofHierarchy hierarchy) (moves ++ [(thread, last)])
        (ofHierarchy (hierarchy.ancestors key).2) ∧
      last.returned? = some (key, (hierarchy.ancestors key).1) := by
  unfold Hierarchy.ancestors
  split
  · next chain found =>
      exact ⟨[], .hit key chain, .cons (.hit rfl found) (.nil _), rfl⟩
  · next absent =>
      let chain := hierarchy.declarations.walk key
      have missing : Step (ofHierarchy hierarchy) (thread, .miss key) _ := .miss rfl absent
      have keeps : chain = (hierarchy.chains.find? key).getD chain := by simp [absent]
      refine ⟨[(thread, .miss key), (thread, .walk key chain)], .remember key chain, ?_, rfl⟩
      refine .cons missing (.cons (.walk (by simp) rfl) (.cons (.remember (by simp) keeps) ?_))
      simp only [ofHierarchy, Function.update_idem, update_idle, KeyMap.insertNew_of_absent absent]
      exact .nil _

/-! ### Chains under the lock -/

/-- Whether chains are right as long as no thread is between writing and forgetting. -/
structure Coherent (state : SharedHierarchy) : Prop where
  kept : (∀ thread, state.stage thread ≠ .written) →
    ∀ key chain, state.chains.find? key = some chain → chain = state.declarations.walk key
  held : ∀ thread key chain, state.stage thread = .walked key chain →
    chain = state.declarations.walk key

theorem eq_of_update {stage : Nat → Stage} {thread other : Nat} {new target : Stage}
    (differ : new ≠ target) (reached : Function.update stage thread new other = target) :
    stage other = target := by
  rw [Function.update_apply] at reached
  split at reached
  · exact absurd reached differ
  · exact reached

theorem ne_of_update {stage : Nat → Stage} {thread : Nat} {new target : Stage}
    (before : stage thread ≠ target)
    (nowhere : ∀ other, Function.update stage thread new other ≠ target) (other : Nat) :
    stage other ≠ target := by
  have after := nowhere other
  rw [Function.update_apply] at after
  split at after
  · next same => exact same ▸ before
  · exact after

theorem Coherent.step (coherent : state.Coherent) (step : Step state move next) :
    next.Coherent := by
  cases step with
  | @write thread declared idle unlocked =>
      -- from here to the forgetting nothing is said of remembered chains, and none is held
      constructor
      · intro settled
        exact absurd (by simp) (settled thread)
      · intro other key chain walked
        exact absurd (eq_of_update (by simp) walked) (unlocked other key chain)
  | forget written =>
      constructor
      · intro _ key chain found
        simp at found
      · intro other key chain walked
        exact coherent.held other key chain (eq_of_update (by simp) walked)
  | hit idle found => exact coherent
  | miss idle absent =>
      constructor
      · intro settled
        exact coherent.kept (ne_of_update (by simp [idle]) settled)
      · intro other key chain walked
        exact coherent.held other key chain (eq_of_update (by simp) walked)
  | @walk thread key chain missed walks =>
      constructor
      · intro settled
        exact coherent.kept (ne_of_update (by simp [missed]) settled)
      · intro other key' chain' walked
        simp only [Function.update_apply] at walked
        split at walked
        · cases walked
          exact walks
        · exact coherent.held other key' chain' walked
  | @remember thread key chain kept walked keeps =>
      constructor
      · intro settled key' chain' found
        have settledBefore := ne_of_update (by simp [walked]) settled
        rw [KeyMap.find?_insertNew, Option.or_eq_some_iff] at found
        -- a chain that another thread was quicker to remember stays
        rcases found with known | ⟨_, added⟩
        · exact coherent.kept settledBefore key' chain' known
        · split at added
          · next same =>
              cases added
              exact same ▸ coherent.held thread key chain walked
          · cases added
      · intro other key' chain' held
        exact coherent.held other key' chain' (eq_of_update (by simp) held)

theorem coherent_ofHierarchy (hierarchy : Hierarchy) : (ofHierarchy hierarchy).Coherent where
  kept := fun _ key chain found => hierarchy.coherent key chain found
  held := by
    intro thread key chain walked
    cases walked

theorem Coherent.run (coherent : start.Coherent) (run : Run start moves state) :
    state.Coherent := by
  induction run with
  | nil state => exact coherent
  | cons step _ ih => exact ih (coherent.step step)

/-! ### Chains since a declaration -/

def Walked (moves : List (Nat × Move)) (key : TypeKey) (chain : List TypeKey) : Prop :=
  ∃ walker, (walker, .walk key chain) ∈ moves

theorem Walked.append {key : TypeKey} {chain : List TypeKey} (walked : Walked earlier key chain)
    (later : List (Nat × Move)) : Walked (earlier ++ later) key chain := by
  rcases walked with ⟨walker, walkerMem⟩
  exact ⟨walker, List.mem_append_left later walkerMem⟩

/-- Whether the chains that threads hold were walked in the course of some moves. -/
def HeldSince (moves : List (Nat × Move)) (state : SharedHierarchy) : Prop :=
  ∀ thread key chain, state.stage thread = .walked key chain → Walked moves key chain

/-- Whether the remembered chains were walked in the course of some moves. -/
def KeptSince (moves : List (Nat × Move)) (state : SharedHierarchy) : Prop :=
  ∀ key chain, state.chains.find? key = some chain → Walked moves key chain

theorem HeldSince.step (held : HeldSince moves state) (step : Step state move next) :
    HeldSince (moves ++ [move]) next := by
  intro other key chain walked
  cases step with
  | write declared idle unlocked =>
      exact (held other key chain (eq_of_update (by simp) walked)).append _
  | forget written => exact (held other key chain (eq_of_update (by simp) walked)).append _
  | hit idle found => exact (held other key chain walked).append _
  | miss idle absent => exact (held other key chain (eq_of_update (by simp) walked)).append _
  | @walk thread key' chain' missed walks =>
      simp only [Function.update_apply] at walked
      split at walked
      · cases walked
        exact ⟨thread, by simp⟩
      · exact (held other key chain walked).append _
  | remember walked' keeps => exact (held other key chain (eq_of_update (by simp) walked)).append _

theorem KeptSince.step (held : HeldSince moves state) (kept : KeptSince moves state)
    (step : Step state move next) : KeptSince (moves ++ [move]) next := by
  intro key chain found
  cases step with
  | write declared idle unlocked => exact (kept key chain found).append _
  | forget written => simp at found
  | hit idle known => exact (kept key chain found).append _
  | miss idle absent => exact (kept key chain found).append _
  | walk missed walks => exact (kept key chain found).append _
  | @remember thread key' chain' answer walked keeps =>
      rw [KeyMap.find?_insertNew, Option.or_eq_some_iff] at found
      rcases found with known | ⟨_, added⟩
      · exact (kept key chain known).append _
      · split at added
        · next same =>
            cases added
            exact (same ▸ held thread key' chain walked).append _
        · cases added

theorem HeldSince.run (held : HeldSince earlier start) (run : Run start later state) :
    HeldSince (earlier ++ later) state := by
  induction run generalizing earlier with
  | nil state => simpa using held
  | cons step _ ih => simpa using ih (held.step step)

theorem KeptSince.run (held : HeldSince earlier start) (kept : KeptSince earlier start)
    (run : Run start later state) : KeptSince (earlier ++ later) state := by
  -- what is held has to be carried along, since it is what comes to be remembered
  induction run generalizing earlier with
  | nil state => simpa using kept
  | cons step _ ih => simpa using ih (held.step step) (KeptSince.step held kept step)

/-- A chain that is returned is a remembered one or was walked by the thread itself. -/
theorem walked_of_returned (held : HeldSince moves state) (kept : KeptSince moves state)
    (step : Step state move next) {key : TypeKey} {chain : List TypeKey}
    (returned : move.2.returned? = some (key, chain)) : Walked moves key chain := by
  cases step with
  | hit idle found =>
      cases returned
      exact kept key chain found
  | @remember thread own walkedChain answer walked keeps =>
      cases returned
      cases found : state.chains.find? key with
      | some known =>
          rw [found, Option.getD_some] at keeps
          exact keeps ▸ kept key known found
      | none =>
          rw [found, Option.getD_none] at keeps
          exact keeps ▸ held thread key walkedChain walked
  | _ => cases returned

theorem heldSince_write {writer : Nat} {declared : List Declaration}
    (step : Step state (writer, .write declared) next) : HeldSince [] next := by
  intro other key chain walked
  cases step with
  | write declared idle unlocked =>
      exact absurd (eq_of_update (by simp) walked) (unlocked other key chain)

theorem keptSince_forget {writer : Nat} (step : Step state (writer, .forget) next) :
    KeptSince moves next := by
  intro key chain found
  cases step with
  | forget written => simp at found

/-- What is returned once the chains were forgotten was walked since the last writing before. -/
theorem walked_of_forgotten {between gap : List (Nat × Move)} {writer reader : Nat} {last : Move}
    {key : TypeKey} {chain : List TypeKey} (held : HeldSince [] start)
    (run : Run start (between ++ [(writer, .forget)] ++ gap ++ [(reader, last)]) state)
    (returned : last.returned? = some (key, chain)) :
    Walked (between ++ [(writer, .forget)] ++ gap) key chain := by
  rcases run_append_iff.mp run with ⟨asked, sinceWriting, returning⟩
  rcases run_append_iff.mp sinceWriting with ⟨forgotten, forgetting, afterwards⟩
  rcases run_append_iff.mp forgetting with ⟨stale, meanwhile, dropping⟩
  rcases run_cons_iff.mp dropping with ⟨_, forgetStep, ⟨⟩⟩
  rcases run_cons_iff.mp returning with ⟨_, lastStep, _⟩
  have heldForgotten := held.run forgetting
  have keptForgotten : KeptSince ([] ++ (between ++ [(writer, .forget)])) forgotten :=
    keptSince_forget forgetStep
  have heldAsked := heldForgotten.run afterwards
  have keptAsked := KeptSince.run heldForgotten keptForgotten afterwards
  exact walked_of_returned heldAsked keptAsked lastStep returned

/-- A chain that was walked is the walk over the declarations written up to that moment. -/
theorem exists_of_walked {key : TypeKey} {chain : List TypeKey} (run : Run start moves state)
    (walked : Walked moves key chain) :
    ∃ earlier walker later, moves = earlier ++ (walker, .walk key chain) :: later ∧
      chain = (start.declarations.declareAll (earlier.flatMap (·.2.declared))).walk key := by
  rcases walked with ⟨walker, walkerMem⟩
  rcases List.append_of_mem walkerMem with ⟨earlier, later, rfl⟩
  rcases run_append_iff.mp run with ⟨current, before, after⟩
  rcases run_cons_iff.mp after with ⟨_, walking, _⟩
  refine ⟨earlier, walker, later, rfl, ?_⟩
  rw [← declarations_run before]
  cases walking with
  | walk missed walks => exact walks

/-! ### The main statement -/

/-- However threads interleave, a remembered chain is the walk over the declarations in force unless
some thread has written and not forgotten yet. And whatever is returned after a declaring thread has
been through both of its steps was walked after the first of them, over the declarations as they
stood at that later moment. This holds of every call that ends after the declaring, and so of those
that also begin after it. -/
theorem no_stale_chain {hierarchy : Hierarchy} (run : Run (ofHierarchy hierarchy) moves state) :
    ((∀ thread, state.stage thread ≠ .written) →
      ∀ key chain, state.chains.find? key = some chain → chain = state.declarations.walk key) ∧
      ∀ before writer declared between gap reader last key chain,
        moves = (before ++ [(writer, .write declared)]) ++
          (between ++ [(writer, .forget)] ++ gap ++ [(reader, last)]) →
        last.returned? = some (key, chain) →
        ∃ earlier walker later,
          between ++ [(writer, .forget)] ++ gap = earlier ++ (walker, .walk key chain) :: later ∧
          chain = (hierarchy.declarations.declareAll
            ((before ++ [(writer, .write declared)] ++ earlier).flatMap
              (·.2.declared))).walk key := by
  refine ⟨((coherent_ofHierarchy hierarchy).run run).kept, ?_⟩
  rintro before writer declared between gap reader last key chain rfl returned
  rcases run_append_iff.mp run with ⟨written, writing, rest⟩
  have made := declarations_run writing
  rcases run_append_iff.mp writing with ⟨_, _, one⟩
  rcases run_cons_iff.mp one with ⟨_, writeStep, ⟨⟩⟩
  have walked := walked_of_forgotten (heldSince_write writeStep) rest returned
  rcases run_append_iff.mp rest with ⟨_, sinceWriting, _⟩
  rcases exists_of_walked sinceWriting walked with ⟨earlier, walker, later, split, walks⟩
  refine ⟨earlier, walker, later, split, ?_⟩
  rw [List.flatMap_append, Declarations.declareAll_append]
  rw [made] at walks
  exact walks

/-- Owned text is remembered to stand alone. -/
def remembered : Hierarchy :=
  ((∅ : Hierarchy).ancestors .string).2

/-- One thread declares that owned text implements the text interface. Another has missed before and
walks after it, a third is told the old chain meanwhile. -/
def declaring : List (Nat × Move) :=
  [ (1, .miss .str), (0, .write [(Declaration.of .string).implementing .text]),
    (2, .hit .string [.string]), (0, .forget) ]

/-- Two threads walk side by side, and the slower one is told the chain of the faster. -/
def asking : List (Nat × Move) :=
  [ (1, .walk .str [.str]), (2, .miss .string), (3, .miss .string),
    (3, .walk .string [.string, .text]), (2, .walk .string [.string, .text]),
    (2, .remember .string [.string, .text]), (3, .remember .string [.string, .text]) ]

theorem no_stale_chain_of_slow_thread :
    ∃ state, Run (ofHierarchy remembered) (declaring ++ asking) state ∧
      ∃ earlier walker later,
        declaring.drop 2 ++ asking.dropLast =
          earlier ++ (walker, .walk .string [.string, .text]) :: later ∧
        [TypeKey.string, .text] = (remembered.declarations.declareAll
          ((declaring.take 2 ++ earlier).flatMap (·.2.declared))).walk .string := by
  have run : ∃ state, Run (ofHierarchy remembered) (declaring ++ asking) state := by
    refine ⟨_, .cons (.miss rfl rfl) (.cons (.write _ rfl ?_) (.cons (.hit rfl ?_)
      (.cons (.forget rfl) (.cons (.walk rfl ?_) (.cons (.miss rfl rfl) (.cons (.miss rfl rfl)
        (.cons (.walk rfl ?_) (.cons (.walk rfl ?_) (.cons (.remember rfl ?_)
          (.cons (.remember rfl ?_) (.nil _)))))))))))⟩
    · intro other key chain walked
      simp only [Function.update_apply] at walked
      split at walked <;> cases walked
    all_goals decide +kernel
  rcases run with ⟨state, run⟩
  exact ⟨state, run, (no_stale_chain run).2 [(1, .miss .str)] 0 _ [(2, .hit .string [.string])]
    asking.dropLast 3 _ .string _ rfl rfl⟩

end SharedHierarchy

end Conversion
