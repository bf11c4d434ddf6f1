import Mathlib.Data.List.Sort
import Conversion.Proofs.Registry.Reachable

/-!
# The priority of rules

A registry keeps its rules by sort, and within a sort in the order in which they came. All in all
this is a stable sort of the rules that were registered since the registry was last emptied
(`RuleBook.Keeps.toList_eq`), however the sorts were mixed and whatever was done in between. The
main statement, `byRule_by_priority`, says what this means for lookups.

A new rule goes behind all rules of its own sort and of earlier ones and before all others
(`RuleBook.Keeps.exists_split`). So it comes to the front for a pair only where no rule that it
went behind accepts the pair.
-/

namespace Conversion

namespace Rule

/-- Rules in the order of their sorts; those of one sort stay in the order of the list. -/
def byPriority (rules : List Rule) : List Rule :=
  rules.mergeSort fun left right => left.kind.rank ≤ right.kind.rank

theorem pairwise_byPriority (rules : List Rule) :
    (byPriority rules).Pairwise fun left right => left.kind.rank ≤ right.kind.rank := by
  have sorted : (byPriority rules).Pairwise fun left right =>
      decide (left.kind.rank ≤ right.kind.rank) = true :=
    List.pairwise_mergeSort (by simp; omega) (by simp; omega) rules
  simpa using sorted

theorem perm_byPriority (rules : List Rule) : (byPriority rules).Perm rules :=
  List.mergeSort_perm rules _

/-- The sort is stable. -/
theorem filter_byPriority (kind : RuleKind) (rules : List Rule) :
    (byPriority rules).filter (·.kind = kind) = rules.filter (·.kind = kind) := by
  have kept : (rules.filter (·.kind = kind)).Sublist (byPriority rules) := by
    apply List.sublist_mergeSort (by simp; omega) (by simp; omega)
    · apply List.pairwise_of_forall_mem_list
      intro left leftMem right rightMem
      simp only [List.mem_filter, decide_eq_true_eq] at leftMem rightMem
      simp [leftMem.2, rightMem.2]
    · exact List.filter_sublist
  symm
  apply List.Sublist.eq_of_length
  · simpa using kept.filter (·.kind = kind)
  · exact ((perm_byPriority rules).filter _).length_eq.symm

theorem eq_append_of_pairwise {rules : List Rule}
    (sorted : rules.Pairwise fun left right => left.kind.rank ≤ right.kind.rank) :
    rules = rules.filter (·.kind = .fixedSource) ++ rules.filter (·.kind = .fixedTarget) ++
      rules.filter (·.kind = .assignableSource) := by
  induction rules with
  | nil => rfl
  | cons rule rest ih =>
      rw [List.pairwise_cons] at sorted
      have noneOf (kind : RuleKind) (earlier : kind.rank < rule.kind.rank) :
          rest.filter (·.kind = kind) = [] := by
        rw [List.filter_eq_nil_iff]
        rintro other otherMem ofKind
        have later := sorted.1 other otherMem
        rw [of_decide_eq_true ofKind] at later
        omega
      have restEq := ih sorted.2
      cases own : rule.kind with
      | fixedSource => simpa [own] using restEq
      | fixedTarget =>
          have noSource := noneOf .fixedSource (by simp [own, RuleKind.rank])
          simpa [own, noSource] using restEq
      | assignableSource =>
          have noSource := noneOf .fixedSource (by simp [own, RuleKind.rank])
          have noTarget := noneOf .fixedTarget (by simp [own, RuleKind.rank])
          simpa [own, noSource, noTarget] using restEq

end Rule

namespace RuleBook

/-- Whether a book keeps some rules: under each sort those of the sort, in their order. -/
def Keeps (book : RuleBook) (rules : List Rule) : Prop :=
  ∀ kind, book.bucket kind = rules.filter (·.kind = kind)

namespace Keeps

variable {book : RuleBook} {rules : List Rule}

theorem empty : Keeps ∅ [] := by
  rintro (_ | _ | _) <;> rfl

theorem add (keeps : book.Keeps rules) (rule : Rule) : (book.add rule).Keeps (rules ++ [rule]) := by
  intro kind
  rw [bucket_add, keeps kind, List.filter_append]
  split
  · next ofKind => simp [ofKind]
  · next other => simp [other]

theorem toList_eq (keeps : book.Keeps rules) : book.toList = Rule.byPriority rules := by
  rw [Rule.eq_append_of_pairwise (Rule.pairwise_byPriority rules), toList_eq_buckets]
  simp only [Rule.filter_byPriority, keeps _]

theorem mem_toList_iff (keeps : book.Keeps rules) {rule : Rule} :
    rule ∈ book.toList ↔ rule ∈ rules := by
  rw [keeps.toList_eq]
  exact (Rule.perm_byPriority rules).mem_iff

theorem size_eq (keeps : book.Keeps rules) : book.size = rules.length := by
  rw [size, keeps.toList_eq]
  exact (Rule.perm_byPriority rules).length_eq

theorem kind_of_mem (keeps : book.Keeps rules) {kind : RuleKind} {rule : Rule}
    (member : rule ∈ book.bucket kind) : rule.kind = kind := by
  rw [keeps kind] at member
  exact of_decide_eq_true (List.mem_filter.mp member).2

/-- Where a new rule goes. -/
theorem exists_split (keeps : book.Keeps rules) (rule : Rule) :
    ∃ before after, book.toList = before ++ after ∧
      (book.add rule).toList = before ++ rule :: after ∧
      (∀ other ∈ before, other.kind.rank ≤ rule.kind.rank) ∧
      ∀ other ∈ after, rule.kind.rank < other.kind.rank := by
  simp only [toList_eq_buckets, bucket_add]
  cases own : rule.kind with
  | fixedSource =>
      refine ⟨book.bucket .fixedSource, book.bucket .fixedTarget ++ book.bucket .assignableSource,
        by simp, by simp, ?_, ?_⟩
      · intro other otherMem
        simp [keeps.kind_of_mem otherMem]
      · intro other otherMem
        rcases List.mem_append.mp otherMem with member | member <;>
          simp [keeps.kind_of_mem member, RuleKind.rank]
  | fixedTarget =>
      refine ⟨book.bucket .fixedSource ++ book.bucket .fixedTarget, book.bucket .assignableSource,
        by simp, by simp, ?_, ?_⟩
      · intro other otherMem
        rcases List.mem_append.mp otherMem with member | member <;>
          simp [keeps.kind_of_mem member, RuleKind.rank]
      · intro other otherMem
        simp [keeps.kind_of_mem otherMem, RuleKind.rank]
  | assignableSource =>
      refine ⟨book.toList, [], by simp [toList_eq_buckets], by simp [toList_eq_buckets], ?_,
        by simp⟩
      intro other _
      cases other.kind <;> simp [RuleKind.rank]

/-- A new rule is found first where it accepts and all others that accept are of later sorts. -/
theorem find?_add (keeps : book.Keeps rules) (rule : Rule) (accepts : Rule → Bool) :
    (book.add rule).toList.find? accepts =
      if accepts rule = true ∧
          ∀ other ∈ rules, accepts other = true → rule.kind.rank < other.kind.rank then
        some rule
      else book.toList.find? accepts := by
  obtain ⟨before, after, toListEq, addEq, notLater, later⟩ := keeps.exists_split rule
  have mem_rules {other : Rule} : other ∈ rules ↔ other ∈ before ∨ other ∈ after := by
    rw [← keeps.mem_toList_iff, toListEq, List.mem_append]
  rw [addEq, toListEq, List.find?_append, List.find?_append, List.find?_cons]
  cases found : before.find? accepts with
  | some first =>
      rw [if_neg, Option.some_or, Option.some_or]
      rintro ⟨_, overtaken⟩
      have firstMem := List.mem_of_find?_eq_some found
      have firstLater := overtaken first (mem_rules.mpr (Or.inl firstMem)) (List.find?_some found)
      have := notLater first firstMem
      omega
  | none =>
      rw [List.find?_eq_none] at found
      cases serves : accepts rule with
      | false => simp
      | true =>
          rw [if_pos]
          · rfl
          · refine ⟨rfl, ?_⟩
            intro other otherMem otherServes
            rcases mem_rules.mp otherMem with inFront | behind
            · exact absurd otherServes (found other inFront)
            · exact later other behind

end Keeps

end RuleBook

/-- The rule that an operation registers. -/
def Operation.rule? : Operation → Option Rule
  | registerRule rule => some rule
  | _ => none

theorem Operation.rules_perform_eq (operation : Operation) (registry : Registry) :
    (operation.perform registry).registry.rules =
      operation.rule?.elim registry.rules registry.rules.add := by
  cases operation with
  | registerRule rule => rfl
  | _ => exact rules_perform rfl

namespace Registry

/-- A registry with the rules that were registered since it was last emptied, the earliest
first. -/
inductive Ruled : Registry → List Rule → Prop where
  | created (types : Hierarchy) (registrars : List Registrar) (options : Options)
      (serial : Nat) : Ruled { types, registrars, options, serial } []
  | cleared {registry : Registry} {rules : List Rule} (ruled : Ruled registry rules) :
      Ruled registry.clear []
  | performed {registry : Registry} {rules : List Rule} (operation : Operation)
      (ruled : Ruled registry rules) :
      Ruled (operation.perform registry).registry (rules ++ operation.rule?.toList)

namespace Ruled

variable {registry : Registry} {rules : List Rule}

theorem keeps (ruled : Ruled registry rules) : registry.rules.Keeps rules := by
  induction ruled with
  | created types registrars options serial => exact RuleBook.Keeps.empty
  | cleared _ _ => exact RuleBook.Keeps.empty
  | performed operation _ ih =>
      rw [operation.rules_perform_eq]
      cases operation.rule? with
      | none => simpa using ih
      | some rule => exact ih.add rule

theorem after (ruled : Ruled registry rules) (history : List Operation) :
    Ruled (registry.after history) (rules ++ history.filterMap Operation.rule?) := by
  induction history generalizing registry rules with
  | nil =>
      rw [List.filterMap_nil, List.append_nil]
      exact ruled
  | cons operation rest ih =>
      have later := ih (ruled.performed operation)
      cases registered : operation.rule? <;>
        simpa [Registry.after, registered] using later

theorem ran (ruled : Ruled registry rules) (registrar : Registrar) :
    ∃ later, Ruled (registrar.run registry).registry (rules ++ later) := by
  obtain ⟨history, left, _⟩ := registrar.run_isHistory registry
  rw [left]
  exact ⟨_, ruled.after history⟩

theorem reinitialized (ruled : Ruled registry rules) :
    ∃ since, Ruled (registry |> reinitialize).registry since := by
  obtain ⟨history, left, _⟩ := reinitialize_eq_after registry
  rw [left]
  exact ⟨_, ruled.cleared.after history⟩

end Ruled

/-- A lookup by rules finds the first rule that accepts the pair when the rules registered so far
are sorted stably by sort, and nothing only when none accepts. A further rule changes the answer for
a pair only if it accepts the pair and all that accept it so far are of later sorts, and then it is
the answer. -/
theorem byRule_by_priority {registry : Registry} {rules : List Rule} (ruled : Ruled registry rules)
    (source target : TypeKey) :
    let accepts := fun rule : Rule => (rule.canConvert source target registry.types).1
    (byRule source target registry).result =
        ((Rule.byPriority rules).find? accepts).map Rule.toConverter ∧
      ((byRule source target registry).result = none ↔ ∀ rule ∈ rules, accepts rule = false) ∧
      (∀ rule,
        let after := (registerRule rule registry).registry
        let overtakes := accepts rule = true ∧
          ∀ other ∈ rules, accepts other = true → rule.kind.rank < other.kind.rank
        ((byRule source target after).result ≠ (byRule source target registry).result →
            overtakes) ∧
          (overtakes → (byRule source target after).result = some rule.toConverter)) ∧
      registry.ruleCount = rules.length := by
  intro accepts
  have keeps := ruled.keeps
  have answer := byRule_result source target registry
  refine ⟨?_, ?_, ?_, keeps.size_eq⟩
  · rw [answer, keeps.toList_eq]
  · simp [answer, keeps.mem_toList_iff, accepts]
  · intro rule after overtakes
    have answerAfter : (byRule source target after).result =
        ((registry.rules.add rule).toList.find? accepts).map Rule.toConverter :=
      byRule_result source target after
    rw [answerAfter, answer, keeps.find?_add rule accepts]
    constructor
    · intro differ
      by_contra stays
      exact differ (by rw [if_neg stays])
    · intro holds
      rw [if_pos holds, Option.map_some]

/-- Rules of the last sort and of the second, in this order. -/
def ruleRegistrar : Registrar where
  name := "rules"
  script :=
    [ .registerRule (.anew (.assignableSource .text .bool fun _ => .ok true)),
      .registerRule (.anew (.fixedTarget .bool (fun _ => true) fun _ => .ok false)) ]

/-- Between two runs of the registrar another rule was added. -/
def ruledTwice : Registry :=
  (ruleRegistrar.run
    (({ registrars := [ruleRegistrar] : Builder }.build 0).registry.after
      [ .declare ((Declaration.of .string).implementing .text),
        .registerRule ⟨.given 0, .fixedTarget .bool (fun _ => true) fun _ => .ok true⟩,
        .find .string .bool ])).registry

def earlyRule : Rule :=
  ⟨.given 1, .fixedSource .string (· = .bool) fun _ _ => .error (.sourceMismatch .string)⟩

def lateRule : Rule :=
  ⟨.given 2, .fixedTarget .bool (fun _ => true) fun _ => .ok true⟩

theorem byRule_by_priority_of_mixed_sorts :
    ∃ rules, Ruled ruledTwice rules ∧ rules.length = 5 ∧
      (byRule .string .bool ruledTwice).result.map Converter.identity = some (.made 1) ∧
      (byRule .string .bool (registerRule earlyRule ruledTwice).registry).result =
        some earlyRule.toConverter ∧
      (byRule .string .bool (registerRule lateRule ruledTwice).registry).result =
        (byRule .string .bool ruledTwice).result := by
  have assembled : Ruled ({ registrars := [ruleRegistrar] : Builder }.assemble 0) [] :=
    .created _ _ _ _
  obtain ⟨_, built⟩ := assembled.reinitialized
  obtain ⟨_, ruled⟩ := (built.after
    [ .declare ((Declaration.of .string).implementing .text),
      .registerRule ⟨.given 0, .fixedTarget .bool (fun _ => true) fun _ => .ok true⟩,
      .find .string .bool ]).ran ruleRegistrar
  obtain ⟨_, _, further, count⟩ := byRule_by_priority ruled .string .bool
  have five : ruledTwice.ruleCount = 5 := by decide +kernel
  refine ⟨_, ruled, count.symm.trans five, by decide +kernel, ?_, ?_⟩
  · apply (further earlyRule).2
    apply (further earlyRule).1
    intro same
    have identities := congrArg (Option.map Converter.identity) same
    exact absurd identities (by decide +kernel)
  · by_contra differ
    have isLate := (further lateRule).2 ((further lateRule).1 differ)
    have identities := congrArg (Option.map Converter.identity) isLate
    exact absurd identities (by decide +kernel)

end Registry

end Conversion
