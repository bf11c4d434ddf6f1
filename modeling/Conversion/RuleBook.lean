import Conversion.Converter

/-!
# Rule books

The rules of a registry, by sort and within a sort in the order of registration. A lookup tries them
in that order and takes the first that serves the pair.
-/

namespace Conversion

/-- Rules by sort. -/
structure RuleBook where
  fixedSource : List Rule := []
  fixedTarget : List Rule := []
  assignableSource : List Rule := []

namespace RuleBook

/-- The book without rules. -/
def empty : RuleBook :=
  {}

instance : EmptyCollection RuleBook :=
  ⟨empty⟩

instance : Inhabited RuleBook :=
  ⟨empty⟩

/-- The rules of one sort. -/
def bucket (book : RuleBook) : RuleKind → List Rule
  | .fixedSource => book.fixedSource
  | .fixedTarget => book.fixedTarget
  | .assignableSource => book.assignableSource

/-- The rules in the order in which a lookup tries them. -/
def toList (book : RuleBook) : List Rule :=
  book.fixedSource ++ book.fixedTarget ++ book.assignableSource

/-- Number of rules. -/
def size (book : RuleBook) : Nat :=
  book.toList.length

/-- Adds a rule behind those of its sort. -/
def add (book : RuleBook) (rule : Rule) : RuleBook :=
  match rule.kind with
  | .fixedSource => { book with fixedSource := book.fixedSource ++ [rule] }
  | .fixedTarget => { book with fixedTarget := book.fixedTarget ++ [rule] }
  | .assignableSource => { book with assignableSource := book.assignableSource ++ [rule] }

/-- The first rule of a list that serves a pair; the rules behind it are not asked. -/
def firstServing (source target : TypeKey) : List Rule → Hierarchy → Option Rule × Hierarchy
  | [], types => (none, types)
  | rule :: rest, types =>
      match rule.canConvert source target types with
      | (true, remembering) => (some rule, remembering)
      | (false, remembering) => firstServing source target rest remembering

/-- The first rule that serves a pair. -/
def find (book : RuleBook) (source target : TypeKey) (types : Hierarchy) :
    Option Rule × Hierarchy :=
  firstServing source target book.toList types

theorem bucket_add (book : RuleBook) (rule : Rule) (kind : RuleKind) :
    (book.add rule).bucket kind =
      if rule.kind = kind then book.bucket kind ++ [rule] else book.bucket kind := by
  cases own : rule.kind <;> cases kind <;> simp [add, bucket, own]

theorem toList_eq_buckets (book : RuleBook) :
    book.toList =
      book.bucket .fixedSource ++ book.bucket .fixedTarget ++ book.bucket .assignableSource :=
  rfl

@[simp]
theorem size_add (book : RuleBook) (rule : Rule) : (book.add rule).size = book.size + 1 := by
  cases own : rule.kind <;> simp [add, size, toList, own] <;> omega

@[simp]
theorem declarations_firstServing (source target : TypeKey) (rules : List Rule)
    (types : Hierarchy) :
    (firstServing source target rules types).2.declarations = types.declarations := by
  induction rules generalizing types with
  | nil => rfl
  | cons rule rest ih =>
      have kept := rule.body.declarations_canConvert source target types
      unfold firstServing Rule.canConvert
      rcases answer : rule.body.canConvert source target types with ⟨serves, remembering⟩
      rw [answer] at kept
      cases serves with
      | true => exact kept
      | false => exact (ih remembering).trans kept

end RuleBook

end Conversion
