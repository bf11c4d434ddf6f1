import Conversion.Table

/-!
# What filing a converter does to the table

A `Filing` is one successful registration: a pair of types, its converter, and the chain of
ancestors that the target had at that moment. It is for its own pair, and it covers the pairs that
lead from its source to another type of the chain, except to the source itself.

`Table.Filed` says all that filing changes. Its own pair gets the converter and loses its mark; a
covered pair without an entry gets the converter and a mark; nothing else changes. So the converter
of any other pair is the one that it had, or else what the filing provides.
-/

namespace Conversion

/-- A registration that succeeded. -/
structure Filing where
  source : TypeKey
  target : TypeKey
  converter : Converter
  chain : List TypeKey

namespace Filing

/-- Whether a pair is the one that was asked for. -/
def IsFor (filing : Filing) (source target : TypeKey) : Prop :=
  filing.source = source ∧ filing.target = target

/-- Whether a pair leads to an ancestor of the target that was asked for. -/
def Covers (filing : Filing) (source target : TypeKey) : Prop :=
  filing.source = source ∧ target ∈ filing.chain ∧ target ≠ filing.target ∧ target ≠ filing.source

instance (filing : Filing) (source target : TypeKey) : Decidable (filing.IsFor source target) :=
  inferInstanceAs (Decidable (_ ∧ _))

instance (filing : Filing) (source target : TypeKey) : Decidable (filing.Covers source target) :=
  inferInstanceAs (Decidable (_ ∧ _))

theorem source_eq_of_serves {filing : Filing} {source target : TypeKey}
    (serves : filing.IsFor source target ∨ filing.Covers source target) :
    filing.source = source := by
  rcases serves with isFor | covers
  · exact isFor.1
  · exact covers.1

/-- What a filing has to offer to a pair that it covers. -/
def offer? (filing : Filing) (source target : TypeKey) : Option Converter :=
  if filing.Covers source target then some filing.converter else none

end Filing

namespace Table

/-- Whether a pair has an entry of its own, one that is not derived. -/
def IsExplicit (table : Table) (source target : TypeKey) : Prop :=
  table.contains source target = true ∧ table.isDerived source target = false

instance (table : Table) (source target : TypeKey) : Decidable (table.IsExplicit source target) :=
  inferInstanceAs (Decidable (_ ∧ _))

/-- How the table after a filing comes from the one before it. -/
structure Filed (before : Table) (filing : Filing) (after : Table) : Prop where
  find?_eq : ∀ left right, after.find? left right =
    if filing.IsFor left right then some filing.converter
    else (before.find? left right).or (filing.offer? left right)
  isDerived_iff : ∀ left right, after.isDerived left right = true ↔
    ¬filing.IsFor left right ∧
      (before.isDerived left right = true ∨
        filing.Covers left right ∧ before.find? left right = none)

variable {table : Table}

theorem contains_eq_false_iff {source target : TypeKey} :
    table.contains source target = false ↔ table.find? source target = none := by
  simp [contains]

namespace Filed

variable {before after : Table} {filing : Filing}

theorem find?_own (filed : Filed before filing after) :
    after.find? filing.source filing.target = some filing.converter := by
  rw [filed.find?_eq]
  exact if_pos ⟨rfl, rfl⟩

/-- The pair that was asked for ends with an entry of its own, whatever it had. -/
theorem isExplicit_own (filed : Filed before filing after) :
    after.IsExplicit filing.source filing.target := by
  refine ⟨by rw [contains, filed.find?_own, Option.isSome_some], ?_⟩
  rw [← Bool.not_eq_true, filed.isDerived_iff]
  rintro ⟨notFor, _⟩
  exact notFor ⟨rfl, rfl⟩

end Filed

@[simp]
theorem isDerived_put (source target left right : TypeKey) (converter : Converter) :
    (table.put source target converter).isDerived left right = table.isDerived left right :=
  rfl

@[simp]
theorem isDerived_mark (source target left right : TypeKey) :
    (table.mark source target).isDerived left right = true ↔
      (source = left ∧ target = right) ∨ table.isDerived left right = true := by
  simp [isDerived, mark, @eq_comm _ left, @eq_comm _ right]

@[simp]
theorem isDerived_unmark (source target left right : TypeKey) :
    (table.unmark source target).isDerived left right = true ↔
      ¬(source = left ∧ target = right) ∧ table.isDerived left right = true := by
  simp only [isDerived, unmark, List.contains_iff_mem, List.mem_filter, decide_eq_true_eq, ne_eq,
    TypePair.mk.injEq, @eq_comm _ left, @eq_comm _ right]
  exact and_comm

theorem find?_put_pair (source target left right : TypeKey) (converter : Converter) :
    (table.put source target converter).find? left right =
      if source = left ∧ target = right then some converter else table.find? left right := by
  rw [find?_put table source target converter ⟨left, right⟩]
  simp only [TypePair.mk.injEq, @eq_comm _ left, @eq_comm _ right]

/-! ### Filing for one ancestor -/

theorem find?_fileAncestor (source requested ancestor left right : TypeKey)
    (converter : Converter) :
    (table.fileAncestor source requested converter ancestor).1.find? left right =
      (table.find? left right).or
        (if source = left ∧ ancestor = right then some converter else none) := by
  unfold fileAncestor
  cases found : table.find? source ancestor with
  | none =>
      rw [find?_mark, find?_put_pair]
      split
      · next same =>
          rw [← same.1, ← same.2, found]
          rfl
      · rw [Option.or_none]
  | some existing =>
      have kept : table.find? left right =
          (table.find? left right).or
            (if source = left ∧ ancestor = right then some converter else none) := by
        split
        · next same => rw [← same.1, ← same.2, found, Option.some_or]
        · rw [Option.or_none]
      dsimp only
      split <;> exact kept

theorem isDerived_fileAncestor (source requested ancestor left right : TypeKey)
    (converter : Converter) :
    (table.fileAncestor source requested converter ancestor).1.isDerived left right = true ↔
      table.isDerived left right = true ∨
        (source = left ∧ ancestor = right) ∧ table.find? left right = none := by
  unfold fileAncestor
  cases found : table.find? source ancestor with
  | none =>
      rw [isDerived_mark, isDerived_put]
      constructor
      · rintro (⟨rfl, rfl⟩ | derived)
        · exact Or.inr ⟨⟨rfl, rfl⟩, found⟩
        · exact Or.inl derived
      · rintro (derived | ⟨same, _⟩)
        · exact Or.inr derived
        · exact Or.inl same
  | some existing =>
      have kept : table.isDerived left right = true ↔
          table.isDerived left right = true ∨
            (source = left ∧ ancestor = right) ∧ table.find? left right = none := by
        constructor
        · exact Or.inl
        · rintro (derived | ⟨⟨rfl, rfl⟩, missing⟩)
          · exact derived
          · rw [found] at missing
            cases missing
      dsimp only
      split <;> exact kept

/-! ### Filing along a chain -/

/-- Filing for the ancestors alone leaves every entry and offers the converter to the others. -/
theorem find?_fileAncestors (source requested left right : TypeKey) (converter : Converter)
    (chain : List TypeKey) :
    (table.fileAncestors source requested converter chain).1.find? left right =
      (table.find? left right).or
        (Filing.offer? ⟨source, requested, converter, chain⟩ left right) := by
  induction chain generalizing table with
  | nil => simp [fileAncestors, Filing.offer?, Filing.Covers]
  | cons ancestor rest ih =>
      rw [fileAncestors]
      split
      · next skipped =>
          rw [ih]
          congr 1
          have sameCover : Filing.Covers ⟨source, requested, converter, rest⟩ left right ↔
              Filing.Covers ⟨source, requested, converter, ancestor :: rest⟩ left right := by
            simp only [Filing.Covers, List.mem_cons]
            grind
          simp only [Filing.offer?, sameCover]
      · next notSkipped =>
          rw [ih, find?_fileAncestor, Option.or_assoc]
          congr 1
          simp only [Filing.offer?, Filing.Covers, List.mem_cons]
          grind

theorem isDerived_fileAncestors (source requested left right : TypeKey) (converter : Converter)
    (chain : List TypeKey) :
    (table.fileAncestors source requested converter chain).1.isDerived left right = true ↔
      table.isDerived left right = true ∨
        Filing.Covers ⟨source, requested, converter, chain⟩ left right ∧
          table.find? left right = none := by
  induction chain generalizing table with
  | nil => simp [fileAncestors, Filing.Covers]
  | cons ancestor rest ih =>
      rw [fileAncestors]
      split
      · next skipped =>
          rw [ih]
          simp only [Filing.Covers, List.mem_cons]
          grind
      · next notSkipped =>
          rw [ih, isDerived_fileAncestor, find?_fileAncestor, Option.or_eq_none_iff]
          simp only [Filing.Covers, List.mem_cons]
          grind

/-! ### Filing for a pair and along the chain -/

/-- A converter is turned away only from a pair that has one of its own. -/
theorem file_eq_none_iff (source target : TypeKey) (converter : Converter)
    (chain : List TypeKey) :
    table.file source target converter chain = none ↔ table.IsExplicit source target := by
  unfold file fileOwn IsExplicit
  cases table.contains source target <;> cases table.isDerived source target <;> simp

/-- Filing for the own pair takes its mark off, which is why marks on missing entries would do
harm: such a pair would keep its mark under a converter of its own. -/
theorem fileOwn_effect {filing : Filing} {after : Table} {events : List Event}
    (marked : table.isDerived filing.source filing.target = true →
      table.contains filing.source filing.target = true)
    (filed : table.fileOwn filing.source filing.target filing.converter = some (after, events))
    (left right : TypeKey) :
    after.find? left right =
        (if filing.IsFor left right then some filing.converter else table.find? left right) ∧
      (after.isDerived left right = true ↔
        ¬filing.IsFor left right ∧ table.isDerived left right = true) := by
  unfold fileOwn at filed
  split at filed
  · split at filed
    · simp only [Option.some.injEq, Prod.mk.injEq] at filed
      rcases filed with ⟨rfl, -⟩
      rw [find?_put_pair, find?_unmark, isDerived_put, isDerived_unmark]
      exact ⟨rfl, Iff.rfl⟩
    · cases filed
  · next missing =>
      simp only [Option.some.injEq, Prod.mk.injEq] at filed
      rcases filed with ⟨rfl, -⟩
      rw [find?_put_pair, isDerived_put]
      refine ⟨rfl, ?_⟩
      constructor
      · intro derived
        refine ⟨?_, derived⟩
        rintro ⟨rfl, rfl⟩
        exact missing (marked derived)
      · exact And.right

theorem filed_of_file {filing : Filing} {after : Table} {events : List Event}
    (marked : ∀ left right, table.isDerived left right = true →
      table.contains left right = true)
    (filed : table.file filing.source filing.target filing.converter filing.chain =
      some (after, events)) : Filed table filing after := by
  simp only [file, Option.map_eq_some_iff, Prod.exists, Prod.mk.injEq] at filed
  rcases filed with ⟨own, ownEvents, ownFiled, rfl, -⟩
  have effect := fileOwn_effect (marked _ _) ownFiled
  constructor
  · intro left right
    rw [find?_fileAncestors, (effect left right).1]
    split
    · exact Option.some_or
    · rfl
  · intro left right
    rw [isDerived_fileAncestors, (effect left right).1, (effect left right).2]
    by_cases isFor : filing.IsFor left right
    · simp [isFor]
    · simp [isFor]

end Table

end Conversion
