import Conversion.Event

/-!
# The converter table

The table has a row for each source and in it at most one converter for each target. A converter
filed for a pair also serves the ancestors of the target that the source has no entry for; those
pairs are marked as derived. A derived entry gives way to a converter filed for its own pair, and no
other entry is ever replaced.
-/

namespace Conversion

/-- Converters by source and target, with the pairs whose entry is derived. -/
structure Table where
  rows : KeyMap (KeyMap Converter)
  derived : List TypePair

namespace Table

/-- The table without entries. -/
def empty : Table :=
  ⟨∅, []⟩

instance : EmptyCollection Table :=
  ⟨empty⟩

instance : Inhabited Table :=
  ⟨empty⟩

/-- The entries of a source. -/
def row (table : Table) (source : TypeKey) : KeyMap Converter :=
  (table.rows.find? source).getD ∅

/-- The converter of a pair. -/
def find? (table : Table) (source target : TypeKey) : Option Converter :=
  (table.rows.find? source).bind (·.find? target)

/-- Whether a pair has a converter. -/
def contains (table : Table) (source target : TypeKey) : Bool :=
  (table.find? source target).isSome

/-- Whether the entry of a pair is marked as derived. -/
def isDerived (table : Table) (source target : TypeKey) : Bool :=
  table.derived.contains ⟨source, target⟩

/-- Number of entries. -/
def size (table : Table) : Nat :=
  table.rows.toList.foldr (fun row total => row.2.size + total) 0

/-- The entries of a row with its source. -/
def rowEntries (source : TypeKey) (row : KeyMap Converter) : List (TypePair × Converter) :=
  row.toList.map fun entry => (⟨source, entry.1⟩, entry.2)

/-- All entries. -/
def toList (table : Table) : List (TypePair × Converter) :=
  table.rows.toList.flatMap fun row => rowEntries row.1 row.2

/-- Puts a converter under a pair and leaves the marks alone. -/
def put (table : Table) (source target : TypeKey) (converter : Converter) : Table :=
  { table with rows := table.rows.insert source ((table.row source).insert target converter) }

/-- Marks a pair as derived. -/
def mark (table : Table) (source target : TypeKey) : Table :=
  { table with derived := table.derived.insert ⟨source, target⟩ }

/-- Takes the mark off a pair. -/
def unmark (table : Table) (source target : TypeKey) : Table :=
  { table with derived := table.derived.filter (· ≠ ⟨source, target⟩) }

/-- Files a converter for its own pair, unless the pair has an entry that is not derived. -/
def fileOwn (table : Table) (source target : TypeKey) (converter : Converter) :
    Option (Table × List Event) :=
  if table.contains source target then
    if table.isDerived source target then
      some ((table.unmark source target).put source target converter, [.replaced source target])
    else none
  else some (table.put source target converter, [.registered source target])

/-- Files a converter, requested for some target, for one ancestor of that target. An entry that is
there stays, and is reported when it is a different converter. -/
def fileAncestor (table : Table) (source requested : TypeKey) (converter : Converter)
    (ancestor : TypeKey) : Table × List Event :=
  match table.find? source ancestor with
  | none =>
      ((table.put source ancestor converter).mark source ancestor, [.registered source ancestor])
  | some existing =>
      if existing.identity = converter.identity then (table, [])
      else (table, [.kept source ancestor requested])

/-- Files a converter for the ancestors of its target along their chain, leaving out the target and
the source. -/
def fileAncestors (table : Table) (source requested : TypeKey) (converter : Converter) :
    List TypeKey → Table × List Event
  | [] => (table, [])
  | ancestor :: rest =>
      if ancestor = requested ∨ ancestor = source then
        table.fileAncestors source requested converter rest
      else
        let (filed, events) := table.fileAncestor source requested converter ancestor
        let (final, later) := filed.fileAncestors source requested converter rest
        (final, events ++ later)

/-- Files a converter for a pair and for the ancestors of the target, given their chain. -/
def file (table : Table) (source target : TypeKey) (converter : Converter)
    (chain : List TypeKey) : Option (Table × List Event) :=
  (table.fileOwn source target converter).map fun (filed, events) =>
    let (final, later) := filed.fileAncestors source target converter chain
    (final, events ++ later)

theorem row_put (table : Table) (source target other : TypeKey) (converter : Converter) :
    (table.put source target converter).row other =
      if source = other then (table.row source).insert target converter else table.row other := by
  simp only [row, put, KeyMap.find?_insert]
  split <;> rfl

theorem find?_eq_row (table : Table) (source target : TypeKey) :
    table.find? source target = (table.row source).find? target := by
  unfold find? row
  cases table.rows.find? source <;> rfl

theorem find?_put (table : Table) (source target : TypeKey) (converter : Converter)
    (pair : TypePair) :
    (table.put source target converter).find? pair.source pair.target =
      if pair = ⟨source, target⟩ then some converter else table.find? pair.source pair.target := by
  rcases pair with ⟨left, right⟩
  simp only [find?_eq_row, row_put, TypePair.mk.injEq]
  by_cases sameSource : source = left
  · subst sameSource
    by_cases sameTarget : target = right
    · subst sameTarget
      simp
    · simp [KeyMap.find?_insert, sameTarget, Ne.symm sameTarget]
  · simp [sameSource, Ne.symm sameSource]

@[simp]
theorem find?_mark (table : Table) (source target left right : TypeKey) :
    (table.mark source target).find? left right = table.find? left right :=
  rfl

@[simp]
theorem find?_unmark (table : Table) (source target left right : TypeKey) :
    (table.unmark source target).find? left right = table.find? left right :=
  rfl

end Table

end Conversion
