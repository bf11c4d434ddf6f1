import Conversion.Registry.Basic

/-!
# Lookup

Three levels of lookup, from the strictest: the entry of the very pair, the entry of the closest
ancestor of the source, and the first rule that serves the pair. `Registry.find` goes through them
in this order and reports when it had to leave the first. In debug mode a lookup by ancestors also
reports when several ancestors could serve it.
-/

namespace Conversion.Registry

/-- The converter filed under the very pair. -/
def exact (source target : TypeKey) : Action (Option Converter) := fun registry =>
  ⟨registry.table.find? source target, registry, []⟩

/-- The types of a chain that have an entry for the target. When the source itself has one, no other
counts. -/
def candidates (table : Table) (source target : TypeKey) : List TypeKey → List TypeKey
  | [] => []
  | key :: rest =>
      if table.contains key target then
        if key = source then [key] else key :: candidates table source target rest
      else candidates table source target rest

/-- Reports several candidates along the chain of a source, when the options ask for it. -/
def reportAmbiguity (source target : TypeKey) (chain : List TypeKey) : Action Unit :=
  fun registry =>
    if registry.options.debugMode then
      let found := candidates registry.table source target chain
      ⟨(), registry, if 1 < found.length then [.ambiguous source target found] else []⟩
    else ⟨(), registry, []⟩

/-- The converter filed for the target under the source or its closest ancestor that has one. -/
def byAncestor (source target : TypeKey) : Action (Option Converter) := do
  let chain ← Action.query (·.ancestors source)
  reportAmbiguity source target chain
  fun registry => ⟨chain.findSome? (registry.table.find? · target), registry, []⟩

/-- The first rule that serves the pair. -/
def byRule (source target : TypeKey) : Action (Option Converter) := fun registry =>
  let (rule, types) := registry.rules.find source target registry.types
  ⟨rule.map Rule.toConverter, { registry with types }, []⟩

/-- The converter for a pair by the first level that has one. -/
def find (source target : TypeKey) : Action (Option Converter) := do
  match ← exact source target with
  | some converter => return some converter
  | none =>
      match ← byAncestor source target with
      | some converter =>
          Action.report [.resolvedByAncestor source target]
          return some converter
      | none =>
          match ← byRule source target with
          | some converter =>
              Action.report [.resolvedByRule source target]
              return some converter
          | none => return none

end Conversion.Registry
