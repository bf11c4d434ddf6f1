import Conversion.Converter
import Conversion.Text.Quoted

/-!
# Events

Operations report what they did and what looks odd. An event is a closed case with the types it is
about; its severity, its wording and its fields are functions of it.
-/

namespace Conversion

/-- How severe an event is. -/
inductive Severity where
  | warning
  | debug
  | trace
  deriving DecidableEq

/-- The label of a severity. -/
def Severity.label : Severity → String
  | warning => "WARN"
  | debug => "DEBUG"
  | trace => "TRACE"

/-- Something that an operation reports. -/
inductive Event where
  /-- A converter was offered for two types of which one is assignable to the other. -/
  | redundant (source target : TypeKey)
  /-- A pair got its first converter. -/
  | registered (source target : TypeKey)
  /-- A pair that had a derived converter got one of its own. -/
  | replaced (source target : TypeKey)
  /-- An ancestor of the requested target keeps the other converter that it has. -/
  | kept (source ancestor requested : TypeKey)
  /-- More than one ancestor of the source could serve a lookup. -/
  | ambiguous (source target : TypeKey) (candidates : List TypeKey)
  | ruleRegistered (kind : RuleKind)
  | initialized (converters rules : Nat)
  | registrarSkipped (name : String)
  | resolvedByAncestor (source target : TypeKey)
  | resolvedByRule (source target : TypeKey)
  deriving DecidableEq

namespace Event

/-- The severity of an event. -/
def severity : Event → Severity
  | redundant .. => .warning
  | registered .. => .debug
  | replaced .. => .debug
  | kept .. => .warning
  | ambiguous .. => .warning
  | ruleRegistered .. => .debug
  | initialized .. => .debug
  | registrarSkipped .. => .debug
  | resolvedByAncestor .. => .trace
  | resolvedByRule .. => .trace

/-- The wording of an event. -/
def message : Event → String
  | redundant .. => "no type converter needed: types are assignable"
  | registered .. => "registered type converter"
  | replaced .. => "replaced derived type converter"
  | kept .. => "ancestor already has a converter; keeping the existing one"
  | ambiguous .. => "fuzzy type converter lookup is ambiguous"
  | ruleRegistered .. => "registered type converter rule"
  | initialized .. => "type converter registry initialized"
  | registrarSkipped .. => "registrar already added; skipping"
  | resolvedByAncestor .. => "resolved via fuzzy lookup"
  | resolvedByRule .. => "resolved via rule"

/-- The fields of an event: their names with their texts. -/
def fields : Event → List (String × String)
  | redundant source target => ends source target
  | registered source target => ends source target
  | replaced source target => ends source target
  | kept source ancestor requested => ends source ancestor ++ [("requested", requested.name)]
  | ambiguous source target candidates =>
      ends source target ++
        [("matches", Text.quoteList (candidates.map fun key => (TypePair.mk key target).display))]
  | ruleRegistered kind => [("kind", kind.name)]
  | initialized converters rules =>
      [("converters", toString converters), ("rules", toString rules)]
  | registrarSkipped name => [("name", name)]
  | resolvedByAncestor source target => ends source target
  | resolvedByRule source target => ends source target
where
  /-- The two ends of a pair as fields. -/
  ends (source target : TypeKey) : List (String × String) :=
    [("from", source.name), ("to", target.name)]

end Event

end Conversion
