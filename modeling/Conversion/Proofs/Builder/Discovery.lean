import Mathlib.Data.List.Nodup
import Mathlib.Data.String.Basic
import Conversion.Proofs.Builder.Assembly

/-!
# Discovery

Registrars are submitted in no particular order. If no two of them have both ordinal and name in
common, their order of discovery is a strict one (`Registrar.Before`), and a list that is sorted
strictly is the same for all orders of submission.

A builder takes discovered registrars from first to last and keeps the first of each name. Along the
order of discovery that is the one with the lowest ordinal (`withRegistrars_of_before`). The main
statement is `discovery_ignores_submission`.
-/

namespace Conversion

namespace Registrar

/-- The order of discovery: by ordinal and then by name. -/
def Before (left right : Registrar) : Prop :=
  left.ordinal < right.ordinal ∨ left.ordinal = right.ordinal ∧ left.name < right.name

variable {left right : Registrar} {submitted : List Registrar}

theorem Before.ordinal_le (before : left.Before right) : left.ordinal ≤ right.ordinal := by
  rcases before with lower | ⟨same, _⟩
  · exact UInt16.le_of_lt lower
  · exact UInt16.le_of_eq same

theorem Before.ordinal_lt_of_name_eq (before : left.Before right)
    (sameName : left.name = right.name) : left.ordinal < right.ordinal := by
  rcases before with lower | ⟨_, lower⟩
  · exact lower
  · exact absurd lower (by simp [sameName])

theorem precedes_iff :
    left.precedes right = true ↔
      left.ordinal < right.ordinal ∨ left.ordinal = right.ordinal ∧ left.name ≤ right.name := by
  simp [precedes]

theorem precedes_trans {middle : Registrar} (lower : left.precedes middle = true)
    (upper : middle.precedes right = true) : left.precedes right = true := by
  rw [precedes_iff] at lower upper ⊢
  grind

theorem precedes_total (left right : Registrar) :
    (left.precedes right || right.precedes left) = true := by
  rw [Bool.or_eq_true, precedes_iff, precedes_iff]
  grind

/-- What registrars are ordered by. -/
def place (registrar : Registrar) : UInt16 × String :=
  (registrar.ordinal, registrar.name)

theorem place_eq_of_precedes (forth : left.precedes right = true)
    (back : right.precedes left = true) : left.place = right.place := by
  rw [precedes_iff] at forth back
  simp only [place, Prod.mk.injEq]
  grind

theorem before_of_precedes (precedes : left.precedes right = true)
    (apart : left.place ≠ right.place) : left.Before right := by
  rw [precedes_iff] at precedes
  simp only [place, ne_eq, Prod.mk.injEq] at apart
  simp only [Before]
  grind

theorem perm_discovered (submitted : List Registrar) : (discovered submitted).Perm submitted :=
  List.mergeSort_perm submitted precedes

theorem pairwise_discovered (submitted : List Registrar) :
    (discovered submitted).Pairwise fun left right => left.precedes right = true := by
  apply List.pairwise_mergeSort
  · intro left middle right lower upper
    exact precedes_trans lower upper
  · exact precedes_total

section

variable (distinct : (submitted.map place).Nodup)

include distinct

theorem pairwise_before_discovered : (discovered submitted).Pairwise Before := by
  have apart : (discovered submitted).Pairwise fun left right => left.place ≠ right.place := by
    apply List.pairwise_map.mp
    exact ((perm_discovered submitted).map place).nodup_iff.mpr distinct
  refine ((pairwise_discovered submitted).and apart).imp ?_
  rintro left right ⟨precedes, differ⟩
  exact before_of_precedes precedes differ

theorem discovered_eq_of_perm {resubmitted : List Registrar}
    (permuted : resubmitted.Perm submitted) : discovered resubmitted = discovered submitted := by
  have samePlaces := (perm_discovered resubmitted).trans permuted
  have permutedToo := samePlaces.trans (perm_discovered submitted).symm
  refine List.Perm.eq_of_pairwise ?_ (pairwise_discovered resubmitted)
    (pairwise_discovered submitted) permutedToo
  intro left right leftMem rightMem forth back
  apply List.inj_on_of_nodup_map distinct
  · exact samePlaces.subset leftMem
  · exact (perm_discovered submitted).subset rightMem
  · exact place_eq_of_precedes forth back

end

end Registrar

namespace Builder

open Registrar

/-- Whether a registrar that is offered among others is kept: its name is not known, and no other
one of its name has a lower ordinal. -/
def keeps (known offered : List Registrar) (registrar : Registrar) : Bool :=
  known.all (·.name ≠ registrar.name) &&
    offered.all fun other => other.name ≠ registrar.name || registrar.ordinal ≤ other.ordinal

theorem keeps_iff {known offered : List Registrar} {registrar : Registrar} :
    keeps known offered registrar = true ↔
      (∀ other ∈ known, other.name ≠ registrar.name) ∧
        ∀ other ∈ offered, other.name = registrar.name → registrar.ordinal ≤ other.ordinal := by
  simp [keeps, or_iff_not_imp_left]

theorem withRegistrars_of_before {builder : Builder} {offered : List Registrar}
    (ordered : offered.Pairwise Before) :
    (builder.withRegistrars offered).1 =
      { builder with
        registrars :=
          builder.registrars ++ offered.filter (keeps builder.registrars offered) } := by
  induction offered generalizing builder with
  | nil => simp [withRegistrars]
  | cons registrar rest ih =>
      rw [List.pairwise_cons] at ordered
      rcases ordered with ⟨first, ordered⟩
      rw [withRegistrars_cons, ih ordered]
      by_cases known : builder.registrars.any (·.name = registrar.name) = true
      · have head : keeps builder.registrars (registrar :: rest) registrar = false := by
          rw [Bool.eq_false_iff, ne_eq, keeps_iff]
          grind
        have tail : ∀ other ∈ rest, keeps builder.registrars rest other =
            keeps builder.registrars (registrar :: rest) other := by
          intro other _
          rw [Bool.eq_iff_iff, keeps_iff, keeps_iff]
          grind
        simp [withRegistrar, known, head, List.filter_congr tail]
      · have head : keeps builder.registrars (registrar :: rest) registrar = true := by
          rw [keeps_iff]
          constructor
          · simpa using known
          · intro other otherMem _
            rcases List.mem_cons.mp otherMem with rfl | inRest
            · exact UInt16.le_refl _
            · exact (first other inRest).ordinal_le
        have tail : ∀ other ∈ rest, keeps (builder.registrars ++ [registrar]) rest other =
            keeps builder.registrars (registrar :: rest) other := by
          intro other otherMem
          have lower := (first other otherMem).ordinal_lt_of_name_eq
          rw [Bool.eq_iff_iff, keeps_iff, keeps_iff]
          have apart : registrar.name ≠ other.name ↔
              (registrar.name = other.name → other.ordinal ≤ registrar.ordinal) := by
            constructor
            · exact fun differ same => absurd same differ
            · exact fun least same => absurd (lower same) (UInt16.not_lt.mpr (least same))
          simp [or_imp, forall_and, apart, and_assoc]
        simp [withRegistrar, known, head, List.filter_congr tail]

/-- The order of submission does not matter if no two registrars have both ordinal and name in
common. They are discovered in one order, which is strict, and a builder is left the same by them:
of those that share a name it adds the one with the lowest ordinal, and none if it has the name. -/
theorem discovery_ignores_submission (builder : Builder) (submitted resubmitted : List Registrar)
    (distinct : (submitted.map place).Nodup) (permuted : resubmitted.Perm submitted) :
    discovered resubmitted = discovered submitted ∧
      (discovered submitted).Perm submitted ∧
      (discovered submitted).Pairwise Before ∧
      builder.withDiscovered resubmitted = builder.withDiscovered submitted ∧
      ∃ added,
        (builder.withDiscovered submitted).1 =
            { builder with registrars := builder.registrars ++ added } ∧
          added.Sublist (discovered submitted) ∧
          ∀ registrar, registrar ∈ added ↔
            registrar ∈ submitted ∧
              (∀ known ∈ builder.registrars, known.name ≠ registrar.name) ∧
              ∀ other ∈ submitted, other.name = registrar.name →
                registrar.ordinal ≤ other.ordinal := by
  have same := discovered_eq_of_perm distinct permuted
  have samePlaces := perm_discovered submitted
  have ordered := pairwise_before_discovered distinct
  refine ⟨same, samePlaces, ordered, ?_, ?_⟩
  · simp only [withDiscovered, same]
  · refine ⟨_, withRegistrars_of_before ordered, List.filter_sublist, ?_⟩
    intro registrar
    simp only [List.mem_filter, keeps_iff, samePlaces.mem_iff]

/-- Of the name `early`, and discovered after the registrar that has the name. -/
def secondEarly : Registrar :=
  ⟨"early", 15, [.fail (.sameType .bool)]⟩

theorem discovery_ignores_submission_of_known :
    let builder : Builder := { registrars := [ownLate] }
    let submitted := [late, secondEarly, early]
    let resubmitted := [early, late, secondEarly]
    discovered resubmitted = discovered submitted ∧
      builder.withDiscovered resubmitted = builder.withDiscovered submitted ∧
      ∃ added, (builder.withDiscovered submitted).1.registrars = ownLate :: added ∧
        early ∈ added ∧ secondEarly ∉ added ∧ late ∉ added := by
  intro builder submitted resubmitted
  have distinct : (submitted.map place).Nodup := by decide
  have permuted : resubmitted.Perm submitted :=
    (List.perm_append_comm : ([early] ++ [late, secondEarly]).Perm ([late, secondEarly] ++ [early]))
  rcases discovery_ignores_submission builder submitted resubmitted distinct permuted with
    ⟨same, _, _, sameBuilder, added, final, _, addedIff⟩
  refine ⟨same, sameBuilder, added, ?_, ?_, ?_, ?_⟩
  · rw [final]
    rfl
  · rw [addedIff]
    simp [builder, submitted, early, late, secondEarly, ownLate]
  · rw [addedIff]
    simp [builder, submitted, early, late, secondEarly, ownLate]
  · rw [addedIff]
    simp [builder, ownLate, late]

end Builder

end Conversion
