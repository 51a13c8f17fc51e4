import AthenaContext.CorrelationIndex
import Mathlib

/-!
# Injective hypothesis digests

The engine's results hold for every digest that ignores the rank and is
injective on the rest of a hypothesis. Such digests exist: hypotheses are
countable, so the number of a hypothesis in an enumeration is one.
-/

namespace AthenaContext.CorrelationDigests

open CorrelationRules CorrelationEvidence CorrelationEngine CorrelationIndex

/-- Texts are lists of character codes. -/
theorem toNats_injective : Function.Injective fun s : String => s.toList.map Char.toNat := by
  intro s t h
  have hinj : Function.Injective Char.toNat := fun _ _ hc => Char.toNat_inj.mp hc
  exact String.toList_inj.mp (List.map_injective_iff.mpr hinj h)

instance countableString : Countable String := toNats_injective.countable

deriving instance Countable for EvidenceFamily, ConfidenceLevel, RootCauseCategory,
  CorrelationGateCode, ContradictionCode, MissingEvidenceCode, ConfidenceCapCode, ConfidenceCap,
  VersionPinnedBlobReference, CorrelationGate, Detail, CorrelationContradiction,
  MissingCorrelationEvidence, CorrelationScoreComponents

deriving instance Countable for CorrelationEvidenceCitation

deriving instance Countable for RootCauseHypothesis

/-- An enumeration of the hypotheses. -/
noncomputable def hypothesisNumber : RootCauseHypothesis → ℕ :=
  Classical.choose (Countable.exists_injective_nat RootCauseHypothesis)

theorem hypothesisNumber_injective : Function.Injective hypothesisNumber :=
  Classical.choose_spec (Countable.exists_injective_nat RootCauseHypothesis)

/-- The decimal number of a hypothesis, its rank set aside, as its digest. -/
noncomputable def enumerationDigest : HypothesisDigest where
  digest h := (hypothesisNumber { h with rank := 1 }).repr
  rank_blind _ _ := rfl
  injective _ _ h := hypothesisNumber_injective (repr_inj.mp h)

end AthenaContext.CorrelationDigests
