import Signalgrid.Proofs.Control.Verdicts

set_option autoImplicit false

namespace Signalgrid.Settings

structure Documented (s : Settings) : Prop where
  sound : s.Sound
  speeds : s.thresholds.congestionSpeedMax ≤ s.thresholds.normalSpeedMin

/-- Besides the documented settings, those are accepted in which a speed that is compared
is no number. -/
theorem validate_exact (s : Settings) :
    let low := s.thresholds.normalSpeedMin
    let high := s.thresholds.congestionSpeedMax
    (s.validate = .ok () ↔ s.Sound ∧ (high ≤ low ∨ low.isNaN = true ∨ high.isNaN = true)) ∧
      (s.Documented ↔ s.validate = .ok () ∧ low.isNaN = false ∧ high.isNaN = false) := by
  intro low high
  have accepted : s.validate = .ok () ↔ s.Sound ∧ (high ≤ low ∨ low.isNaN = true ∨ high.isNaN = true) := by
    rw [validate_ok, Speed.not_lt_iff]
  refine ⟨accepted, ?_⟩
  rw [accepted]
  constructor
  · rintro ⟨sound, speeds⟩
    obtain ⟨highNumber, lowNumber⟩ := Speed.numbers_of_le speeds
    exact ⟨⟨sound, .inl speeds⟩, lowNumber, highNumber⟩
  · rintro ⟨⟨sound, speeds | lowNone | highNone⟩, lowNumber, highNumber⟩
    · exact ⟨sound, speeds⟩
    · exact absurd (lowNone.symm.trans lowNumber) (by decide)
    · exact absurd (highNone.symm.trans highNumber) (by decide)

theorem unnumbered_speed_accepted :
    let s : Settings := { thresholds := { normalSpeedMin := 0.0 / 0.0 } }
    s.validate = .ok () ∧ s.Sound ∧ ¬ s.Documented ∧
      ∀ snapshot, s.thresholds.judge snapshot ≠ .normal := by
  intro s
  have accepted : s.validate = .ok () := validate_isOk.mp (by decide +kernel)
  have unnumbered : s.thresholds.normalSpeedMin.isNaN = true := by decide
  refine ⟨accepted, (validate_ok.mp accepted).1, fun documented => ?_, fun snapshot => ?_⟩
  · have number := (Speed.numbers_of_le documented.speeds).2
    exact absurd (unnumbered.symm.trans number) (by decide)
  · exact Thresholds.judge_unnumbered unnumbered

end Signalgrid.Settings
