import Archiver.Config.Check

namespace Archiver

theorem demand_eq_ok {holds : Bool} {e : ConfigError} : demand holds e = .ok () ↔ holds = true := by
  cases holds <;> simp [demand]

theorem demand_bind_eq_ok {holds : Bool} {e : ConfigError} {rest : Unit → Except ConfigError Unit} :
    (demand holds e >>= rest) = .ok () ↔ holds = true ∧ rest () = .ok () := by
  cases holds with
  | false =>
    constructor
    · intro h
      cases h
    · rintro ⟨h, -⟩
      cases h
  | true => exact (and_iff_right rfl).symm

theorem ok_of_isOk {check : Except ConfigError Unit} (h : check.isOk = true) : check = .ok () := by
  cases check with
  | error e => cases h
  | ok u => rfl

/-- The multiplier of checked settings is a number that is one or more. -/
theorem multiplier_of_check {settings : HarvestSettings} (h : settings.check = .ok ()) :
    settings.multiplier.isFinite = true ∧ ¬ settings.multiplier < 1.0 := by
  obtain ⟨-, h⟩ := demand_bind_eq_ok.mp h
  obtain ⟨-, h⟩ := demand_bind_eq_ok.mp h
  obtain ⟨hmultiplier, -⟩ := demand_bind_eq_ok.mp h
  simpa using hmultiplier

end Archiver
