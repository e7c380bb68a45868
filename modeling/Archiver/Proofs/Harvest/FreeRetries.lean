import Archiver.Proofs.Config.Demands
import Archiver.Proofs.Discovery.Tries
import Archiver.Proofs.Fetch.PowerRange
import Archiver.Proofs.Harvest.RetryLaw

namespace Archiver

open Float.Model

/-- True of a retry whose power of the multiplier is beyond all numbers. -/
def RetryPolicy.overflows (p : RetryPolicy) (retry : Nat) : Bool :=
  !(power p.multiplier (min retry 2147483647)).isFinite

/-- The milliseconds before a retry where there is no base delay: none, or the thirty years that
stand for the longest wait. -/
def RetryPolicy.idleMillis (p : RetryPolicy) (retry : Nat) : Nat :=
  if p.overflows retry then 946080000000 else 0

/-- A worker that is to try again from a step on waits for as long as its number of retries says. -/
def Stride.Waits (millis : Nat → Nat) (x : Stride) : Prop :=
  ∀ w due reply, x.result = .ok w → w.phase = .backingOff due reply →
    x.after = x.before ∧ due = x.before.now + millis w.retries

section Policy

variable {p : RetryPolicy} {retry : Nat}

/-- Nothing times a number is nothing, and nothing times the infinity is no number. -/
theorem seconds_cases (hbase : p.baseMillis = 0) (hfinite : p.multiplier.isFinite = true)
    (hone : ¬ p.multiplier < 1.0) (retry : Nat) :
    (p.overflows retry = false ∧ p.seconds retry = 0.0) ∨
      (p.overflows retry = true ∧ p.seconds retry = ⟨pack .notANumber⟩) := by
  have hpower := tracks_power hfinite hone (min retry 2147483647)
  have hzero : (secondsOfMillis 0).toModel.unpack = .zero .positive := rfl
  have hseconds : p.seconds retry = ⟨pack (UnpackedFloat.mul .binary64
      (secondsOfMillis p.baseMillis).toModel.unpack
      (power p.multiplier (min retry 2147483647)).toModel.unpack)⟩ := rfl
  rw [hbase, hzero] at hseconds
  unfold RetryPolicy.overflows
  rw [isFinite_eq]
  cases hunpack : (power p.multiplier (min retry 2147483647)).toModel.unpack with
  | infinity s =>
    rw [hunpack] at hseconds
    exact Or.inr ⟨rfl, hseconds⟩
  | finite s m e hm =>
    rw [hunpack] at hpower hseconds
    obtain ⟨rfl, -⟩ := hpower
    exact Or.inl ⟨rfl, hseconds⟩
  | zero s =>
    rw [hunpack] at hpower
    exact hpower.elim
  | notANumber =>
    rw [hunpack] at hpower
    exact hpower.elim

theorem wait_noBase (hbase : p.baseMillis = 0) (hfinite : p.multiplier.isFinite = true)
    (hone : ¬ p.multiplier < 1.0) (retry : Nat) :
    p.wait? retry = some (if p.overflows retry then longestWait else 0) := by
  unfold RetryPolicy.wait?
  rcases seconds_cases hbase hfinite hone retry with ⟨hroom, hseconds⟩ | ⟨hover, hseconds⟩
  · rw [hseconds, hroom]
    decide +kernel
  · rw [hseconds, hover]
    decide +kernel

theorem waitMillis_noBase (hbase : p.baseMillis = 0) (hfinite : p.multiplier.isFinite = true)
    (hone : ¬ p.multiplier < 1.0) (retry : Nat) : p.waitMillis retry = p.idleMillis retry := by
  rw [RetryPolicy.waitMillis, wait_noBase hbase hfinite hone, RetryPolicy.idleMillis]
  cases p.overflows retry <;> decide

theorem overflows_eq_false (hfinite : p.multiplier.isFinite = true) (hone : ¬ p.multiplier < 1.0)
    (h : magnitude p.multiplier ^ min retry 2147483647 < 2 ^ 1023) : p.overflows retry = false := by
  rw [RetryPolicy.overflows, power_finite hfinite hone (Nat.min_le_right _ _) h]
  rfl

theorem overflows_eq_true (hfinite : p.multiplier.isFinite = true) (hone : ¬ p.multiplier < 1.0)
    (h : 2 ^ 1025 ≤ magnitude p.multiplier ^ min retry 2147483647) : p.overflows retry = true := by
  rw [RetryPolicy.overflows, power_infinite hfinite hone (Nat.min_le_right _ _) h]
  rfl

end Policy

section Worker

variable {plan : Plan} {around : Surroundings} {ticket : Nat} {url : CanonicalUrl}
  {strides : List Stride} {result : Except WorkerEnd Worker} {heed : Bool} {w w' : Worker}
  {s s' : Shared} {due : Nat} {reply : Reply}

theorem receive_waits {response : Response}
    (h : w.receive plan.policy heed s response = .ok w') (hp : w'.phase = .backingOff due reply) :
    due = s.now + plan.policy.waitMillis w'.retries := by
  unfold Worker.receive at h
  split at h
  · cases h
  split at h
  · cases h
    cases hp
  split at h
  · cases h
  split at h
  · cases h
  · next wait hwait =>
    split at h
    · cases h
      cases hp
    · cases h
      cases hp
      rw [RetryPolicy.waitMillis, hwait]
      rfl

theorem attempt_phase {v : Worker} (h : v.attempt s = (s', .ok w')) :
    w'.phase ≠ .backingOff due reply := by
  unfold Worker.attempt at h
  split at h
  · cases h
  · cases h
    exact nofun

/-- A worker begins to wait for another try where it takes an answer, and nowhere else. -/
theorem step_waits (h : w.step plan around heed s = some (s', .ok w'))
    (hp : w'.phase = .backingOff due reply) :
    s' = s ∧ due = s.now + plan.policy.waitMillis w'.retries := by
  unfold Worker.step at h
  split at h
  · exact absurd hp (attempt_phase (Option.some.inj h))
  · split at h
    · cases h
      cases hp
    · cases h
  · split at h
    · have hreceive := Option.some.inj h
      rw [Prod.mk.injEq] at hreceive
      exact ⟨hreceive.1.symm, receive_waits hreceive.2 hp⟩
    · cases h
  · unfold Worker.wake at h
    split at h
    · cases h
      cases hp
    split at h
    · exact absurd hp (attempt_phase (Option.some.inj h))
    · cases h
  · unfold Worker.settle at h
    simp only at h
    split at h
    · cases h
    · cases h
      cases hp
  · cases h

/-- All waits of a worker have the length that the policy gives them. -/
theorem waits_of_life (h : Worker.Life plan around ticket url strides result) :
    ∀ x ∈ strides, x.Waits plan.policy.waitMillis := by
  induction h with
  | start => exact fun _ hx => absurd hx List.not_mem_nil
  | step life made ih =>
    refine List.forall_mem_append.mpr ⟨ih, List.forall_mem_singleton.mpr ?_⟩
    rintro w' due reply rfl hp
    exact step_waits made hp

end Worker

/-- Without a base delay a retry does not wait while the power of the multiplier is a number, and
waits as long as a wait can be where it is none. The first is the case as long as the exact power is
below `2 ^ 1023`, the second where it is `2 ^ 1025` or more. So do the workers of a run and the
loading of a page. -/
theorem no_base_waits {p : RetryPolicy} (hbase : p.baseMillis = 0)
    (hfinite : p.multiplier.isFinite = true) (hone : ¬ p.multiplier < 1.0) :
    (∀ retry, p.wait? retry = some (if p.overflows retry then longestWait else 0)) ∧
    (∀ retry, magnitude p.multiplier ^ min retry 2147483647 < 2 ^ 1023 →
      p.overflows retry = false) ∧
    (∀ retry, 2 ^ 1025 ≤ magnitude p.multiplier ^ min retry 2147483647 →
      p.overflows retry = true) ∧
    (∀ plan around ticket url strides result, plan.policy = p →
      Worker.Life plan around ticket url strides result → ∀ x ∈ strides, x.Waits p.idleMillis) ∧
    (∀ site url c n, (Client.tried site p url c (n + 1)).now =
      ((c.tried site p url n).pace.fetch site url).1.now + p.idleMillis n) := by
  have hidle : p.waitMillis = p.idleMillis := funext (waitMillis_noBase hbase hfinite hone)
  refine ⟨wait_noBase hbase hfinite hone, fun _ => overflows_eq_false hfinite hone,
    fun _ => overflows_eq_true hfinite hone, ?_, ?_⟩
  · rintro plan around ticket url strides result rfl life
    exact hidle ▸ waits_of_life life
  · intro site url c n
    rw [Client.tried, hidle]
    rfl

def doublingPolicy : RetryPolicy := ⟨0, 2.0, 3000⟩

theorem magnitude_two : magnitude 2.0 = 2 := by
  have hread : Dyadic.ofFloat? 2.0 = some ⟨false, 2 ^ 52, -51⟩ := by decide +kernel
  rw [magnitude, hread]
  norm_num

theorem no_base_waits_doubling :
    (doublingPolicy.baseMillis = 0 ∧ doublingPolicy.multiplier.isFinite = true ∧
      ¬ doublingPolicy.multiplier < 1.0) ∧
    (∀ retry < 1023, doublingPolicy.wait? retry = some 0) ∧
    (∀ retry, 1025 ≤ retry → doublingPolicy.wait? retry = some longestWait) ∧
    ∀ c, (Client.tried deadSite doublingPolicy "https://a.test/" c 1).now =
      (c.pace.fetch deadSite "https://a.test/").1.now := by
  have hfinite : doublingPolicy.multiplier.isFinite = true := by decide
  have hone : ¬ doublingPolicy.multiplier < 1.0 := by decide
  obtain ⟨hwait, hroom, hover, -, hpage⟩ := no_base_waits (p := doublingPolicy) rfl hfinite hone
  have hvalue : magnitude doublingPolicy.multiplier = 2 := magnitude_two
  refine ⟨⟨rfl, hfinite, hone⟩, fun retry hretry => ?_, fun retry hretry => ?_, fun c => ?_⟩
  · rw [hwait, hroom retry ?_]
    · rfl
    · rw [hvalue]
      exact pow_lt_pow_right₀ one_lt_two (by omega)
  · rw [hwait, hover retry ?_]
    · rfl
    · rw [hvalue]
      exact pow_le_pow_right₀ one_le_two (by omega)
  · have hidle : doublingPolicy.idleMillis 0 = 0 := by decide +kernel
    rw [hpage, hidle]
    rfl

/-- Settings without a base delay, with a multiplier that is nearly the largest number. -/
def soaringSettings : HarvestSettings :=
  { (default : HarvestSettings) with
    baseDelay := 0, multiplier := 1e308, maxRetries := 3, batchSize := 1, workers := 1
    saveInterval := 1, leastContent := 1, timeout := 1 }

/-- Settings that pass every check leave a wait of thirty years before the third retry, and as long
it takes until a page is given up. -/
theorem free_retry_blocks :
    soaringSettings.check.isOk = true ∧
    RetryPolicy.wait? ⟨0, soaringSettings.multiplier, soaringSettings.maxRetries⟩ 2 =
      some longestWait ∧
    (Client.load deadSite ⟨0, soaringSettings.multiplier, soaringSettings.maxRetries⟩ (.start 0)
      "https://a.test/").1.now = 946080000000 := by
  decide +kernel

end Archiver
