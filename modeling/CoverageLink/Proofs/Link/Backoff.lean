import CoverageLink.Link.Backoff
import CoverageLink.Proofs.Interval

/-!
# Delays grow

In nanoseconds a delay is a minimum, of the cap and a multiple of the base (`nanos_delay`).  A
multiple that is no interval is longer than any cap, so taking the cap instead is no exception to
the rule (`cap_lt_of_times?_eq_none`).  The factor grows with the failures, and with it the delay
(`nanos_delay_mono`).

A program has no numbers without limit, and counts in words.  It comes to the same
(`interval_delayInWords`): that the factor is a word is no limit, because it is less than ten.
-/

namespace CoverageLink
namespace Link
namespace Backoff

theorem factor_mono {fewer more : Nat} (le : fewer ≤ more) : factor fewer ≤ factor more := by
  unfold factor
  split <;> split <;> omega

/-- A multiple that is no interval is longer than the cap. -/
theorem cap_lt_of_times?_eq_none {backoff : Backoff} {factor : Nat}
    (overflow : backoff.base.times? factor = none) :
    backoff.cap.nanos < backoff.base.nanos * factor := by
  have long : UInt64.size * 1000000000 ≤ backoff.base.nanos * factor := by
    simpa [Interval.times?, Interval.ofNanos?] using overflow
  exact Nat.lt_of_lt_of_le backoff.cap.nanos_lt long

/-- **The delay in nanoseconds**, without any limit to the multiple. -/
theorem nanos_delay (backoff : Backoff) (failures : UInt32) :
    (backoff.delay failures).nanos =
      if failures.toNat < 100 then
        min (backoff.base.nanos * factor failures.toNat) backoff.cap.nanos
      else backoff.cap.nanos := by
  rw [delay, Interval.nanos_shorter]
  by_cases early : failures.toNat < 30
  · have one : factor failures.toNat = 1 := if_pos early
    rw [if_pos early, if_pos (by omega), one, Nat.mul_one]
  rw [if_neg early]
  by_cases few : failures.toNat < 100
  · rw [if_pos few, if_pos few]
    rcases product : backoff.base.times? (factor failures.toNat) with _ | delay
    · have longer := cap_lt_of_times?_eq_none product
      rw [Option.getD_none]
      omega
    · rw [Option.getD_some, Interval.nanos_times? product]
  · rw [if_neg few, if_neg few, Nat.min_self]

/-- **Delays never decrease** with the failures. -/
theorem nanos_delay_mono (backoff : Backoff) {fewer more : UInt32} (le : fewer ≤ more) :
    (backoff.delay fewer).nanos ≤ (backoff.delay more).nanos := by
  have counts : fewer.toNat ≤ more.toNat := le
  rw [nanos_delay, nanos_delay]
  by_cases few : more.toNat < 100
  · have multiple := Nat.mul_le_mul_left backoff.base.nanos (factor_mono counts)
    rw [if_pos few, if_pos (by omega)]
    omega
  · rw [if_neg few]
    split
    · exact Nat.min_le_right _ _
    · exact Nat.le_refl _

/-- Delays do not decrease with the base either. -/
theorem nanos_delay_mono_base (backoff : Backoff) {base : Interval}
    (le : backoff.base.nanos ≤ base.nanos) (failures : UInt32) :
    (backoff.delay failures).nanos ≤ (delay ⟨base, backoff.cap⟩ failures).nanos := by
  have multiple := Nat.mul_le_mul_right (factor failures.toNat) le
  rw [nanos_delay, nanos_delay]
  split
  · show min _ _ ≤ min (base.nanos * _) backoff.cap.nanos
    omega
  · exact Nat.le_refl _

/-- The factor is one at least. -/
theorem le_nanos_delay (backoff : Backoff) (failures : UInt32) :
    min backoff.base.nanos backoff.cap.nanos ≤ (backoff.delay failures).nanos := by
  have one : 1 ≤ factor failures.toNat := by
    unfold factor
    split <;> omega
  have multiple := Nat.mul_le_mul_left backoff.base.nanos one
  rw [nanos_delay]
  split <;> omega

/-! ## Delays in words -/

/-- The delay after so many failures, computed in words. -/
def delayInWords (base cap : Interval.InWords) (failures : UInt32) : Interval.InWords :=
  let wanted :=
    if failures < 30 then base
    else if failures < 100 then (base.times? (2 + (failures - 30) / 10)).getD cap
    else cap
  wanted.shorter cap

theorem toNat_factor {failures : UInt32} (late : ¬ failures < 30) (few : failures < 100) :
    (2 + (failures - 30) / 10).toNat = factor failures.toNat := by
  have late' : ¬ failures.toNat < 30 := late
  have few' : failures.toNat < 100 := few
  have past : (failures - 30).toNat = failures.toNat - 30 :=
    UInt32.toNat_sub_of_le _ _ (UInt32.not_lt.1 late)
  rw [factor, if_neg late', UInt32.toNat_add, UInt32.toNat_div, past]
  show (2 + (failures.toNat - 30) / 10) % 2 ^ 32 = _
  omega

/-- **In words** the delay is the same. -/
theorem interval_delayInWords (base cap : Interval.InWords) (failures : UInt32) :
    (delayInWords base cap failures).interval =
      delay ⟨base.interval, cap.interval⟩ failures := by
  rw [delayInWords, delay, Interval.InWords.interval_shorter]
  refine congrArg (Interval.shorter · cap.interval) ?_
  by_cases early : failures < 30
  · have early' : failures.toNat < 30 := early
    rw [if_pos early, if_pos early']
  have early' : ¬ failures.toNat < 30 := early
  rw [if_neg early, if_neg early']
  by_cases few : failures < 100
  · have few' : failures.toNat < 100 := few
    rw [if_pos few, if_pos few', ← toNat_factor early few, ← Interval.InWords.map_interval_times?]
    cases base.times? (2 + (failures - 30) / 10) <;> rfl
  · have few' : ¬ failures.toNat < 100 := few
    rw [if_neg few, if_neg few']

/-! ## The delay -/

/-- **What the delay is**: below thirty failures the base, below a hundred the multiple of it that
grows by one with every ten failures, and then the cap, but never more than the cap.  There is no
limit to the multiple; one that does not fit its words is longer than the cap.  So the delay lies
between the shorter one of base and cap and the cap, and grows with the failures and the base. -/
theorem delay_exact (backoff : Backoff) :
    (∀ failures : UInt32, (backoff.delay failures).nanos =
      if failures.toNat < 30 then min backoff.base.nanos backoff.cap.nanos
      else if failures.toNat < 100 then
        min (backoff.base.nanos * (2 + (failures.toNat - 30) / 10)) backoff.cap.nanos
      else backoff.cap.nanos) ∧
    (∀ factor, backoff.base.times? factor = none →
      backoff.cap.nanos < backoff.base.nanos * factor) ∧
    (∀ failures, (delayInWords backoff.base.inWords backoff.cap.inWords failures).interval =
      backoff.delay failures) ∧
    (∀ failures, min backoff.base.nanos backoff.cap.nanos ≤ (backoff.delay failures).nanos ∧
      (backoff.delay failures).nanos ≤ backoff.cap.nanos) ∧
    (∀ fewer more, fewer ≤ more → (backoff.delay fewer).nanos ≤ (backoff.delay more).nanos) ∧
    ∀ (base : Interval) failures, backoff.base.nanos ≤ base.nanos →
      (backoff.delay failures).nanos ≤ (delay ⟨base, backoff.cap⟩ failures).nanos := by
  refine ⟨fun failures => ?_, fun _ => cap_lt_of_times?_eq_none, fun failures => ?_,
    fun failures => ⟨backoff.le_nanos_delay failures, backoff.nanos_delay_le failures⟩,
    fun _ _ => backoff.nanos_delay_mono,
    fun _ failures le => backoff.nanos_delay_mono_base le failures⟩
  · rw [nanos_delay, factor]
    by_cases early : failures.toNat < 30
    · rw [if_pos (by omega), if_pos early, if_pos early, Nat.mul_one]
    · rw [if_neg early, if_neg early]
  · rw [interval_delayInWords, Interval.interval_inWords, Interval.interval_inWords]

/-- A base of which no multiple fits its words: after forty-five failures the delay is the cap. -/
theorem delay_exact_of_overflow :
    let backoff : Backoff := ⟨.ofSeconds (.ofNat (UInt64.size - 1)), .ofSeconds 90⟩
    backoff.base.times? 3 = none ∧ backoff.cap.nanos < backoff.base.nanos * 3 ∧
      backoff.delay 45 = backoff.cap ∧
        (backoff.delay 45).nanos ≤ (backoff.delay 4000000000).nanos := by
  intro backoff
  obtain ⟨exact, overflow, -, -, grows, -⟩ := delay_exact backoff
  have none_fits : backoff.base.times? 3 = none := by decide +kernel
  have longer := overflow 3 none_fits
  refine ⟨none_fits, longer, Interval.ext ?_, grows 45 4000000000 (by decide)⟩
  have factor : 2 + ((45 : UInt32).toNat - 30) / 10 = 3 := by decide
  rw [exact, if_neg (by decide), if_pos (by decide), factor]
  exact Nat.min_eq_right (Nat.le_of_lt longer)

end Backoff
end Link
end CoverageLink
