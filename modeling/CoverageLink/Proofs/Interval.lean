import CoverageLink.Interval

/-!
# Intervals in words

An interval fits two words, the whole seconds in 64 bits and the nanoseconds past them in 32
(`Interval.InWords`).  The way from one form to the other loses nothing (`interval_inWords`).

A multiple in words is put together from the multiples of the two words.  That of the fraction is
more than a second in general, and what is more is carried; it never overflows.  The seconds may
overflow twice, when they are multiplied and when the carry is added, and there is a multiple
exactly if they do not (`map_interval_times?`).  Of two intervals the one with fewer seconds is
shorter, and the fractions only count if the seconds are the same (`interval_shorter`).
-/

namespace CoverageLink
namespace Interval

@[ext] theorem ext {a b : Interval} (same : a.nanos = b.nanos) : a = b := by
  obtain ⟨nanos, _⟩ := a
  obtain ⟨nanos', _⟩ := b
  obtain rfl : nanos = nanos' := same
  rfl

/-- An interval in two words. -/
structure InWords where
  seconds : UInt64
  fraction : UInt32
  fraction_lt : fraction.toNat < 1000000000
  deriving DecidableEq, Repr

/-- The product of two words, if it fits a word. -/
def checkedMul (a b : UInt64) : Option UInt64 :=
  if a.toNat * b.toNat < UInt64.size then some (a * b) else none

/-- The sum of two words, if it fits a word. -/
def checkedAdd (a b : UInt64) : Option UInt64 :=
  if a.toNat + b.toNat < UInt64.size then some (a + b) else none

theorem toNat_mul_of_lt {a b : UInt64} (fits : a.toNat * b.toNat < UInt64.size) :
    (a * b).toNat = a.toNat * b.toNat := by
  rw [UInt64.toNat_mul]
  exact Nat.mod_eq_of_lt fits

theorem toNat_add_of_lt {a b : UInt64} (fits : a.toNat + b.toNat < UInt64.size) :
    (a + b).toNat = a.toNat + b.toNat := by
  rw [UInt64.toNat_add]
  exact Nat.mod_eq_of_lt fits

/-- The seconds may overflow twice, and fit exactly if the exact number does. -/
theorem checkedMul_bind_checkedAdd (a b c : UInt64) :
    ((checkedMul a b).bind fun product => checkedAdd product c) =
      if a.toNat * b.toNat + c.toNat < UInt64.size then some (a * b + c) else none := by
  unfold checkedMul checkedAdd
  by_cases fits : a.toNat * b.toNat < UInt64.size
  · rw [if_pos fits, Option.bind_some, toNat_mul_of_lt fits]
  · rw [if_neg fits, if_neg (by omega), Option.bind_none]

namespace InWords

/-- The number of nanoseconds. -/
def nanos (words : InWords) : Nat := words.seconds.toNat * 1000000000 + words.fraction.toNat

theorem nanos_lt (words : InWords) : words.nanos < UInt64.size * 1000000000 := by
  have seconds := words.seconds.toNat_lt
  have fraction := words.fraction_lt
  unfold nanos
  simp only [UInt64.size]
  omega

/-- The interval that the words stand for. -/
def interval (words : InWords) : Interval := ⟨words.nanos, words.nanos_lt⟩

/-! ## Multiples -/

/-- So many times the fraction, in nanoseconds. -/
def fractions (words : InWords) (factor : UInt32) : UInt64 :=
  words.fraction.toUInt64 * factor.toUInt64

/-- A fraction is less than a second, and no factor makes an overflow of it. -/
theorem toNat_fractions (words : InWords) (factor : UInt32) :
    (words.fractions factor).toNat = words.fraction.toNat * factor.toNat := by
  refine toNat_mul_of_lt ?_
  rw [UInt32.toNat_toUInt64, UInt32.toNat_toUInt64]
  calc words.fraction.toNat * factor.toNat
      ≤ 1000000000 * 2 ^ 32 :=
        Nat.mul_le_mul (Nat.le_of_lt words.fraction_lt) (Nat.le_of_lt factor.toNat_lt)
    _ < UInt64.size := by decide

/-- The whole seconds of so many nanoseconds. -/
def carry (total : UInt64) : UInt64 := total / 1000000000

/-- The nanoseconds past the last of them. -/
def rest (total : UInt64) : UInt32 := (total % 1000000000).toUInt32

theorem toNat_carry (total : UInt64) : (carry total).toNat = total.toNat / 1000000000 := by
  rw [carry, UInt64.toNat_div]
  rfl

theorem toNat_rest (total : UInt64) : (rest total).toNat = total.toNat % 1000000000 := by
  rw [rest, UInt64.toNat_toUInt32, UInt64.toNat_mod]
  show total.toNat % 1000000000 % 2 ^ 32 = _
  omega

theorem toNat_rest_lt (total : UInt64) : (rest total).toNat < 1000000000 := by
  rw [toNat_rest]
  exact Nat.mod_lt _ (by decide)

/-- So many times the interval, word by word. -/
def times? (words : InWords) (factor : UInt32) : Option InWords :=
  let total := words.fractions factor
  let seconds? := (checkedMul words.seconds factor.toUInt64).bind fun product =>
    checkedAdd product (carry total)
  seconds?.map fun seconds => ⟨seconds, rest total, toNat_rest_lt total⟩

/-- The multiples of the two words are that of the interval, if there is room for them. -/
theorem nanos_mul (words : InWords) (factor : UInt32) :
    words.nanos * factor.toNat =
      (words.seconds.toNat * factor.toUInt64.toNat + (carry (words.fractions factor)).toNat) *
        1000000000 + (rest (words.fractions factor)).toNat := by
  have split := Nat.div_add_mod (words.fraction.toNat * factor.toNat) 1000000000
  rw [nanos, Nat.add_mul, Nat.mul_right_comm, UInt32.toNat_toUInt64, toNat_carry, toNat_rest,
    toNat_fractions]
  omega

/-- **Multiples in words** are the multiples: one exists if the other does, and is the same. -/
theorem map_interval_times? (words : InWords) (factor : UInt32) :
    (words.times? factor).map interval = words.interval.times? factor.toNat := by
  have exact : words.interval.nanos * factor.toNat = _ := words.nanos_mul factor
  have past := toNat_rest_lt (words.fractions factor)
  simp only [times?, checkedMul_bind_checkedAdd, Interval.times?, ofNanos?]
  by_cases fits : words.seconds.toNat * factor.toUInt64.toNat +
      (carry (words.fractions factor)).toNat < UInt64.size
  · have product := toNat_mul_of_lt (Nat.lt_of_le_of_lt (Nat.le_add_right _ _) fits)
    have seconds := toNat_add_of_lt (b := carry (words.fractions factor)) (by rwa [product])
    rw [if_pos fits, dif_pos (by omega), Option.map_some, Option.map_some]
    refine congrArg some (Interval.ext ?_)
    refine Eq.trans ?_ exact.symm
    rw [← product, ← seconds]
    rfl
  · rw [if_neg fits, dif_neg (by omega)]
    rfl

/-! ## The shorter one -/

/-- The shorter of two intervals: the seconds are compared first. -/
def shorter (a b : InWords) : InWords :=
  if a.seconds < b.seconds ∨ a.seconds = b.seconds ∧ a.fraction ≤ b.fraction then a else b

/-- **Comparing words** is comparing intervals. -/
theorem interval_shorter (a b : InWords) :
    (a.shorter b).interval = a.interval.shorter b.interval := by
  have compared : (a.seconds < b.seconds ∨ a.seconds = b.seconds ∧ a.fraction ≤ b.fraction) ↔
      a.nanos ≤ b.nanos := by
    rw [UInt64.lt_iff_toNat_lt, ← UInt64.toNat_inj, UInt32.le_iff_toNat_le]
    have fraction := a.fraction_lt
    have fraction' := b.fraction_lt
    unfold nanos
    omega
  rw [shorter, Interval.shorter, apply_ite interval]
  simp only [compared]
  rfl

end InWords

/-! ## From an interval to its words -/

/-- The words of an interval. -/
def inWords (interval : Interval) : InWords where
  seconds := .ofNat interval.seconds
  fraction := .ofNat interval.fraction
  fraction_lt := by
    have past := Nat.mod_lt interval.nanos (show 0 < 1000000000 by decide)
    rw [UInt32.toNat_ofNat', fraction]
    omega

/-- Every interval can be told from its words. -/
theorem interval_inWords (interval : Interval) : interval.inWords.interval = interval := by
  have split := Nat.div_add_mod interval.nanos 1000000000
  have bound := interval.nanos_lt
  have seconds : (UInt64.ofNat interval.seconds).toNat = interval.seconds := by
    rw [UInt64.toNat_ofNat']
    exact Nat.mod_eq_of_lt (Nat.div_lt_of_lt_mul (by rwa [Nat.mul_comm]))
  have fraction : (UInt32.ofNat interval.fraction).toNat = interval.fraction := by
    have past := Nat.mod_lt interval.nanos (show 0 < 1000000000 by decide)
    rw [UInt32.toNat_ofNat', Interval.fraction]
    omega
  apply Interval.ext
  show interval.inWords.nanos = interval.nanos
  rw [InWords.nanos, inWords, seconds, fraction, Interval.seconds, Interval.fraction]
  omega

end Interval
end CoverageLink
