import CoverageLink.Proofs.Wire.Supply
import CoverageLink.Record.Decode

/-!
# What the bodies of records inherit

The body of a record is read field by field, and a field by requests for so many octets.  A
property that such requests have and that readers keep when they are put together is therefore one
of every body, whatever its fields are (`Hereditary.body`): the walk through the fields is done
here, once.

Two properties are inherited like this.  A reader is uniform: what it makes of a source depends on
the supply only.  And a reader takes: what it leaves is what was there without some octets at the
front (`Reading.Takes`).
-/

namespace CoverageLink

open Wire (Reading Source Supply)

namespace Wire
namespace Reading

variable {α β : Type}

/-- A property that readers inherit from the requests they are made of. -/
structure Hereditary (property : ∀ {α : Type}, Reading α → Prop) : Prop where
  pure : ∀ {α : Type} (value : α), property (Pure.pure value : Reading α)
  throw : ∀ {α : Type} (failure : Failure), property (MonadExcept.throw failure : Reading α)
  bind : ∀ {α β : Type} {reader : Reading α} {next : α → Reading β}, property reader →
    (∀ value, property (next value)) → property (reader >>= next)
  exactly : ∀ width, property (exactly width)
  fully : ∀ length, property (fully length)

namespace Hereditary

variable {property : ∀ {α : Type}, Reading α → Prop} (h : Hereditary property)
include h

/-- A check that refuses what was read, and what follows when it does not. -/
theorem check {condition : Prop} [Decidable condition] {failure : Failure} {next : Reading α}
    (further : property next) :
    property
      (if condition then (do (MonadExcept.throw failure : Reading PUnit); next) else next) := by
  split
  · exact h.bind (h.throw failure) fun _ => further
  · exact further

theorem octet : property Reading.octet := h.bind (h.exactly 1) fun _ => h.pure _

theorem flag : property Reading.flag := h.bind h.octet fun _ => h.pure _

theorem word : property Reading.word := h.bind (h.exactly 2) fun _ => h.pure _

theorem long : property Reading.long := h.bind (h.exactly 8) fun _ => h.pure _

theorem text : property Reading.text := by
  refine h.bind h.word fun length => h.bind (h.fully _) fun octets => ?_
  rcases Utf8.decode octets with fault | text
  · exact h.throw _
  · exact h.pure text

theorem varIntFrom (groups : Nat) (shift value : UInt32) :
    property (Reading.varIntFrom groups shift value) := by
  induction groups generalizing shift value with
  | zero => exact h.bind h.octet fun _ => h.throw _
  | succ groups ih =>
    refine h.bind h.octet fun _ => ?_
    split
    · exact h.pure _
    · exact ih _ _

theorem length : property Reading.length :=
  h.bind (h.varIntFrom 5 0 0) fun _ => h.check (h.pure _)

theorem bits : property Reading.bits :=
  h.bind h.length fun _ => h.bind (h.fully _) fun _ => h.pure _

theorem blob : property Reading.blob := h.bind h.length fun _ => h.fully _

theorem knownIdsBody : property Record.knownIdsBody := by
  refine h.bind h.blob fun octets => ?_
  rcases Utf8.decode octets with fault | line
  · exact h.throw _
  · exact h.pure _

theorem projectInfoBody : property Record.projectInfoBody := by
  refine h.bind h.text fun line => ?_
  rcases ProjectInfo.parse line with failure | info
  · exact h.throw _
  · exact h.pure _

/-- **The body of every record inherits the property.** -/
theorem body (tag : UInt8) : property (Record.body tag) := by
  unfold Record.body
  repeat' split
  · exact h.bind h.word fun _ => h.check (h.bind h.word fun _ => h.check (h.pure _))
  · exact h.bind h.text fun _ => h.bind h.long fun _ => h.bind h.long fun _ => h.pure _
  · exact h.bind h.long fun _ => h.bind h.text fun _ => h.bind h.bits fun _ => h.pure _
  · exact h.pure _
  · exact h.bind h.text fun _ => h.bind h.blob fun _ => h.pure _
  · exact h.projectInfoBody
  · exact h.pure _
  · exact h.bind h.flag fun _ => h.bind h.flag fun _ => h.pure _
  · exact h.bind h.knownIdsBody fun _ => h.pure _
  · exact h.throw _

end Hereditary

/-! ## Uniform readers -/

/-- So the body of every record is read alike from alike sources. -/
theorem hereditary_uniform : Hereditary Uniform :=
  ⟨Uniform.pure, Uniform.throw, Uniform.bind, Uniform.exactly, Uniform.fully⟩

/-! ## Readers that only take -/

/-- A reader that leaves a source without some octets at the front, and otherwise as it was. -/
def Takes (reader : Reading α) : Prop :=
  ∀ source, ∃ count, (reader.outcome source).2 = source.supply.skip count

end Reading

namespace Supply

/-- A request takes octets from the front. -/
theorem exists_skip_of_take (supply : Supply) (want : Nat) :
    ∃ count, (supply.take want).2 = supply.skip count := by
  unfold take
  split
  · exact ⟨_, rfl⟩
  · split
    · exact ⟨_, rfl⟩
    · exact ⟨_, rfl⟩

theorem exists_skip_of_takeAll (supply : Supply) (want : Nat) (short : Nat → Failure) :
    ∃ count, (supply.takeAll want short).2 = supply.skip count := by
  obtain ⟨count, left⟩ := supply.exists_skip_of_take want
  refine ⟨count, ?_⟩
  unfold takeAll
  rcases taken : supply.take want with ⟨failure | bytes, rest⟩
  · rw [taken] at left
    exact left
  · rw [taken] at left
    simp only
    split <;> exact left

end Supply

namespace Reading

theorem hereditary_takes : Hereditary Takes where
  pure _ source := ⟨0, rfl⟩
  throw _ source := ⟨0, rfl⟩
  bind := by
    intro α β reader next h h' source
    obtain ⟨first, left⟩ := h source
    rcases run : reader.runOn source with ⟨failure | value, rest⟩
    · refine ⟨first, ?_⟩
      rw [outcome_bind_error run, ← left, outcome, run]
    · obtain ⟨second, left'⟩ := h' value rest
      refine ⟨first + second, ?_⟩
      rw [outcome_bind_ok run, left', ← Supply.skip_skip, ← left, outcome, run]
  exactly width source := by
    rw [outcome_exactly]
    exact source.supply.exists_skip_of_takeAll width _
  fully length source := by
    rw [outcome_fully]
    exact source.supply.exists_skip_of_takeAll length _

end Reading
end Wire
end CoverageLink
