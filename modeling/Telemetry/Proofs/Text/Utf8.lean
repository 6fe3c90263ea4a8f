import Mathlib.Data.String.Basic
import Mathlib.Tactic.Ring
import Mathlib.Tactic.SplitIfs
import Telemetry.Text.Basic

/-!
# The size of decoded text

A sequence of bytes is leniently decoded to a text of at least as many bytes, and a well-formed
one to a text of as many.  Each character that a first byte begins ends as one with as many bytes
as have been read for it, whatever the bytes are that continue it; an ill-formed stretch is never
longer than the three bytes that are written for it.
-/
set_option autoImplicit false
namespace Telemetry.Text

namespace Utf8
open String (utf8Len)

/-- The characters that are written for characters and ill-formed stretches. -/
def written (units : List (Option Char)) : List Char := units.map fun u => u.getD '\ufffd'

/-- The number is that of a character with so many bytes. -/
def Fits (width code : Nat) : Prop := (Char.ofNat code).utf8Size = width

/-- What was begun ends as a character of so many bytes as have been seen and are still to come. -/
structure Pending (s : Begun) (seen : Nat) : Prop where
  missing_pos : 0 < s.missing
  short : seen + s.missing ≤ 4
  low_ge : 0x80 ≤ s.low
  high_le : s.high ≤ 0xBF
  fits : ∀ b rest, s.low ≤ b → b ≤ s.high → rest < 64 ^ (s.missing - 1) →
    Fits (seen + s.missing) ((s.bits * 64 + (b - 0x80)) * 64 ^ (s.missing - 1) + rest)

theorem Pending.ends {s : Begun} {seen b : Nat} (pending : Pending s seen) (last : s.missing ≤ 1)
    (least : s.low ≤ b) (most : b ≤ s.high) : Fits (seen + 1) (s.bits * 64 + (b - 0x80)) := by
  have one : s.missing = 1 := Nat.le_antisymm last pending.missing_pos
  have fits := pending.fits b 0 least most (Nat.pow_pos (by decide))
  rw [one] at fits
  simpa only [Nat.sub_self, Nat.pow_zero, Nat.mul_one, Nat.add_zero] using fits

theorem Pending.next {s : Begun} {seen b : Nat} (pending : Pending s seen) (more : ¬ s.missing ≤ 1)
    (least : s.low ≤ b) (most : b ≤ s.high) :
    Pending ⟨s.bits * 64 + (b - 0x80), s.missing - 1, 0x80, 0xBF⟩ (seen + 1) := by
  obtain ⟨missing, total⟩ : ∃ n, s.missing = n + 2 := ⟨s.missing - 2, by omega⟩
  have short := pending.short
  refine ⟨by change 0 < s.missing - 1; omega, by change seen + 1 + (s.missing - 1) ≤ 4; omega,
    Nat.le_refl _, Nat.le_refl _, ?_⟩
  intro c rest least' most' below
  have fits := pending.fits b ((c - 0x80) * 64 ^ missing + rest) least most
  simp only [total, Nat.add_one_sub_one] at fits below least' most' ⊢
  -- the byte that follows is one more digit of the number to base 64
  have digit : c - 0x80 + 1 ≤ 64 := by omega
  have below' : (c - 0x80) * 64 ^ missing + rest < 64 ^ (missing + 1) := by
    calc (c - 0x80) * 64 ^ missing + rest
        < (c - 0x80 + 1) * 64 ^ missing := by rw [Nat.succ_mul]; omega
      _ ≤ 64 * 64 ^ missing := Nat.mul_le_mul_right _ digit
      _ = 64 ^ (missing + 1) := by rw [Nat.pow_succ, Nat.mul_comm]
  convert fits below' using 1
  · omega
  · ring

/-! ## Bytes read and written -/

/-- No fewer bytes are written than were read, but for those last seen, which begin a character; and
as many without ill-formed stretches. -/
structure Kept (units : List (Option Char)) (seen bytes : Nat) : Prop where
  covered : bytes ≤ utf8Len (written units) + seen
  whole : units.all Option.isSome → utf8Len (written units) + seen = bytes

theorem Kept.gap {units : List (Option Char)} {seen bytes stretch : Nat} (kept : Kept units seen bytes)
    (short : stretch ≤ 3) : Kept (none :: units) seen (stretch + bytes) := by
  have size : utf8Len (written (none :: units)) = utf8Len (written units) + 3 := rfl
  have covered := kept.covered
  exact ⟨by omega, fun whole => absurd whole (by simp)⟩

end Utf8

end Telemetry.Text
