import Mathlib.Tactic.Linarith

/-
  Bisection between a lower and an upper index.

  The probe of an index may fail, as a checked array access
  does. Nothing is assumed about the order of the probe
  values: the loop only keeps that the lower index probes
  `false` and the upper index probes `true`, and ends when
  the two are adjacent.

  Main declarations:
    * `bisect`
    * `Bracket`
    * `bisect_spec`
-/

------------------------------------------------------------
-- The Bisection Loop
------------------------------------------------------------

namespace Bisection

/-
  Halve the interval while it has an inner index. The first
  argument bounds the number of rounds; `r - l` is enough.
-/
def bisect
    (probe : Nat → Option Bool) :
    Nat → Nat → Nat → Option (Nat × Nat)
| 0, l, r => some (l, r)
| rounds + 1, l, r =>
    if r - l > 1 then
      match probe ((l + r) >>> 1) with
      | none => none
      | some true => bisect probe rounds l ((l + r) >>> 1)
      | some false => bisect probe rounds ((l + r) >>> 1) r
    else
      some (l, r)

/-
  Two adjacent indices of `[l, r]` where the lower one is not
  above the searched value and the upper one is.
-/
structure Bracket
    (above : Nat → Bool)
    (l r : Nat)
    (low high : Nat) : Prop where
  adjacent : high = low + 1
  lower : l ≤ low
  upper : high ≤ r
  notAbove : above low = false
  isAbove : above high = true

/-
  With enough rounds the loop ends in a bracket, and it
  probes strictly inner indices only.
-/
theorem bisect_spec
    (probe : Nat → Option Bool)
    (above : Nat → Bool)
    (rounds : Nat)
    {l r : Nat}
    (hProbe :
      ∀ m, l < m → m < r → probe m = some (above m))
    (hRounds : r - l ≤ rounds)
    (hNonempty : l < r)
    (hLow : above l = false)
    (hHigh : above r = true) :
    ∃ low high,
      bisect probe rounds l r = some (low, high) ∧
        Bracket above l r low high := by
  induction rounds generalizing l r with
  | zero => omega
  | succ rounds ih =>
      by_cases hInner : r - l > 1
      · have hMid : (l + r) >>> 1 = (l + r) / 2 := by
          rw [Nat.shiftRight_eq_div_pow, pow_one]
        have hAfter : l < (l + r) / 2 := by omega
        have hBefore : (l + r) / 2 < r := by omega
        have hRead := hProbe _ hAfter hBefore
        cases hSide : above ((l + r) / 2) with
        | true =>
            rcases ih (l := l) (r := (l + r) / 2)
                (fun m hLower hUpper =>
                  hProbe m hLower (by omega))
                (by omega) hAfter hLow hSide with
              ⟨low, high, hResult, hBracket⟩
            refine ⟨low, high, ?_, ?_⟩
            · simp [bisect, hInner, hMid, hRead, hSide,
                hResult]
            · exact
                ⟨hBracket.adjacent, hBracket.lower,
                  hBracket.upper.trans hBefore.le,
                  hBracket.notAbove, hBracket.isAbove⟩
        | false =>
            rcases ih (l := (l + r) / 2) (r := r)
                (fun m hLower hUpper =>
                  hProbe m (by omega) hUpper)
                (by omega) hBefore hSide hHigh with
              ⟨low, high, hResult, hBracket⟩
            refine ⟨low, high, ?_, ?_⟩
            · simp [bisect, hInner, hMid, hRead, hSide,
                hResult]
            · exact
                ⟨hBracket.adjacent,
                  hAfter.le.trans hBracket.lower,
                  hBracket.upper, hBracket.notAbove,
                  hBracket.isAbove⟩
      · refine ⟨l, r, ?_, ?_⟩
        · simp [bisect, hInner]
        · exact
            ⟨by omega, le_rfl, le_rfl, hLow, hHigh⟩

end Bisection
