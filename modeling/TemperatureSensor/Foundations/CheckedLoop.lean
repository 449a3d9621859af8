import Mathlib.Data.List.Nodup
import Mathlib.Data.Fintype.Basic

/-
  Loops whose body may fault, as a body with checked array
  accesses does, over an index list or while a guard holds,
  and blocks of checked reads.

  Main declarations:
    * `forEach`
    * `forEach_isSome`
    * `forEach_cells` and `foldl_cells`
    * `forEach_simulation`
    * `whileLoop`, `whileLoop_cases` and `whileLoop_total`
    * `readAll`
-/

------------------------------------------------------------
-- Loops
------------------------------------------------------------

namespace CheckedLoop

variable {σ τ ι β : Type}

/- Run a faulting body for every index in order. -/
def forEach
    (body : σ → ι → Option σ) :
    List ι → σ → Option σ
| [], s => some s
| i :: l, s => (body s i).bind (forEach body l)

/- A loop over two lists is one loop after the other. -/
theorem forEach_append
    (body : σ → ι → Option σ)
    (l l' : List ι)
    (s : σ) :
    forEach body (l ++ l') s =
      (forEach body l s).bind (forEach body l') := by
  induction l generalizing s with
  | nil => rfl
  | cons i l ih =>
      rw [List.cons_append, forEach, forEach,
        Option.bind_assoc]
      congr 1
      funext t
      exact ih t

/- A loop whose body never faults does not fault. -/
theorem forEach_isSome
    {body : σ → ι → Option σ}
    {l : List ι}
    (hBody : ∀ s, ∀ i ∈ l, ∃ t, body s i = some t)
    (s : σ) :
    ∃ t, forEach body l s = some t := by
  induction l generalizing s with
  | nil => exact ⟨s, rfl⟩
  | cons i l ih =>
      rcases hBody s i (by simp) with ⟨t, hStep⟩
      rcases ih
          (fun s j hMember => hBody s j (by simp [hMember])) t
        with ⟨u, hRest⟩
      exact ⟨u, by simp [forEach, hStep, hRest]⟩

/-
  A loop over distinct indices whose body works on the cell
  of its own index only: every visited cell is related to its
  old content, every other cell is unchanged.
-/
theorem forEach_cells
    {body : σ → ι → Option σ}
    (cell : σ → ι → β)
    {R : ι → β → β → Prop}
    (hOwn :
      ∀ s i t, body s i = some t →
        R i (cell s i) (cell t i))
    (hFrame :
      ∀ s i t j, body s i = some t → j ≠ i →
        cell t j = cell s j)
    {l : List ι}
    (hNodup : l.Nodup)
    {s t : σ}
    (hLoop : forEach body l s = some t) :
    (∀ i ∈ l, R i (cell s i) (cell t i)) ∧
      ∀ i, i ∉ l → cell t i = cell s i := by
  induction l generalizing s with
  | nil =>
      have hSame : s = t := Option.some.inj hLoop
      subst hSame
      exact ⟨by simp, fun _ _ => rfl⟩
  | cons i l ih =>
      rcases Option.bind_eq_some_iff.mp hLoop with
        ⟨u, hStep, hRest⟩
      have hTail := ih (List.nodup_cons.mp hNodup).2 hRest
      have hFresh := (List.nodup_cons.mp hNodup).1
      constructor
      · intro j hMember
        rcases List.mem_cons.mp hMember with hHead | hLater
        · subst hHead
          rw [hTail.2 j hFresh]
          exact hOwn s j u hStep
        · have hDistinct : j ≠ i := by
            rintro rfl
            exact hFresh hLater
          rw [← hFrame s i u j hStep hDistinct]
          exact hTail.1 j hLater
      · intro j hOutside
        have hParts : j ≠ i ∧ j ∉ l := by
          simpa only [List.mem_cons, not_or] using hOutside
        rw [hTail.2 j hParts.2]
        exact hFrame s i u j hStep hParts.1

/- A loop whose body never faults is a left fold. -/
theorem forEach_some
    (f : σ → ι → σ)
    (l : List ι)
    (s : σ) :
    forEach (fun s i => some (f s i)) l s =
      some (l.foldl f s) := by
  induction l generalizing s with
  | nil => rfl
  | cons i l ih =>
      rw [forEach, Option.bind_some, ih]
      rfl

/- The cells of a left fold over distinct indices. -/
theorem foldl_cells
    (f : σ → ι → σ)
    (cell : σ → ι → β)
    {R : ι → β → β → Prop}
    (hOwn : ∀ s i, R i (cell s i) (cell (f s i) i))
    (hFrame :
      ∀ s i j, j ≠ i → cell (f s i) j = cell s j)
    {l : List ι}
    (hNodup : l.Nodup)
    (s : σ) :
    (∀ i ∈ l, R i (cell s i) (cell (l.foldl f s) i)) ∧
      ∀ i, i ∉ l → cell (l.foldl f s) i = cell s i := by
  refine forEach_cells cell ?_ ?_ hNodup (forEach_some f l s)
  · intro s i t hBody
    rw [← Option.some.inj hBody]
    exact hOwn s i
  · intro s i t j hBody hOther
    rw [← Option.some.inj hBody]
    exact hFrame s i j hOther

/-
  Two runs of a loop side by side. The relation may depend on
  the indices already visited.
-/
theorem forEach_simulation
    {body : σ → ι → Option σ}
    {body' : τ → ι → Option τ}
    {R : List ι → σ → τ → Prop}
    (hStep :
      ∀ visited s i s' t t', R visited s t →
        body s i = some s' → body' t i = some t' →
          R (i :: visited) s' t')
    (visited : List ι)
    {l : List ι}
    {s s' : σ} {t t' : τ}
    (hStart : R visited s t)
    (hLeft : forEach body l s = some s')
    (hRight : forEach body' l t = some t') :
    R (l.reverse ++ visited) s' t' := by
  induction l generalizing visited s t with
  | nil =>
      have hSame : s = s' := Option.some.inj hLeft
      have hSame' : t = t' := Option.some.inj hRight
      subst hSame hSame'
      simpa using hStart
  | cons i l ih =>
      rcases Option.bind_eq_some_iff.mp hLeft with
        ⟨u, hBody, hRest⟩
      rcases Option.bind_eq_some_iff.mp hRight with
        ⟨v, hBody', hRest'⟩
      have hNext :=
        hStep visited s i u t v hStart hBody hBody'
      simpa using ih (i :: visited) hNext hRest hRest'

------------------------------------------------------------
-- Guarded Loops
------------------------------------------------------------

/-
  A `while` loop that is given up, as a fault, when the guard
  still holds after the given number of rounds.
-/
def whileLoop
    (guard : σ → Bool)
    (body : σ → Option σ) :
    Nat → σ → Option σ
| 0, s => if guard s then none else some s
| rounds + 1, s =>
    if guard s then
      (body s).bind (whileLoop guard body rounds)
    else
      some s

/- A loop whose guard does not hold is over. -/
theorem whileLoop_of_not
    {guard : σ → Bool}
    (body : σ → Option σ)
    {s : σ}
    (hGuard : guard s = false)
    (rounds : Nat) :
    whileLoop guard body rounds s = some s := by
  cases rounds with
  | zero => simp [whileLoop, hGuard]
  | succ rounds => simp [whileLoop, hGuard]

/- A loop that ends was over, or did one round. -/
theorem whileLoop_cases
    {guard : σ → Bool}
    {body : σ → Option σ}
    {rounds : Nat}
    {s t : σ}
    (hLoop : whileLoop guard body rounds s = some t) :
    (guard s = false ∧ s = t) ∨
      guard s = true ∧
        ∃ less u,
          rounds = less + 1 ∧ body s = some u ∧
            whileLoop guard body less u = some t := by
  cases hGuard : guard s with
  | false =>
      rw [whileLoop_of_not body hGuard] at hLoop
      exact Or.inl ⟨rfl, Option.some.inj hLoop⟩
  | true =>
      cases rounds with
      | zero => simp [whileLoop, hGuard] at hLoop
      | succ less =>
          simp only [whileLoop, hGuard, if_true] at hLoop
          rcases Option.bind_eq_some_iff.mp hLoop with
            ⟨u, hStep, hRest⟩
          exact Or.inr ⟨rfl, less, u, rfl, hStep, hRest⟩

/-
  Total correctness: a body that keeps the invariant and
  lowers the measure lets the loop end, with the invariant
  and without the guard.
-/
theorem whileLoop_total
    {guard : σ → Bool}
    {body : σ → Option σ}
    {Inv : σ → Prop}
    (measure : σ → Nat)
    (hBody :
      ∀ s, Inv s → guard s = true →
        ∃ t, body s = some t ∧ Inv t ∧ measure t < measure s)
    {rounds : Nat}
    {s : σ}
    (hStart : Inv s)
    (hRounds : measure s ≤ rounds) :
    ∃ t,
      whileLoop guard body rounds s = some t ∧
        Inv t ∧ guard t = false := by
  induction rounds generalizing s with
  | zero =>
      cases hGuard : guard s with
      | false =>
          exact
            ⟨s, whileLoop_of_not body hGuard 0, hStart, hGuard⟩
      | true =>
          rcases hBody s hStart hGuard with ⟨t, -, -, hLess⟩
          omega
  | succ rounds ih =>
      cases hGuard : guard s with
      | false =>
          exact
            ⟨s, whileLoop_of_not body hGuard _, hStart, hGuard⟩
      | true =>
          rcases hBody s hStart hGuard with
            ⟨t, hStep, hInv, hLess⟩
          rcases ih hInv (by omega) with ⟨u, hRest, hEnd⟩
          exact
            ⟨u, by simp [whileLoop, hGuard, hStep, hRest],
              hEnd⟩

/- More rounds do not change a result. -/
theorem whileLoop_mono
    {guard : σ → Bool}
    {body : σ → Option σ}
    {rounds rounds' : Nat}
    (hRounds : rounds ≤ rounds')
    {s t : σ}
    (hLoop : whileLoop guard body rounds s = some t) :
    whileLoop guard body rounds' s = some t := by
  induction rounds' generalizing rounds s with
  | zero =>
      have hZero : rounds = 0 := by omega
      rwa [hZero] at hLoop
  | succ rounds' ih =>
      rcases whileLoop_cases hLoop with
        ⟨hGuard, hSame⟩ |
          ⟨hGuard, less, u, hLess, hStep, hRest⟩
      · rw [hSame] at hGuard ⊢
        exact whileLoop_of_not body hGuard _
      · have hTail := ih (by omega) hRest
        simp [whileLoop, hGuard, hStep, hTail]

------------------------------------------------------------
-- Blocks of Reads
------------------------------------------------------------

/- Read a block of cells; one refused access refuses all. -/
def readAll
    {n : Nat}
    (read : Fin n → Option β) :
    Option (Fin n → β) :=
  if hAll : ∀ k, (read k).isSome then
    some fun k => (read k).get (hAll k)
  else
    none

theorem readAll_eq_some_iff
    {n : Nat}
    {read : Fin n → Option β}
    {p : Fin n → β} :
    readAll read = some p ↔
      ∀ k, read k = some (p k) := by
  unfold readAll
  constructor
  · intro hBlock k
    split at hBlock
    · have hValues := Option.some.inj hBlock
      rw [← hValues, Option.some_get]
    · cases hBlock
  · intro hReads
    have hAll : ∀ k, (read k).isSome := by
      intro k
      rw [hReads k]
      rfl
    rw [dif_pos hAll]
    congr 1
    funext k
    simp [hReads k]

end CheckedLoop
