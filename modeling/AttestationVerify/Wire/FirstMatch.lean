import Mathlib.Data.List.Perm.Basic
import Mathlib.Tactic.Common

namespace Wire.FirstMatch

/-!
# Tables searched for their first match

A table is a list of rows with keys, and a request is answered by the first row under its key. Where
a key has several rows, their order decides which of them answers.

* `Serves` — some request is answered by a row that suits it;
* `serves_perm_iff` — when no order of the rows makes a difference to that.
-/

variable {α κ ρ : Type} [DecidableEq κ] (key : α → κ) (want : ρ → κ)

/-- The first row under `k`. -/
def select (rows : List α) (k : κ) : Option α := rows.find? fun x => key x = k

/-- Some request is answered by a row that suits it. -/
def Serves (suits : ρ → α → Prop) (requests : List ρ) (rows : List α) : Prop :=
  ∃ r ∈ requests, ∃ x, select key rows (want r) = some x ∧ suits r x

variable {key want} {suits : ρ → α → Prop} {requests : List ρ} {rows : List α}

/-- The row selected has the key asked for. -/
theorem key_of_select {k : κ} {x : α} (h : select key rows k = some x) : key x = k := by
  simpa using List.find?_some h

/-- The row selected is one of the rows. -/
theorem mem_of_select {k : κ} {x : α} (h : select key rows k = some x) : x ∈ rows :=
  List.mem_of_find?_eq_some h

/-- For the key of a row some row is selected. -/
theorem exists_select (key : α → κ) {x : α} (h : x ∈ rows) :
    ∃ y, select key rows (key x) = some y := by
  cases hselect : select key rows (key x) with
  | some y => exact ⟨y, rfl⟩
  | none => exact absurd (by simp) (List.find?_eq_none.mp hselect x h)

/-- Rows added at the end do not change what is selected. -/
theorem select_append_left {xs ys : List α} {k : κ} {x : α} (h : select key xs k = some x) :
    select key (xs ++ ys) k = some x := by
  unfold select at h ⊢
  rw [List.find?_append, h, Option.some_or]

/-- A table none of whose rows suits a request for its key serves none. -/
theorem not_serves (h : ∀ r ∈ requests, ∀ x ∈ rows, key x = want r → ¬ suits r x) :
    ¬ Serves key want suits requests rows := by
  intro hserves
  obtain ⟨r, hr, x, hselect, hsuits⟩ := hserves
  exact h r hr x (mem_of_select hselect) (key_of_select hselect) hsuits

/-- A table serves when each of its rows under some key suits a request for it: whichever comes
    first will do. -/
theorem serves_of_forall {k : κ} (hrow : ∃ x ∈ rows, key x = k)
    (h : ∀ x ∈ rows, key x = k → ∃ r ∈ requests, want r = k ∧ suits r x) :
    Serves key want suits requests rows := by
  obtain ⟨x, hx, rfl⟩ := hrow
  obtain ⟨y, hy⟩ := exists_select key hx
  obtain ⟨r, hr, hwant, hsuits⟩ := h y (mem_of_select hy) (key_of_select hy)
  exact ⟨r, hr, y, hwant ▸ hy, hsuits⟩

/-- A table that serves with some rows first serves by a key those rows do not have. -/
theorem exists_select_of_serves_append {xs ys : List α}
    (h : Serves key want suits requests (xs ++ ys))
    (hxs : ∀ x ∈ xs, ∀ r ∈ requests, want r = key x → ¬ suits r x) :
    ∃ r ∈ requests, ∃ y ∈ xs ++ ys, key y = want r ∧ ∀ x ∈ xs, key x ≠ want r := by
  obtain ⟨r, hr, y, hselect, hsuits⟩ := h
  refine ⟨r, hr, y, mem_of_select hselect, key_of_select hselect, ?_⟩
  intro x hx hkey
  -- the first of those rows under the key is the one selected, and suits no request
  obtain ⟨w, hw⟩ := exists_select key hx
  rw [hkey] at hw
  obtain rfl : y = w := Option.some.inj (hselect.symm.trans (select_append_left hw))
  exact hxs y (mem_of_select hw) r hr (key_of_select hw).symm hsuits

/-- **When the order of the rows is irrelevant**: no row suits a request for its key, or some
    requested key has rows and each of them suits a request for it. -/
theorem serves_perm_iff :
    (∀ rows', rows'.Perm rows →
      (Serves key want suits requests rows' ↔ Serves key want suits requests rows)) ↔
      (∀ r ∈ requests, ∀ x ∈ rows, key x = want r → ¬ suits r x) ∨
        ∃ k, (∃ x ∈ rows, key x = k) ∧
          ∀ x ∈ rows, key x = k → ∃ r ∈ requests, want r = k ∧ suits r x := by
  classical
  constructor
  · intro hperm
    by_cases hnone : ∀ r ∈ requests, ∀ x ∈ rows, key x = want r → ¬ suits r x
    · exact .inl hnone
    right
    push Not at hnone
    obtain ⟨r, hr, x, hx, hkey, hsuits⟩ := hnone
    -- with a suitable row first the table serves, so it does in every order
    have hfirst : Serves key want suits requests (x :: rows.erase x) := by
      refine ⟨r, hr, x, ?_, hsuits⟩
      simp [select, hkey]
    have hserves := (hperm _ (List.perm_cons_erase hx).symm).mp hfirst
    -- also with the rows first that suit no request for their key
    let bad (x : α) : Prop := ∀ r ∈ requests, want r = key x → ¬ suits r x
    let bads := rows.filter fun x => bad x
    let rest := rows.filter fun x => !decide (bad x)
    have hbadFirst : (bads ++ rest).Perm rows := List.filter_append_perm _ _
    have hbads : ∀ x ∈ bads, bad x := by
      intro x hx
      exact of_decide_eq_true (List.mem_filter.mp hx).2
    obtain ⟨r, hr, y, hy, hkey, hnot⟩ :=
      exists_select_of_serves_append ((hperm _ hbadFirst).mpr hserves) hbads
    refine ⟨want r, ⟨y, hbadFirst.mem_iff.mp hy, hkey⟩, ?_⟩
    -- so a row under that key is none of them
    intro z hz hzkey
    by_contra hnosuit
    apply hnot z ?_ hzkey
    refine List.mem_filter.mpr ⟨hz, decide_eq_true ?_⟩
    intro r' hr' hwant hsuits'
    exact hnosuit ⟨r', hr', hwant.trans hzkey, hsuits'⟩
  · intro h rows' hrows'
    have hmem {x : α} : x ∈ rows' ↔ x ∈ rows := hrows'.mem_iff
    rcases h with hnone | ⟨k, ⟨x, hx, hkey⟩, hall⟩
    · refine iff_of_false (not_serves ?_) (not_serves hnone)
      intro r hr x hx
      exact hnone r hr x (hmem.mp hx)
    · refine iff_of_true (serves_of_forall ⟨x, hmem.mpr hx, hkey⟩ ?_)
        (serves_of_forall ⟨x, hx, hkey⟩ hall)
      intro y hy
      exact hall y (hmem.mp hy)

end Wire.FirstMatch
