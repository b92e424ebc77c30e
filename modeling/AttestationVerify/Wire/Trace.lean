import AttestationVerify.Wire.Outcome

namespace Wire

/-!
# Computations that record their calls

A `Traced κ α` is a value with the arguments of the calls made on the way to it, in order.  Over it,
`ExceptT` gives the fallible computations that do so.

* `anyM_call` — `Iterator::any` calls through the first success and no further;
* `orM_anyM_call` — `||` between two searches is one search, of the second list after the first;
* `liftM_ok_bind`, `run_value_bind` — a step that makes no calls, and the values of all steps.
-/

/-- A value, with the calls made for it. -/
structure Traced (κ α : Type) where
  value : α
  calls : List κ

namespace Traced

variable {κ α β ε : Type}

instance : Monad (Traced κ) where
  pure a := ⟨a, []⟩
  map f x := ⟨f x.value, x.calls⟩
  bind x f := ⟨(f x.value).value, x.calls ++ (f x.value).calls⟩

/-- One call of `p`. -/
def call (p : κ → Bool) (k : κ) : Traced κ Bool := ⟨p k, [k]⟩

/-! ### Searches -/

/-- The arguments a search tries: those through the first that succeeds, or all of them. -/
def tried (p : κ → Bool) (ks : List κ) : List κ := ks.take (ks.findIdx p + 1)

/-- The candidates tried are the first ones. -/
theorem tried_isPrefixOf (p : κ → Bool) (ks : List κ) : tried p ks <+: ks := List.take_prefix _ _

/-- No more candidates are tried than there are. -/
theorem length_tried_le (p : κ → Bool) (ks : List κ) : (tried p ks).length ≤ ks.length :=
  (tried_isPrefixOf p ks).length_le

/-- The first is tried, and the rest unless it passes. -/
theorem tried_cons (p : κ → Bool) (k : κ) (ks : List κ) :
    tried p (k :: ks) = if p k then [k] else k :: tried p ks := by
  unfold tried
  by_cases hk : p k
  · simp [List.findIdx_cons, hk]
  · simp [List.findIdx_cons, hk]

/-- A search that finds nothing in the first list goes on in the second. -/
theorem tried_append (p : κ → Bool) (ks ls : List κ) :
    tried p (ks ++ ls) = if ks.any p then tried p ks else ks ++ tried p ls := by
  induction ks with
  | nil => rfl
  | cons k ks ih =>
    rw [List.cons_append, tried_cons, tried_cons, ih, List.any_cons]
    by_cases hk : p k
    · simp [hk]
    · by_cases hany : ks.any p
      · simp [hk, hany]
      · simp [hk, hany]

/-- Where none passes all are tried. -/
theorem tried_of_not_any {p : κ → Bool} {ks : List κ} (h : ks.any p = false) : tried p ks = ks := by
  have happend := tried_append p ks []
  rw [h, List.append_nil] at happend
  rw [happend, if_neg Bool.false_ne_true]
  exact List.append_nil ks

/-- A search calls the predicate on each candidate up to the first that passes. -/
theorem anyM_call (p : κ → Bool) (f : α → κ) (xs : List α) :
    xs.anyM (fun x => call p (f x)) = ⟨(xs.map f).any p, tried p (xs.map f)⟩ := by
  induction xs with
  | nil => rfl
  | cons x xs ih =>
    rw [List.anyM, ih, List.map_cons, List.any_cons, tried_cons]
    cases hx : p (f x) with
    -- the first success ends the search
    | true => simp [bind, pure, call, hx]
    | false => simp [bind, call, hx]

/-- Two searches in turn are one over both lists. -/
theorem orM_anyM_call (p : κ → Bool) (f : α → κ) (xs ys : List α) :
    (xs.anyM (fun x => call p (f x)) <||> ys.anyM (fun x => call p (f x))) =
      ⟨((xs ++ ys).map f).any p, tried p ((xs ++ ys).map f)⟩ := by
  rw [anyM_call, anyM_call, List.map_append, List.any_append, tried_append, orM]
  cases hxs : (xs.map f).any p with
  -- the second search is not made
  | true => simp [bind, pure, toBool]
  -- the first search has tried everything
  | false => simp [bind, toBool, tried_of_not_any hxs]

/-! ### Fallible computations -/

section Fallible

variable (f : α → ExceptT ε (Traced κ) β)

/-- A step without calls makes none. -/
theorem run_liftM (x : Except ε α) : (liftM x : ExceptT ε (Traced κ) α).run = ⟨x, []⟩ := rfl

/-- A step that makes no calls is not seen in the record. -/
theorem liftM_ok_bind (a : α) :
    ((liftM (Except.ok a : Except ε α) : ExceptT ε (Traced κ) α) >>= f) = f a := rfl

theorem liftM_error_bind (e : ε) :
    ((liftM (Except.error e : Except ε α) : ExceptT ε (Traced κ) α) >>= f) =
      liftM (Except.error e : Except ε β) := rfl

/-- A traced step makes its own calls. -/
theorem run_lift (t : Traced κ α) :
    (ExceptT.lift t : ExceptT ε (Traced κ) α).run = ⟨.ok t.value, t.calls⟩ := rfl

/-- The values alone are those of the computation that records nothing. -/
theorem run_value_bind (x : ExceptT ε (Traced κ) α) :
    (x >>= f).run.value = x.run.value >>= fun a => (f a).run.value := by
  change (Bind.bind (m := Traced κ) x (ExceptT.bindCont f)).value = _
  cases x with
  | mk value ks => cases value <;> rfl

end Fallible

end Traced

end Wire
