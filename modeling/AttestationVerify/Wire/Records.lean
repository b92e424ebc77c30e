import Mathlib.Data.List.TakeWhile
import Mathlib.Order.Basic

namespace Wire.Records

/-!
# Records, one a line

A text split at a separator, blanks taken off both ends of every line, and lines with nothing left
on them dropped.

* `records` — the function;
* `LaidOut rs text` — `text` is some layout of the records `rs`;
* `records_iff` — the function finds the records of exactly those layouts;
* `records_append` — texts joined by a separator have their records one after the other.
-/

variable {α : Type} {p : α → Bool}

/-! ### Trimming -/

/-- What is left of a line without the blanks at both ends. -/
def trimBoth (p : α → Bool) (line : List α) : List α :=
  ((line.dropWhile p).reverse.dropWhile p).reverse

/-- Neither end of the text is blank. -/
def Trimmed (p : α → Bool) (l : List α) : Prop :=
  (∀ c ∈ l.head?, p c = false) ∧ ∀ c ∈ l.getLast?, p c = false

/-- Blanks in front go, and nothing else. -/
theorem dropWhile_append_of {before l : List α} (hbefore : ∀ c ∈ before, p c = true)
    (hhead : ∀ c ∈ l.head?, p c = false) : (before ++ l).dropWhile p = l := by
  rw [List.dropWhile_append_of_pos hbefore]
  cases l with
  | nil => rfl
  | cons c l => rw [List.dropWhile_cons_of_neg (by simp [hhead c rfl])]

/-- A line is found between the blanks around it. -/
theorem trimBoth_append {before l after : List α} (hbefore : ∀ c ∈ before, p c = true)
    (hl : Trimmed p l) (hne : l ≠ []) (hafter : ∀ c ∈ after, p c = true) :
    trimBoth p (before ++ l ++ after) = l := by
  have hhead : ∀ c ∈ (l ++ after).head?, p c = false := by
    obtain ⟨c, l, rfl⟩ := List.exists_cons_of_ne_nil hne
    exact hl.1
  unfold trimBoth
  rw [List.append_assoc, dropWhile_append_of hbefore hhead, List.reverse_append,
    dropWhile_append_of (by simpa using hafter) (by simpa using hl.2), List.reverse_reverse]

/-- Nothing is left of blanks alone. -/
theorem trimBoth_blank {l : List α} (h : ∀ c ∈ l, p c = true) : trimBoth p l = [] := by
  unfold trimBoth
  rw [List.dropWhile_eq_nil_iff.mpr h]
  rfl

/-- What is trimmed off a line is blank. -/
theorem exists_trimBoth (p : α → Bool) (line : List α) :
    ∃ before after, line = before ++ trimBoth p line ++ after ∧ (∀ c ∈ before, p c = true) ∧
      ∀ c ∈ after, p c = true := by
  refine ⟨line.takeWhile p, ((line.dropWhile p).reverse.takeWhile p).reverse, ?_,
    fun c hc => List.mem_takeWhile_imp hc, ?_⟩
  · unfold trimBoth
    rw [List.append_assoc, ← List.reverse_append, List.takeWhile_append_dropWhile,
      List.reverse_reverse, List.takeWhile_append_dropWhile]
  · intro c hc
    exact List.mem_takeWhile_imp (List.mem_reverse.mp hc)

/-- What is left has no blanks at its ends. -/
theorem trimmed_trimBoth (p : α → Bool) (line : List α) : Trimmed p (trimBoth p line) := by
  have hdrop (l : List α) : ∀ c ∈ (l.dropWhile p).head?, p c = false := by
    intro c hc
    have hnot := List.head?_dropWhile_not p l
    rw [show (l.dropWhile p).head? = some c from hc] at hnot
    simpa using hnot
  constructor
  · intro c hc
    -- the head of what is left after the second cut is that of what was left after the first
    obtain ⟨rest, hrest⟩ : ∃ rest, line.dropWhile p = trimBoth p line ++ rest := by
      refine ⟨((line.dropWhile p).reverse.takeWhile p).reverse, ?_⟩
      unfold trimBoth
      rw [← List.reverse_append, List.takeWhile_append_dropWhile, List.reverse_reverse]
    refine hdrop line c ?_
    rw [hrest, List.head?_append, show (trimBoth p line).head? = some c from hc]
    rfl
  · intro c hc
    refine hdrop (line.dropWhile p).reverse c ?_
    rw [trimBoth, List.getLast?_reverse] at hc
    exact hc

/-! ### Layouts -/

variable {sep : α}

/-- `text` has the records `rs`, with any blanks around each and any blank lines between them. -/
inductive LaidOut (sep : α) (p : α → Bool) : List (List α) → List α → Prop
  | blank {line : List α} (hsep : sep ∉ line) (h : ∀ c ∈ line, p c = true) : LaidOut sep p [] line
  | line {before l after : List α} (hsep : sep ∉ before ++ l ++ after)
    (hbefore : ∀ c ∈ before, p c = true) (hl : Trimmed p l) (hne : l ≠ [])
    (hafter : ∀ c ∈ after, p c = true) : LaidOut sep p [l] (before ++ l ++ after)
  | append {rs rs' : List (List α)} {a b : List α} (h : LaidOut sep p rs a)
    (h' : LaidOut sep p rs' b) : LaidOut sep p (rs ++ rs') (a ++ sep :: b)

/-- A record is no longer than its text. -/
theorem LaidOut.length_le {rs : List (List α)} {text : List α} (h : LaidOut sep p rs text) :
    ∀ l ∈ rs, l.length ≤ text.length := by
  induction h with
  | blank => simp
  | line =>
    simp only [List.forall_mem_singleton, List.length_append]
    omega
  | append _ _ ih ih' =>
    intro l hl
    simp only [List.length_append, List.length_cons]
    rcases List.mem_append.mp hl with hl | hl
    · have hle := ih l hl
      omega
    · have hle := ih' l hl
      omega

/-! ### Splitting -/

section Splitting

variable [DecidableEq α]

/-- The records of a text: its lines, trimmed, but for the blank ones. -/
def records (sep : α) (p : α → Bool) (text : List α) : List (List α) :=
  ((text.splitOn sep).map (trimBoth p)).filter (· ≠ [])

/-- A separator between two texts puts their records one after the other. -/
theorem records_append (sep : α) (p : α → Bool) (a b : List α) :
    records sep p (a ++ sep :: b) = records sep p a ++ records sep p b := by
  unfold records
  rw [List.splitOn_append_cons_self, List.map_append, List.filter_append]

/-- A line with nothing but blanks on it has no record. -/
theorem records_blank {line : List α} (hsep : sep ∉ line) (h : ∀ c ∈ line, p c = true) :
    records sep p line = [] := by
  simp [records, List.splitOn_eq_singleton hsep, trimBoth_blank h]

/-- A line with blanks around it is one record. -/
theorem records_line {before l after : List α} (hsep : sep ∉ before ++ l ++ after)
    (hbefore : ∀ c ∈ before, p c = true) (hl : Trimmed p l) (hne : l ≠ [])
    (hafter : ∀ c ∈ after, p c = true) : records sep p (before ++ l ++ after) = [l] := by
  rw [records, List.splitOn_eq_singleton hsep, List.map_singleton,
    trimBoth_append hbefore hl hne hafter]
  simp [hne]

/-- A layout has the records it lays out. -/
theorem records_of_laidOut {rs : List (List α)} {text : List α} (h : LaidOut sep p rs text) :
    records sep p text = rs := by
  induction h with
  | blank hsep h => exact records_blank hsep h
  | line hsep hbefore hl hne hafter => exact records_line hsep hbefore hl hne hafter
  | append _ _ ih ih' => rw [records_append, ih, ih']

/-- Every text is a layout of its records. -/
theorem laidOut_records (sep : α) (p : α → Bool) (text : List α) :
    LaidOut sep p (records sep p text) text := by
  induction hn : text.length using Nat.strong_induction_on generalizing text with
  | _ n ih =>
    subst hn
    by_cases hsep : sep ∈ text
    · -- a separator: two shorter texts
      obtain ⟨a, b, rfl⟩ := List.append_of_mem hsep
      rw [records_append]
      have hlength : (a ++ sep :: b).length = a.length + b.length + 1 := by
        simp only [List.length_append, List.length_cons]
        omega
      exact .append (ih a.length (by omega) a rfl) (ih b.length (by omega) b rfl)
    · obtain ⟨before, after, hline, hbefore, hafter⟩ := exists_trimBoth p text
      by_cases hne : trimBoth p text = []
      · have hblank : ∀ c ∈ text, p c = true := by
          rw [hline, hne, List.append_nil]
          exact List.forall_mem_append.mpr ⟨hbefore, hafter⟩
        rw [records_blank hsep hblank]
        exact .blank hsep hblank
      · have htrimmed := trimmed_trimBoth p text
        generalize trimBoth p text = l at *
        subst hline
        rw [records_line hsep hbefore htrimmed hne hafter]
        exact .line hsep hbefore htrimmed hne hafter

/-- **Records and layouts.**  What is found in a text are the records it is a layout of. -/
theorem records_iff {rs : List (List α)} {text : List α} :
    records sep p text = rs ↔ LaidOut sep p rs text := by
  constructor
  · rintro rfl
    exact laidOut_records sep p text
  · exact records_of_laidOut

end Splitting

end Wire.Records
