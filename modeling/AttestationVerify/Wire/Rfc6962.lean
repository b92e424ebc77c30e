import AttestationVerify.Wire.Text
import Mathlib.Data.Nat.Bitwise
import Mathlib.Data.Nat.Log
import Mathlib.Data.Nat.Size
import Mathlib.Tactic.Positivity

namespace Wire.Rfc6962

/-!
# RFC 6962 Merkle trees

The tree hash of a list of byte strings, over any hash function, and its two readings.

* `root` — top down, splitting at the largest power of two below the length;
* `levelUp` — bottom up, pairing neighbours and promoting an unpaired last node;
* `root_levelUp` — the two agree: a level and the one above it have the same root;
* `path_levelUp` — the audit path, defined top down, is the siblings met going up;
* `pathLength_eq` — how many of them there are, from the bits of the index and the size;
* `mth` — the Merkle tree hash, `mth_eq_root` — it is the root of the leaf hashes;
* `leaf_or_collision`, `node_or_collision` — equal hashes come from equal inputs, or from a
  collision at the inputs as they are hashed.
-/

variable {α : Type}

/-! ### Splitting -/

/-- The largest power of two below `n`, for `n ≥ 2`. -/
def splitPoint (n : ℕ) : ℕ := 2 ^ Nat.log 2 (n - 1)

/-- Some leaves are to the right of the split. -/
theorem splitPoint_lt {n : ℕ} (h : 2 ≤ n) : splitPoint n < n := by
  have hpow := Nat.pow_log_le_self 2 (show n - 1 ≠ 0 by omega)
  unfold splitPoint
  omega

/-- Some leaves are to the left of the split. -/
theorem splitPoint_pos (n : ℕ) : 0 < splitPoint n := by
  unfold splitPoint
  positivity

/-- Two leaves are split between them. -/
theorem splitPoint_two : splitPoint 2 = 1 := by decide

/-- Halving a tree halves its split point. -/
theorem splitPoint_half {n : ℕ} (h : 3 ≤ n) : splitPoint n = 2 * splitPoint ((n + 1) / 2) := by
  unfold splitPoint
  rw [Nat.log_of_one_lt_of_le (by decide) (by omega), pow_succ,
    show (n + 1) / 2 - 1 = (n - 1) / 2 by omega, Nat.mul_comm]

/-! ### The tree over a list of nodes -/

section Tree

variable (empty : α) (node : α → α → α)

/-- Top down. -/
def root : List α → α
  | [] => empty
  | [x] => x
  | x :: y :: rest =>
    node (root ((x :: y :: rest).take (splitPoint (rest.length + 2))))
      (root ((x :: y :: rest).drop (splitPoint (rest.length + 2))))
  termination_by level => level.length
  decreasing_by
    · have := splitPoint_lt (show 2 ≤ rest.length + 2 by omega)
      simp only [List.length_take, List.length_cons]
      omega
    · have := splitPoint_pos (rest.length + 2)
      simp only [List.length_drop, List.length_cons]
      omega

/-- One level up. -/
def levelUp : List α → List α
  | x :: y :: rest => node x y :: levelUp rest
  | level => level

end Tree

variable {empty : α} {node : α → α → α}

/-- The root of a tree is the node over the roots of its two halves. -/
theorem root_split {level : List α} (h : 2 ≤ level.length) :
    root empty node level = node (root empty node (level.take (splitPoint level.length)))
      (root empty node (level.drop (splitPoint level.length))) := by
  match level, h with
  | x :: y :: rest, _ => rw [root]; rfl

/-- A level has half as many nodes as the one below, rounded up. -/
theorem length_levelUp (level : List α) :
    (levelUp node level).length = (level.length + 1) / 2 := by
  induction level using levelUp.induct with
  | case1 x y rest ih => simp only [levelUp, List.length_cons, ih]; omega
  | case2 level hlevel =>
    match level with
    | [] => simp [levelUp]
    | [x] => simp [levelUp]
    | x :: y :: rest => exact absurd rfl (hlevel x y rest)

/-- Neighbours on the two sides of an even cut are not paired. -/
theorem levelUp_append (node : α → α → α) {xs : List α} (ys : List α) (h : xs.length % 2 = 0) :
    levelUp node (xs ++ ys) = levelUp node xs ++ levelUp node ys := by
  induction xs using levelUp.induct with
  | case1 x y rest ih =>
    simp only [List.length_cons] at h
    simp only [List.cons_append, levelUp, ih (by omega)]
  | case2 xs hxs =>
    match xs with
    | [] => rfl
    | [x] => simp at h
    | x :: y :: rest => exact absurd rfl (hxs x y rest)

/-- **The two readings agree.** -/
theorem root_levelUp (level : List α) :
    root empty node (levelUp node level) = root empty node level := by
  induction hn : level.length using Nat.strong_induction_on generalizing level with
  | _ n ih =>
    subst hn
    match level with
    | [] => rfl
    | [x] => rfl
    | [x, y] => simp [levelUp, root, splitPoint_two]
    | x :: y :: z :: rest =>
      -- the split point is even, so that each half goes up on its own
      generalize hlevel : x :: y :: z :: rest = level at ih ⊢
      have hlength : 3 ≤ level.length := by simp [← hlevel]
      have hhalf := splitPoint_half hlength
      have hlt := splitPoint_lt (show 2 ≤ level.length by omega)
      have hpos := splitPoint_pos ((level.length + 1) / 2)
      have htake : (level.take (splitPoint level.length)).length = splitPoint level.length := by
        simp only [List.length_take]; omega
      have happend := levelUp_append node (level.drop (splitPoint level.length))
        (show (level.take (splitPoint level.length)).length % 2 = 0 by omega)
      rw [List.take_append_drop] at happend
      have hcut : (levelUp node (level.take (splitPoint level.length))).length
          = splitPoint ((level.length + 1) / 2) := by
        rw [length_levelUp, htake, hhalf]; omega
      rw [root_split (show 2 ≤ level.length by omega),
        root_split (by rw [length_levelUp]; omega), length_levelUp, happend,
        List.take_left' hcut, List.drop_left' hcut,
        ih _ (by rw [htake]; omega) _ rfl,
        ih _ (by rw [List.length_drop]; omega) _ rfl]

/-- A node one level up is the hash of its two children, or an unpaired last node promoted. -/
theorem getElem?_levelUp (node : α → α → α) (level : List α) (i : ℕ) :
    (levelUp node level)[i]? = match level[2 * i]?, level[2 * i + 1]? with
      | some x, some y => some (node x y)
      | some x, none => some x
      | none, _ => none := by
  induction level using levelUp.induct generalizing i with
  | case1 x y rest ih =>
    cases i with
    | zero => rfl
    | succ i =>
      rw [levelUp, List.getElem?_cons_succ, ih i]
      rfl
  | case2 level hlevel =>
    match level with
    | [] => rfl
    | [x] => cases i <;> rfl
    | x :: y :: rest => exact absurd rfl (hlevel x y rest)

/-! ### Audit paths -/

section Path

variable (empty : α) (node : α → α → α)

/-- The audit path of node `i`: the roots of the subtrees beside it, bottom first. -/
def path (i : ℕ) (level : List α) : List α :=
  if level.length ≤ 1 then []
  else if i < splitPoint level.length then
    path i (level.take (splitPoint level.length)) ++
      [root empty node (level.drop (splitPoint level.length))]
  else
    path (i - splitPoint level.length) (level.drop (splitPoint level.length)) ++
      [root empty node (level.take (splitPoint level.length))]
  termination_by level.length
  decreasing_by
    · have := splitPoint_lt (show 2 ≤ level.length by omega)
      simp only [List.length_take]
      omega
    · have := splitPoint_pos level.length
      simp only [List.length_drop]
      omega

/-- The node paired with node `i`; none for an unpaired last node. -/
def sibling (i : ℕ) (level : List α) : Option α :=
  if i % 2 = 1 then level[i - 1]? else level[i + 1]?

end Path

/-- The sibling of a right child is to its left. -/
theorem sibling_odd {i : ℕ} {level : List α} (h : i % 2 = 1) :
    sibling i level = level[i - 1]? := if_pos h

/-- The sibling of a left child is to its right. -/
theorem sibling_even {i : ℕ} {level : List α} (h : ¬ i % 2 = 1) :
    sibling i level = level[i + 1]? := if_neg h

/-- A sibling in an even left half is in that half. -/
theorem sibling_append_left {i : ℕ} {xs ys : List α} (heven : xs.length % 2 = 0)
    (hi : i < xs.length) : sibling i (xs ++ ys) = sibling i xs := by
  unfold sibling
  split
  · rw [List.getElem?_append_left (by omega)]
  · rw [List.getElem?_append_left (by omega)]

/-- A sibling in the right half is in that half. -/
theorem sibling_append_right {i : ℕ} {xs ys : List α} (heven : xs.length % 2 = 0)
    (hi : xs.length ≤ i) : sibling i (xs ++ ys) = sibling (i - xs.length) ys := by
  unfold sibling
  rw [show (i - xs.length) % 2 = i % 2 by omega]
  split
  · rw [List.getElem?_append_right (by omega), show i - 1 - xs.length = i - xs.length - 1 by omega]
  · rw [List.getElem?_append_right (by omega), show i + 1 - xs.length = i - xs.length + 1 by omega]

/-- A path in the left subtree ends with the root of the right one. -/
theorem path_left {i : ℕ} {xs ys : List α} (hcut : xs.length = splitPoint (xs ++ ys).length)
    (htwo : 2 ≤ (xs ++ ys).length) (hi : i < xs.length) :
    path empty node i (xs ++ ys) = path empty node i xs ++ [root empty node ys] := by
  rw [path, if_neg (by omega), ← hcut, if_pos hi, List.take_left, List.drop_left]

/-- A path in the right half ends with the root of the left one. -/
theorem path_right {i : ℕ} {xs ys : List α} (hcut : xs.length = splitPoint (xs ++ ys).length)
    (htwo : 2 ≤ (xs ++ ys).length) (hi : xs.length ≤ i) :
    path empty node i (xs ++ ys) =
      path empty node (i - xs.length) ys ++ [root empty node xs] := by
  rw [path, if_neg (by omega), ← hcut, if_neg (by omega), List.take_left, List.drop_left]

/-- **A path starts with the sibling** and goes on one level up. -/
theorem path_levelUp {level : List α} {i : ℕ} (hi : i < level.length) :
    path empty node i level =
      (sibling i level).toList ++ path empty node (i / 2) (levelUp node level) := by
  induction hn : level.length using Nat.strong_induction_on generalizing level i with
  | _ n ih =>
    subst hn
    by_cases hone : level.length ≤ 1
    · -- a single node has neither a sibling nor a level above
      obtain ⟨x, rfl⟩ := List.length_eq_one_iff.mp (show level.length = 1 by omega)
      obtain rfl : i = 0 := by simpa using hi
      simp [path, sibling, levelUp]
    by_cases htwo : level.length = 2
    · -- a pair of leaves is one node above
      obtain ⟨x, y, rfl⟩ := List.length_eq_two.mp htwo
      have hcases : i = 0 ∨ i = 1 := by simp only [List.length_cons, List.length_nil] at hi; omega
      rcases hcases with rfl | rfl <;>
        simp [path, sibling, levelUp, root, splitPoint_two]
    · -- the cut is even, so that a pair lies on one side of it
      have hhalf := splitPoint_half (show 3 ≤ level.length by omega)
      have hlt := splitPoint_lt (show 2 ≤ level.length by omega)
      have hpos := splitPoint_pos ((level.length + 1) / 2)
      obtain ⟨xs, ys, rfl, hcut⟩ : ∃ xs ys, level = xs ++ ys ∧
          xs.length = splitPoint level.length :=
        ⟨level.take (splitPoint level.length), level.drop (splitPoint level.length),
          (List.take_append_drop _ level).symm, by rw [List.length_take]; omega⟩
      have hxs : xs.length = 2 * splitPoint (((xs ++ ys).length + 1) / 2) := hcut.trans hhalf
      have hup := levelUp_append node ys (show xs.length % 2 = 0 by omega)
      have hcutUp : (levelUp node xs).length =
          splitPoint (levelUp node xs ++ levelUp node ys).length := by
        rw [← hup, length_levelUp, length_levelUp]; omega
      have htwoUp : 2 ≤ (levelUp node xs ++ levelUp node ys).length := by
        rw [← hup, length_levelUp]; omega
      have hlengthUp : (levelUp node xs).length = (xs.length + 1) / 2 := length_levelUp xs
      have hsum : (xs ++ ys).length = xs.length + ys.length := List.length_append
      by_cases hside : i < xs.length
      · -- the left half, then the right half with its own indices
        rw [path_left hcut (by omega) hside, hup, path_left hcutUp htwoUp (by omega), root_levelUp,
          sibling_append_left (by omega) hside, ih _ (by omega) hside rfl,
          List.append_assoc]
      · have hright : i - xs.length < ys.length := by omega
        rw [path_right hcut (by omega) (by omega), hup, path_right hcutUp htwoUp (by omega),
          root_levelUp, sibling_append_right (by omega) (by omega),
          ih _ (by omega) hright rfl, List.append_assoc,
          show i / 2 - (levelUp node xs).length = (i - xs.length) / 2 by omega]

/-! ### The length of a path -/

/-- The number of one bits. -/
def popcount (n : ℕ) : ℕ := n.bits.count true

/-- The nodes with a sibling on the way up from node `i` of a level whose last node is `last`. -/
def pathLength (i last : ℕ) : ℕ :=
  if last = 0 then 0
  else (if i % 2 = 1 ∨ i < last then 1 else 0) + pathLength (i / 2) (last / 2)
  termination_by last

/-- The bits of a number are its last one and those of its half. -/
theorem bits_half {n : ℕ} (h : n ≠ 0) : n.bits = decide (n % 2 = 1) :: (n / 2).bits := by
  rcases Nat.even_or_odd' n with ⟨m, rfl | rfl⟩
  · rw [Nat.bit0_bits m (by omega), show 2 * m / 2 = m by omega, show 2 * m % 2 = 0 by omega]
    rfl
  · rw [Nat.bit1_bits, show (2 * m + 1) / 2 = m by omega, show (2 * m + 1) % 2 = 1 by omega]
    rfl

/-- The ones of a number are its last bit and those of its half. -/
theorem popcount_half (n : ℕ) : popcount n = n % 2 + popcount (n / 2) := by
  unfold popcount
  by_cases hn : n = 0
  · subst hn; rfl
  · rw [bits_half hn, List.count_cons]
    by_cases hodd : n % 2 = 1
    · simp [hodd, Nat.add_comm]
    · simp [show n % 2 = 0 by omega]

/-- A number has one bit more than its half. -/
theorem size_half {n : ℕ} (h : n ≠ 0) : n.size = (n / 2).size + 1 := by
  rw [← Nat.size_eq_bits_len, ← Nat.size_eq_bits_len, bits_half h, List.length_cons]

/-- **The length of a path.**  Below the topmost bit where `i` differs from `last` every node has
    a sibling, above it only the right ones. -/
theorem pathLength_eq {i last : ℕ} (h : i ≤ last) :
    pathLength i last = (i ^^^ last).size + popcount (i >>> (i ^^^ last).size) := by
  induction last using Nat.strong_induction_on generalizing i with
  | _ last ih =>
    by_cases hlast : last = 0
    · subst hlast
      obtain rfl : i = 0 := by omega
      simp [pathLength, popcount]
    have hup := ih (last / 2) (by omega) (show i / 2 ≤ last / 2 by omega)
    rw [pathLength, if_neg hlast, hup]
    -- on the right edge only the one bits count; elsewhere there is a sibling
    by_cases heq : i = last
    · subst heq
      rw [Nat.xor_self, Nat.xor_self, Nat.size_zero, Nat.shiftRight_zero, Nat.shiftRight_zero,
        popcount_half i]
      split <;> omega
    · have hxor : i ^^^ last ≠ 0 := fun hx => heq (Nat.xor_eq_zero_iff.mp hx)
      rw [if_pos (by omega), size_half hxor, Nat.xor_div_two, Nat.add_comm _ 1, Nat.shiftRight_add,
        Nat.shiftRight_one]
      omega

/-! ### Tree hashes -/

section Hash

variable (h : Bytes → Octets 32)

/-- What is hashed for a leaf: its prefix keeps it apart from a node. -/
def leafPreimage (d : Bytes) : Bytes := 0 :: d

/-- What is hashed for a node: its prefix keeps it apart from a leaf. -/
def nodePreimage (l r : Octets 32) : Bytes := 1 :: (l.bytes ++ r.bytes)

/-- The hash of a leaf. -/
def leafHash (d : Bytes) : Octets 32 := h (leafPreimage d)

/-- The hash of a node. -/
def nodeHash (l r : Octets 32) : Octets 32 := h (nodePreimage l r)

/-- The Merkle tree hash of a list of byte strings. -/
def mth : List Bytes → Octets 32
  | [] => h []
  | [d] => leafHash h d
  | d :: e :: rest =>
    nodeHash h (mth ((d :: e :: rest).take (splitPoint (rest.length + 2))))
      (mth ((d :: e :: rest).drop (splitPoint (rest.length + 2))))
  termination_by leaves => leaves.length
  decreasing_by
    · have := splitPoint_lt (show 2 ≤ rest.length + 2 by omega)
      simp only [List.length_take, List.length_cons]
      omega
    · have := splitPoint_pos (rest.length + 2)
      simp only [List.length_drop, List.length_cons]
      omega

variable {h}

/-- The recursive tree hash is the root that the levels arrive at. -/
theorem mth_eq_root (leaves : List Bytes) :
    mth h leaves = root (h []) (nodeHash h) (leaves.map (leafHash h)) := by
  induction hn : leaves.length using Nat.strong_induction_on generalizing leaves with
  | _ n ih =>
    subst hn
    match leaves with
    | [] => simp [mth, root]
    | [d] => simp [mth, root]
    | d :: e :: rest =>
      have hlt := splitPoint_lt (show 2 ≤ rest.length + 2 by omega)
      have hpos := splitPoint_pos (rest.length + 2)
      rw [mth, root_split (by simp), List.length_map, List.map_take.symm, List.map_drop.symm,
        ih _ (by simp only [List.length_take, List.length_cons]; omega) _ rfl,
        ih _ (by simp only [List.length_drop, List.length_cons]; omega) _ rfl]
      rfl

/-- The audit path of leaf `i`. -/
def auditPath (h : Bytes → Octets 32) (i : ℕ) (leaves : List Bytes) : List (Octets 32) :=
  if leaves.length ≤ 1 then []
  else if i < splitPoint leaves.length then
    auditPath h i (leaves.take (splitPoint leaves.length)) ++
      [mth h (leaves.drop (splitPoint leaves.length))]
  else
    auditPath h (i - splitPoint leaves.length) (leaves.drop (splitPoint leaves.length)) ++
      [mth h (leaves.take (splitPoint leaves.length))]
  termination_by leaves.length
  decreasing_by
    · have := splitPoint_lt (show 2 ≤ leaves.length by omega)
      simp only [List.length_take]
      omega
    · have := splitPoint_pos leaves.length
      simp only [List.length_drop]
      omega

/-- The recursive audit path is the siblings met on the way up. -/
theorem auditPath_eq_path (i : ℕ) (leaves : List Bytes) :
    auditPath h i leaves = path (h []) (nodeHash h) i (leaves.map (leafHash h)) := by
  induction i, leaves using auditPath.induct with
  | case1 i leaves hone => rw [auditPath, path, if_pos hone, List.length_map, if_pos hone]
  | case2 i leaves htwo hleft ih =>
    rw [auditPath, path, if_neg htwo, if_pos hleft, List.length_map, if_neg htwo, if_pos hleft, ih,
      mth_eq_root, List.map_take, List.map_drop]
  | case3 i leaves htwo hright ih =>
    rw [auditPath, path, if_neg htwo, if_neg hright, List.length_map, if_neg htwo, if_neg hright,
      ih, mth_eq_root, List.map_take, List.map_drop]

/-- Leaves with one hash are one leaf, or collide. -/
theorem leaf_or_collision {d e : Bytes} (heq : leafHash h d = leafHash h e) :
    d = e ∨ Collision h (leafPreimage d) (leafPreimage e) := by
  by_cases hde : d = e
  · exact .inl hde
  · exact .inr ⟨fun hp => hde (List.cons.inj hp).2, heq⟩

/-- Nodes with one hash are one node, or collide. -/
theorem node_or_collision {l r l' r' : Octets 32} (heq : nodeHash h l r = nodeHash h l' r') :
    (l = l' ∧ r = r') ∨ Collision h (nodePreimage l r) (nodePreimage l' r') := by
  by_cases hp : nodePreimage l r = nodePreimage l' r'
  · have hlength : l.bytes.length = l'.bytes.length := by rw [l.length_eq, l'.length_eq]
    obtain ⟨hl, hr⟩ := List.append_inj (List.cons.inj hp).2 hlength
    exact .inl ⟨Octets.ext hl, Octets.ext hr⟩
  · exact .inr ⟨hp, heq⟩

end Hash

end Wire.Rfc6962
