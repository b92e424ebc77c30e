import AttestationVerify.Bundle
import AttestationVerify.Wire.Rfc6962

namespace AttestationVerify

open Wire Wire.Rfc6962

/-!
# Inclusion proofs

`rekor.rs`, third part: the audit path walked from a leaf hash to a root.

* `recomputeRoot` — the walk;
* `walkCollision` — the two hash inputs at the first level where a walk that started at a wrong node
  meets the tree;
* `recomputeRoot_complete` — the audit path of a leaf leads to the tree hash;
* `verifyInclusionProof_sound` — an accepted proof against the tree hash of a list is the audit path
  of one of its leaves, or its walk contains a collision;
* `recomputeRoot_isSome_iff` — the one length a proof can have.
-/

/-- The leaf hash of the entry's body. -/
def rfc6962LeafHash (X : Externals) (canonicalizedBody : Bytes) : Octets 32 :=
  leafHash X.sha256 canonicalizedBody

/-- The hash of an inner node. -/
def rfc6962NodeHash (X : Externals) (left right : Octets 32) : Octets 32 :=
  nodeHash X.sha256 left right

/-- The loop of `recompute_root`, and its check that no hash is left. -/
def walkUp (X : Externals) (nodeIndex lastNode : ℕ) (current : Octets 32)
    (remaining : List (Octets 32)) : Option (Octets 32) :=
  if lastNode = 0 then
    if remaining = [] then some current else none
  else if nodeIndex % 2 = 1 then
    match remaining with
    | [] => none
    | sibling :: rest =>
      walkUp X (nodeIndex / 2) (lastNode / 2) (rfc6962NodeHash X sibling current) rest
  else if nodeIndex < lastNode then
    match remaining with
    | [] => none
    | sibling :: rest =>
      walkUp X (nodeIndex / 2) (lastNode / 2) (rfc6962NodeHash X current sibling) rest
  -- the unpaired last node of its level, promoted unchanged
  else walkUp X (nodeIndex / 2) (lastNode / 2) current remaining
  termination_by lastNode

/-- `recompute_root`: the walk from the leaf, for an index within the tree. -/
def recomputeRoot (X : Externals) (leaf : Octets 32) (leafIndex treeSize : UInt64)
    (hashes : List (Octets 32)) : Option (Octets 32) :=
  if leafIndex ≥ treeSize then none
  else walkUp X leafIndex.toNat (treeSize.toNat - 1) leaf hashes

/-- The one error of the inclusion proof. -/
def inclusionProofInvalid : Error := .transparency .inclusionProofInvalid

/-- `verify_inclusion_proof`: the recomputed root is the proof's. -/
def verifyInclusionProof (X : Externals) (canonicalizedBody : Bytes) (proof : InclusionProof) :
    Except Error Unit := do
  let rootHash ← okOr (toOctets 32 proof.rootHash) inclusionProofInvalid
  let hashes ← okOr (proof.hashes.mapM (toOctets 32)) inclusionProofInvalid
  let computed ← okOr (recomputeRoot X (rfc6962LeafHash X canonicalizedBody) proof.logIndex
    proof.treeSize hashes) inclusionProofInvalid
  ensure (computed = rootHash) inclusionProofInvalid

/-- The proof recomputes its own root hash from the body. -/
structure IncludesBody (X : Externals) (canonicalizedBody : Bytes) (proof : InclusionProof)
    (hashes : List (Octets 32)) (rootHash : Octets 32) : Prop where
  rootHash_eq : proof.rootHash = rootHash.bytes
  hashes_eq : proof.hashes = hashes.map Octets.bytes
  recomputed : recomputeRoot X (rfc6962LeafHash X canonicalizedBody) proof.logIndex
    proof.treeSize hashes = some rootHash

/-- The proof verifies exactly if its hashes lead to its root. -/
theorem verifyInclusionProof_eq_ok {X : Externals} {canonicalizedBody : Bytes}
    {proof : InclusionProof} {u : Unit} :
    verifyInclusionProof X canonicalizedBody proof = .ok u ↔
      ∃ hashes rootHash, IncludesBody X canonicalizedBody proof hashes rootHash := by
  have hhashes (hashes : List (Octets 32)) :
      proof.hashes.mapM (toOctets 32) = some hashes ↔
        proof.hashes = hashes.map Octets.bytes := by
    rw [mapM_eq_some]
    simp only [toOctets_eq_some]
    rw [← List.forall₂_map_right_iff, List.forall₂_eq_eq_eq]
  simp only [verifyInclusionProof, bind_eq_ok, okOr_eq_ok, ensure_eq_ok, toOctets_eq_some, hhashes]
  constructor
  · intro h
    obtain ⟨rootHash, hroot, hashes, hh, computed, hcomputed, rfl⟩ := h
    exact ⟨hashes, computed, hroot, hh, hcomputed⟩
  · intro h
    obtain ⟨hashes, rootHash, hroot, hh, hcomputed⟩ := h
    exact ⟨rootHash, hroot, hashes, hh, rootHash, hcomputed, rfl⟩

/-! ### The walk against the tree -/

section Walk

variable {X : Externals}

/-- The inputs hashed to one tree node by the walk and by the tree, at the first level above
    `level` where they meet. -/
def walkCollision (X : Externals) (level : List (Octets 32)) (nodeIndex lastNode : ℕ)
    (current : Octets 32) (remaining : List (Octets 32)) : Bytes × Bytes :=
  if lastNode = 0 then ([], [])
  else
    let up := levelUp (nodeHash X.sha256) level
    let left := level[2 * (nodeIndex / 2)]?.getD current
    let right := level[2 * (nodeIndex / 2) + 1]?.getD current
    if nodeIndex % 2 = 1 then
      match remaining with
      | [] => ([], [])
      | sibling :: rest =>
        let parent := rfc6962NodeHash X sibling current
        if up[nodeIndex / 2]? = some parent then
          (nodePreimage sibling current, nodePreimage left right)
        else walkCollision X up (nodeIndex / 2) (lastNode / 2) parent rest
    else if nodeIndex < lastNode then
      match remaining with
      | [] => ([], [])
      | sibling :: rest =>
        let parent := rfc6962NodeHash X current sibling
        if up[nodeIndex / 2]? = some parent then
          (nodePreimage current sibling, nodePreimage left right)
        else walkCollision X up (nodeIndex / 2) (lastNode / 2) parent rest
    else walkCollision X up (nodeIndex / 2) (lastNode / 2) current remaining
  termination_by lastNode

/-- Where the walk meets the tree in the node above two pairs, the pairs are one or collide; where
    it does not, there is a collision further up. -/
theorem pair_or_collision {a b l r : Octets 32} {node : Option (Octets 32)} {above : Bytes × Bytes}
    (hnode : node = some (nodeHash X.sha256 l r))
    (habove : node = some (rfc6962NodeHash X a b) ∨ Collision X.sha256 above.1 above.2) :
    (a = l ∧ b = r) ∨
      let met := if node = some (rfc6962NodeHash X a b) then
        (nodePreimage a b, nodePreimage l r) else above
      Collision X.sha256 met.1 met.2 := by
  dsimp only
  split
  · rename_i hmeet
    exact node_or_collision (Option.some.inj (hmeet.symm.trans hnode))
  · rename_i hmeet
    exact .inr (habove.resolve_left hmeet)

/-- **The walk against the tree.**  A walk that arrives at the root of a level started at that
    level's node and took its sibling next, or ran into a collision. -/
theorem walkUp_sound {level : List (Octets 32)} {i last : ℕ} {current : Octets 32}
    {remaining : List (Octets 32)} (hlength : level.length = last + 1) (hi : i ≤ last)
    (hwalk : walkUp X i last current remaining =
      some (root (X.sha256 []) (nodeHash X.sha256) level)) :
    (level[i]? = some current ∧ (sibling i level).toList <+: remaining) ∨
      Collision X.sha256 (walkCollision X level i last current remaining).1
        (walkCollision X level i last current remaining).2 := by
  induction last using Nat.strong_induction_on generalizing level i current remaining with
  | _ last ih =>
    rcases Nat.eq_zero_or_pos last with rfl | hlast
    · -- one node is left, the root itself, and no path
      obtain ⟨x, rfl⟩ := List.length_eq_one_iff.mp hlength
      obtain rfl : i = 0 := by omega
      unfold walkUp at hwalk
      rw [if_pos rfl] at hwalk
      split at hwalk
      · exact .inl ⟨by simpa [root] using hwalk.symm, List.nil_prefix⟩
      · simp at hwalk
    · have hup : (levelUp (nodeHash X.sha256) level).length = last / 2 + 1 := by
        rw [length_levelUp, hlength]; omega
      -- the rest of the walk, from the level above
      have hnext {current' : Octets 32} {remaining' : List (Octets 32)}
          (h : walkUp X (i / 2) (last / 2) current' remaining' =
            some (root (X.sha256 []) (nodeHash X.sha256) level)) :=
        ih (last / 2) (by omega) hup (show i / 2 ≤ last / 2 by omega) (h.trans (by
          rw [root_levelUp]))
      have hparent := getElem?_levelUp (nodeHash X.sha256) level (i / 2)
      have hget (j : ℕ) (hj : j ≤ last) : ∃ x, level[j]? = some x :=
        ⟨level[j], List.getElem?_eq_getElem (by omega)⟩
      unfold walkUp at hwalk
      unfold walkCollision
      simp only [if_neg (show ¬ last = 0 by omega)] at hwalk ⊢
      split at hwalk
      · -- a left sibling: the children are the pair that ends at `i`
        rename_i hodd
        rw [show 2 * (i / 2) = i - 1 by omega, show i - 1 + 1 = i by omega] at hparent ⊢
        obtain ⟨l, hl⟩ := hget (i - 1) (by omega)
        obtain ⟨r, hr⟩ := hget i hi
        rw [hl, hr] at hparent ⊢
        split at hwalk
        · simp at hwalk
        · rename_i sibling rest
          simp only [if_pos hodd, Option.getD_some]
          have habove := (hnext hwalk).imp_left And.left
          rcases pair_or_collision hparent habove with ⟨rfl, rfl⟩ | hcollision
          · refine .inl ⟨rfl, ?_⟩
            rw [sibling_odd hodd, hl]
            exact List.prefix_append [_] rest
          · exact .inr hcollision
      · rename_i heven
        rw [show 2 * (i / 2) = i by omega] at hparent ⊢
        obtain ⟨l, hl⟩ := hget i hi
        split at hwalk
        · -- a right sibling: the pair that starts at `i`
          rename_i hlt
          obtain ⟨r, hr⟩ := hget (i + 1) (by omega)
          rw [hl, hr] at hparent ⊢
          split at hwalk
          · simp at hwalk
          · rename_i sibling rest
            simp only [if_neg heven, if_pos hlt, Option.getD_some]
            have habove := (hnext hwalk).imp_left And.left
            rcases pair_or_collision hparent habove with ⟨rfl, rfl⟩ | hcollision
            · refine .inl ⟨rfl, ?_⟩
              rw [sibling_even heven, hr]
              exact List.prefix_append [_] rest
            · exact .inr hcollision
        · -- promoted: the node above is `i` itself
          rename_i hlt
          have hnone : level[i + 1]? = none := List.getElem?_eq_none (by omega)
          rw [hl, hnone] at hparent
          simp only [if_neg heven, if_neg hlt]
          rcases hnext hwalk with ⟨heq, -⟩ | hcollision
          · rw [hparent] at heq
            refine .inl ⟨hl.trans heq, ?_⟩
            rw [sibling_even heven, hnone]
            exact List.nil_prefix
          · exact .inr hcollision

/-- The two inputs that collide when an accepted proof names no leaf of `leaves`. -/
def inclusionCollision (X : Externals) (leaves : List Bytes) (canonicalizedBody : Bytes)
    (leafIndex : ℕ) (hashes : List (Octets 32)) : Bytes × Bytes :=
  if (leaves.map (leafHash X.sha256))[leafIndex]? = some (leafHash X.sha256 canonicalizedBody) then
    (leafPreimage (leaves[leafIndex]?.getD []), leafPreimage canonicalizedBody)
  else
    walkCollision X (leaves.map (leafHash X.sha256)) leafIndex (leaves.length - 1)
      (leafHash X.sha256 canonicalizedBody) hashes

/-- **An accepted proof names a leaf.** -/
theorem recomputeRoot_sound {leaves : List Bytes} {canonicalizedBody : Bytes}
    {leafIndex treeSize : UInt64} {hashes : List (Octets 32)}
    (hsize : leaves.length = treeSize.toNat)
    (hroot : recomputeRoot X (rfc6962LeafHash X canonicalizedBody) leafIndex treeSize hashes =
      some (mth X.sha256 leaves)) :
    leafIndex.toNat < leaves.length ∧
      (leaves[leafIndex.toNat]? = some canonicalizedBody ∨
        Collision X.sha256
          (inclusionCollision X leaves canonicalizedBody leafIndex.toNat hashes).1
          (inclusionCollision X leaves canonicalizedBody leafIndex.toNat hashes).2) := by
  unfold recomputeRoot at hroot
  split at hroot
  · simp at hroot
  · rename_i hlt
    have hlt : leafIndex.toNat < treeSize.toNat := UInt64.lt_iff_toNat_lt.mp (by simpa using hlt)
    refine ⟨by omega, ?_⟩
    rw [mth_eq_root, ← hsize] at hroot
    have hlength : (leaves.map (leafHash X.sha256)).length = leaves.length - 1 + 1 := by
      rw [List.length_map]; omega
    -- either two leaves hash alike, or the walk started off the tree
    unfold inclusionCollision
    split
    · rename_i hleaf
      rw [List.getElem?_map] at hleaf
      obtain ⟨d, hd, heq⟩ := Option.map_eq_some_iff.mp hleaf
      rw [hd]
      rcases leaf_or_collision heq with rfl | hcollision
      · exact .inl rfl
      · exact .inr hcollision
    · rename_i hleaf
      rcases walkUp_sound hlength (by omega) hroot with ⟨heq, -⟩ | hcollision
      · exact absurd heq hleaf
      · exact .inr hcollision

/-! ### The audit path walked -/

/-- One turn of the loop from a node of the level, its sibling next. -/
theorem walkUp_step {level : List (Octets 32)} {i last : ℕ} {current : Octets 32}
    (rest : List (Octets 32)) (hlength : level.length = last + 1) (hlast : last ≠ 0)
    (hcurrent : level[i]? = some current) :
    ∃ parent, (levelUp (nodeHash X.sha256) level)[i / 2]? = some parent ∧
      walkUp X i last current ((sibling i level).toList ++ rest) =
        walkUp X (i / 2) (last / 2) parent rest := by
  obtain ⟨hi, -⟩ := List.getElem?_eq_some_iff.mp hcurrent
  have hparent := getElem?_levelUp (nodeHash X.sha256) level (i / 2)
  have hget (j : ℕ) (hj : j < level.length) : ∃ x, level[j]? = some x :=
    ⟨level[j], List.getElem?_eq_getElem hj⟩
  rw [walkUp.eq_def, if_neg hlast]
  by_cases hodd : i % 2 = 1
  · -- the pair that ends at `i`
    obtain ⟨l, hl⟩ := hget (i - 1) (by omega)
    rw [show 2 * (i / 2) = i - 1 by omega, show i - 1 + 1 = i by omega, hl, hcurrent] at hparent
    refine ⟨_, hparent, ?_⟩
    rw [if_pos hodd, sibling, if_pos hodd, hl]
    rfl
  rw [show 2 * (i / 2) = i by omega, hcurrent] at hparent
  rw [if_neg hodd, sibling, if_neg hodd]
  by_cases hlt : i < last
  · -- the pair that starts at `i`
    obtain ⟨r, hr⟩ := hget (i + 1) (by omega)
    rw [hr] at hparent
    refine ⟨_, hparent, ?_⟩
    rw [if_pos hlt, hr]
    rfl
  · -- no sibling: the node is promoted
    have hnone : level[i + 1]? = none := List.getElem?_eq_none (by omega)
    rw [hnone] at hparent
    refine ⟨_, hparent, ?_⟩
    rw [if_neg hlt, hnone]
    rfl

/-- Along the audit path the walk arrives at the root. -/
theorem walkUp_path {level : List (Octets 32)} {i last : ℕ} {current : Octets 32}
    (hlength : level.length = last + 1) (hcurrent : level[i]? = some current) :
    walkUp X i last current (path (X.sha256 []) (nodeHash X.sha256) i level) =
      some (root (X.sha256 []) (nodeHash X.sha256) level) := by
  induction last using Nat.strong_induction_on generalizing level i current with
  | _ last ih =>
    obtain ⟨hi, -⟩ := List.getElem?_eq_some_iff.mp hcurrent
    -- the induction is on the last index of the level, halved by each turn
    by_cases hlast : last = 0
    · subst hlast
      obtain ⟨x, rfl⟩ := List.length_eq_one_iff.mp hlength
      obtain rfl : i = 0 := by simpa using hi
      obtain rfl : x = current := by simpa using hcurrent
      rw [walkUp.eq_def, path, if_pos rfl, if_pos (by simp), root]
    · obtain ⟨parent, hparent, hstep⟩ := walkUp_step (X := X)
        (path (X.sha256 []) (nodeHash X.sha256) (i / 2) (levelUp (nodeHash X.sha256) level))
        hlength hlast hcurrent
      have hup : (levelUp (nodeHash X.sha256) level).length = last / 2 + 1 := by
        rw [length_levelUp, hlength]; omega
      rw [path_levelUp hi, hstep, ih (last / 2) (by omega) hup hparent, root_levelUp]

/-- The walk arrives somewhere exactly on a path of the right length. -/
theorem walkUp_isSome {i last : ℕ} {current : Octets 32} {remaining : List (Octets 32)} :
    (walkUp X i last current remaining).isSome ↔ remaining.length = pathLength i last := by
  induction last using Nat.strong_induction_on generalizing i current remaining with
  | _ last ih =>
    rw [walkUp.eq_def, pathLength]
    by_cases hlast : last = 0
    · rw [if_pos hlast, if_pos hlast]
      by_cases hnil : remaining = []
      · simp [hnil]
      · simp [hnil]
    rw [if_neg hlast, if_neg hlast]
    -- a sibling is taken, so one has to be there
    have htaken (f : Octets 32 → Octets 32) :
        (match remaining with
          | [] => none
          | sibling :: rest => walkUp X (i / 2) (last / 2) (f sibling) rest).isSome ↔
        remaining.length = 1 + pathLength (i / 2) (last / 2) := by
      cases remaining with
      | nil => simp; omega
      | cons sibling rest =>
        rw [ih (last / 2) (by omega), List.length_cons]
        omega
    by_cases hodd : i % 2 = 1
    · rw [if_pos hodd, if_pos (.inl hodd)]
      exact htaken fun sibling => rfc6962NodeHash X sibling current
    rw [if_neg hodd]
    by_cases hlt : i < last
    · rw [if_pos hlt, if_pos (.inr hlt)]
      exact htaken fun sibling => rfc6962NodeHash X current sibling
    · -- a promoted node takes none
      rw [if_neg hlt, if_neg (by omega), ih (last / 2) (by omega), Nat.zero_add]

/-- **Completeness.**  The audit path of a leaf leads from its hash to the tree hash, whatever the
    hash function. -/
theorem recomputeRoot_complete {leaves : List Bytes} {i : ℕ} (hsize : leaves.length < 2 ^ 64)
    (hi : i < leaves.length) :
    recomputeRoot X (rfc6962LeafHash X leaves[i]) (UInt64.ofNat i) (UInt64.ofNat leaves.length)
      (auditPath X.sha256 i leaves) = some (mth X.sha256 leaves) := by
  have hindex : (UInt64.ofNat i).toNat = i := UInt64.toNat_ofNat_of_lt' (hi.trans hsize)
  have hleaves : (UInt64.ofNat leaves.length).toNat = leaves.length :=
    UInt64.toNat_ofNat_of_lt' hsize
  have hlt : ¬ UInt64.ofNat i ≥ UInt64.ofNat leaves.length := by
    intro hge
    have hle := UInt64.le_iff_toNat_le.mp hge
    omega
  rw [recomputeRoot, if_neg hlt, hindex, hleaves, auditPath_eq_path, mth_eq_root]
  apply walkUp_path
  · rw [List.length_map]; omega
  · rw [List.getElem?_map, List.getElem?_eq_getElem hi]
    rfl

/-! ### Accepted proofs -/

/-- The two inputs that collide when a walk to the root does not follow the audit path of its
    node: those of the lowest level where it leaves it. -/
def pathCollision (X : Externals) (level : List (Octets 32)) (nodeIndex lastNode : ℕ)
    (current : Octets 32) (remaining : List (Octets 32)) : Bytes × Bytes :=
  if lastNode = 0 then ([], [])
  else if level[nodeIndex]? = some current ∧ (sibling nodeIndex level).toList <+: remaining then
    pathCollision X (levelUp (nodeHash X.sha256) level) (nodeIndex / 2) (lastNode / 2)
      ((levelUp (nodeHash X.sha256) level)[nodeIndex / 2]?.getD current)
      (remaining.drop (sibling nodeIndex level).toList.length)
  else walkCollision X level nodeIndex lastNode current remaining
  termination_by lastNode

/-- A walk that arrives at the root followed the audit path, or ran into a collision. -/
theorem walkUp_path_or_collision {level : List (Octets 32)} {i last : ℕ} {current : Octets 32}
    {remaining : List (Octets 32)} (hlength : level.length = last + 1) (hi : i ≤ last)
    (hwalk : walkUp X i last current remaining =
      some (root (X.sha256 []) (nodeHash X.sha256) level)) :
    (level[i]? = some current ∧
        remaining = path (X.sha256 []) (nodeHash X.sha256) i level) ∨
      Collision X.sha256 (pathCollision X level i last current remaining).1
        (pathCollision X level i last current remaining).2 := by
  induction last using Nat.strong_induction_on generalizing level i current remaining with
  | _ last ih =>
    by_cases hlast : last = 0
    · subst hlast
      -- at the root the audit path is empty, and so is what remains
      obtain ⟨x, rfl⟩ := List.length_eq_one_iff.mp hlength
      obtain rfl : i = 0 := by omega
      rw [walkUp.eq_def, if_pos rfl] at hwalk
      by_cases hnil : remaining = []
      · rw [if_pos hnil] at hwalk
        refine .inl ⟨by simpa [root] using hwalk.symm, ?_⟩
        rw [hnil, path, if_pos (by simp)]
      · simp [hnil] at hwalk
    have hsound := walkUp_sound hlength hi hwalk
    rw [pathCollision, if_neg hlast]
    by_cases hmatch : level[i]? = some current ∧ (sibling i level).toList <+: remaining
    · -- this level is right: the walk goes on from the true parent
      obtain ⟨hcurrent, rest, rfl⟩ := hmatch
      obtain ⟨parent, hparent, hstep⟩ := walkUp_step rest hlength hlast hcurrent
      have hup : (levelUp (nodeHash X.sha256) level).length = last / 2 + 1 := by
        rw [length_levelUp, hlength]; omega
      rw [hstep, ← root_levelUp] at hwalk
      rw [if_pos ⟨hcurrent, List.prefix_append _ _⟩, hparent, Option.getD_some, List.drop_left]
      rcases ih (last / 2) (by omega) hup (by omega) hwalk with ⟨-, hrest⟩ | hcollision
      · refine .inl ⟨hcurrent, ?_⟩
        rw [path_levelUp (by omega), hrest]
      · exact .inr hcollision
    · -- the walk left the path here
      rw [if_neg hmatch]
      exact .inr (hsound.resolve_left hmatch)

/-- The two inputs that collide when an accepted proof is not the audit path of `body`. -/
def proofCollision (X : Externals) (leaves : List Bytes) (canonicalizedBody : Bytes)
    (proof : InclusionProof) : Bytes × Bytes :=
  let i := proof.logIndex.toNat
  let leaf := leafHash X.sha256 canonicalizedBody
  let level := leaves.map (leafHash X.sha256)
  if level[i]? = some leaf ∧ leaves[i]? ≠ some canonicalizedBody then
    (leafPreimage (leaves[i]?.getD []), leafPreimage canonicalizedBody)
  else
    pathCollision X level i (leaves.length - 1) leaf (proof.hashes.filterMap (toOctets 32))

/-- **Soundness.**  A proof accepted against the tree hash of `leaves` is the audit path of the
    body's own leaf, or it contains a collision. -/
theorem verifyInclusionProof_sound {leaves : List Bytes} {canonicalizedBody : Bytes}
    {proof : InclusionProof} (hsize : leaves.length = proof.treeSize.toNat)
    (hroot : proof.rootHash = (mth X.sha256 leaves).bytes)
    (hok : verifyInclusionProof X canonicalizedBody proof = .ok ()) :
    (∃ hi : proof.logIndex.toNat < leaves.length,
        canonicalizedBody = leaves[proof.logIndex.toNat] ∧
        proof.hashes =
          (auditPath X.sha256 proof.logIndex.toNat leaves).map Octets.bytes) ∨
      Collision X.sha256 (proofCollision X leaves canonicalizedBody proof).1
        (proofCollision X leaves canonicalizedBody proof).2 := by
  obtain ⟨hashes, rootHash, hincludes⟩ := verifyInclusionProof_eq_ok.mp hok
  obtain rfl : rootHash = mth X.sha256 leaves :=
    Octets.ext (hincludes.rootHash_eq.symm.trans hroot)
  have hrecomputed := hincludes.recomputed
  -- every hash of an accepted proof is 32 bytes, so none is dropped
  have hhashes : proof.hashes.filterMap (toOctets 32) = hashes := by
    rw [hincludes.hashes_eq, List.filterMap_map]
    simp
  have hlt : proof.logIndex.toNat < proof.treeSize.toNat := by
    rw [recomputeRoot] at hrecomputed
    split at hrecomputed
    · simp at hrecomputed
    · rename_i hge
      exact UInt64.lt_iff_toNat_lt.mp (UInt64.not_le.mp hge)
  have hwalk : walkUp X proof.logIndex.toNat (leaves.length - 1)
      (leafHash X.sha256 canonicalizedBody) hashes =
        some (root (X.sha256 []) (nodeHash X.sha256) (leaves.map (leafHash X.sha256))) := by
    rw [recomputeRoot, if_neg (UInt64.not_le.mpr (UInt64.lt_iff_toNat_lt.mpr hlt)), ← hsize,
      mth_eq_root] at hrecomputed
    exact hrecomputed
  have hi : proof.logIndex.toNat < leaves.length := by omega
  have hlength : (leaves.map (leafHash X.sha256)).length = leaves.length - 1 + 1 := by
    rw [List.length_map]; omega
  have hpath := walkUp_path_or_collision hlength (by omega) hwalk
  simp only [proofCollision, hhashes, List.getElem?_map, List.getElem?_eq_getElem hi,
    Option.map_some, Option.some.injEq, Option.getD_some] at hpath ⊢
  -- the body is the leaf, another text with its hash, or neither
  by_cases hbody : leaves[proof.logIndex.toNat] = canonicalizedBody
  · rw [if_neg (fun h => h.2 (congrArg some hbody))]
    rcases hpath with ⟨-, hpath⟩ | hcollision
    · refine .inl ⟨hi, hbody.symm, ?_⟩
      rw [hincludes.hashes_eq, hpath, auditPath_eq_path]
    · exact .inr hcollision
  by_cases hleaf : leafHash X.sha256 leaves[proof.logIndex.toNat] =
      leafHash X.sha256 canonicalizedBody
  · rw [if_pos ⟨hleaf, fun h => hbody (Option.some.inj h)⟩]
    exact .inr ((leaf_or_collision hleaf).resolve_left hbody)
  · rw [if_neg (fun h => hleaf h.1)]
    exact .inr (hpath.resolve_left fun h => hleaf h.1)

/-! ### The length of a proof -/

/-- `a - b` as a debug build computes it: `none` is the overflow panic. -/
def checkedSub (a b : UInt64) : Option UInt64 := if b ≤ a then some (a - b) else none

/-- The loop over the 64-bit words of the source. -/
def walkUpWords (X : Externals) (nodeIndex lastNode : UInt64) (current : Octets 32)
    (remaining : List (Octets 32)) : Option (Octets 32) :=
  if lastNode = 0 then
    if remaining = [] then some current else none
  else if nodeIndex % 2 = 1 then
    match remaining with
    | [] => none
    | sibling :: rest =>
      walkUpWords X (nodeIndex / 2) (lastNode / 2) (rfc6962NodeHash X sibling current) rest
  else if nodeIndex < lastNode then
    match remaining with
    | [] => none
    | sibling :: rest =>
      walkUpWords X (nodeIndex / 2) (lastNode / 2) (rfc6962NodeHash X current sibling) rest
  else walkUpWords X (nodeIndex / 2) (lastNode / 2) current remaining
  termination_by lastNode.toNat
  decreasing_by all_goals
    have hne : lastNode.toNat ≠ 0 := fun h => ‹¬ lastNode = 0› (UInt64.toNat_inj.mp h)
    rw [UInt64.toNat_div, show (2 : UInt64).toNat = 2 from rfl]
    omega

/-- `recompute_root` over 64-bit words; `none` outside is a panic, `none` inside its `None`. -/
def recomputeRootWords (X : Externals) (leaf : Octets 32) (leafIndex treeSize : UInt64)
    (hashes : List (Octets 32)) : Option (Option (Octets 32)) :=
  if leafIndex ≥ treeSize then some none
  else (checkedSub treeSize 1).map fun lastNode => walkUpWords X leafIndex lastNode leaf hashes

/-- The loop over words is the loop over numbers. -/
theorem walkUpWords_eq (i last : UInt64) (current : Octets 32) (remaining : List (Octets 32)) :
    walkUpWords X i last current remaining = walkUp X i.toNat last.toNat current remaining := by
  induction hn : last.toNat using Nat.strong_induction_on generalizing i last current remaining with
  | _ n ih =>
    subst hn
    -- the tests of the loop say the same of words and of numbers
    have hzero : last = 0 ↔ last.toNat = 0 := UInt64.toNat_inj.symm
    have hodd : i % 2 = 1 ↔ i.toNat % 2 = 1 := UInt64.toNat_inj.symm
    have hlt : i < last ↔ i.toNat < last.toNat := UInt64.lt_iff_toNat_lt
    rw [walkUpWords.eq_def, walkUp.eq_def]
    simp only [hzero, hodd, hlt]
    by_cases hlast : last.toNat = 0
    · rw [if_pos hlast, if_pos hlast]
    · have hnext (current' : Octets 32) (remaining' : List (Octets 32)) :
          walkUpWords X (i / 2) (last / 2) current' remaining' =
            walkUp X (i.toNat / 2) (last.toNat / 2) current' remaining' :=
        ih (last.toNat / 2) (by omega) (i / 2) (last / 2) current' remaining' rfl
      simp only [hnext]

/-- **The length of a proof.**  A root is recomputed exactly for an index inside the tree and a
    proof of its one length, whatever the hashes are, and nothing under- or overflows. -/
theorem recomputeRoot_isSome_iff (leaf : Octets 32) (leafIndex treeSize : UInt64)
    (hashes : List (Octets 32)) :
    ((recomputeRoot X leaf leafIndex treeSize hashes).isSome ↔
      leafIndex < treeSize ∧
        hashes.length = (leafIndex.toNat ^^^ (treeSize.toNat - 1)).size +
          popcount (leafIndex.toNat >>> (leafIndex.toNat ^^^ (treeSize.toNat - 1)).size)) ∧
      recomputeRootWords X leaf leafIndex treeSize hashes =
        some (recomputeRoot X leaf leafIndex treeSize hashes) ∧
      ∀ leaf' hashes', hashes'.length = hashes.length →
        (recomputeRoot X leaf' leafIndex treeSize hashes').isSome =
          (recomputeRoot X leaf leafIndex treeSize hashes).isSome := by
  by_cases hge : leafIndex ≥ treeSize
  · have hlt : ¬ leafIndex < treeSize := UInt64.not_lt.mpr hge
    simp [recomputeRoot, recomputeRootWords, hge, hlt]
  have hlt : leafIndex < treeSize := UInt64.not_le.mp hge
  have hltNat : leafIndex.toNat < treeSize.toNat := UInt64.lt_iff_toNat_lt.mp hlt
  have hone : 1 ≤ treeSize := UInt64.le_iff_toNat_le.mpr (by
    rw [show (1 : UInt64).toNat = 1 from rfl]; omega)
  -- the tree has a leaf, so the subtraction is exact
  have hsub : (treeSize - 1).toNat = treeSize.toNat - 1 := UInt64.toNat_sub_of_le _ _ hone
  have hlength := pathLength_eq (show leafIndex.toNat ≤ treeSize.toNat - 1 by omega)
  have hsome (leaf' : Octets 32) (hashes' : List (Octets 32)) :
      (recomputeRoot X leaf' leafIndex treeSize hashes').isSome ↔
        hashes'.length = pathLength leafIndex.toNat (treeSize.toNat - 1) := by
    rw [recomputeRoot, if_neg hge]
    exact walkUp_isSome
  refine ⟨?_, ?_, ?_⟩
  · rw [hsome, ← hlength]
    exact (and_iff_right hlt).symm
  · rw [recomputeRootWords, recomputeRoot, if_neg hge, if_neg hge, checkedSub, if_pos hone,
      Option.map_some, walkUpWords_eq, hsub]
  · intro leaf' hashes' hsame
    rw [Bool.eq_iff_iff, hsome, hsome, hsame]

end Walk

/-! ### A tree of three leaves -/

/-- The leaf hash of `a`. -/
private def leafA : Octets 32 :=
  ⟨[2, 42, 105, 121, 230, 218, 183, 170, 90, 228, 195, 229, 228, 95, 126, 151, 113, 18, 167, 230,
  53, 147, 130, 13, 190, 193, 236, 115, 138, 36, 249, 60], rfl⟩

/-- The leaf hash of `b`. -/
private def leafB : Octets 32 :=
  ⟨[87, 235, 53, 97, 93, 71, 243, 78, 199, 20, 202, 205, 245, 253, 116, 96, 138, 94, 142, 16, 39,
  36, 232, 11, 36, 178, 135, 192, 194, 123, 106, 49], rfl⟩

/-- The leaf hash of `c`. -/
private def leafC : Octets 32 :=
  ⟨[89, 127, 203, 49, 40, 45, 52, 101, 76, 32, 13, 52, 24, 252, 165, 112, 92, 100, 142, 191, 50,
  110, 199, 61, 141, 222, 241, 24, 65, 248, 118, 216], rfl⟩

/-- The node above the first two. -/
private def nodeAB : Octets 32 :=
  ⟨[177, 55, 152, 95, 244, 132, 251, 96, 13, 185, 49, 7, 199, 123, 3, 101, 200, 13, 120, 245, 180,
  41, 222, 208, 253, 151, 54, 29, 7, 121, 153, 235], rfl⟩

/-- The root of the tree. -/
private def rootABC : Octets 32 :=
  ⟨[54, 100, 46, 115, 194, 84, 10, 177, 33, 227, 166, 191, 149, 69, 176, 162, 73, 130, 205, 131,
  14, 177, 61, 60, 209, 157, 227, 206, 108, 2, 30, 193], rfl⟩

/-- A tree with the three entries `a`, `b` and `c`. -/
private def leavesABC : List Bytes := [[97], [98], [99]]

/-- SHA-256 of the inputs hashed in that tree. -/
private def treeX : Externals := (Externals.ofTexts []).withDigests
  [(leafPreimage [97], leafA), (leafPreimage [98], leafB), (leafPreimage [99], leafC),
    (nodePreimage leafA leafB, nodeAB), (nodePreimage nodeAB leafC, rootABC)]

/-- The proof of the promoted last leaf. -/
private def proofC : InclusionProof := ⟨2, rootABC.bytes, 3, [nodeAB.bytes], ⟨[]⟩⟩

/-- The two inner hashes, evaluated. -/
private theorem hashes_leavesABC :
    nodeHash treeX.sha256 (leafHash treeX.sha256 [97]) (leafHash treeX.sha256 [98]) = nodeAB ∧
      nodeHash treeX.sha256 nodeAB (leafHash treeX.sha256 [99]) = rootABC := ⟨rfl, rfl⟩

/-- The tree's head is the root. -/
private theorem mth_leavesABC : mth treeX.sha256 leavesABC = rootABC := by
  obtain ⟨hab, hroot⟩ := hashes_leavesABC
  rw [mth_eq_root, ← root_levelUp, ← root_levelUp]
  simp only [leavesABC, List.map_cons, List.map_nil, levelUp, hab, hroot, root]

/-- The proof of the third entry is accepted. -/
private theorem verifyInclusionProof_proofC : verifyInclusionProof treeX [99] proofC = .ok () := by
  obtain ⟨-, hroot⟩ := hashes_leavesABC
  refine verifyInclusionProof_eq_ok.mpr ⟨[nodeAB], rootABC, rfl, rfl, ?_⟩
  simp [recomputeRoot, walkUp, proofC, rfc6962NodeHash, rfc6962LeafHash, hroot]

/-- The third entry's audit path leads to the head. -/
theorem recomputeRoot_complete_three :
    recomputeRoot treeX (rfc6962LeafHash treeX leavesABC[2]) (UInt64.ofNat 2)
      (UInt64.ofNat leavesABC.length) (auditPath treeX.sha256 2 leavesABC) =
        some (mth treeX.sha256 leavesABC) :=
  recomputeRoot_complete (by decide) (by decide)

/-- The accepted proof is of the third entry. -/
theorem verifyInclusionProof_sound_three :
    (∃ hi : proofC.logIndex.toNat < leavesABC.length,
        [99] = leavesABC[proofC.logIndex.toNat] ∧
        proofC.hashes = (auditPath treeX.sha256 proofC.logIndex.toNat leavesABC).map Octets.bytes) ∨
      Collision treeX.sha256 (proofCollision treeX leavesABC [99] proofC).1
        (proofCollision treeX leavesABC [99] proofC).2 :=
  verifyInclusionProof_sound rfl (congrArg Octets.bytes mth_leavesABC.symm)
    verifyInclusionProof_proofC

end AttestationVerify
