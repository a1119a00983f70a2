import Attestation.Proofs.Client.Tally

/-!
# Verdicts on batches

The verdict that `aggregate` reads off a tally is the one that the batch itself gives. The quorums
of the tally at a height are those of the roots that have one (`get?_quorums`), its equivocated
heights those at which some attestor supports two roots (`mem_equivocated`). `Judged` says which
results a batch allows, in terms of support alone, and `judged_aggregate` that `aggregate` gives
one of them; as its cases exclude each other, they can be read backwards.
-/

namespace Attestation

/-! ### Lists without repetitions -/

/-- A list without repetitions has more than one element if two of its elements differ. -/
private theorem one_lt_length_iff {α : Type} {l : List α} (h : l.Nodup) :
    1 < l.length ↔ ∃ a ∈ l, ∃ b ∈ l, a ≠ b := by
  match l with
  | [] => simp
  | [a] => simp
  | a :: b :: rest =>
    have hne : a ≠ b := fun he => (List.nodup_cons.1 h).1 (he ▸ List.mem_cons_self)
    refine iff_of_true (by simp) ⟨a, List.mem_cons_self, b, ?_, hne⟩
    exact List.mem_cons_of_mem _ List.mem_cons_self

variable {recover : Recovery} {s : ClientState} {batch : List Claim} {height : UInt64}

/-! ### Equivocations -/

/-- The roots of a list of claims, in increasing order. -/
def rootsOf (claims : List Claim) : List Digest :=
  claims.foldl (fun roots c => insertSorted c.snapshot.root roots) []

theorem mem_rootsOf {claims : List Claim} {root : Digest} :
    root ∈ rootsOf claims ↔ ∃ c ∈ claims, c.snapshot.root = root := by
  induction claims using List.reverseRecOn with
  | nil => simp [rootsOf]
  | append_singleton claims c ih =>
    rw [rootsOf, List.foldl_concat, mem_insertSorted]
    change root = c.snapshot.root ∨ root ∈ rootsOf claims ↔ _
    rw [ih]
    constructor
    · rintro (rfl | ⟨d, hd, rfl⟩)
      · exact ⟨c, by simp, rfl⟩
      · exact ⟨d, by simp [hd], rfl⟩
    · rintro ⟨d, hd, rfl⟩
      rcases List.mem_append.1 hd with hd | hd
      · exact .inr ⟨d, hd, rfl⟩
      · exact .inl (by rw [List.mem_singleton.1 hd])

theorem increasing_rootsOf (claims : List Claim) : Increasing (rootsOf claims) := by
  induction claims using List.reverseRecOn with
  | nil => exact List.Pairwise.nil
  | append_singleton claims c ih =>
    rw [rootsOf, List.foldl_concat]
    exact pairwise_insertSorted ih

/-- An attestor is found with several roots at a height exactly if two of its usable claims
there differ in their roots. -/
theorem signed_several_iff {slot : Slot} :
    (∃ roots, (Tally.ofBatch recover s batch).signed.get? slot = some roots ∧ 1 < roots.length) ↔
      ∃ c ∈ batch, ∃ d ∈ batch, (c.Usable recover s ∧ c.slot = slot) ∧
        (d.Usable recover s ∧ d.slot = slot) ∧ c.snapshot.root ≠ d.snapshot.root := by
  have hmem : ∀ c, c ∈ (batch.filter fun c => c.Usable recover s).filter (·.slot = slot) ↔
      c ∈ batch ∧ c.Usable recover s ∧ c.slot = slot := by
    intro c
    simp [and_comm]
  rw [signed_ofBatch, OrderedMap.get?_foldBy_getD
    (f := fun roots (c : Claim) => insertSorted c.snapshot.root roots) (e := [])]
  set claims := (batch.filter fun c => c.Usable recover s).filter (·.slot = slot)
  constructor
  · rintro ⟨roots, hget, hlen⟩
    split_ifs at hget
    obtain rfl : rootsOf claims = roots := Option.some.inj hget
    obtain ⟨root, hroot, root', hroot', hne⟩ :=
      (one_lt_length_iff (increasing_rootsOf claims).nodup).1 hlen
    obtain ⟨c, hc, rfl⟩ := mem_rootsOf.1 hroot
    obtain ⟨d, hd, rfl⟩ := mem_rootsOf.1 hroot'
    exact ⟨c, ((hmem c).1 hc).1, d, ((hmem d).1 hd).1, ((hmem c).1 hc).2, ((hmem d).1 hd).2, hne⟩
  · rintro ⟨c, hc, d, hd, hcu, hdu, hne⟩
    have hcm : c ∈ claims := (hmem c).2 ⟨hc, hcu⟩
    have hdm : d ∈ claims := (hmem d).2 ⟨hd, hdu⟩
    refine ⟨rootsOf claims, if_neg (List.ne_nil_of_mem hcm), ?_⟩
    exact (one_lt_length_iff (increasing_rootsOf claims).nodup).2
      ⟨_, mem_rootsOf.2 ⟨c, hcm, rfl⟩, _, mem_rootsOf.2 ⟨d, hdm, rfl⟩, hne⟩

/-- The tally catches the heights above the trusted one at which an attestor signed two roots. -/
theorem mem_equivocated :
    height ∈ (Tally.ofBatch recover s batch).equivocated s ↔
      s.latestHeight < height ∧ Equivocated recover s batch height := by
  have hslot : ∀ (c : Claim) (slot : Slot),
      c.slot = slot ↔ c.attestorId = slot.attestorId ∧ c.snapshot.height = slot.height := by
    intro c slot
    cases slot
    rw [Claim.slot, Slot.mk.injEq]
  -- first by the roots that the tally holds for some attestor, then by the claims behind them
  have hfound : height ∈ (Tally.ofBatch recover s batch).equivocated s ↔
      s.latestHeight < height ∧ ∃ id, ∃ roots,
        (Tally.ofBatch recover s batch).signed.get? ⟨id, height⟩ = some roots ∧
          1 < roots.length := by
    rw [Tally.equivocated, mem_sortedSet, List.mem_map]
    constructor
    · rintro ⟨⟨⟨id, h⟩, roots⟩, hmem, rfl⟩
      obtain ⟨hlisted, htest⟩ := List.mem_filter.1 hmem
      obtain ⟨hlen, hfresh⟩ := of_decide_eq_true htest
      exact ⟨hfresh, id, roots, OrderedMap.mem_toList.1 hlisted, hlen⟩
    · rintro ⟨hfresh, id, roots, hget, hlen⟩
      exact ⟨(⟨id, height⟩, roots), List.mem_filter.2
        ⟨OrderedMap.mem_toList.2 hget, decide_eq_true ⟨hlen, hfresh⟩⟩, rfl⟩
  rw [hfound, equivocated_iff]
  refine and_congr_right fun _ => ?_
  simp only [signed_several_iff, hslot]
  constructor
  · rintro ⟨id, c, hc, d, hd, ⟨hcu, hcid, hch⟩, ⟨hdu, hdid, hdh⟩, hne⟩
    exact ⟨c, hc, d, hd, hcu, hdu, hcid.trans hdid.symm, hch, hdh, hne⟩
  · rintro ⟨c, hc, d, hd, hcu, hdu, hid, hch, hdh, hne⟩
    exact ⟨c.attestorId, c, hc, d, hd, ⟨hcu, rfl, hch⟩, ⟨hdu, hid.symm, hdh⟩, hne⟩

/-! ### Quorums -/

variable (recover s batch) in
/-- The quorum for a root at a height, if it is one. -/
def quorumFor (height : UInt64) (root : Digest) : Quorum where
  subject := ⟨s.chainId, height, root⟩
  votes := .ofClaims (supporting recover s batch height root)
  weight := s.policy.weightOfAll (supporters recover s batch height root)

/-- The quorums that a tally has at a height. -/
def Tally.quorumsAt (t : Tally) (s : ClientState) (height : UInt64) : List Quorum :=
  ((t.freshVotes.toList.map fun (k, votes) => Quorum.mk k votes (s.weigh votes)).filter
    fun q => s.policy.isMet q.weight).filter (·.subject.height = height)

/-- The tally lists the heights that have a quorum, with their quorums. -/
theorem Tally.get?_quorums {t : Tally} :
    (t.quorums s).get? height =
      if t.quorumsAt s height = [] then none else some (t.quorumsAt s height) := by
  have hfold : ∀ qs : List Quorum, qs.foldl (fun found q => found ++ [q]) [] = qs := by
    intro qs
    induction qs using List.reverseRecOn with
    | nil => rfl
    | append_singleton qs q ih => rw [List.foldl_concat, ih]
  rw [quorums, OrderedMap.get?_foldBy_getD (f := fun found q => found ++ [q]) (e := []), hfold]
  rfl

private theorem Tally.nodup_quorumsAt {t : Tally} : (t.quorumsAt s height).Nodup := by
  refine List.Nodup.filter _ (List.Nodup.filter _ (List.Nodup.of_map Quorum.subject ?_))
  rw [List.map_map]
  exact (OrderedMap.increasing_keys t.freshVotes).nodup

/-- The quorums of a tally at a height are those for the roots that have a quorum there. -/
theorem mem_quorumsAt_ofBatch {q : Quorum} :
    q ∈ (Tally.ofBatch recover s batch).quorumsAt s height ↔
      s.latestHeight < height ∧ ∃ root, HasQuorum recover s batch height root ∧
        q = quorumFor recover s batch height root := by
  obtain ⟨⟨chainId, h, root⟩, votes, weight⟩ := q
  simp only [Tally.quorumsAt, List.mem_filter, List.mem_map, Prod.exists, Quorum.mk.injEq,
    OrderedMap.mem_toList, votes_ofBatch.1, get?_votesWhere_eq_some_iff, decide_eq_true_eq]
  constructor
  · rintro ⟨⟨⟨k, votes', ⟨⟨hchain, hfresh⟩, hne, hvotes⟩, rfl, rfl, rfl⟩, hmet⟩, rfl⟩
    rw [hvotes, weigh_ofClaims, QuorumPolicy.isMet_weightOfAll] at hmet
    refine ⟨hfresh, root, ⟨hne, hmet⟩, ?_⟩
    rw [quorumFor, hvotes, weigh_ofClaims]
    exact congrArg (Quorum.mk · _ _) (congrArg (Subject.mk · _ _) hchain)
  · rintro ⟨hfresh, root', ⟨hne, hmet⟩, heq⟩
    rw [quorumFor, Quorum.mk.injEq, Subject.mk.injEq] at heq
    obtain ⟨⟨rfl, rfl, rfl⟩, rfl, rfl⟩ := heq
    refine ⟨⟨⟨_, _, ⟨⟨rfl, hfresh⟩, hne, rfl⟩, rfl, rfl, weigh_ofClaims⟩, ?_⟩, rfl⟩
    exact (QuorumPolicy.isMet_weightOfAll _ _).2 hmet

/-- What stands under a height among the quorums of a batch. -/
theorem get?_quorums_eq_some_iff {found : List Quorum} :
    ((Tally.ofBatch recover s batch).quorums s).get? height = some found ↔
      found = (Tally.ofBatch recover s batch).quorumsAt s height ∧ s.latestHeight < height ∧
        ∃ root, HasQuorum recover s batch height root := by
  rw [Tally.get?_quorums]
  have hnil : (Tally.ofBatch recover s batch).quorumsAt s height ≠ [] ↔
      s.latestHeight < height ∧ ∃ root, HasQuorum recover s batch height root := by
    constructor
    · intro h
      obtain ⟨q, hq⟩ := List.exists_mem_of_ne_nil _ h
      obtain ⟨hfresh, root, hroot, -⟩ := mem_quorumsAt_ofBatch.1 hq
      exact ⟨hfresh, root, hroot⟩
    · rintro ⟨hfresh, root, hroot⟩
      exact List.ne_nil_of_mem (mem_quorumsAt_ofBatch.2 ⟨hfresh, root, hroot, rfl⟩)
  rw [← hnil]
  split_ifs with h
  · simp [h]
  · simp [h, eq_comm]

/-- Several quorums stand under a height exactly if two roots have one there. -/
private theorem one_lt_length_quorumsAt (hfresh : s.latestHeight < height) :
    1 < ((Tally.ofBatch recover s batch).quorumsAt s height).length ↔
      ∃ root root', root ≠ root' ∧ HasQuorum recover s batch height root ∧
        HasQuorum recover s batch height root' := by
  rw [one_lt_length_iff Tally.nodup_quorumsAt]
  simp only [mem_quorumsAt_ofBatch, hfresh, true_and]
  constructor
  · rintro ⟨q, ⟨root, hroot, rfl⟩, q', ⟨root', hroot', rfl⟩, hne⟩
    exact ⟨root, root', fun he => hne (by rw [he]), hroot, hroot'⟩
  · rintro ⟨root, root', hne, hroot, hroot'⟩
    refine ⟨_, ⟨root, hroot, rfl⟩, _, ⟨root', hroot', rfl⟩, fun he => hne ?_⟩
    rw [quorumFor, quorumFor, Quorum.mk.injEq, Subject.mk.injEq] at he
    exact he.1.2.2

/-! ### Conflicts and confirmations -/

/-- Above the trusted height there is a conflict exactly where the tally lists several quorums, or
one beside an attestor that signed two roots. -/
theorem conflict_iff_found (hfresh : s.latestHeight < height) :
    Conflict recover s batch height ↔
      ∃ found, ((Tally.ofBatch recover s batch).quorums s).get? height = some found ∧
        (1 < found.length ∨ height ∈ (Tally.ofBatch recover s batch).equivocated s) := by
  simp only [get?_quorums_eq_some_iff, mem_equivocated, hfresh, true_and]
  constructor
  · rintro ⟨root, hroot, hsecond⟩
    refine ⟨_, ⟨rfl, root, hroot⟩, hsecond.imp_left fun ⟨other, hne, hother⟩ => ?_⟩
    exact (one_lt_length_quorumsAt hfresh).2 ⟨other, root, hne, hother, hroot⟩
  · rintro ⟨found, ⟨rfl, root, hroot⟩, hseveral | hequivocated⟩
    · obtain ⟨other, root', hne, hother, hroot'⟩ := (one_lt_length_quorumsAt hfresh).1 hseveral
      exact ⟨root', hroot', .inl ⟨other, hne, hother⟩⟩
    · exact ⟨root, hroot, .inr hequivocated⟩

/-- The tally confirms the latest root exactly if it has a quorum. -/
theorem confirms_ofBatch_iff :
    (Tally.ofBatch recover s batch).confirms s ↔
      HasQuorum recover s batch s.latestHeight s.latestRoot := by
  rw [Tally.confirms, votes_ofBatch.2]
  constructor
  · intro h
    split at h
    · rename_i votes hget
      obtain ⟨-, hne, rfl⟩ := get?_votesWhere_eq_some_iff.1 hget
      rw [weigh_ofClaims, QuorumPolicy.isMet_weightOfAll] at h
      exact ⟨hne, h⟩
    · contradiction
  · rintro ⟨hne, hmet⟩
    rw [get?_votesWhere_eq_some_iff.2 ⟨⟨rfl, UInt64.lt_irrefl _⟩, hne, rfl⟩]
    simp only [weigh_ofClaims]
    exact (QuorumPolicy.isMet_weightOfAll _ _).2 hmet

/-! ### Verdicts -/

variable (recover s batch) in
/-- What an accepted update says of its root is what the batch says. -/
structure AcceptedUpdate.Supported (update : AcceptedUpdate) : Prop where
  quorum : HasQuorum recover s batch update.height update.root
  weight : update.weight.toNat =
    min (support recover s batch update.height update.root) (2 ^ 64 - 1)
  attestors : update.attestors = (supporters recover s batch update.height update.root).map (·.id)
  timestamp : IsLeast {time | ∃ c ∈ supporting recover s batch update.height update.root,
    c.snapshot.collectedAt = time} update.timestamp

/-- The update made of a quorum says of it what is so. -/
private theorem supported_update {root : Digest} (h : HasQuorum recover s batch height root) :
    (quorumFor recover s batch height root).update.Supported recover s batch where
  quorum := h
  weight := QuorumPolicy.toNat_weightOfAll _ _
  attestors := keys_ofClaims
  timestamp := Votes.isLeast_minimum_values fun hnil => h.1 (supporters_eq_nil_iff.2 hnil)

variable (recover s batch) in
/-- No height above the trusted one is in conflict. -/
def Calm : Prop := ∀ height, s.latestHeight < height → ¬ Conflict recover s batch height

variable (recover s batch) in
/-- No root above the trusted height has a quorum. -/
def Idle : Prop :=
  ∀ height root, s.latestHeight < height → ¬ HasQuorum recover s batch height root

/-- Without a quorum above the trusted height there is no conflict above it. -/
theorem Idle.calm (h : Idle recover s batch) : Calm recover s batch := by
  rintro height hfresh ⟨root, hquorum, -⟩
  exact h height root hfresh hquorum

variable (recover s batch) in
/-- The results that a batch allows. -/
inductive Judged : Except ClientError Verdict → Prop
  /-- The lowest height in conflict is reported. -/
  | conflict {height : UInt64}
      (least : IsLeast {h | s.latestHeight < h ∧ Conflict recover s batch h} height) :
      Judged (.error (.conflictingQuorum height))
  /-- Without a conflict, the highest quorum is accepted. -/
  | accepted {update : AcceptedUpdate} (calm : Calm recover s batch)
      (greatest : IsGreatest {h | s.latestHeight < h ∧ ∃ root, HasQuorum recover s batch h root}
        update.height)
      (supported : update.Supported recover s batch) : Judged (.ok (.accepted update))
  /-- Without a quorum above the trusted height, the trusted root may be confirmed. -/
  | confirmed (calm : Calm recover s batch) (idle : Idle recover s batch)
      (quorum : HasQuorum recover s batch s.latestHeight s.latestRoot) :
      Judged (.ok .alreadyTrusted)
  /-- All else is refused. -/
  | refused {cause : ClientError} (calm : Calm recover s batch) (idle : Idle recover s batch)
      (unconfirmed : ¬ HasQuorum recover s batch s.latestHeight s.latestRoot)
      (other : ∀ height, cause ≠ .conflictingQuorum height) : Judged (.error cause)

private theorem not_hasQuorum_nil {root : Digest} : ¬ HasQuorum recover s [] height root := fun h =>
  h.1 (supporters_eq_nil_iff.2 rfl)

/-- No refusal is a conflict. -/
private theorem Tally.refusal_ne_conflictingQuorum {t : Tally} {count : Nat} :
    t.refusal s count ≠ .conflictingQuorum height := by
  rw [refusal]
  split_ifs
  · simp
  · simp
  · simp
  · simp
  · split <;> simp

/-- The first height that is found in conflict is the lowest one in conflict. -/
theorem isLeast_conflict {found : List Quorum}
    (hfind : ((Tally.ofBatch recover s batch).quorums s).toList.find? (fun (height, found) =>
      1 < found.length ∨ ((Tally.ofBatch recover s batch).equivocated s).contains height) =
        some (height, found)) :
    IsLeast {h | s.latestHeight < h ∧ Conflict recover s batch h} height := by
  obtain ⟨hget, hp, hleast⟩ := OrderedMap.find?_toList hfind
  have hfresh := (get?_quorums_eq_some_iff.1 hget).2.1
  refine ⟨⟨hfresh, (conflict_iff_found hfresh).2 ⟨found, hget, by simpa using hp⟩⟩, ?_⟩
  rintro height' ⟨hfresh', hconflict⟩
  obtain ⟨found', hget', hp'⟩ := (conflict_iff_found hfresh').1 hconflict
  rcases hleast height' found' hget' (by simpa using hp') with rfl | hlt
  · exact UInt64.le_refl _
  · exact UInt64.le_of_lt (Std.compare_eq_lt.1 hlt)

/-- If the search for a conflict finds none, there is none above the trusted height. -/
private theorem calm_of_find?_eq_none
    (hfind : ((Tally.ofBatch recover s batch).quorums s).toList.find? (fun (height, found) =>
      1 < found.length ∨ ((Tally.ofBatch recover s batch).equivocated s).contains height) =
        none) :
    Calm recover s batch := by
  intro height hfresh hconflict
  obtain ⟨found, hget, hp⟩ := (conflict_iff_found hfresh).1 hconflict
  have hnot := List.find?_eq_none.1 hfind _ (OrderedMap.mem_toList.2 hget)
  exact hnot (by simpa using hp)

/-- The last height that holds quorums is the highest one at which a root has a quorum. -/
theorem isGreatest_quorum {found : List Quorum}
    (hlast : ((Tally.ofBatch recover s batch).quorums s).toList.getLast? = some (height, found)) :
    IsGreatest {h | s.latestHeight < h ∧ ∃ root, HasQuorum recover s batch h root} height ∧
      ∀ q ∈ found, ∃ root, HasQuorum recover s batch height root ∧
        q = quorumFor recover s batch height root := by
  obtain ⟨hget, hgreatest⟩ := OrderedMap.getLast?_toList hlast
  obtain ⟨rfl, hfresh, hroot⟩ := get?_quorums_eq_some_iff.1 hget
  refine ⟨⟨⟨hfresh, hroot⟩, ?_⟩, fun q hq => (mem_quorumsAt_ofBatch.1 hq).2⟩
  rintro height' ⟨hfresh', hquorum⟩
  rcases hgreatest height' _ (get?_quorums_eq_some_iff.2 ⟨rfl, hfresh', hquorum⟩) with rfl | hlt
  · exact UInt64.le_refl _
  · exact UInt64.le_of_lt (Std.compare_eq_lt.1 hlt)

/-- If no height comes last in the list of quorums, none above the trusted height has one. -/
private theorem idle_of_getLast? (hlast : ∀ height q rest,
    ((Tally.ofBatch recover s batch).quorums s).toList.getLast? ≠ some (height, q :: rest)) :
    Idle recover s batch := by
  intro height root hfresh hroot
  -- a quorum leaves an entry in the listing, and no entry is without quorums
  have hmem := OrderedMap.mem_toList.2 (get?_quorums_eq_some_iff.2 ⟨rfl, hfresh, root, hroot⟩)
  obtain ⟨⟨height', found⟩, hlast'⟩ :=
    Option.isSome_iff_exists.1 (List.getLast?_isSome.2 (List.ne_nil_of_mem hmem))
  obtain ⟨hfound, hfresh', root', hroot'⟩ :=
    get?_quorums_eq_some_iff.1 (OrderedMap.getLast?_toList hlast').1
  obtain ⟨q, rest, rfl⟩ := List.exists_cons_of_ne_nil (hfound ▸ List.ne_nil_of_mem
    (mem_quorumsAt_ofBatch.2 ⟨hfresh', root', hroot', rfl⟩))
  exact hlast _ _ _ hlast'

/-- **Aggregation.** The verdict read off the tally is one that the batch allows. -/
theorem judged_aggregate (recover : Recovery) (s : ClientState) (batch : List Claim) :
    Judged recover s batch (aggregate recover s batch) := by
  -- the branches are in this order: no claims, a conflict, a quorum above the head, one at the head
  rw [aggregate]
  split_ifs with hnil
  · subst hnil
    refine .refused (fun _ _ h => ?_) (fun _ _ _ => not_hasQuorum_nil) not_hasQuorum_nil (by simp)
    obtain ⟨_, hroot, -⟩ := h
    exact not_hasQuorum_nil hroot
  dsimp only
  split
  · rename_i height found hfind
    exact .conflict (isLeast_conflict hfind)
  rename_i hfind
  have hcalm := calm_of_find?_eq_none hfind
  split
  · rename_i height q rest hlast
    obtain ⟨hgreatest, hfound⟩ := isGreatest_quorum hlast
    obtain ⟨root, hroot, rfl⟩ := hfound q List.mem_cons_self
    exact .accepted hcalm hgreatest (supported_update hroot)
  · rename_i hlast
    have hidle := idle_of_getLast? hlast
    split_ifs with hconfirms
    · exact .confirmed hcalm hidle (confirms_ofBatch_iff.1 hconfirms)
    · exact .refused hcalm hidle (fun h => hconfirms (confirms_ofBatch_iff.2 h))
        fun _ => Tally.refusal_ne_conflictingQuorum

/-! ### Reading a result backwards -/

/-- Two roots with a quorum at one height are in conflict. -/
theorem Calm.root_unique (h : Calm recover s batch) (hfresh : s.latestHeight < height)
    {root root' : Digest} (hroot : HasQuorum recover s batch height root)
    (hroot' : HasQuorum recover s batch height root') : root = root' := by
  by_contra hne
  exact h height hfresh ⟨root, hroot, .inl ⟨root', Ne.symm hne, hroot'⟩⟩

/-- Root and height of an update fix all that it says. -/
theorem AcceptedUpdate.Supported.unique {u u' : AcceptedUpdate} (h : u.Supported recover s batch)
    (h' : u'.Supported recover s batch) (hheight : u.height = u'.height)
    (hroot : u.root = u'.root) : u = u' := by
  obtain ⟨height, root, timestamp, weight, attestors⟩ := u
  obtain ⟨height', root', timestamp', weight', attestors'⟩ := u'
  obtain rfl : height = height' := hheight
  obtain rfl : root = root' := hroot
  have htime : timestamp = timestamp' :=
    UInt64.le_antisymm (h.timestamp.2 h'.timestamp.1) (h'.timestamp.2 h.timestamp.1)
  have hweight : weight = weight' := UInt64.toNat_inj.1 (h.weight.trans h'.weight.symm)
  have hattestors : attestors = attestors' := h.attestors.trans h'.attestors.symm
  rw [htime, hweight, hattestors]

namespace Judged

variable {result : Except ClientError Verdict}

/-- A conflict is reported exactly at the least height above the trusted one that has one. -/
theorem conflict_iff (h : Judged recover s batch result) :
    result = .error (.conflictingQuorum height) ↔
      IsLeast {h | s.latestHeight < h ∧ Conflict recover s batch h} height := by
  constructor
  · rintro rfl
    cases h with
    | conflict least => exact least
    | refused calm idle unconfirmed other => exact absurd rfl (other height)
  · intro hleast
    cases h with
    | conflict least =>
      rw [UInt64.le_antisymm (least.2 hleast.1) (hleast.2 least.1)]
    | accepted calm greatest supported => exact absurd hleast.1.2 (calm _ hleast.1.1)
    | confirmed calm idle quorum => exact absurd hleast.1.2 (calm _ hleast.1.1)
    | refused calm idle unconfirmed other => exact absurd hleast.1.2 (calm _ hleast.1.1)

theorem exists_conflict_iff (h : Judged recover s batch result) :
    (∃ height, result = .error (.conflictingQuorum height)) ↔
      ∃ height, s.latestHeight < height ∧ Conflict recover s batch height := by
  constructor
  · rintro ⟨height, hresult⟩
    exact ⟨height, (h.conflict_iff.1 hresult).1⟩
  · rintro ⟨height, hfresh, hconflict⟩
    cases h with
    | conflict least => exact ⟨_, rfl⟩
    | accepted calm greatest supported => exact absurd hconflict (calm _ hfresh)
    | confirmed calm idle quorum => exact absurd hconflict (calm _ hfresh)
    | refused calm idle unconfirmed other => exact absurd hconflict (calm _ hfresh)

/-- An update is accepted exactly if there is no conflict and it is at the greatest height with a
quorum, which supports it. -/
theorem accepted_iff (h : Judged recover s batch result) {update : AcceptedUpdate} :
    result = .ok (.accepted update) ↔ Calm recover s batch ∧
      IsGreatest {h | s.latestHeight < h ∧ ∃ root, HasQuorum recover s batch h root}
        update.height ∧ update.Supported recover s batch := by
  constructor
  · rintro rfl
    cases h with
    | accepted calm greatest supported => exact ⟨calm, greatest, supported⟩
  · rintro ⟨hcalm, hgreatest, hsupported⟩
    cases h with
    | conflict least => exact absurd least.1.2 (hcalm _ least.1.1)
    | accepted calm greatest supported =>
      have hheight :=
        UInt64.le_antisymm (hgreatest.2 greatest.1) (greatest.2 hgreatest.1)
      have hroot := calm.root_unique hgreatest.1.1 (hheight ▸ supported.quorum) hsupported.quorum
      rw [supported.unique hsupported hheight hroot]
    | confirmed calm idle quorum =>
      exact absurd hsupported.quorum (idle _ _ hgreatest.1.1)
    | refused calm idle unconfirmed other =>
      exact absurd hsupported.quorum (idle _ _ hgreatest.1.1)

/-- Some update is accepted exactly if there is no conflict and some root above the trusted height
has a quorum. -/
theorem exists_accepted_iff (h : Judged recover s batch result) :
    (∃ update, result = .ok (.accepted update)) ↔ Calm recover s batch ∧
      ∃ height root, s.latestHeight < height ∧ HasQuorum recover s batch height root := by
  constructor
  · rintro ⟨update, hresult⟩
    obtain ⟨hcalm, ⟨⟨hfresh, root, hroot⟩, -⟩, -⟩ := h.accepted_iff.1 hresult
    exact ⟨hcalm, _, root, hfresh, hroot⟩
  · rintro ⟨hcalm, height, root, hfresh, hroot⟩
    cases h with
    | conflict least => exact absurd least.1.2 (hcalm _ least.1.1)
    | accepted calm greatest supported => exact ⟨_, rfl⟩
    | confirmed calm idle quorum => exact absurd hroot (idle _ _ hfresh)
    | refused calm idle unconfirmed other => exact absurd hroot (idle _ _ hfresh)

/-- A quorum above the trusted height is in conflict or gives way to none at or below it. -/
theorem conflict_or_accepted (h : Judged recover s batch result) {root : Digest}
    (hfresh : s.latestHeight < height) (hquorum : HasQuorum recover s batch height root) :
    (∃ height', result = .error (.conflictingQuorum height')) ∨
      ∃ u, result = .ok (.accepted u) ∧ height ≤ u.height ∧
        (u.height = height → u.root = root) := by
  cases h with
  | conflict least => exact .inl ⟨_, rfl⟩
  | @accepted u calm greatest supported =>
    have hle : height ≤ u.height := greatest.2 ⟨hfresh, root, hquorum⟩
    refine .inr ⟨u, rfl, hle, fun hsame => ?_⟩
    exact calm.root_unique hfresh (hsame ▸ supported.quorum) hquorum
  | confirmed calm idle quorum => exact absurd hquorum (idle _ _ hfresh)
  | refused calm idle unconfirmed other => exact absurd hquorum (idle _ _ hfresh)

/-- What is trusted is confirmed exactly if there is no conflict, no quorum above the trusted
height, and a quorum for the latest root. -/
theorem alreadyTrusted_iff (h : Judged recover s batch result) :
    result = .ok .alreadyTrusted ↔ Calm recover s batch ∧ Idle recover s batch ∧
      HasQuorum recover s batch s.latestHeight s.latestRoot := by
  constructor
  · rintro rfl
    cases h with
    | confirmed calm idle quorum => exact ⟨calm, idle, quorum⟩
  · rintro ⟨hcalm, hidle, hquorum⟩
    cases h with
    | conflict least => exact absurd least.1.2 (hcalm _ least.1.1)
    | accepted calm greatest supported =>
      exact absurd supported.quorum (hidle _ _ greatest.1.1)
    | confirmed calm idle quorum => rfl
    | refused calm idle unconfirmed other => exact absurd hquorum unconfirmed

end Judged

/-- **The verdict is the one that the batch supports.** A conflict is reported exactly for the
lowest height in conflict above the trusted one; otherwise an update is accepted exactly if some
root above the trusted height has a quorum, and it is the one for the highest such height, with
the exact weight of its supporters cut off at the greatest word, their ids in order and the
earliest time of their claims; otherwise the trusted root is confirmed exactly if it has a quorum
at its own height. -/
theorem aggregate_iff_support (recover : Recovery) (s : ClientState) (batch : List Claim) :
    (∀ height, aggregate recover s batch = .error (.conflictingQuorum height) ↔
      IsLeast {h | s.latestHeight < h ∧ Conflict recover s batch h} height) ∧
    ((∃ height, aggregate recover s batch = .error (.conflictingQuorum height)) ↔
      ∃ height, s.latestHeight < height ∧ Conflict recover s batch height) ∧
    (∀ update, aggregate recover s batch = .ok (.accepted update) ↔ Calm recover s batch ∧
      IsGreatest {h | s.latestHeight < h ∧ ∃ root, HasQuorum recover s batch h root}
        update.height ∧ update.Supported recover s batch) ∧
    ((∃ update, aggregate recover s batch = .ok (.accepted update)) ↔ Calm recover s batch ∧
      ∃ height root, s.latestHeight < height ∧ HasQuorum recover s batch height root) ∧
    (aggregate recover s batch = .ok .alreadyTrusted ↔ Calm recover s batch ∧
      Idle recover s batch ∧ HasQuorum recover s batch s.latestHeight s.latestRoot) := by
  have h := judged_aggregate recover s batch
  exact ⟨fun _ => h.conflict_iff, h.exists_conflict_iff, fun _ => h.accepted_iff,
    h.exists_accepted_iff, h.alreadyTrusted_iff⟩

end Attestation
