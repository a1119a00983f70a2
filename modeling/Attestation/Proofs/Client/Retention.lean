import Attestation.Proofs.Client.Invariant

/-!
# The retained history

As long as a client is not recovered, its history is the list of all that it ever came to trust, cut
off at the window: the first root, if there is one, and then the accepted updates of the run, whose
heights increase. An operation either has an accepted update, and then adopts it above the latest
height, or leaves roots, latest height and window alone (`perform_cases`). `Retains` says what a
client owes to the updates that led to it; one operation keeps it while the list of updates grows at
its end (`Retains.perform`), and so does a run.
-/

namespace Attestation

/-! ### Windows -/

private theorem Word.toNat_sub (a b : UInt64) : (Word.sub a b).toNat = a.toNat - b.toNat := by
  rw [Word.sub]
  split_ifs with h
  · exact UInt64.toNat_sub_of_le _ _ h
  · rw [UInt64.toNat_zero, Nat.sub_eq_zero_of_le]
    exact Nat.le_of_lt (UInt64.lt_iff_toNat_lt.1 (UInt64.not_le.1 h))

/-- A height is in the window of a state if it is not further below the latest one than the window
reaches. -/
def ClientState.InWindow (s : ClientState) (height : UInt64) : Prop :=
  s.latestHeight.toNat - s.historyWindow.toNat ≤ height.toNat

instance (s : ClientState) (height : UInt64) : Decidable (s.InWindow height) :=
  inferInstanceAs (Decidable (_ ≤ _))

/-- What is not below the oldest retained height is what is in the window. -/
theorem ClientState.oldestRetained_le_iff {s : ClientState} {height : UInt64} :
    s.oldestRetained ≤ height ↔ s.InWindow height := by
  rw [oldestRetained, InWindow, UInt64.le_iff_toNat_le, Word.toNat_sub]

/-- The lower edge of the window only moves up. -/
private theorem ClientState.InWindow.of_le {s s' : ClientState} {height : UInt64}
    (h : s'.InWindow height) (hlatest : s.latestHeight ≤ s'.latestHeight)
    (hwindow : s'.historyWindow = s.historyWindow) :
    s.InWindow height := by
  have hle := UInt64.le_iff_toNat_le.1 hlatest
  rw [InWindow, hwindow] at h
  exact Nat.le_trans (Nat.sub_le_sub_right hle _) h

namespace Client

variable {recover : Recovery} {c c' : Client} {s : ClientState} {op : Operation}
  {ops : List Operation} {initial : Option ConsensusState} {updates : List AcceptedUpdate}

/-! ### The accepted updates of a run -/

/-- The height and root that an outcome reports as newly trusted. -/
def newRoot? : Except ClientError (Option UpdateOutcome) → Option (UInt64 × Digest)
  | .ok (some (.updated height root)) => some (height, root)
  | _ => none

/-- The accepted update behind an operation that makes the client trust a new root. -/
def acceptedBy? (recover : Recovery) (c : Client) : Operation → Option AcceptedUpdate
  | .update batch =>
    match (c.update recover batch).2, aggregate recover c.state batch with
    | .ok (.updated _ _), .ok (.accepted u) => some u
    | _, _ => none
  | _ => none

/-- The accepted updates behind the operations of a run, in their order. -/
def acceptedUpdates (recover : Recovery) : Client → List Operation → List AcceptedUpdate
  | _, [] => []
  | c, op :: ops =>
    (c.acceptedBy? recover op).toList ++ acceptedUpdates recover (c.perform recover op).1 ops

/-! ### One operation -/

/-- Clients that trust the same roots as far back. -/
structure SameRoots (c c' : Client) : Prop where
  history : c'.history = c.history
  latestHeight : c'.state.latestHeight = c.state.latestHeight
  historyWindow : c'.state.historyWindow = c.state.historyWindow

private theorem sameRoots_freeze (c : Client) (height : UInt64) :
    SameRoots c (c.freeze height) := by
  rw [Client.freeze, ClientState.freeze]
  split_ifs
  · exact ⟨rfl, rfl, rfl⟩
  · exact ⟨rfl, rfl, rfl⟩

/-- An operation other than a recovery adopts its accepted update above the latest height, or it has
none, reports no new root and leaves the trusted roots as they are. -/
theorem perform_cases (recover : Recovery) (c : Client)
    (hop : ∀ substitute, op ≠ .recover substitute) :
    (∃ u, c.acceptedBy? recover op = some u ∧ c.state.latestHeight < u.height ∧
      c.perform recover op = (c.advance u, .ok (some (.updated u.height u.root)))) ∨
    c.acceptedBy? recover op = none ∧ newRoot? (c.perform recover op).2 = none ∧
      SameRoots c (c.perform recover op).1 := by
  cases op with
  | update batch =>
    have hstep := updateStep_update recover c batch
    rw [acceptedBy?, perform]
    generalize c.update recover batch = out at hstep ⊢
    cases hstep with
    | frozen status => exact .inr ⟨rfl, rfl, rfl, rfl, rfl⟩
    | updated status verdict fresh => exact .inl ⟨_, by rw [verdict], fresh, rfl⟩
    | confirmed status verdict => exact .inr ⟨rfl, rfl, rfl, rfl, rfl⟩
    | conflict status verdict => exact .inr ⟨rfl, rfl, sameRoots_freeze _ _⟩
    | refused status verdict other => exact .inr ⟨rfl, rfl, rfl, rfl, rfl⟩
  | freeze height => exact .inr ⟨rfl, rfl, sameRoots_freeze _ _⟩
  | updateAttestors attestors policy =>
    have hstep := step_perform recover c (.updateAttestors attestors policy)
    generalize c.perform recover (.updateAttestors attestors policy) = out at hstep ⊢
    cases hstep with
    | replaced valid => exact .inr ⟨rfl, rfl, rfl, rfl, rfl⟩
    | refused other => exact .inr ⟨rfl, rfl, rfl, rfl, rfl⟩
  | recover substitute => exact absurd rfl (hop substitute)

/-! ### What a client owes to its updates -/

/-- What a client has come to trust, the first root and then those of the updates. -/
def trusted (initial : Option ConsensusState) (updates : List AcceptedUpdate) :
    List ConsensusState :=
  initial.toList ++ updates.map (·.consensusState)

/-- A client that came from a state and a first root by some updates: their heights increase up to
the latest one, and it keeps those of the roots that are in its window. -/
structure Retains (s : ClientState) (initial : Option ConsensusState)
    (updates : List AcceptedUpdate) (c : Client) : Prop where
  first_height : ∀ first ∈ initial, first.height = s.latestHeight
  ascending : (s.latestHeight :: updates.map (·.height)).Pairwise (· < ·)
  latestHeight : c.state.latestHeight = (updates.map (·.height)).getLastD s.latestHeight
  historyWindow : c.state.historyWindow = s.historyWindow
  start_le : s.latestHeight ≤ c.state.latestHeight
  trusted_le : ∀ kept ∈ trusted initial updates, kept.height ≤ c.state.latestHeight
  kept_iff : ∀ height kept, c.history.get? height = some kept ↔
    kept ∈ trusted initial updates ∧ kept.height = height ∧ c.state.InWindow height

/-- No height that a client came past is above its latest one. -/
theorem Retains.le_latestHeight (h : Retains s initial updates c) :
    ∀ height ∈ s.latestHeight :: updates.map (·.height), height ≤ c.state.latestHeight := by
  intro height hheight
  rcases List.mem_cons.1 hheight with rfl | hheight
  · exact h.start_le
  · obtain ⟨u, hu, rfl⟩ := List.mem_map.1 hheight
    exact h.trusted_le u.consensusState (List.mem_append_right _ (List.mem_map_of_mem hu))

/-- Later updates add their roots at the end. -/
private theorem trusted_append {later : List AcceptedUpdate} : trusted initial (updates ++ later) =
    trusted initial updates ++ later.map (·.consensusState) := by
  rw [trusted, trusted, List.map_append, List.append_assoc]

/-- The latest height is in the window. -/
private theorem inWindow_latestHeight (s : ClientState) : s.InWindow s.latestHeight :=
  Nat.sub_le _ _

private theorem retains_create (h : create s initial = .ok c) : Retains s initial [] c := by
  obtain ⟨-, ⟨rfl, -, rfl⟩ | ⟨first, rfl, hheight, -, rfl⟩⟩ := create_eq_ok_iff.1 h
  · exact ⟨fun _ h => (nomatch h), List.pairwise_singleton _ _, rfl, rfl, UInt64.le_refl _,
      fun _ h => (nomatch h), fun _ _ => iff_of_false (fun h => nomatch h) fun h => nomatch h.1⟩
  · have hmem : ∀ kept, kept ∈ trusted (some first) [] ↔ kept = first :=
      fun kept => List.mem_singleton
    refine ⟨?_, List.pairwise_singleton _ _, rfl, rfl, UInt64.le_refl _, ?_, ?_⟩
    · intro first' hfirst
      exact Option.some.inj hfirst ▸ hheight
    · intro kept hkept
      exact UInt64.le_of_eq ((hmem kept).1 hkept ▸ hheight)
    · intro height kept
      rw [OrderedMap.get?_singleton, hmem]
      constructor
      · intro hget
        split_ifs at hget with heq
        obtain rfl := Option.some.inj hget
        have hlatest : height = s.latestHeight := heq.trans hheight
        exact ⟨rfl, heq.symm, hlatest ▸ inWindow_latestHeight s⟩
      · rintro ⟨rfl, rfl, -⟩
        exact if_pos rfl

/-- What changes no root leaves behind what was retained. -/
private theorem Retains.of_sameRoots (h : Retains s initial updates c) (hsame : SameRoots c c') :
    Retains s initial updates c' := by
  obtain ⟨hhistory, hlatest, hwindow⟩ := hsame
  refine ⟨h.first_height, h.ascending, hlatest.trans h.latestHeight,
    hwindow.trans h.historyWindow, hlatest ▸ h.start_le, ?_, ?_⟩
  · intro kept hkept
    exact hlatest ▸ h.trusted_le kept hkept
  · intro height kept
    rw [hhistory, h.kept_iff, ClientState.InWindow, ClientState.InWindow, hlatest, hwindow]

/-- What an advanced client keeps, told by its window. -/
private theorem get?_advance_eq_some_iff {u : AcceptedUpdate} {height : UInt64}
    {kept : ConsensusState} :
    (c.advance u).history.get? height = some kept ↔ (c.advance u).state.InWindow height ∧
      (height = u.height ∧ kept = u.consensusState ∨
        height ≠ u.height ∧ c.history.get? height = some kept) := by
  rw [get?_advance, ← ClientState.oldestRetained_le_iff]
  split_ifs with hwindow heq
  · subst heq
    simp [hwindow, eq_comm]
  · simp [hwindow, heq]
  · simp [hwindow]

/-- An update above the latest height goes to the end of the list. What was kept stays if it is
still in the window, and nothing that had left the window comes back. -/
theorem Retains.advance {u : AcceptedUpdate} (h : Retains s initial updates c)
    (hfresh : c.state.latestHeight < u.height) :
    Retains s initial (updates ++ [u]) (c.advance u) := by
  have hbelow : ∀ kept ∈ trusted initial updates, kept.height < u.height :=
    fun kept hkept => UInt64.lt_of_le_of_lt (h.trusted_le kept hkept) hfresh
  have hascending : (s.latestHeight :: (updates ++ [u]).map (·.height)).Pairwise (· < ·) := by
    rw [List.map_append, ← List.cons_append, List.pairwise_append]
    refine ⟨h.ascending, List.pairwise_singleton _ _, fun height hheight last hlast => ?_⟩
    rw [List.map_singleton, List.mem_singleton] at hlast
    exact hlast ▸ UInt64.lt_of_le_of_lt (h.le_latestHeight height hheight) hfresh
  refine ⟨h.first_height, hascending, ?_, h.historyWindow, ?_, ?_, ?_⟩
  · rw [List.map_append, List.map_singleton, List.getLastD_concat]
    rfl
  · exact UInt64.le_of_lt (UInt64.lt_of_le_of_lt h.start_le hfresh)
  · intro kept hkept
    rw [trusted_append, List.mem_append, List.map_singleton, List.mem_singleton] at hkept
    rcases hkept with hkept | rfl
    · exact UInt64.le_of_lt (hbelow kept hkept)
    · exact UInt64.le_refl _
  · intro height kept
    rw [get?_advance_eq_some_iff, trusted_append, List.mem_append, List.map_singleton,
      List.mem_singleton]
    constructor
    · rintro ⟨hwindow, ⟨rfl, rfl⟩ | ⟨-, hget⟩⟩
      · exact ⟨.inr rfl, rfl, hwindow⟩
      · obtain ⟨hkept, hheight, -⟩ := (h.kept_iff height kept).1 hget
        exact ⟨.inl hkept, hheight, hwindow⟩
    · rintro ⟨hkept | rfl, rfl, hwindow⟩
      · -- the window was wider before, so the root was kept then
        have hbefore : c.state.InWindow kept.height := hwindow.of_le (UInt64.le_of_lt hfresh) rfl
        have hget := (h.kept_iff kept.height kept).2 ⟨hkept, rfl, hbefore⟩
        exact ⟨hwindow, .inr ⟨UInt64.ne_of_lt (hbelow kept hkept), hget⟩⟩
      · exact ⟨hwindow, .inl ⟨rfl, rfl⟩⟩

/-- One operation that is no recovery. -/
theorem Retains.perform (h : Retains s initial updates c)
    (hop : ∀ substitute, op ≠ .recover substitute) :
    Retains s initial (updates ++ (c.acceptedBy? recover op).toList) (c.perform recover op).1 := by
  rcases perform_cases recover c hop with ⟨u, haccepted, hfresh, hperform⟩ | ⟨hnone, -, hsame⟩
  · rw [haccepted, hperform]
    exact h.advance hfresh
  · rw [hnone, Option.toList_none, List.append_nil]
    exact h.of_sameRoots hsame

/-! ### Runs without a recovery -/

variable (recover) in
/-- A run without recovery retains the roots of all its accepted updates. -/
theorem retains_afterOperations (h : Retains s initial updates c)
    (hops : ∀ substitute, .recover substitute ∉ ops) :
    Retains s initial (updates ++ c.acceptedUpdates recover ops)
      (c.afterOperations recover ops) := by
  induction ops generalizing c updates with
  | nil =>
    rw [acceptedUpdates, List.append_nil]
    exact h
  | cons op ops ih =>
    have hop : ∀ substitute, op ≠ .recover substitute :=
      fun substitute he => hops substitute (he ▸ List.mem_cons_self)
    rw [acceptedUpdates, ← List.append_assoc]
    exact ih (h.perform hop) fun substitute hmem => hops substitute (List.mem_cons_of_mem op hmem)

/-- The outcomes that report a new root are those with an accepted update behind them, and they
report its height and root. -/
private theorem filterMap_newRoot?_outcomes (hops : ∀ substitute, .recover substitute ∉ ops) :
    (c.outcomes recover ops).filterMap newRoot? =
      (c.acceptedUpdates recover ops).map fun u => (u.height, u.root) := by
  induction ops generalizing c with
  | nil => rfl
  | cons op ops ih =>
    have hop : ∀ substitute, op ≠ .recover substitute :=
      fun substitute he => hops substitute (he ▸ List.mem_cons_self)
    have hrest := @ih (c.perform recover op).1
      fun substitute hmem => hops substitute (List.mem_cons_of_mem op hmem)
    rw [outcomes, acceptedUpdates, List.map_append, ← hrest]
    rcases perform_cases recover c hop with ⟨u, haccepted, -, hperform⟩ | ⟨hnone, hquiet, -⟩
    · rw [haccepted, List.filterMap_cons, hperform]
      rfl
    · rw [hnone, List.filterMap_cons, hquiet]
      rfl

/-- Trusted roots are listed from the lowest height to the highest. -/
theorem Retains.pairwise_trusted (h : Retains s initial updates c) :
    (trusted initial updates).Pairwise (·.height < ·.height) := by
  obtain ⟨hstart, hheights⟩ := List.pairwise_cons.1 h.ascending
  have hupdates : (updates.map (·.consensusState)).Pairwise (·.height < ·.height) :=
    List.pairwise_map.2 (List.pairwise_map.1 hheights)
  cases initial with
  | none => exact hupdates
  | some first =>
    refine List.pairwise_cons.2 ⟨fun kept hkept => ?_, hupdates⟩
    obtain ⟨u, hu, rfl⟩ := List.mem_map.1 hkept
    rw [h.first_height first rfl]
    exact hstart _ (List.mem_map_of_mem hu)

/-- The listing of a history is that of the trusted roots in the window, in the order in which they
became trusted. -/
theorem Retains.toList_eq (h : Retains s initial updates c) :
    c.history.toList =
      ((trusted initial updates).filter fun kept => c.state.InWindow kept.height).map
        fun kept => (kept.height, kept) := by
  refine eq_of_increasing_on Prod.fst c.history.sorted ?_ fun ⟨height, kept⟩ => ?_
  · rw [List.pairwise_map]
    exact (h.pairwise_trusted.filter _).imp Std.compare_eq_lt.2
  · rw [OrderedMap.mem_toList, h.kept_iff, List.mem_map]
    constructor
    · rintro ⟨hkept, rfl, hwindow⟩
      exact ⟨kept, List.mem_filter.2 ⟨hkept, decide_eq_true hwindow⟩, rfl⟩
    · rintro ⟨kept', hkept, heq⟩
      obtain ⟨rfl, rfl⟩ := Prod.mk.inj heq
      obtain ⟨hmem, hwindow⟩ := List.mem_filter.1 hkept
      exact ⟨hmem, rfl, of_decide_eq_true hwindow⟩

/-- What stood at or below the latest height stays as it is while it is in the window, and is gone
afterwards. -/
theorem Retains.get?_of_le {later : List AcceptedUpdate} {height : UInt64}
    (h : Retains s initial updates c) (hlater : Retains s initial (updates ++ later) c')
    (hheight : height ≤ c.state.latestHeight) :
    c'.history.get? height = if c'.state.InWindow height then c.history.get? height else none := by
  have hlatest : c.state.latestHeight ∈ s.latestHeight :: updates.map (·.height) :=
    h.latestHeight ▸ List.getLastD_mem_cons
  have hascending := hlater.ascending
  rw [List.map_append, ← List.cons_append, List.pairwise_append] at hascending
  -- later updates are above the height, so they tell nothing about it
  have hmem : ∀ kept, kept.height = height →
      (kept ∈ trusted initial (updates ++ later) ↔ kept ∈ trusted initial updates) := by
    intro kept hkept
    rw [trusted_append, List.mem_append, or_iff_left]
    intro hin
    obtain ⟨u, hu, rfl⟩ := List.mem_map.1 hin
    have habove := hascending.2.2 _ hlatest u.height (List.mem_map_of_mem hu)
    have hbelow : u.height ≤ c.state.latestHeight := by
      rw [← hkept] at hheight
      exact hheight
    exact UInt64.not_le.2 habove hbelow
  have hle : c.state.latestHeight ≤ c'.state.latestHeight := by
    refine hlater.le_latestHeight _ ?_
    rw [List.map_append, ← List.cons_append]
    exact List.mem_append_left _ hlatest
  have hsame : c'.state.historyWindow = c.state.historyWindow :=
    hlater.historyWindow.trans h.historyWindow.symm
  refine Option.ext fun kept => ?_
  rw [Option.ite_none_right_eq_some, h.kept_iff, hlater.kept_iff]
  constructor
  · rintro ⟨hkept, hown, hwindow⟩
    exact ⟨hwindow, (hmem kept hown).1 hkept, hown, hwindow.of_le hle hsame⟩
  · rintro ⟨hwindow, hkept, hown, -⟩
    exact ⟨(hmem kept hown).2 hkept, hown, hwindow⟩

/-- **Retained history.** While a new client is updated, frozen and given other attestors, with
whatever success, but not recovered, the outcomes that report a new root have strictly increasing
heights, of which the last is the latest height. The history lists the first root and the accepted
updates behind those outcomes as far as they are in the window, and nothing else. So whatever stood
at or below the latest height at some point of the run stands there unchanged as long as the height
is in the window, and what does not stand there does not come back. -/
theorem history_eq_accepted_updates (hcreate : create s initial = .ok c)
    (hops : ∀ substitute, .recover substitute ∉ ops) :
    (c.outcomes recover ops).filterMap newRoot? =
      (c.acceptedUpdates recover ops).map (fun u => (u.height, u.root)) ∧
    (s.latestHeight :: (c.acceptedUpdates recover ops).map (·.height)).Pairwise (· < ·) ∧
    (c.afterOperations recover ops).state.latestHeight =
      ((c.acceptedUpdates recover ops).map (·.height)).getLastD s.latestHeight ∧
    (c.afterOperations recover ops).state.historyWindow = s.historyWindow ∧
    (c.afterOperations recover ops).history.toList =
      ((initial.toList ++ (c.acceptedUpdates recover ops).map (·.consensusState)).filter
        fun kept => (c.afterOperations recover ops).state.InWindow kept.height).map
          (fun kept => (kept.height, kept)) ∧
    ∀ before after, ops = before ++ after → ∀ height,
      height ≤ (c.afterOperations recover before).state.latestHeight →
        (c.afterOperations recover ops).history.get? height =
          if (c.afterOperations recover ops).state.InWindow height then
            (c.afterOperations recover before).history.get? height
          else none := by
  have hstart := retains_create hcreate
  have hreached := retains_afterOperations recover hstart hops
  refine ⟨filterMap_newRoot?_outcomes hops, hreached.ascending, hreached.latestHeight,
    hreached.historyWindow, hreached.toList_eq, ?_⟩
  rintro before after rfl height hheight
  have hbefore := retains_afterOperations recover hstart
    fun substitute hmem => hops substitute (List.mem_append_left after hmem)
  have hafter := retains_afterOperations recover hbefore
    fun substitute hmem => hops substitute (List.mem_append_right before hmem)
  rw [afterOperations_append]
  exact hbefore.get?_of_le hafter hheight

namespace ThreeVoters

/-- The voters settle their dispute, a policy that they cannot meet is refused, Ann and Bob state
the root at height fourteen, and the client is frozen. -/
def growth : List Operation :=
  [.update dispute, .updateAttestors attestors (.count 4),
    .update [claim "bob" 2 14 (trueRoot 14), claim "ann" 1 14 (trueRoot 14)], .freeze 9]

end ThreeVoters

open ThreeVoters in
/-- Ten heights below the latest one the first root is out of the window. -/
theorem history_eq_accepted_updates_growth :
    create start (some first) = .ok ⟨start, .singleton 0 first⟩ ∧
    (∀ substitute, .recover substitute ∉ growth) ∧
    (acceptedUpdates readSigner ⟨start, .singleton 0 first⟩ growth).map (·.height) = [5, 14] ∧
    (afterOperations readSigner ⟨start, .singleton 0 first⟩ growth).history.toList =
      [(5, ⟨5, trueRoot 5, 7⟩), (14, ⟨14, trueRoot 14, 7⟩)] := by
  have hcreate : create start (some first) = .ok ⟨start, .singleton 0 first⟩ := by decide +kernel
  have hops : ∀ substitute, .recover substitute ∉ growth := by
    intro substitute hmem
    simp [growth] at hmem
  have hheights : (acceptedUpdates readSigner ⟨start, .singleton 0 first⟩ growth).map (·.height) =
      [5, 14] := by decide +kernel
  refine ⟨hcreate, hops, hheights, ?_⟩
  rw [(history_eq_accepted_updates hcreate hops).2.2.2.2.1]
  decide +kernel

end Client

end Attestation
