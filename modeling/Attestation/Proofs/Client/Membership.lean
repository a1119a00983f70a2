import Attestation.Client.Membership
import Attestation.Proofs.Except
import Mathlib.Tactic.SplitIfs

/-!
# Queries for roots

A client that is active and has reached a height trusts a root there if it keeps the root for the
height, or if a proof taken at the height folds to it and it is the latest root (`Trusts`).
`Answered` lists what can come of a query, and a query comes to what is listed and to nothing else
(`verifyMembership_eq_iff`), so results can be read backwards. A proof is only ever a second way to
be trusted: the history is looked at besides, and a proof that does not vouch for the root changes
at most the error (`verifyMembership_iff_trusted`).
-/

namespace Attestation

/-- A history keeps a root for a height. -/
def History.Keeps (history : History) (height : UInt64) (root : Digest) : Prop :=
  ∃ kept, history.get? height = some kept ∧ kept.root = root

namespace ClientState

variable {hash : Bytes → Digest} {s : ClientState} {history : History} {height : UInt64}
  {root : Digest} {proof : Option MembershipProof} {p : MembershipProof}

/-! ### Trusted roots -/

variable (hash s height root) in
/-- A proof vouches for a root at a height if it was taken there and folds to the root, and the root
is the latest one. -/
def Vouches (p : MembershipProof) : Prop :=
  p.height = height ∧ p.root hash = .ok root ∧ root = s.latestRoot

variable (hash s history height root) in
/-- A root is trusted at a height if it is kept there or a proof vouches for it. -/
def Trusts (proof : Option MembershipProof) : Prop :=
  history.Keeps height root ∨ ∃ p, proof = some p ∧ s.Vouches hash height root p

/-- The history vouches for what it keeps. -/
private theorem checkHistory_eq_ok_iff :
    checkHistory history height root = .ok () ↔ history.Keeps height root := by
  rw [checkHistory, History.Keeps]
  cases history.get? height with
  | none => simp
  | some kept => simp

/-- A proof without a defect is one that vouches for the root, or one for a root that is kept. -/
private theorem proofDefect?_eq_none_iff :
    s.proofDefect? hash history height root p = none ↔
      p.height = height ∧ p.root hash = .ok root ∧
        (root = s.latestRoot ∨ history.Keeps height root) := by
  have hkept : (checkHistory history height root).isOk ↔ history.Keeps height root := by
    rw [← checkHistory_eq_ok_iff]
    cases checkHistory history height root <;> simp [Except.isOk, Except.toBool]
  rw [proofDefect?, ← MembershipProof.proves_iff, ← hkept]
  split_ifs with hheight hproves htrusted
  · exact iff_of_false nofun fun h => hheight h.1
  · exact iff_of_true rfl ⟨not_not.1 hheight, hproves, htrusted⟩
  · exact iff_of_false nofun fun h => htrusted h.2.2
  · exact iff_of_false nofun fun h => hproves h.2.1

/-- A proof has a defect if the root is not trusted by it. -/
private theorem exists_proofDefect (h : ¬ s.Trusts hash history height root (some p)) :
    ∃ defect, s.proofDefect? hash history height root p = some defect := by
  refine Option.ne_none_iff_exists'.1 fun hnone => h ?_
  obtain ⟨hheight, hroot, hlatest | hkept⟩ := proofDefect?_eq_none_iff.1 hnone
  · exact .inr ⟨p, rfl, hheight, hroot, hlatest⟩
  · exact .inl hkept

/-! ### Answers -/

variable (hash s history height root) in
/-- What can come of a query for a root at a height. -/
inductive Answered : Option MembershipProof → Except ClientError Unit → Prop
  /-- An active client that has reached the height accepts a trusted root. -/
  | accepted {proof : Option MembershipProof} (active : s.status = .active)
      (reached : height ≤ s.latestHeight) (trusted : s.Trusts hash history height root proof) :
      Answered proof (.ok ())
  /-- A frozen client accepts nothing. -/
  | frozen {proof : Option MembershipProof} {since : UInt64} (status : s.status = .frozen since) :
      Answered proof (.error (.clientFrozen since))
  /-- The height is not reached. -/
  | ahead {proof : Option MembershipProof} (active : s.status = .active)
      (ahead : s.latestHeight < height) :
      Answered proof (.error (.heightNotYetTrusted height s.latestHeight))
  /-- Without a proof, no root is kept. -/
  | unknown (active : s.status = .active) (reached : height ≤ s.latestHeight)
      (absent : history.get? height = none) : Answered none (.error (.unknownRoot height))
  /-- Without a proof, another root is kept. -/
  | mismatch {kept : ConsensusState} (active : s.status = .active)
      (reached : height ≤ s.latestHeight) (found : history.get? height = some kept)
      (differs : kept.root ≠ root) : Answered none (.error (.rootMismatch height))
  /-- With a proof, neither it nor the history speaks for the root. -/
  | invalid {p : MembershipProof} {defect : ProofDefect} (active : s.status = .active)
      (reached : height ≤ s.latestHeight)
      (untrusted : ¬ s.Trusts hash history height root (some p))
      (flaw : s.proofDefect? hash history height root p = some defect) :
      Answered (some p) (.error (.invalidProof defect))

theorem verifyMembership_of_frozen {since : UInt64} (h : s.status = .frozen since) :
    s.verifyMembership hash history height root proof = .error (.clientFrozen since) := by
  unfold verifyMembership ensureActive
  rw [h]
  rfl

/-- An active client does not answer for heights above its latest one. -/
private theorem verifyMembership_of_lt (h : s.status = .active) (hahead : s.latestHeight < height) :
    s.verifyMembership hash history height root proof =
      .error (.heightNotYetTrusted height s.latestHeight) := by
  unfold verifyMembership ensureActive
  rw [h]
  dsimp only
  rw [ok_bind, if_pos hahead]
  rfl

/-- At a height that is reached the proof is tried first; if it fails, the history decides, and the
defect of the proof is what a failure reports. -/
private theorem verifyMembership_of_le (h : s.status = .active)
    (hreached : height ≤ s.latestHeight) :
    s.verifyMembership hash history height root proof =
      match proof with
      | none => checkHistory history height root
      | some p =>
        match s.proofDefect? hash history height root p with
        | none => .ok ()
        | some defect =>
          (checkHistory history height root).mapError fun _ => .invalidProof defect := by
  unfold verifyMembership ensureActive
  rw [h]
  dsimp only
  rw [ok_bind, if_neg (UInt64.not_lt.2 hreached)]
  rfl

/-- Something comes of every query. -/
private theorem exists_answered (hash : Bytes → Digest) (s : ClientState) (history : History)
    (height : UInt64) (root : Digest) (proof : Option MembershipProof) :
    ∃ result, Answered hash s history height root proof result := by
  cases hstatus : s.status with
  | frozen since => exact ⟨_, .frozen hstatus⟩
  | active =>
    rcases UInt64.lt_or_le s.latestHeight height with hahead | hreached
    · exact ⟨_, .ahead hstatus hahead⟩
    by_cases htrusted : s.Trusts hash history height root proof
    · exact ⟨_, .accepted hstatus hreached htrusted⟩
    cases proof with
    | some p =>
      obtain ⟨defect, hflaw⟩ := exists_proofDefect htrusted
      exact ⟨_, .invalid hstatus hreached htrusted hflaw⟩
    | none =>
      cases hkept : history.get? height with
      | none => exact ⟨_, .unknown hstatus hreached hkept⟩
      | some kept =>
        have hdiffers : kept.root ≠ root := fun h => htrusted (.inl ⟨kept, hkept, h⟩)
        exact ⟨_, .mismatch hstatus hreached hkept hdiffers⟩

/-- What can come of a query does. -/
theorem Answered.eq {result : Except ClientError Unit}
    (h : Answered hash s history height root proof result) :
    s.verifyMembership hash history height root proof = result := by
  cases h with
  | frozen status => exact verifyMembership_of_frozen status
  | ahead active ahead => exact verifyMembership_of_lt active ahead
  | unknown active reached absent =>
    rw [verifyMembership_of_le active reached, checkHistory, absent]
  | mismatch active reached found differs =>
    rw [verifyMembership_of_le active reached, checkHistory, found]
    exact if_neg differs
  | @invalid p defect active reached untrusted flaw =>
    have hunkept : checkHistory history height root ≠ .ok () :=
      fun hok => untrusted (.inl (checkHistory_eq_ok_iff.1 hok))
    rw [verifyMembership_of_le active reached]
    dsimp only
    rw [flaw]
    cases hcheck : checkHistory history height root with
    | ok _ => exact absurd hcheck hunkept
    | error cause => rfl
  | accepted active reached trusted =>
    rw [verifyMembership_of_le active reached]
    rcases trusted with hkept | ⟨p, rfl, hheight, hroot, hlatest⟩
    · have hcheck := checkHistory_eq_ok_iff.2 hkept
      cases proof with
      | none => exact hcheck
      | some p =>
        -- whatever the proof is worth, the history accepts the root
        dsimp only
        rw [hcheck]
        cases s.proofDefect? hash history height root p <;> rfl
    · have hsound : s.proofDefect? hash history height root p = none :=
        proofDefect?_eq_none_iff.2 ⟨hheight, hroot, .inl hlatest⟩
      dsimp only
      rw [hsound]

/-- A query comes to what is listed and to nothing else. -/
theorem verifyMembership_eq_iff {result : Except ClientError Unit} :
    s.verifyMembership hash history height root proof = result ↔
      Answered hash s history height root proof result := by
  refine ⟨?_, Answered.eq⟩
  rintro rfl
  obtain ⟨result, hanswered⟩ := exists_answered hash s history height root proof
  rwa [hanswered.eq]

/-- A root is accepted exactly by an active client that has reached the height and trusts the root
there. -/
theorem verifyMembership_eq_ok_iff :
    s.verifyMembership hash history height root proof = .ok () ↔
      s.status = .active ∧ height ≤ s.latestHeight ∧ s.Trusts hash history height root proof := by
  rw [verifyMembership_eq_iff]
  constructor
  · rintro ⟨active, reached, trusted⟩
    exact ⟨active, reached, trusted⟩
  · rintro ⟨active, reached, trusted⟩
    exact .accepted active reached trusted

/-- A packet is accepted under the root that its proof folds to. -/
theorem verifyPacket_eq_ok_iff {packet : Packet} :
    s.verifyPacket hash history height packet p = .ok () ↔
      p.leaf = packet ∧ ∃ root, p.root hash = .ok root ∧
        s.verifyMembership hash history height root (some p) = .ok () := by
  rw [verifyPacket]
  split_ifs with hleaf
  · exact iff_of_false nofun fun h => hleaf h.1
  · cases p.root hash with
    | error cause => simp
    | ok root => simp [not_not.1 hleaf]

theorem verifyPacket_of_frozen {since : UInt64} {packet : Packet} (h : s.status = .frozen since) :
    s.verifyPacket hash history height packet p ≠ .ok () := by
  intro hok
  obtain ⟨-, root, -, haccepted⟩ := verifyPacket_eq_ok_iff.1 hok
  rw [verifyMembership_of_frozen h] at haccepted
  contradiction

/-- **Queries are accepted exactly for trusted roots.** A query is accepted exactly if the client is
active, has reached the height, and keeps the root there or is given a proof that vouches for it. A
frozen client answers with the height of its conflict, an active one that has not reached the height
with its latest height; otherwise, without a proof the answer says whether no root or another root
is kept, and with one that the proof is not valid. A packet is accepted exactly if it is the leaf of
the proof and the root that the proof folds to is accepted with it. So a query that is accepted
without a proof is accepted with every proof. -/
theorem verifyMembership_iff_trusted (hash : Bytes → Digest) (s : ClientState) (history : History)
    (height : UInt64) (root : Digest) (proof : Option MembershipProof) :
    (s.verifyMembership hash history height root proof = .ok () ↔
      s.status = .active ∧ height ≤ s.latestHeight ∧ s.Trusts hash history height root proof) ∧
    (∀ since, s.verifyMembership hash history height root proof = .error (.clientFrozen since) ↔
      s.status = .frozen since) ∧
    (s.verifyMembership hash history height root proof =
        .error (.heightNotYetTrusted height s.latestHeight) ↔
      s.status = .active ∧ s.latestHeight < height) ∧
    (s.verifyMembership hash history height root proof = .error (.unknownRoot height) ↔
      s.status = .active ∧ height ≤ s.latestHeight ∧ proof = none ∧ history.get? height = none) ∧
    (s.verifyMembership hash history height root proof = .error (.rootMismatch height) ↔
      s.status = .active ∧ height ≤ s.latestHeight ∧ proof = none ∧
        ∃ kept, history.get? height = some kept ∧ kept.root ≠ root) ∧
    ((∃ defect, s.verifyMembership hash history height root proof =
        .error (.invalidProof defect)) ↔
      s.status = .active ∧ height ≤ s.latestHeight ∧ (∃ p, proof = some p) ∧
        ¬ s.Trusts hash history height root proof) ∧
    (∀ packet p, s.verifyPacket hash history height packet p = .ok () ↔
      p.leaf = packet ∧ ∃ folded, p.root hash = .ok folded ∧
        s.verifyMembership hash history height folded (some p) = .ok ()) ∧
    (s.verifyMembership hash history height root none = .ok () ↔
      ∀ proof', s.verifyMembership hash history height root proof' = .ok ()) := by
  refine ⟨verifyMembership_eq_ok_iff, fun since => ?_, ?_, ?_, ?_, ?_,
    fun packet p => verifyPacket_eq_ok_iff, ?_⟩
  · rw [verifyMembership_eq_iff]
    exact ⟨fun (.frozen status) => status, .frozen⟩
  · rw [verifyMembership_eq_iff]
    exact ⟨fun (.ahead active ahead) => ⟨active, ahead⟩, fun ⟨active, ahead⟩ => .ahead active ahead⟩
  · rw [verifyMembership_eq_iff]
    constructor
    · intro h
      cases h with
      | unknown active reached absent => exact ⟨active, reached, rfl, absent⟩
    · rintro ⟨active, reached, rfl, absent⟩
      exact .unknown active reached absent
  · rw [verifyMembership_eq_iff]
    constructor
    · intro h
      cases h with
      | mismatch active reached found differs => exact ⟨active, reached, rfl, _, found, differs⟩
    · rintro ⟨active, reached, rfl, kept, found, differs⟩
      exact .mismatch active reached found differs
  · simp only [verifyMembership_eq_iff]
    constructor
    · rintro ⟨defect, h⟩
      cases h with
      | invalid active reached untrusted flaw => exact ⟨active, reached, ⟨_, rfl⟩, untrusted⟩
    · rintro ⟨active, reached, ⟨p, rfl⟩, untrusted⟩
      obtain ⟨defect, flaw⟩ := exists_proofDefect untrusted
      exact ⟨defect, .invalid active reached untrusted flaw⟩
  · refine ⟨fun haccepted proof' => ?_, fun h => h none⟩
    -- without a proof it is the history that speaks for the root, and it still does
    obtain ⟨active, reached, hkept | ⟨p, hnone, -⟩⟩ := verifyMembership_eq_ok_iff.1 haccepted
    · exact verifyMembership_eq_ok_iff.2 ⟨active, reached, .inl hkept⟩
    · exact nomatch hnone

end ClientState

end Attestation
