import Attestation.Proofs.Client.Membership
import Attestation.Proofs.Client.Safety
import Attestation.Proofs.Client.Unanimity
import Attestation.Proofs.Merkle.Listing
import Attestation.Proofs.Snapshot

/-!
# From packets to verified proofs

Attestors that list the same packets of a chain, each in its own way, sign the same root. Once a
quorum of them has done so, a client that receives their claims adopts that root
(`Unanimous.exists_update_eq`), and every proof of the bundle that a prover makes from a listing of
its own verifies against the client (`verifyPacket_advance`).
-/

namespace Attestation

variable {recover : Recovery} {hash : Bytes → Digest} {sign : Attestor → Bytes → Bytes}

/-! ### Honest claims -/

/-- An honest claim of an attestor about the packets of a chain at a height: it signs the snapshot
of a listing of its own, at whatever block time. -/
def Attests (hash : Bytes → Digest) (sign : Attestor → Bytes → Bytes) (chainId : String)
    (height : UInt64) (packets : Finset Packet) (a : Attestor) (claim : Claim) : Prop :=
  ∃ listing collectedAt message, listing.toFinset = packets ∧
    (Snapshot.ofPackets hash chainId height collectedAt listing).signable? = some message ∧
    claim = ⟨.ofPackets hash chainId height collectedAt listing, a.id, sign a message⟩

/-- The root over a set of packets. -/
noncomputable def rootOver (hash : Bytes → Digest) (packets : Finset Packet) : Digest :=
  (CommitmentTree.ofList packets.toList).root hash

/-- The root does not depend on how the packets are listed. -/
private theorem root_ofList {listing : List Packet} {packets : Finset Packet}
    (h : listing.toFinset = packets) :
    (CommitmentTree.ofList listing).root hash = rootOver hash packets := by
  rw [rootOver, CommitmentTree.ofList_congr fun packet => ?_]
  rw [← List.mem_toFinset, h, Finset.mem_toList]

namespace Attests

variable {s : ClientState} {height : UInt64} {packets : Finset Packet} {a : Attestor}
  {claim : Claim}

/-- An honest claim is for the root over the packets at their height. -/
private theorem subject_eq {chainId : String}
    (h : Attests hash sign chainId height packets a claim) :
    claim.snapshot.height = height ∧ claim.snapshot.root = rootOver hash packets ∧
      claim.attestorId = a.id := by
  obtain ⟨listing, collectedAt, message, hlisting, -, rfl⟩ := h
  exact ⟨rfl, root_ofList hlisting, rfl⟩

/-- The honest claims of a member whose signatures are recognised are usable. -/
theorem usable (h : Attests hash sign s.chainId height packets a claim)
    (hmember : a ∈ s.attestors.members)
    (hsign : ∀ message, recover message (sign a message) = .ok a.address) :
    claim.Usable recover s := by
  obtain ⟨listing, collectedAt, message, hlisting, hmessage, rfl⟩ := h
  exact ⟨rfl, a, hmember, rfl, message, hmessage, hsign message⟩

end Attests

/-! ### What an honest quorum brings about -/

section Honest

variable {s : ClientState} {batch : List Claim} {height : UInt64} {root : Digest}

/-- An active client adopts the root on which all usable claims agree, if it has a quorum. -/
theorem Unanimous.exists_update_eq {c : Client}
    (h : Unanimous recover c.state batch height root) (hstatus : c.state.status = .active)
    (hfresh : c.state.latestHeight < height)
    (hquorum : HasQuorum recover c.state batch height root) :
    ∃ u : AcceptedUpdate, u.height = height ∧ u.root = root ∧
      c.update recover batch = (c.advance u, .ok (.updated u.height u.root)) := by
  obtain ⟨u, hverdict, hheight, hroot, -⟩ := h.exists_accepted hfresh hquorum
  exact ⟨u, hheight, hroot, Client.update_of_accepted hstatus hverdict⟩

/-! ### Verifying against the adopted root -/

/-- After an update, a proof taken at its height verifies its leaf if it folds to the adopted
root. -/
theorem verifyPacket_advance {c : Client} {u : AcceptedUpdate} {p : MembershipProof}
    (hstatus : c.state.status = .active) (hheight : p.height = u.height)
    (hproves : p.proves hash u.root) :
    (c.advance u).verifyPacket hash u.height p.leaf p = .ok () := by
  have hfolds : p.root hash = .ok u.root := MembershipProof.proves_iff.1 hproves
  have hvouches : (c.advance u).state.Vouches hash u.height u.root p := ⟨hheight, hfolds, rfl⟩
  have haccepted : (c.advance u).state.verifyMembership hash (c.advance u).history u.height u.root
      (some p) = .ok () :=
    ClientState.verifyMembership_eq_ok_iff.2
      ⟨hstatus, UInt64.le_refl _, .inr ⟨p, rfl, hvouches⟩⟩
  exact ClientState.verifyPacket_eq_ok_iff.2 ⟨rfl, u.root, hfolds, haccepted⟩

end Honest

/-- **From packets to verified proofs.** Let signatures of members be recognised, and let members
that reach the threshold together each make an honest claim about one set of packets at a height
above the trusted one, among claims that are honest, too, or not usable. Then an active client with
a valid state adopts a root for that height, the bundle over any listing of the packets has this
root, and for each packet it holds a proof that verifies against the updated client; that proof is
found under the path of the packet exactly if the packet is the least one there. -/
theorem packets_verify_after_update {c : Client} {height : UInt64} {packets : Finset Packet}
    {group : List Attestor} {batch : List Claim}
    (hsign : ∀ a ∈ c.state.attestors.members, ∀ message,
      recover message (sign a message) = .ok a.address)
    (hstatus : c.state.status = .active) (hvalid : c.state.validate = .ok ())
    (hfresh : c.state.latestHeight < height)
    (hmembers : ∀ a ∈ group, a ∈ c.state.attestors.members) (hnodup : group.Nodup)
    (hweight : c.state.policy.threshold.toNat ≤ c.state.policy.exactWeight group)
    (hattest : ∀ a ∈ group, ∃ claim ∈ batch,
      Attests hash sign c.state.chainId height packets a claim)
    (hothers : ∀ claim ∈ batch, (∃ a ∈ group,
      Attests hash sign c.state.chainId height packets a claim) ∨ ¬ claim.Usable recover c.state)
    (hcard : packets.card < UInt64.size) :
    ∃ root, (c.update recover batch).2 = .ok (.updated height root) ∧
      ∀ chainId listing, listing.toFinset = packets →
        (ProofBundle.ofTree hash chainId height (.ofList listing)).root = root ∧
        ∀ packet ∈ packets,
          ∃ proof ∈ (ProofBundle.ofTree hash chainId height (.ofList listing)).proofs,
            proof.leaf = packet ∧
            (c.update recover batch).1.verifyPacket hash height packet proof = .ok () ∧
            ((ProofBundle.ofTree hash chainId height (.ofList listing)).proofFor? packet.path =
                some proof ↔
              ∀ other ∈ packets, other.path = packet.path → (compare packet other).isLE) := by
  have hunanimous : Unanimous recover c.state batch height (rootOver hash packets) := by
    intro claim hclaim husable
    rcases hothers claim hclaim with ⟨a, -, hhonest⟩ | hunusable
    · exact ⟨hhonest.subject_eq.1, hhonest.subject_eq.2.1⟩
    · exact absurd husable hunusable
  have hsupport : ∀ a ∈ group,
      a ∈ supporters recover c.state batch height (rootOver hash packets) := by
    intro a ha
    obtain ⟨claim, hclaim, hhonest⟩ := hattest a ha
    obtain ⟨hheight, hroot, hid⟩ := hhonest.subject_eq
    have husable := hhonest.usable (hmembers a ha) (hsign a (hmembers a ha))
    exact mem_supporters.2
      ⟨hmembers a ha, claim, mem_supporting.2 ⟨hclaim, husable, hheight, hroot⟩, hid⟩
  have hpolicy := (ClientState.validate_eq_ok_iff.1 hvalid).2.2
  obtain ⟨u, rfl, hroot, hupdate⟩ := hunanimous.exists_update_eq hstatus hfresh
    (hasQuorum_of_group hpolicy hnodup hsupport hweight)
  refine ⟨rootOver hash packets, ?_, fun chainId listing hlisting => ?_⟩
  · rw [hupdate, hroot]
  have hsize : (CommitmentTree.ofList listing).size < UInt64.size := by
    rwa [CommitmentTree.size_ofList, hlisting]
  have hleaves : ∀ packet, packet ∈ (CommitmentTree.ofList listing).leaves ↔ packet ∈ packets := by
    intro packet
    rw [CommitmentTree.mem_leaves_ofList, ← List.mem_toFinset, hlisting]
  have hcovers :
      (ProofBundle.ofTree hash chainId u.height (.ofList listing)).Covers hash (.ofList listing) :=
    ProofBundle.covers_ofTree hsize
  -- the prover's own listing gives the root that the attestors signed
  have hbundle : (ProofBundle.ofTree hash chainId u.height (.ofList listing)).root = u.root :=
    (root_ofList hlisting).trans hroot.symm
  refine ⟨hbundle.trans hroot, fun packet hpacket => ?_⟩
  obtain ⟨proof, hproof, rfl⟩ := hcovers.exists_proof ((hleaves packet).2 hpacket)
  refine ⟨proof, hproof, rfl, ?_, ?_⟩
  · rw [hupdate]
    exact verifyPacket_advance hstatus (hcovers.height_eq hproof)
      (hbundle ▸ hcovers.proves proof hproof)
  · simp only [hcovers.proofFor?_eq_some_iff hproof, hleaves]

/-! ### Three voters and three packets -/

namespace ThreeVoters

open Client.ThreeVoters

/-- The first voter. -/
def ann : Attestor := ⟨"ann", .replicate 20 1, 1⟩

/-- The second voter. -/
def bob : Attestor := ⟨"bob", .replicate 20 2, 1⟩

/-- A signature that `readSigner` recognises: the byte that the address repeats. -/
def initialOf (a : Attestor) (_ : Bytes) : Bytes := a.address.toBytes.take 1

/-- The claim of an attestor who lists the packets at height five in some order. -/
def report (a : Attestor) (collectedAt : UInt64) (listing : List Packet) : Claim :=
  ⟨.ofPackets ThreePackets.checksum "chain" 5 collectedAt listing, a.id, initialOf a []⟩

/-- The reports of the first two voters, whose listings differ, among a claim of the third under the
id of the second and one of a stranger. -/
def reports : List Claim :=
  [claim "bob" 3 9 (trueRoot 0), report bob 8 ThreePackets.listing.reverse,
    claim "dan" 1 5 (trueRoot 0), report ann 7 ThreePackets.listing]

/-- A report is an honest claim about the packets that are listed. -/
private theorem attests_report (a : Attestor) (collectedAt : UInt64) {listing : List Packet}
    {packets : Finset Packet} (h : listing.toFinset = packets) :
    Attests ThreePackets.checksum initialOf "chain" 5 packets a (report a collectedAt listing) := by
  have hid : (Bytes.ofText "chain").length < UInt32.size := by decide +kernel
  obtain ⟨message, hmessage⟩ := Snapshot.exists_signable
    (s := .ofPackets ThreePackets.checksum "chain" 5 collectedAt listing) hid
  exact ⟨listing, collectedAt, message, h, hmessage, rfl⟩

end ThreeVoters

open ThreeVoters Client.ThreeVoters in
/-- Two reports out of three make the client adopt the root of the packets, and the proof that the
prover finds under the path of a packet verifies. -/
theorem packets_verify_after_reports :
    start.status = .active ∧ start.validate = .ok () ∧ start.latestHeight < 5 ∧
    start.policy.threshold.toNat ≤ start.policy.exactWeight [ann, bob] ∧
    ∃ root, (Client.update readSigner ⟨start, .empty⟩ reports).2 = .ok (.updated 5 root) ∧
      (ProofBundle.ofTree ThreePackets.checksum "chain" 5 ThreePackets.tree).root = root ∧
      ∃ proof ∈ (ProofBundle.ofTree ThreePackets.checksum "chain" 5 ThreePackets.tree).proofs,
        proof.leaf = ThreePackets.packet 2 ∧
        (Client.update readSigner ⟨start, .empty⟩ reports).1.verifyPacket ThreePackets.checksum 5
          (ThreePackets.packet 2) proof = .ok () ∧
        (ProofBundle.ofTree ThreePackets.checksum "chain" 5 ThreePackets.tree).proofFor?
          (ThreePackets.packet 2).path = some proof := by
  have hvalid : start.validate = .ok () := by decide +kernel
  have hweight : start.policy.threshold.toNat ≤ start.policy.exactWeight [ann, bob] := by
    decide +kernel
  have hsign : ∀ a ∈ start.attestors.members, ∀ message,
      readSigner message (initialOf a message) = .ok a.address := by
    have haddress : ∀ a ∈ start.attestors.members,
        FixedBytes.replicate 20 ((a.address.toBytes.take 1).headD 0) = a.address := by
      decide +kernel
    exact fun a ha _ => congrArg Except.ok (haddress a ha)
  have hmembers : ∀ a ∈ [ann, bob], a ∈ start.attestors.members := by decide +kernel
  have hreverse : ThreePackets.listing.reverse.toFinset = ThreePackets.listing.toFinset :=
    List.toFinset_reverse
  have hann := attests_report ann 7 (@rfl _ ThreePackets.listing.toFinset)
  have hbob := attests_report bob 8 hreverse
  have hattest : ∀ a ∈ [ann, bob], ∃ claim ∈ reports,
      Attests ThreePackets.checksum initialOf "chain" 5 ThreePackets.listing.toFinset a claim := by
    intro a ha
    rcases List.mem_pair.1 ha with rfl | rfl
    · exact ⟨_, by simp [reports], hann⟩
    · exact ⟨_, by simp [reports], hbob⟩
  have hothers : ∀ claim ∈ reports, (∃ a ∈ [ann, bob], Attests ThreePackets.checksum initialOf
      "chain" 5 ThreePackets.listing.toFinset a claim) ∨ ¬ claim.Usable readSigner start := by
    intro claim hclaim
    simp only [reports, List.mem_cons, List.not_mem_nil, or_false] at hclaim
    -- the first and the third claim are forged and a stranger's
    rcases hclaim with rfl | rfl | rfl | rfl
    · exact .inr (by decide +kernel)
    · exact .inl ⟨bob, by simp, hbob⟩
    · exact .inr (by decide +kernel)
    · exact .inl ⟨ann, by simp, hann⟩
  obtain ⟨root, hupdate, hbundles⟩ := packets_verify_after_update
    (c := ⟨start, .empty⟩) hsign rfl hvalid (by decide) hmembers (by decide +kernel) hweight
    hattest hothers (by decide +kernel)
  obtain ⟨hroot, hproofs⟩ := hbundles "chain" ThreePackets.listing rfl
  obtain ⟨proof, hproof, hleaf, hverify, hfound⟩ := hproofs (ThreePackets.packet 2) (by decide)
  have hleast : ∀ other ∈ ThreePackets.listing.toFinset,
      other.path = (ThreePackets.packet 2).path →
        (compare (ThreePackets.packet 2) other).isLE := by
    decide +kernel
  exact ⟨rfl, hvalid, by decide, hweight, root, hupdate, hroot, proof, hproof, hleaf, hverify,
    hfound.2 hleast⟩

end Attestation
