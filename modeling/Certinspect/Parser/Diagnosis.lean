/-
**The root that `diagnose_chain` names.**

When the leaf's issuer is among the certificates that follow it, the chain is called complete and its
root is read off the last certificate of the list. Nothing looks whether that one is above the leaf.

* `Above` — a certificate that one reaches from the leaf, from issuer to subject.
* `nameEdges`, `exists_above_iff` — reaching certificates is reaching names.
* `completeDiagnosis`, `diagnoseChain_complete` — the answer for a list of several certificates.
* `RootLinked` — the last certificate's issuer is found from the leaf's, by a finite search;
  `rootLinked_of_ordered` — it is in a chain that is in order.
* **`diagnoseChain_root_iff`** — the root that is named is the leaf's exactly when it is linked.
-/

import Certinspect.Library.Reach
import Certinspect.Parser.Expiry

namespace Certinspect.Parser

open Library

/-! ### The issuers above a leaf -/

/-- Reached from a certificate by passing to a presented one whose subject is the current issuer. -/
def Above (presented : List Certificate) (leaf cert : Certificate) : Prop :=
  Relation.ReflTransGen (fun current next => next ∈ presented ∧ next.subject = current.issuer)
    leaf cert

/-- The presented certificates, each from its subject to its issuer. -/
def nameEdges (presented : List Certificate) : List (X509Name × X509Name) :=
  presented.map fun cert => (cert.subject, cert.issuer)

section Names

variable {presented intermediates : List Certificate} {leaf cert : Certificate} {name : X509Name}

/-- **Reaching a certificate with an issuer is reaching the name of that issuer.** -/
theorem exists_above_iff :
    (∃ cert, Above presented leaf cert ∧ cert.issuer = name) ↔
      Reached (nameEdges presented) leaf.issuer name := by
  refine ⟨?_, fun reached => ?_⟩
  · rintro ⟨cert, above, rfl⟩
    induction above with
    | refl => exact .refl
    | tail _ step ih =>
      obtain ⟨member, same⟩ := step
      refine ih.tail (List.mem_map.mpr ⟨_, member, ?_⟩)
      rw [same]
  · induction reached with
    | refl => exact ⟨leaf, .refl, rfl⟩
    | tail _ edge ih =>
      obtain ⟨cert, above, here⟩ := ih
      obtain ⟨next, member, same⟩ := List.mem_map.mp edge
      obtain ⟨subject, issuer⟩ := Prod.mk.inj same
      exact ⟨next, above.tail ⟨member, subject.trans here.symm⟩, issuer⟩

/-! ### The answer -/

/-- The name whose common name is given as the root. -/
def namedRoot (leaf : Certificate) (intermediates : List Certificate) : X509Name :=
  (intermediates.getLastD leaf).issuer

/-- The answer for a chain that is called complete. -/
def completeDiagnosis (root : X509Name) : ChainDiagnosis :=
  ⟨"UNTRUSTED_ROOT", s!"the chain is complete but its root '{commonName root}' is not in " ++
    "the trust store; pass --cafile with that CA if it is internal, otherwise update the " ++
    "trust store"⟩

/-- **For several certificates, none of them expired, that code comes with the last issuer.** -/
theorem diagnoseChain_complete {now : Instant} {diagnosis : ChainDiagnosis}
    (several : intermediates ≠ []) (current : ∀ cert ∈ leaf :: intermediates, ¬ Expired now cert)
    (answer : diagnoseChain now (leaf :: intermediates) = .ok (some diagnosis))
    (untrusted : diagnosis.code = "UNTRUSTED_ROOT") :
    diagnosis = completeDiagnosis (namedRoot leaf intermediates) := by
  obtain ⟨first, others⟩ := List.forall_mem_cons.mp current
  have none : expiredInChain now leaf intermediates = none := by
    rw [expiredInChain_eq, diagnosed_none others, Option.or_none]
    exact if_neg first
  unfold diagnoseChain at answer
  simp only [none] at answer
  by_cases complete : (intermediates.any fun cert => leaf.issuer == cert.subject) = true
  · rw [if_pos complete] at answer
    cases answer
    rfl
  · rw [if_neg complete, if_pos several] at answer
    cases answer
    have other : "CHAIN_MISMATCH" ≠ "UNTRUSTED_ROOT" := by decide
    exact (other untrusted).elim

/-! ### When it is the leaf's root -/

/-- The last certificate's issuer is found from the leaf's issuer: each round adds the issuer of every
presented certificate whose subject is known. -/
def RootLinked (leaf : Certificate) (intermediates : List Certificate) : Prop :=
  namedRoot leaf intermediates ∈
    foundAfter (nameEdges (leaf :: intermediates)) leaf.issuer (leaf :: intermediates).length

instance (leaf : Certificate) (intermediates : List Certificate) :
    Decidable (RootLinked leaf intermediates) :=
  inferInstanceAs (Decidable (_ ∈ foundAfter _ _ _))

theorem rootLinked_iff : RootLinked leaf intermediates ↔
    ∃ cert, Above (leaf :: intermediates) leaf cert ∧
      cert.issuer = namedRoot leaf intermediates := by
  have rounds : (leaf :: intermediates).length = (nameEdges (leaf :: intermediates)).length :=
    (List.length_map _).symm
  unfold RootLinked
  rw [rounds, mem_found_iff, exists_above_iff]

/-- Along a chain in which each certificate is issued by the next, all are above the leaf. -/
theorem above_last {rest : List Certificate} (below : Above presented leaf cert)
    (ordered : (cert :: rest).IsChain fun current next => next.subject = current.issuer)
    (among : ∀ next ∈ rest, next ∈ presented) : Above presented leaf (rest.getLastD cert) := by
  induction rest generalizing cert with
  | nil => exact below
  | cons next rest ih =>
    obtain ⟨linked, ordered⟩ := List.isChain_cons_cons.mp ordered
    obtain ⟨member, among⟩ := List.forall_mem_cons.mp among
    rw [List.getLastD_cons]
    exact ih (below.tail ⟨member, linked⟩) ordered among

/-- **A chain in which each certificate is issued by the next is linked.** -/
theorem rootLinked_of_ordered
    (ordered : (leaf :: intermediates).IsChain fun cert next => next.subject = cert.issuer) :
    RootLinked leaf intermediates := by
  rw [rootLinked_iff]
  have among : ∀ next ∈ intermediates, next ∈ leaf :: intermediates :=
    fun _ member => List.mem_cons_of_mem leaf member
  exact ⟨_, above_last .refl ordered among, rfl⟩

/-- **The root that is named is the leaf's exactly when it is linked to it.** -/
theorem diagnoseChain_root_iff (now : Instant) (leaf : Certificate)
    (intermediates : List Certificate) (diagnosis : ChainDiagnosis) (several : intermediates ≠ [])
    (current : ∀ cert ∈ leaf :: intermediates, ¬ Expired now cert)
    (answer : diagnoseChain now (leaf :: intermediates) = .ok (some diagnosis))
    (untrusted : diagnosis.code = "UNTRUSTED_ROOT") :
    diagnosis = completeDiagnosis (namedRoot leaf intermediates) ∧
      ((∃ cert, Above (leaf :: intermediates) leaf cert ∧
          cert.issuer = namedRoot leaf intermediates) ↔ RootLinked leaf intermediates) :=
  ⟨diagnoseChain_complete several current answer untrusted, rootLinked_iff.symm⟩

/-! ### A chain with a certificate that does not belong to it -/

/-- A name that is a common name. -/
def named (text : String) : X509Name := ⟨[(commonNameOid, .text text)], s!"CN={text}"⟩

/-- A certificate for a name, issued by another. -/
def issuedBy (subject issuer : String) : Certificate :=
  { sampleCertificate [] with subject := named subject, issuer := named issuer }

/-- The leaf of the chains below. -/
def internalLeaf : Certificate := issuedBy "leaf.example" "Internal CA"

/-- The certificate that issued it. -/
def internalCa : Certificate := issuedBy "Internal CA" "Internal Root"

/-- A certificate of another hierarchy. -/
def strayCa : Certificate := issuedBy "Other CA" "Other Root"

theorem diagnoseChain_root_iff_sample :
    completeDiagnosis (named "Internal Root") =
        completeDiagnosis (namedRoot internalLeaf [internalCa]) ∧
      ((∃ cert, Above [internalLeaf, internalCa] internalLeaf cert ∧
          cert.issuer = namedRoot internalLeaf [internalCa]) ↔
        RootLinked internalLeaf [internalCa]) :=
  diagnoseChain_root_iff 0 internalLeaf [internalCa] (completeDiagnosis (named "Internal Root"))
    (by decide) (by decide) rfl rfl

/-- With the stray certificate last, its root is named, and nothing above the leaf was issued by
it. -/
theorem diagnoseChain_root_iff_counterexample :
    (∀ cert ∈ [internalLeaf, internalCa, strayCa], ¬ Expired 0 cert) ∧
      diagnoseChain 0 [internalLeaf, internalCa, strayCa] =
        .ok (some (completeDiagnosis (named "Other Root"))) ∧
      commonName (named "Other Root") = "Other Root" ∧
      ¬ ∃ cert, Above [internalLeaf, internalCa, strayCa] internalLeaf cert ∧
        cert.issuer = named "Other Root" := by
  refine ⟨by decide, rfl, rfl, fun linked => ?_⟩
  have found : RootLinked internalLeaf [internalCa, strayCa] := rootLinked_iff.mpr linked
  revert found
  decide

end Names

end Certinspect.Parser
