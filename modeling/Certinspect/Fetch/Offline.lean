/-
**Offline verification and the order of the names, `verify_chain_offline`.**

The verifier of the package wants a subject name; `_concrete_dns_name` takes one from the leaf. When
the names are not equally good, the order of the SAN entries decides which one the verifier sees.

* `Reordered` — two leaves that differ only in the order of the dNSName entries.
* `Verifier` — what the package's verifier does: it accepts a well-formed subject that the leaf
  covers when there is a path to an anchor, whatever the subject and the order.
* `candidates` — the names that come first in some order.
* `trustedFlag_candidate` — the flag is a function of the name taken, the same for all orders.
* **`trustedFlag_order_iff`** — the leaves whose flag does not depend on the order.
-/

import Certinspect.Fetch.Tunnel
import Certinspect.Parser.Addresses
import Mathlib.Data.List.Forall2

namespace Certinspect.Fetch

open Library Certinspect.Parser

/-! ### The order of the names -/

section Order

/-- A general name that is no dNSName. -/
def notDns : GeneralName → Bool
  | .dnsName _ => false
  | _ => true

/-- The same entries, but for the order of the dNSName entries. -/
structure SameNames (names others : List GeneralName) : Prop where
  dns : (dnsNames names).Perm (dnsNames others)
  rest : names.filter notDns = others.filter notDns

/-- The addresses do not move. -/
theorem SameNames.addresses {names others : List GeneralName} (same : SameNames names others) :
    ipAddresses names = ipAddresses others := by
  have kept (entries : List GeneralName) :
      ipAddresses (entries.filter notDns) = ipAddresses entries := by
    unfold ipAddresses
    rw [List.filterMap_filter]
    congr 1
    funext name
    cases name <;> rfl
  rw [← kept names, same.rest, kept]

/-- The same extension, but for the order of the dNSName entries. -/
structure SameExtension (first second : Extension) : Prop where
  oid : first.oid = second.oid
  critical : first.critical = second.critical
  value : first.value = second.value ∨ ∃ names others,
    first.value = .subjectAlternativeName names ∧
      second.value = .subjectAlternativeName others ∧ SameNames names others

theorem SameExtension.refl (extension : Extension) : SameExtension extension extension :=
  ⟨rfl, rfl, Or.inl rfl⟩

/-- What reading the extensions of both leaves returns. -/
inductive SameExtensions : Except PyErr (List Extension) → Except PyErr (List Extension) → Prop
  | unreadable (err : PyErr) : SameExtensions (.error err) (.error err)
  | readable {first second : List Extension} (each : List.Forall₂ SameExtension first second) :
    SameExtensions (.ok first) (.ok second)

/-- **Two leaves that differ only in the order of the dNSName entries of their SAN**, and so in
their encoding. -/
structure Reordered (leaf reordered : Certificate) : Prop where
  subject : reordered.subject = leaf.subject
  issuer : reordered.issuer = leaf.issuer
  serialNumber : reordered.serialNumber = leaf.serialNumber
  notValidBefore : reordered.notValidBefore = leaf.notValidBefore
  notValidAfter : reordered.notValidAfter = leaf.notValidAfter
  signatureAlgorithmOid : reordered.signatureAlgorithmOid = leaf.signatureAlgorithmOid
  publicKey : reordered.publicKey = leaf.publicKey
  extensions : SameExtensions leaf.extensions reordered.extensions

/-- What the SAN extensions of both leaves are. -/
inductive SameSan : Except PyErr (Option (List GeneralName)) →
    Except PyErr (Option (List GeneralName)) → Prop
  | unreadable (err : PyErr) : SameSan (.error err) (.error err)
  | absent : SameSan (.ok none) (.ok none)
  | present {names others : List GeneralName} (same : SameNames names others) :
    SameSan (.ok (some names)) (.ok (some others))

variable {first second : List Extension} {leaf reordered : Certificate}

theorem sameSan_of_each (each : List.Forall₂ SameExtension first second) :
    SameSan (findExtension ExtensionValue.subjectAlternativeName? (.ok first))
      (findExtension ExtensionValue.subjectAlternativeName? (.ok second)) := by
  induction each with
  | nil => exact .absent
  | @cons here there before after same each ih =>
    rcases same.value with value | ⟨names, others, one, other, order⟩
    · cases found : ExtensionValue.subjectAlternativeName? here.value with
      | some names =>
        have both := found
        rw [value] at both
        show SameSan (.ok (List.findSome? _ (here :: before))) (.ok (List.findSome? _ (there :: after)))
        rw [List.findSome?_cons_of_isSome, List.findSome?_cons_of_isSome, found, both]
        · exact .present ⟨List.Perm.refl _, rfl⟩
        · rw [both]
          rfl
        · rw [found]
          rfl
      | none =>
        have both := found
        rw [value] at both
        show SameSan (.ok (List.findSome? _ (here :: before))) (.ok (List.findSome? _ (there :: after)))
        rw [List.findSome?_cons, List.findSome?_cons, found, both]
        exact ih
    · show SameSan (.ok (List.findSome? _ (here :: before))) (.ok (List.findSome? _ (there :: after)))
      rw [List.findSome?_cons, List.findSome?_cons, one, other]
      exact .present order

theorem Reordered.san (moved : Reordered leaf reordered) :
    SameSan (findExtension ExtensionValue.subjectAlternativeName? leaf.extensions)
      (findExtension ExtensionValue.subjectAlternativeName? reordered.extensions) := by
  have read := moved.extensions
  generalize leaf.extensions = before, reordered.extensions = after at read ⊢
  cases read with
  | unreadable err => exact .unreadable err
  | readable each => exact sameSan_of_each each

theorem Reordered.names (moved : Reordered leaf reordered) :
    SameNames (subjectAltNames leaf) (subjectAltNames reordered) := by
  have same := moved.san
  unfold subjectAltNames
  generalize findExtension _ leaf.extensions = before, findExtension _ reordered.extensions = after
    at same ⊢
  cases same with
  | unreadable err => exact ⟨List.Perm.refl _, rfl⟩
  | absent => exact ⟨List.Perm.refl _, rfl⟩
  | present order => exact order

end Order

/-! ### The name taken -/

section Candidates

variable {name : String} {names : List String}

/-- A wildcard made concrete. -/
def concrete (name : String) : String :=
  if startsWith name "*." then wildcardProbeLabel ++ String.ofList (name.toList.drop 1) else name

/-- The names without a star. -/
def plainNames (names : List String) : List String := names.filter fun name => !occursIn "*" name

/-- **The names that come first in some order**: those without a star, or if there are none the
others made concrete. -/
def candidates (names : List String) : List String :=
  if plainNames names = [] then names.map concrete else plainNames names

theorem concreteDnsName_eq (first : String) (rest : List String) :
    concreteDnsName first rest = (plainNames (first :: rest)).headD (concrete first) := by
  unfold concreteDnsName plainNames
  rw [← List.head?_filter, List.headD_eq_head?_getD]
  cases (List.filter _ (first :: rest)).head? <;> rfl

theorem concreteDnsName_mem (first : String) (rest : List String) :
    concreteDnsName first rest ∈ candidates (first :: rest) := by
  rw [concreteDnsName_eq]
  unfold candidates
  cases plain : plainNames (first :: rest) with
  | nil => exact List.mem_cons_self
  | cons name others => exact List.mem_cons_self

/-- Every candidate is taken when its name stands first. -/
theorem exists_first_candidate {candidate : String} (member : candidate ∈ candidates names) :
    ∃ first ∈ names, ∀ rest, (first :: rest).Perm names → concreteDnsName first rest = candidate := by
  unfold candidates at member
  by_cases none : plainNames names = []
  · rw [if_pos none] at member
    obtain ⟨first, inside, rfl⟩ := List.mem_map.mp member
    refine ⟨first, inside, fun rest order => ?_⟩
    have empty : plainNames (first :: rest) = [] :=
      List.Perm.eq_nil (none ▸ order.filter _)
    rw [concreteDnsName_eq, empty]
    rfl
  · rw [if_neg none] at member
    obtain ⟨inside, plain⟩ := List.mem_filter.mp member
    refine ⟨candidate, inside, fun rest _ => ?_⟩
    have front : plainNames (candidate :: rest) = candidate :: plainNames rest :=
      List.filter_cons_of_pos plain
    rw [concreteDnsName_eq, front]
    rfl

theorem candidates_perm {others : List String} (order : names.Perm others) :
    name ∈ candidates names ↔ name ∈ candidates others := by
  have plain : (plainNames names).Perm (plainNames others) := order.filter _
  unfold candidates
  by_cases none : plainNames names = []
  · rw [if_pos none, if_pos (List.Perm.eq_nil (none ▸ plain.symm))]
    exact (order.map _).mem_iff
  · have some : plainNames others ≠ [] := fun empty => none (List.Perm.eq_nil (empty ▸ plain))
    rw [if_neg none, if_neg some]
    exact plain.mem_iff

/-- **A candidate without a star is covered by the entry it comes from.** -/
theorem covered_of_candidate (bare : '*' ∉ name.toList) (member : name ∈ candidates names) :
    Covered names name := by
  have literal (entry : String) (starless : '*' ∉ entry.toList) : Covers entry entry := by
    refine Or.inl ⟨Bool.eq_false_iff.mpr fun wild => ?_, rfl⟩
    obtain ⟨rest, made⟩ := startsWith_wildcard.mp wild
    rw [made, String.toList_append] at starless
    exact starless (List.mem_append_left _ (by decide))
  unfold candidates at member
  by_cases none : plainNames names = []
  · rw [if_pos none] at member
    obtain ⟨entry, inside, made⟩ := List.mem_map.mp member
    refine ⟨entry, inside, ?_⟩
    unfold concrete at made
    by_cases wild : startsWith entry "*." = true
    · rw [if_pos wild] at made
      obtain ⟨rest, rfl⟩ := startsWith_wildcard.mp wild
      refine Or.inr ⟨wildcardProbeLabel, rest, rfl, by decide, by decide, ?_⟩
      have same : wildcardProbeLabel ++ "." ++ rest = name := by
        rw [← made, ← String.toList_inj]
        simp
      rw [same]
    · rw [if_neg wild] at made
      rw [made]
      exact literal name bare
  · rw [if_neg none] at member
    exact ⟨name, (List.mem_filter.mp member).1, literal name bare⟩

end Candidates

/-! ### The verifier -/

section Verification

variable {ω : Type} {out : Outside ω} {valid : String → Prop}
  {path : World ω → List Certificate → Certificate → List Certificate → Prop}

/-- The leaf covers the subject. -/
def Named (leaf : Certificate) : VerificationSubject → Prop
  | .dnsName name => Covered (dnsNames (subjectAltNames leaf)) name
  | .ipAddress ip => ip ∈ ipAddresses (subjectAltNames leaf)

/-- A subject that a verifier is built for; an address always is one. -/
def WellFormed (valid : String → Prop) : VerificationSubject → Prop
  | .dnsName name => valid name
  | .ipAddress _ => True

/-- **What the verifier of the package does**: `valid` are the host names in its syntax, and
`path w anchors leaf intermediates` says that there is a path from the leaf to an anchor. -/
structure Verifier (out : Outside ω) (valid : String → Prop)
    (path : World ω → List Certificate → Certificate → List Certificate → Prop) : Prop where
  /-- `DNSName` takes the ASCII values, and refuses the others. -/
  takes : ∀ name, out.takesDnsName name = .ok () ↔ name.toList.all isAscii = true
  ascii : ∀ name, valid name → name.toList.all isAscii = true
  starless : ∀ name, valid name → '*' ∉ name.toList
  built : ∀ anchors subject,
    out.buildServerVerifier anchors subject = .ok () ↔ WellFormed valid subject
  unbuilt : ∀ anchors subject err, out.buildServerVerifier anchors subject = .error err →
    err.isA [.valueError] = true
  accepts : ∀ w anchors subject leaf intermediates, WellFormed valid subject →
    ((∃ chain, out.verifyPath w anchors subject leaf intermediates = .ok chain) ↔
      Named leaf subject ∧ path w anchors leaf intermediates)
  refuses : ∀ w anchors subject leaf intermediates err,
    out.verifyPath w anchors subject leaf intermediates = .error err →
      err.isA [.verificationError] = true
  /-- A path does not depend on the order of the SAN entries. -/
  unordered : ∀ w anchors leaf reordered intermediates, Reordered leaf reordered →
    (path w anchors reordered intermediates ↔ path w anchors leaf intermediates)

/-- The verifier is built for the subject and accepts the leaf. -/
def Accepts (out : Outside ω) (w : World ω) (anchors : List Certificate)
    (subject : VerificationSubject) (leaf : Certificate) (intermediates : List Certificate) : Prop :=
  out.buildServerVerifier anchors subject = .ok () ∧
    ∃ chain, out.verifyPath w anchors subject leaf intermediates = .ok chain

theorem Verifier.accepts_iff (verifier : Verifier out valid path) {w : World ω}
    {anchors : List Certificate} {subject : VerificationSubject} {leaf : Certificate}
    {intermediates : List Certificate} :
    Accepts out w anchors subject leaf intermediates ↔
      WellFormed valid subject ∧ Named leaf subject ∧ path w anchors leaf intermediates := by
  unfold Accepts
  rw [verifier.built]
  exact and_congr_right fun formed => verifier.accepts w anchors subject leaf intermediates formed

/-- A call whose exceptions are all caught. -/
theorem except_ask_run {α : Type} {classes : List ExcClass} {x : World ω → Except PyErr α}
    {w : World ω} (documented : ∀ err, x w = .error err → err.isA classes = true) :
    except classes (ask x) w = .ok (x w) w := by
  unfold except caught ask
  cases result : x w with
  | ok value => rfl
  | error err =>
    show (if err.isA classes = true then _ else _) = _
    rw [if_pos (documented err result)]

/-- The flag of `verify_chain_offline` once it has a subject and anchors. -/
theorem verifyAnchored_run (verifier : Verifier out valid path) (w : World ω)
    (anchors : List Certificate) (subject : VerificationSubject) (leaf : Certificate)
    (intermediates : List Certificate) :
    ∃ verdict, verifyAnchored out anchors subject leaf intermediates w = .ok verdict w ∧
      (verdict.trusted = true ↔ Accepts out w anchors subject leaf intermediates) := by
  have first : except [.valueError] (orRaise (out.buildServerVerifier anchors subject)) w =
      .ok (out.buildServerVerifier anchors subject) w :=
    @except_ask_run _ _ _ (fun _ => out.buildServerVerifier anchors subject) w
      (verifier.unbuilt anchors subject)
  have second : except [.verificationError]
      (ask fun w => out.verifyPath w anchors subject leaf intermediates) w =
      .ok (out.verifyPath w anchors subject leaf intermediates) w :=
    except_ask_run (verifier.refuses w anchors subject leaf intermediates)
  unfold verifyAnchored Accepts
  rw [run_bind, first]
  cases out.buildServerVerifier anchors subject with
  | error err => exact ⟨_, rfl, (by simp)⟩
  | ok built =>
    dsimp only
    rw [run_bind, second]
    cases out.verifyPath w anchors subject leaf intermediates with
    | error err => exact ⟨_, rfl, (by simp)⟩
    | ok chain => exact ⟨_, rfl, (by simp)⟩

end Verification

/-! ### The flag -/

section Flag

variable {lib : Cryptography} {ω : Type} {out : Outside ω} {valid : String → Prop}
  {path : World ω → List Certificate → Certificate → List Certificate → Prop}
  {leaf reordered : Certificate} {intermediates : List Certificate} {cafile capath : Option String}
  {w : World ω}

/-- The flag of a run; none when it raises. -/
def flagOf : EStateM.Result PyErr (World ω) ChainVerdict → Option Bool
  | .ok verdict _ => some verdict.trusted
  | .error _ _ => none

/-- The `trusted` flag that `verify_chain_offline` returns. -/
def trustedFlag (lib : Cryptography) (out : Outside ω) (certs : List Certificate)
    (cafile capath : Option String) (w : World ω) : Option Bool :=
  flagOf (verifyChainOffline lib out certs cafile capath w)

/-- The trust anchors are loaded, there are some, and there is a path to one. -/
def Reaches (lib : Cryptography) (out : Outside ω)
    (path : World ω → List Certificate → Certificate → List Certificate → Prop)
    (leaf : Certificate) (intermediates : List Certificate) (cafile capath : Option String)
    (w : World ω) : Prop :=
  ∃ anchors after, trustAnchors lib out cafile capath w = .ok anchors after ∧ anchors ≠ [] ∧
    path after anchors leaf intermediates

/-- The trust anchors can be loaded. -/
def Loads (lib : Cryptography) (out : Outside ω) (cafile capath : Option String) (w : World ω) :
    Prop :=
  ∃ anchors after, trustAnchors lib out cafile capath w = .ok anchors after

theorem reaches_iff {anchors : List Certificate} {after : World ω}
    (loaded : trustAnchors lib out cafile capath w = .ok anchors after) :
    Reaches lib out path leaf intermediates cafile capath w ↔
      anchors ≠ [] ∧ path after anchors leaf intermediates := by
  unfold Reaches
  rw [loaded]
  refine ⟨?_, fun here => ⟨_, _, rfl, here⟩⟩
  intro found
  obtain ⟨_, _, same, here⟩ := found
  cases same
  exact here

theorem Reaches.moved (verifier : Verifier out valid path) (moved : Reordered leaf reordered) :
    Reaches lib out path reordered intermediates cafile capath w ↔
      Reaches lib out path leaf intermediates cafile capath w := by
  unfold Reaches
  simp only [verifier.unordered _ _ leaf reordered intermediates moved]

theorem Named.moved (moved : Reordered leaf reordered) (subject : VerificationSubject) :
    Named reordered subject ↔ Named leaf subject := by
  cases subject with
  | dnsName name =>
    unfold Named Covered
    simp only [moved.names.dns.mem_iff]
  | ipAddress ip =>
    unfold Named
    rw [moved.names.addresses]

open Classical in
/-- **The flag for a subject**; none where the anchors cannot be loaded. -/
theorem trustedFlag_subject (verifier : Verifier out valid path) {subject : VerificationSubject}
    (taken : offlineVerificationSubject out leaf = .ok (some subject)) :
    trustedFlag lib out (leaf :: intermediates) cafile capath w =
      if Loads lib out cafile capath w then
        some (decide (WellFormed valid subject ∧ Named leaf subject ∧
          Reaches lib out path leaf intermediates cafile capath w))
      else none := by
  unfold trustedFlag verifyChainOffline
  dsimp only
  rw [taken]
  show flagOf ((trustAnchors lib out cafile capath >>= _) w) = _
  rw [run_bind]
  cases loaded : trustAnchors lib out cafile capath w with
  | error err after =>
    have unloaded : ¬ Loads lib out cafile capath w := by
      intro loads
      obtain ⟨anchors, later, same⟩ := loads
      rw [loaded] at same
      cases same
    rw [if_neg unloaded]
    rfl
  | ok anchors after =>
    rw [if_pos ⟨anchors, after, loaded⟩]
    simp only [reaches_iff loaded]
    cases anchors with
    | nil =>
      rw [decide_eq_false fun all => all.2.2.1 rfl]
      rfl
    | cons anchor anchors =>
      obtain ⟨verdict, ran, flag⟩ :=
        verifyAnchored_run verifier after (anchor :: anchors) subject leaf intermediates
      rw [verifier.accepts_iff] at flag
      dsimp only
      rw [ran]
      show some verdict.trusted = _
      simp only [ne_eq, reduceCtorEq, not_false_eq_true, true_and]
      exact congrArg some (Bool.eq_iff_iff.mpr (flag.trans decide_eq_true_iff.symm))

/-- The same subject gives the same flag. -/
theorem trustedFlag_congr (verifier : Verifier out valid path) (moved : Reordered leaf reordered)
    (same : offlineVerificationSubject out reordered = offlineVerificationSubject out leaf) :
    trustedFlag lib out (reordered :: intermediates) cafile capath w =
      trustedFlag lib out (leaf :: intermediates) cafile capath w := by
  cases taken : offlineVerificationSubject out leaf with
  | error err =>
    unfold trustedFlag verifyChainOffline
    dsimp only
    rw [same, taken]
    rfl
  | ok found =>
    cases found with
    | none =>
      unfold trustedFlag verifyChainOffline
      dsimp only
      rw [same, taken]
      rfl
    | some subject =>
      have accepted : (WellFormed valid subject ∧ Named reordered subject ∧
          Reaches lib out path reordered intermediates cafile capath w) ↔
          WellFormed valid subject ∧ Named leaf subject ∧
            Reaches lib out path leaf intermediates cafile capath w :=
        and_congr_right' (and_congr (Named.moved moved subject) (Reaches.moved verifier moved))
      rw [trustedFlag_subject verifier taken, trustedFlag_subject verifier (same.trans taken)]
      rw [decide_eq_decide.mpr accepted]

/-! ### The name that decides -/

open Classical in
/-- The flag that a name of the leaf leads to. -/
noncomputable def flagFor (lib : Cryptography) (out : Outside ω) (valid : String → Prop)
    (path : World ω → List Certificate → Certificate → List Certificate → Prop)
    (leaf : Certificate) (intermediates : List Certificate) (cafile capath : Option String)
    (w : World ω) (name : String) : Option Bool :=
  if name.toList.all isAscii = true ∧ Loads lib out cafile capath w then
    some (decide (valid name ∧ Reaches lib out path leaf intermediates cafile capath w))
  else none

theorem flagFor_eq_iff (verifier : Verifier out valid path) {first second : String} :
    flagFor lib out valid path leaf intermediates cafile capath w first =
        flagFor lib out valid path leaf intermediates cafile capath w second ↔
      ¬ Loads lib out cafile capath w ∨
        ((first.toList.all isAscii = true ↔ second.toList.all isAscii = true) ∧
          (Reaches lib out path leaf intermediates cafile capath w →
            (valid first ↔ valid second))) := by
  have early := mt (verifier.ascii first)
  have late := mt (verifier.ascii second)
  unfold flagFor
  by_cases loads : Loads lib out cafile capath w
  · by_cases one : first.toList.all isAscii = true
    · by_cases two : second.toList.all isAscii = true
      · rw [if_pos ⟨one, loads⟩, if_pos ⟨two, loads⟩, Option.some_inj, decide_eq_decide]
        tauto
      · rw [if_pos ⟨one, loads⟩, if_neg fun both => two both.1]
        simp [loads, one, two]
    · by_cases two : second.toList.all isAscii = true
      · rw [if_neg fun both => one both.1, if_pos ⟨two, loads⟩]
        simp [loads, one, two]
      · rw [if_neg fun both => one both.1, if_neg fun both => two both.1]
        simp [loads, one, two, early one, late two]
  · rw [if_neg fun both => loads both.2, if_neg fun both => loads both.2]
    simp [loads]

/-- The subject is the candidate that the order puts first. -/
theorem subject_of_names {first : String} {rest : List String}
    (names : dnsNames (subjectAltNames leaf) = first :: rest) :
    offlineVerificationSubject out leaf =
      (verificationDnsName out (concreteDnsName first rest)).map some := by
  unfold subjectAltNames at names
  unfold offlineVerificationSubject
  cases found : findExtension ExtensionValue.subjectAlternativeName? leaf.extensions with
  | error err =>
    rw [found] at names
    cases names
  | ok san =>
    cases san with
    | none =>
      rw [found] at names
      cases names
    | some entries =>
      rw [found] at names
      dsimp only [bind, Except.bind] at names ⊢
      rw [names]
      rfl

/-- Without dNSName entries there is nothing to reorder. -/
theorem subject_of_none (moved : Reordered leaf reordered)
    (none : dnsNames (subjectAltNames leaf) = []) :
    offlineVerificationSubject out reordered = offlineVerificationSubject out leaf := by
  have unnamed : commonNameSubject out reordered = commonNameSubject out leaf := by
    unfold commonNameSubject
    rw [moved.subject]
  have same := moved.san
  unfold subjectAltNames at none
  unfold offlineVerificationSubject
  generalize findExtension _ leaf.extensions = before, findExtension _ reordered.extensions = after
    at same none ⊢
  cases same with
  | unreadable err => rfl
  | absent => exact unnamed
  | @present names others order =>
    dsimp only at none
    have gone : dnsNames others = [] := (none ▸ order.dns).nil_eq.symm
    dsimp only [bind, Except.bind]
    rw [none, gone, order.addresses, unnamed]

/-- **The flag is a function of the candidate taken.** -/
theorem trustedFlag_candidate (verifier : Verifier out valid path) {first : String}
    {rest : List String} (names : dnsNames (subjectAltNames leaf) = first :: rest) :
    trustedFlag lib out (leaf :: intermediates) cafile capath w =
      flagFor lib out valid path leaf intermediates cafile capath w (concreteDnsName first rest) := by
  have subject := @subject_of_names _ out _ _ _ names
  unfold flagFor
  by_cases plain : (concreteDnsName first rest).toList.all isAscii = true
  · unfold verificationDnsName at subject
    rw [(verifier.takes _).mpr plain] at subject
    have covered (formed : valid (concreteDnsName first rest)) :
        Named leaf (.dnsName (concreteDnsName first rest)) := by
      show Covered (dnsNames (subjectAltNames leaf)) _
      rw [names]
      exact covered_of_candidate (verifier.starless _ formed) (concreteDnsName_mem first rest)
    have accepted : (WellFormed valid (.dnsName (concreteDnsName first rest)) ∧
        Named leaf (.dnsName (concreteDnsName first rest)) ∧
        Reaches lib out path leaf intermediates cafile capath w) ↔
        valid (concreteDnsName first rest) ∧
          Reaches lib out path leaf intermediates cafile capath w :=
      and_congr_right fun formed => and_iff_right (covered formed)
    rw [trustedFlag_subject verifier subject, decide_eq_decide.mpr accepted]
    by_cases loads : Loads lib out cafile capath w
    · rw [if_pos loads, if_pos ⟨plain, loads⟩]
    · rw [if_neg loads, if_neg fun both => loads both.2]
  · rw [if_neg fun both => plain both.1]
    unfold verificationDnsName at subject
    cases made : out.takesDnsName (concreteDnsName first rest) with
    | ok _ => exact (plain ((verifier.takes _).mp made)).elim
    | error err =>
      rw [made] at subject
      unfold trustedFlag verifyChainOffline
      dsimp only
      rw [subject]
      rfl

theorem flagFor_moved (verifier : Verifier out valid path) (moved : Reordered leaf reordered)
    (name : String) :
    flagFor lib out valid path reordered intermediates cafile capath w name =
      flagFor lib out valid path leaf intermediates cafile capath w name := by
  unfold flagFor
  rw [decide_eq_decide.mpr (and_congr_right' (Reaches.moved verifier moved))]

/-- Entries with one dNSName moved to the front. -/
theorem exists_front {names : List GeneralName} {first : String} (member : first ∈ dnsNames names) :
    ∃ others rest, SameNames names others ∧ dnsNames others = first :: rest := by
  obtain ⟨entry, inside, named⟩ := List.mem_filterMap.mp member
  have same : entry = .dnsName first := by
    cases entry <;> cases named
    rfl
  obtain ⟨before, after, split⟩ := List.append_of_mem (same ▸ inside)
  have dns (entries : List GeneralName) :
      dnsNames (.dnsName first :: entries) = first :: dnsNames entries := rfl
  have both (one other : List GeneralName) :
      dnsNames (one ++ other) = dnsNames one ++ dnsNames other := List.filterMap_append
  refine ⟨.dnsName first :: (before ++ after), dnsNames (before ++ after), ⟨?_, ?_⟩, dns _⟩
  · rw [split, both, dns, dns, both]
    exact List.perm_middle
  · have dropped (entries : List GeneralName) :
        (GeneralName.dnsName first :: entries).filter notDns = entries.filter notDns := rfl
    rw [split, List.filter_append, dropped, dropped, List.filter_append]

/-- A leaf whose entries are in another order. -/
theorem exists_reordered {others : List GeneralName} (some : subjectAltNames leaf ≠ [])
    (same : SameNames (subjectAltNames leaf) others) :
    ∃ reordered, Reordered leaf reordered ∧ subjectAltNames reordered = others := by
  unfold subjectAltNames at some same
  cases readable : leaf.extensions with
  | error err =>
    rw [readable] at some
    exact (some rfl).elim
  | ok extensions =>
    rw [readable] at some same
    have read : findExtension ExtensionValue.subjectAlternativeName? (.ok extensions) =
      .ok (extensions.findSome? fun extension =>
        ExtensionValue.subjectAlternativeName? extension.value) := rfl
    rw [read] at some same
    cases found : extensions.findSome? fun extension =>
        ExtensionValue.subjectAlternativeName? extension.value with
    | none =>
      rw [found] at some
      exact (some rfl).elim
    | some names =>
      rw [found] at same
      obtain ⟨before, here, after, split, value, earlier⟩ := List.findSome?_eq_some_iff.mp found
      have made : here.value = .subjectAlternativeName names := by
        cases kind : here.value <;> rw [kind] at value <;> cases value
        rfl
      refine ⟨{ leaf with extensions := .ok (before ++
        { here with value := .subjectAlternativeName others } :: after) },
        ⟨rfl, rfl, rfl, rfl, rfl, rfl, rfl, ?_⟩, ?_⟩
      · rw [readable, split]
        refine .readable (List.rel_append (List.forall₂_same.mpr fun _ _ => ⟨rfl, rfl, Or.inl rfl⟩)
          (.cons ⟨rfl, rfl, Or.inr ⟨names, others, made, rfl, same⟩⟩
            (List.forall₂_same.mpr fun _ _ => ⟨rfl, rfl, Or.inl rfl⟩)))
      · have kept : (before ++ { here with value := .subjectAlternativeName others } :: after).findSome?
            (fun extension => ExtensionValue.subjectAlternativeName? extension.value) =
            Option.some others :=
          List.findSome?_eq_some_iff.mpr ⟨before, _, after, rfl, rfl, earlier⟩
        unfold subjectAltNames findExtension Except.map
        dsimp only
        rw [kept]

/-- **Every candidate decides for some order of the entries.** -/
theorem exists_trustedFlag (verifier : Verifier out valid path) {name : String}
    (member : name ∈ candidates (dnsNames (subjectAltNames leaf))) :
    ∃ reordered, Reordered leaf reordered ∧
      trustedFlag lib out (reordered :: intermediates) cafile capath w =
        flagFor lib out valid path leaf intermediates cafile capath w name := by
  obtain ⟨first, inside, taken⟩ := exists_first_candidate member
  obtain ⟨others, rest, same, front⟩ := exists_front inside
  have some : subjectAltNames leaf ≠ [] := by
    intro empty
    rw [empty] at inside
    cases inside
  obtain ⟨reordered, moved, names⟩ := exists_reordered some same
  have order : (first :: rest).Perm (dnsNames (subjectAltNames leaf)) := front ▸ same.dns.symm
  refine ⟨reordered, moved, ?_⟩
  rw [trustedFlag_candidate verifier (names ▸ front), taken rest order,
    flagFor_moved verifier moved]

/-- **The flag does not depend on the order of the names if and only if all the names that can come
first are equally good.** -/
theorem trustedFlag_order_iff (lib : Cryptography) (out : Outside ω) (valid : String → Prop)
    (path : World ω → List Certificate → Certificate → List Certificate → Prop)
    (verifier : Verifier out valid path) (leaf : Certificate) (intermediates : List Certificate)
    (cafile capath : Option String) (w : World ω) :
    (∀ reordered, Reordered leaf reordered →
      trustedFlag lib out (reordered :: intermediates) cafile capath w =
        trustedFlag lib out (leaf :: intermediates) cafile capath w) ↔
    ∀ first ∈ candidates (dnsNames (subjectAltNames leaf)),
      ∀ second ∈ candidates (dnsNames (subjectAltNames leaf)),
        ¬ Loads lib out cafile capath w ∨
          ((first.toList.all isAscii = true ↔ second.toList.all isAscii = true) ∧
            (Reaches lib out path leaf intermediates cafile capath w →
              (valid first ↔ valid second))) := by
  simp only [← flagFor_eq_iff verifier]
  refine ⟨?_, ?_⟩
  · intro stable first here second there
    obtain ⟨one, moved, flag⟩ := exists_trustedFlag verifier here
    obtain ⟨other, changed, same⟩ := exists_trustedFlag verifier there
    rw [← flag, ← same, stable one moved, stable other changed]
  · intro agree reordered moved
    have order := moved.names.dns
    cases names : dnsNames (subjectAltNames leaf) with
    | nil => exact trustedFlag_congr verifier moved (subject_of_none moved names)
    | cons first rest =>
      cases renamed : dnsNames (subjectAltNames reordered) with
      | nil =>
        rw [names, renamed] at order
        cases order.eq_nil
      | cons front others =>
        rw [names, renamed] at order
        rw [trustedFlag_candidate verifier names, trustedFlag_candidate verifier renamed,
          flagFor_moved verifier moved]
        rw [names] at agree
        exact agree _ ((candidates_perm order).mpr (concreteDnsName_mem front others)) _
          (concreteDnsName_mem first rest)

end Flag

/-! ### A leaf with an underscore in one name -/

section Sample

instance (leaf : Certificate) : (subject : VerificationSubject) → Decidable (Named leaf subject)
  | .dnsName name => inferInstanceAs (Decidable (Covered _ name))
  | .ipAddress ip => inferInstanceAs (Decidable (ip ∈ _))

instance (valid : String → Prop) [DecidablePred valid] : DecidablePred (WellFormed valid)
  | .dnsName name => inferInstanceAs (Decidable (valid name))
  | .ipAddress _ => inferInstanceAs (Decidable True)

/-- A character of a label. -/
def labelChar (c : Char) : Bool := isAscii c && (c.isAlphanum || c == '-')

/-- The host names that the package takes for well-formed. -/
def hostSyntax (name : String) : Bool :=
  name.length ≤ 253 && (name.toList.splitOn '.').all fun label =>
    !label.isEmpty && label.length ≤ 63 && label.head? != some '-' && label.getLast? != some '-' &&
      label.all labelChar

theorem hostSyntax_char {name : String} (valid : hostSyntax name = true) :
    ∀ c ∈ name.toList, c = '.' ∨ labelChar c = true := by
  intro c member
  by_cases dot : c = '.'
  · exact Or.inl dot
  obtain ⟨label, inside, found⟩ := IpAddress.mem_splitOn dot member
  unfold hostSyntax at valid
  simp only [Bool.and_eq_true, List.all_eq_true] at valid
  exact Or.inr ((valid.2 label inside).2 c found)

/-- The root. -/
def sampleRoot : Certificate :=
  { sampleCertificate [] with subject := ⟨[("2.5.4.3", .text "sample ca")], "CN=sample ca"⟩ }

/-- A path of one certificate: an anchor issued the leaf. -/
def IssuedByAnchor (_ : World Unit) (anchors : List Certificate) (leaf : Certificate)
    (_ : List Certificate) : Prop :=
  ∃ anchor ∈ anchors, anchor.subject = leaf.issuer

instance (w : World Unit) (anchors : List Certificate) (leaf : Certificate)
    (intermediates : List Certificate) : Decidable (IssuedByAnchor w anchors leaf intermediates) :=
  inferInstanceAs (Decidable (∃ anchor ∈ anchors, _))

/-- The package, with one trust anchor. -/
def offlinePackage : Cryptography where
  loadDerX509Certificate _ := .ok sampleRoot
  loadPemX509Certificate _ := .error ⟨.valueError, "no PEM"⟩
  loadPemX509Certificates _ := .error ⟨.valueError, "no PEM"⟩
  loadDerX509Crl _ := .error ⟨.valueError, "no CRL"⟩
  loadPemX509Crl _ := .error ⟨.valueError, "no CRL"⟩
  loadDerOcspResponse _ := .error ⟨.valueError, "no response"⟩
  verifyDirectlyIssuedBy _ _ := .ok ()
  verify _ _ _ _ := .ok ()
  isSignatureValid _ _ := .ok true
  subjectKeyIdentifier key := key.spki
  ocspRequest cert _ := ⟨cert.serialNumber, [], [], []⟩

/-- An outside whose trust store has that anchor. -/
def offlineOutside : Outside Unit :=
  { behindProxy greetingPeer with
    getCaCerts := fun _ _ => [ascii "root"]
    takesDnsName := fun name =>
      if name.toList.all isAscii = true then .ok ()
      else .error ⟨.valueError, "DNSName values should be passed as an A-label string."⟩
    buildServerVerifier := fun _ subject =>
      if WellFormed (hostSyntax · = true) subject then .ok ()
      else .error ⟨.valueError, "invalid domain name"⟩
    verifyPath := fun w anchors subject leaf intermediates =>
      if Named leaf subject ∧ IssuedByAnchor w anchors leaf intermediates then .ok [leaf]
      else .error ⟨.verificationError, "candidates exhausted"⟩ }

theorem offlineOutside_built (anchors : List Certificate) (subject : VerificationSubject) :
    offlineOutside.buildServerVerifier anchors subject =
      if WellFormed (hostSyntax · = true) subject then .ok ()
      else .error ⟨.valueError, "invalid domain name"⟩ := rfl

theorem offlineOutside_path (w : World Unit) (anchors : List Certificate)
    (subject : VerificationSubject) (leaf : Certificate) (intermediates : List Certificate) :
    offlineOutside.verifyPath w anchors subject leaf intermediates =
      if Named leaf subject ∧ IssuedByAnchor w anchors leaf intermediates then .ok [leaf]
      else .error ⟨.verificationError, "candidates exhausted"⟩ := rfl

theorem offlineOutside_takes (name : String) :
    offlineOutside.takesDnsName name =
      if name.toList.all isAscii = true then .ok ()
      else .error ⟨.valueError, "DNSName values should be passed as an A-label string."⟩ := rfl

theorem offlineOutside_verifier :
    Verifier offlineOutside (hostSyntax · = true) IssuedByAnchor where
  takes name := by
    rw [offlineOutside_takes]
    split <;> simp_all
  ascii name valid := by
    refine List.all_eq_true.mpr fun c member => ?_
    rcases hostSyntax_char valid c member with dot | label
    · rw [dot]
      decide
    · exact (Bool.and_eq_true_iff.mp label).1
  starless name valid := by
    intro member
    rcases hostSyntax_char valid '*' member with dot | label
    · cases dot
    · revert label
      decide
  built anchors subject := by
    rw [offlineOutside_built]
    by_cases formed : WellFormed (hostSyntax · = true) subject <;> simp [formed]
  unbuilt anchors subject err raised := by
    rw [offlineOutside_built] at raised
    by_cases formed : WellFormed (hostSyntax · = true) subject
    · rw [if_pos formed] at raised
      cases raised
    · rw [if_neg formed] at raised
      cases raised
      decide
  accepts w anchors subject leaf intermediates _ := by
    rw [offlineOutside_path]
    by_cases named : Named leaf subject ∧ IssuedByAnchor w anchors leaf intermediates <;>
      simp [named]
  refuses w anchors subject leaf intermediates err raised := by
    rw [offlineOutside_path] at raised
    by_cases named : Named leaf subject ∧ IssuedByAnchor w anchors leaf intermediates
    · rw [if_pos named] at raised
      cases raised
    · rw [if_neg named] at raised
      cases raised
      decide
  unordered w anchors leaf reordered intermediates moved := by
    unfold IssuedByAnchor
    rw [moved.issuer]

/-- A leaf with a good name and a name that is no host name, in this order. -/
def underscored : Certificate :=
  sampleCertificate [.dnsName "good.example", .dnsName "bad_name.example"]

/-- The other order. -/
def underscoredFirst : Certificate :=
  sampleCertificate [.dnsName "bad_name.example", .dnsName "good.example"]

theorem underscored_reordered : Reordered underscored underscoredFirst :=
  ⟨rfl, rfl, rfl, rfl, rfl, rfl, rfl, .readable (.cons ⟨rfl, rfl, Or.inr
    ⟨_, _, rfl, rfl, ⟨List.Perm.swap _ _ _, rfl⟩⟩⟩ .nil)⟩

/-- The order of the two names decides whether the chain is trusted. -/
theorem not_trustedFlag_order :
    Verifier offlineOutside (hostSyntax · = true) IssuedByAnchor ∧
      Reordered underscored underscoredFirst ∧
      trustedFlag offlinePackage offlineOutside [underscored] none none ⟨[], ()⟩ = some true ∧
      trustedFlag offlinePackage offlineOutside [underscoredFirst] none none ⟨[], ()⟩ = some false := by
  refine ⟨offlineOutside_verifier, underscored_reordered, ?_, ?_⟩ <;> decide +kernel

theorem trustedFlag_order_iff_underscored :
    (∀ reordered, Reordered underscored reordered →
      trustedFlag offlinePackage offlineOutside [reordered] none none ⟨[], ()⟩ =
        trustedFlag offlinePackage offlineOutside [underscored] none none ⟨[], ()⟩) ↔
    ∀ first ∈ candidates (dnsNames (subjectAltNames underscored)),
      ∀ second ∈ candidates (dnsNames (subjectAltNames underscored)),
        ¬ Loads offlinePackage offlineOutside none none ⟨[], ()⟩ ∨
          ((first.toList.all isAscii = true ↔ second.toList.all isAscii = true) ∧
            (Reaches offlinePackage offlineOutside IssuedByAnchor underscored [] none none ⟨[], ()⟩ →
              (hostSyntax first = true ↔ hostSyntax second = true))) :=
  trustedFlag_order_iff offlinePackage offlineOutside (hostSyntax · = true) IssuedByAnchor
    offlineOutside_verifier underscored [] none none ⟨[], ()⟩

end Sample

end Certinspect.Fetch
