/-
**The network of the revocation check is the guarded client.**

`revocation.py` fetches through `httpfetch.fetch`; the `Web` of its model stands for that client.
Here the client takes its place, and what is known of one fetch becomes a fact about the whole
check.

* `Internet.Documented` — what the standard library raises on URLs and names.
* `fetchText_raises` — past the scheme check, `fetch` raises only `OSError` and `ValueError`.
* `webOf`, `fetch_webOf` — the client as a `Web`: `fetch` over it is `httpfetch.fetch`.
* `checkRevocation_preserves` — what every request keeps, the whole check keeps.
* **`checkRevocation_guarded`** — whatever URLs a certificate names, checking its revocation
  connects to no blocked address.
-/

import Certinspect.HttpFetch.Ssrf
import Certinspect.Revocation.Model

namespace Certinspect.HttpFetch

open Library

/-! ### What the client raises -/

/-- What `urlsplit`, the port of its result and `getaddrinfo` raise. -/
structure Internet.Documented (net : Internet) : Prop where
  urlsplit : ∀ url err, net.urlsplit url = .error err → err.isA [.valueError] = true
  port : ∀ url parts err, net.urlsplit url = .ok parts → parts.port = .error err →
    err.isA [.valueError] = true
  getaddrinfo : ∀ past host port err, net.getaddrinfo past host port = .error err →
    err.isA [.osError, .valueError] = true

section Raises

variable {net : Internet} (documented : net.Documented)

/-- A `TransferError` is of its classes. -/
theorem transfer_raises {σ α : Type} (x : Except TransferError α) :
    RaisesOnly [.osError, .httpException, .valueError] (transfer x : Py σ α) := by
  refine raisesOnly_orRaise fun err failed => ?_
  cases x with
  | ok value => cases failed
  | error raised =>
    cases failed
    exact raised.2

theorem vetAnswer_raises {host : String} {infos : List SockAddr} {kept : List IpAddress}
    {err : PyErr} (refused : vetAnswer host infos kept = .error err) : err.cls = .valueError := by
  induction infos generalizing kept with
  | nil => cases refused
  | cons info rest ih =>
    cases info with
    | none =>
      cases refused
      rfl
    | some ip =>
      rw [vetAnswer] at refused
      split at refused
      · cases refused
        rfl
      · exact ih refused

include documented

theorem resolve_raises (host : String) (port : Option Nat) :
    RaisesOnly [.osError, .valueError] (resolve net host port) := by
  intro s
  unfold Outcome resolve
  cases answered : net.getaddrinfo s host port with
  | ok answer => exact trivial
  | error err => exact documented.getaddrinfo s host port err answered

theorem vettedAddresses_raises (host : String) (port : Option Nat) :
    RaisesOnly [.valueError] (vettedAddresses net host port) := by
  refine raisesOnly_except_bind (resolve_raises documented host port) ?_ ?_ ?_
  · intro err known passes
    rw [PyErr.isA_cons, passes] at known
    exact known
  · intro infos
    refine raisesOnly_orRaise fun err refused => ?_
    simp [PyErr.isA, vetAnswer_raises refused]
  · intro err _ _
    exact raisesOnly_throw (by rfl)

theorem guardFetchHost_raises (url : String) :
    RaisesOnly [.valueError] (guardFetchHost net url) := by
  refine raisesOnly_orRaise_bind (documented.urlsplit url) fun parts split => ?_
  dsimp only
  split
  · exact raisesOnly_throw (by rfl)
  · refine raisesOnly_orRaise_bind (fun err => documented.port url parts err split) fun port _ => ?_
    exact raisesOnly_bind (vettedAddresses_raises documented _ port) fun _ => raisesOnly_pure ()

theorem checkUrl_raises (url : String) : RaisesOnly [.valueError] (checkUrl net (.str url)) := by
  refine raisesOnly_orRaise_bind (fun err refused => ?_) fun text _ => ?_
  · simp [PyErr.isA, checkScheme_str_error refused]
  · exact raisesOnly_bind (guardFetchHost_raises documented text) fun _ => raisesOnly_pure text

omit documented in
theorem connectAny_raises (host : String) (port : Option Nat) (addresses : List IpAddress)
    (error : Option PyErr) (known : ∀ err, error = some err → err.isA [.osError] = true) :
    RaisesOnly [.osError, .httpException, .valueError]
      (connectAny net host port addresses error) := by
  induction addresses generalizing error with
  | nil =>
    refine raisesOnly_throw ?_
    cases error with
    | none => rfl
    | some err => exact PyErr.isA_mono (known err rfl) (by simp)
  | cons ip rest ih =>
    have attempt : RaisesOnly [.osError, .httpException, .valueError]
        (createConnection net host ip port) := fun s => transfer_raises _ _
    refine raisesOnly_except_bind attempt (fun _ known _ => known) (fun _ => raisesOnly_pure ()) ?_
    intro err _ caught
    refine ih (some err) fun other same => ?_
    cases same
    exact caught

theorem connectVetted_raises (host : String) (port : Option Nat) :
    RaisesOnly [.osError, .httpException, .valueError] (connectVetted net host port) :=
  raisesOnly_bind ((vettedAddresses_raises documented host port).mono (by simp)) fun addresses =>
    connectAny_raises host port addresses none fun _ absurd => by cases absurd

theorem requestOnce_raises (url : String) (data : Option Bytes) :
    RaisesOnly [.osError, .httpException, .valueError] (requestOnce net url data) := by
  refine raisesOnly_bind (transfer_raises _) fun target => ?_
  refine raisesOnly_bind (connectVetted_raises documented target.1 target.2) fun _ => ?_
  refine raisesOnly_bind (fun _ => trivial) fun answer => ?_
  cases answer with
  | body bytes => exact raisesOnly_pure _
  | failure err => exact raisesOnly_throw err.2
  | redirect newurl refused =>
    refine raisesOnly_bind ?_ fun _ => raisesOnly_pure _
    refine raisesOnly_bind ((checkUrl_raises documented newurl).mono (by simp)) fun _ => ?_
    cases refused with
    | none => exact raisesOnly_pure ()
    | some err => exact raisesOnly_throw err.2

theorem openRequest_raises (requests : Nat) (visited : List String) (url : String)
    (data : Option Bytes) :
    RaisesOnly [.osError, .httpException, .valueError]
      (openRequest net requests visited url data) := by
  induction requests generalizing visited url data with
  | zero => exact raisesOnly_throw (by rfl)
  | succ requests ih =>
    refine raisesOnly_bind (requestOnce_raises documented url data) fun answer => ?_
    cases answer with
    | inl bytes => exact raisesOnly_pure bytes
    | inr newurl =>
      dsimp only
      split
      · exact raisesOnly_throw (by rfl)
      · exact raisesOnly_bind (raisesOnly_modify _) fun _ => ih _ _ _

/-- **Past the scheme check, `fetch` raises only `OSError` and `ValueError`**: what its callers
catch. -/
theorem fetchText_raises (url : String) (data : Option Bytes) :
    RaisesOnly [.osError, .valueError] (fetchText net url data) := by
  refine raisesOnly_bind ((guardFetchHost_raises documented url).mono (by simp)) fun _ => ?_
  refine raisesOnly_except_bind (openRequest_raises documented _ _ url data) ?_ ?_ ?_
  · intro err known passes
    have split := PyErr.isA_append err [.osError, .httpException] [.valueError]
    rw [passes, Bool.false_or] at split
    exact PyErr.isA_mono (split.symm.trans known) (by simp)
  · intro body
    refine raisesOnly_bind raisesOnly_get fun past => ?_
    dsimp only
    split
    · exact raisesOnly_throw (by rfl)
    · split
      · exact raisesOnly_throw (by rfl)
      · exact raisesOnly_pure body
  · intro err known caught
    refine raisesOnly_bind raisesOnly_get fun past => ?_
    dsimp only
    split
    · exact raisesOnly_throw (by rfl)
    · split
      · exact raisesOnly_throw (by rfl)
      · rename_i other
        have split := PyErr.isA_append err [.osError] [.httpException]
        rw [Bool.eq_false_iff.mpr other, Bool.or_false] at split
        exact raisesOnly_throw (PyErr.isA_mono (split.symm.trans caught) (by simp))

end Raises

end Certinspect.HttpFetch

namespace Certinspect.Revocation

open Library HttpFetch

/-! ### The client as the network -/

section Client

variable {net : Internet} (documented : net.Documented)

/-- The guarded client as the network of the revocation check. -/
def webOf : Web History where
  serve url data := narrow (fetchText net url data) (fetchText_raises documented url data)

/-- **`fetch` over the client is `httpfetch.fetch`.** -/
theorem fetch_webOf (url : PyValue) (data : Option Bytes) :
    fetch (webOf documented) url data = HttpFetch.fetch net url data := by
  have same (text : String) :
      EStateM.adaptExcept Subtype.val ((webOf documented).serve text data) =
        fetchText net text data :=
    adaptExcept_narrow (fetchText net text data) (fetchText_raises documented text data)
  unfold fetch HttpFetch.fetch
  rw [funext same]

end Client

/-! ### What the whole check keeps -/

section Check

variable {lib : Cryptography} {σ : Type} {web : Web σ} {I : σ → Prop} {now : Instant}
  {cert : Certificate} (kept : ∀ url data s, I s →
    Outcome (web.serve url data) s (fun _ after => I after) fun _ after => I after)

include kept

theorem fetch_preserves (url : PyValue) (data : Option Bytes) :
    Preserves (fetch web url data) I :=
  preserves_bind (preserves_orRaise _) fun text => preserves_adaptExcept (kept text data)

theorem tryIssuer_preserves (url : PyValue) : Preserves (tryIssuer lib web cert url) I := by
  refine preserves_bind (preserves_caught ?_) fun outcome => ?_
  · exact preserves_bind (fetch_preserves kept url none) fun _ => preserves_orRaise _
  · cases outcome with
    | error err => exact preserves_pure none
    | ok candidate => exact preserves_bind (preserves_orRaise _) fun _ => preserves_pure _

theorem fetchIssuer_preserves : Preserves (fetchIssuer lib web cert) I :=
  preserves_bind (preserves_orRaise _) fun _ => preserves_firstHit (tryIssuer_preserves kept)

theorem anchor_preserves (issuer : Option Certificate) :
    Preserves (anchor lib web cert issuer) I := by
  cases issuer with
  | none => exact fetchIssuer_preserves kept
  | some ca =>
    refine preserves_bind (preserves_orRaise _) fun signed => ?_
    cases signed with
    | true => exact preserves_pure (some ca)
    | false => exact fetchIssuer_preserves kept

theorem checkOcsp_preserves (issuer : Option Certificate) :
    Preserves (checkOcsp lib web now cert issuer) I := by
  refine preserves_bind (preserves_orRaise _) fun urls => ?_
  obtain ⟨responders, issuers⟩ := urls
  cases responders with
  | nil => exact preserves_pure _
  | cons url rest =>
    cases issuer with
    | none => exact preserves_pure _
    | some ca =>
      refine preserves_bind (preserves_caught (fetch_preserves kept url _)) fun outcome => ?_
      cases outcome with
      | error err => exact preserves_pure _
      | ok raw => exact preserves_orRaise _

theorem checkCrl_preserves (issuer : Option Certificate) :
    Preserves (checkCrl lib web now cert issuer) I := by
  have each (ca : Certificate) (url : String) : Preserves (tryCrl lib web now cert ca url) I := by
    refine preserves_bind (preserves_caught (fetch_preserves kept (.str url) none)) fun outcome => ?_
    cases outcome with
    | error err => exact preserves_pure none
    | ok raw => exact preserves_orRaise _
  refine preserves_bind (preserves_orRaise _) fun urls => ?_
  cases urls with
  | nil => exact preserves_pure _
  | cons url rest =>
    cases issuer with
    | none => exact preserves_pure _
    | some ca =>
      refine preserves_bind (preserves_firstHit (each ca)) fun found => ?_
      cases found with
      | none => exact preserves_pure _
      | some verdict => exact preserves_pure verdict

/-- **What every request keeps, the whole check keeps**, whether it returns or raises. -/
theorem checkRevocation_preserves (issuer : Option Certificate) :
    Preserves (checkRevocation lib web now cert issuer) I := by
  refine preserves_bind (anchor_preserves kept issuer) fun found => ?_
  refine preserves_bind (checkOcsp_preserves kept found) fun ocsp => ?_
  split
  · exact preserves_pure ocsp
  · refine preserves_bind (checkCrl_preserves kept found) fun crl => ?_
    split
    · exact preserves_pure crl
    · exact preserves_pure ocsp

end Check

/-! ### The guard over the whole check -/

/-- Every connection since `past` was to an address that is not blocked. -/
def Guarded (past after : History) : Prop :=
  ∃ added, after = added ++ past ∧ ∀ host ip port, NetEvent.connecting host ip port ∈ added →
    isBlockedFetchAddress ip = false

/-- A screened fetch keeps the connections guarded. -/
theorem Guarded.screened {net : Internet} {past before after : History}
    (guarded : Guarded past before) (screened : Screened net before after) :
    Guarded past after := by
  obtain ⟨earlier, rfl, allowed⟩ := guarded
  obtain ⟨added, split, each⟩ := screened
  rw [eachAt_iff] at each
  refine ⟨added ++ earlier, by rw [split, List.append_assoc], fun host ip port member => ?_⟩
  rcases List.mem_append.mp member with new | old
  · obtain ⟨later, rest, here⟩ := List.append_of_mem new
    obtain ⟨answer, _, inAnswer, routable⟩ := (each _ _ _ here).vetted host ip port rfl
    obtain ⟨other, same, unblocked⟩ := routable _ inAnswer
    cases same
    exact unblocked
  · exact allowed host ip port old

/-- **Checking revocation connects to no blocked address**, whatever URLs the certificate, the
issuer and the redirects of their servers name, and however names resolve. -/
theorem checkRevocation_guarded (lib : Cryptography) {net : Internet} (documented : net.Documented)
    (now : Instant) (cert : Certificate) (issuer : Option Certificate) (past : History) :
    Guarded past
      (stateAfter (checkRevocation lib (webOf documented) now cert issuer) past) := by
  have kept (url : String) (data : Option Bytes) (s : History) (guarded : Guarded past s) :
      Outcome ((webOf documented).serve url data) s (fun _ after => Guarded past after)
        fun _ after => Guarded past after := by
    have screened : Outcome (fetchText net url data) s (fun _ after => Guarded past after)
        fun _ after => Guarded past after :=
      outcome_mono (fetchText_screened (ready_refl net s) url data)
        (fun _ _ screened => guarded.screened screened) fun _ _ screened => guarded.screened screened
    rw [← adaptExcept_narrow _ (fetchText_raises documented url data), outcome_adaptExcept]
      at screened
    exact screened
  refine outcome_stateAfter.mp (checkRevocation_preserves kept issuer past ?_)
  exact ⟨[], rfl, fun _ _ _ absurd => by cases absurd⟩

end Certinspect.Revocation
