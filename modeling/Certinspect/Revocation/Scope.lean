/-
**Which CRLs a GOOD rests on — the scope of a sharded CRL.**

A CA may split its CRL into shards that share the issuer name and the key; each names its
distribution point in the IssuingDistributionPoint extension, and a serial missing from one shard
says nothing about the others. `_authenticate_crl` reads that extension but not its `full_name`.

* `crlPoints` — `_crl_urls` with the distribution point each URL comes from (`crlUrls_eq`).
* `GoodRestsOn` — `_check_crl` returned GOOD on the strength of this CRL, fetched for this point;
  `checkCrl_good_rests` says that every GOOD rests on one.
* `ForeignShard` — the CRL names its own distribution point, and no name of it is a name of the
  point it was fetched for.
* **`checkCrl_scope_iff`** — a GOOD never rests on a foreign shard exactly when no reached URL
  serves one that is otherwise good.
-/

import Certinspect.Revocation.Evidence

namespace Certinspect.Revocation

open Library

/-! ### Distribution points and shards -/

/-- The URLs of `_crl_urls`, each with its distribution point. -/
def crlPoints (cert : Certificate) : Except PyErr (List (DistributionPoint × String)) := do
  match ← findExtension ExtensionValue.crlDistributionPoints? cert.extensions with
  | none => pure []
  | some points => pure (points.flatMap fun point => (pointUrls point).map fun url => (point, url))

/-- The CRL names its distribution point. -/
def NamesItsPoint (crl : CertificateRevocationList) (names : List GeneralName) : Prop :=
  ∃ extensions extension scope, crl.extensions = .ok extensions ∧ extension ∈ extensions ∧
    extension.value = .issuingDistributionPoint scope ∧ scope.fullName = some names

/-- The CRL is for another distribution point than this one. -/
def ForeignShard (point : DistributionPoint) (crl : CertificateRevocationList) : Prop :=
  ∃ names, NamesItsPoint crl names ∧ ∀ name ∈ names, name ∉ point.fullName.getD []

section Scope

variable (lib : Cryptography) {σ : Type} (web : Web σ) (now : Instant) (cert : Certificate)

/-- The loop of `_check_crl` fetches this CRL for this distribution point: every URL before gave no
verdict. -/
def Reaches (issuer : Certificate) (s : σ) (point : DistributionPoint)
    (crl : CertificateRevocationList) : Prop :=
  ∃ tried url rest u raw t, crlPoints cert = .ok (tried ++ (point, url) :: rest) ∧
    Skips (tryCrl lib web now cert issuer) (tried.map Prod.snd) s u ∧
    fetch web (.str url) none u = .ok raw t ∧ loadCrl lib raw = .ok (some crl)

/-- `_check_crl` returns GOOD, and this CRL, fetched for this point, is the one it stopped at. -/
def GoodRestsOn (issuer : Option Certificate) (s : σ) (point : DistributionPoint)
    (crl : CertificateRevocationList) : Prop :=
  ∃ ca tried url rest u raw t detail, issuer = some ca ∧
    crlPoints cert = .ok (tried ++ (point, url) :: rest) ∧
    Skips (tryCrl lib web now cert ca) (tried.map Prod.snd) s u ∧
    fetch web (.str url) none u = .ok raw t ∧ loadCrl lib raw = .ok (some crl) ∧
    tryCrl lib web now cert ca url u = .ok (some (.good, detail)) t ∧
    checkCrl lib web now cert issuer s = .ok (.good, detail) t

end Scope

/-! ### The loop over the points -/

section Loop

variable {lib : Cryptography} {σ : Type} {web : Web σ} {now : Instant} {cert : Certificate} {s : σ}

theorem crlUrls_eq (cert : Certificate) :
    crlUrls cert = (crlPoints cert).map (List.map Prod.snd) := by
  unfold crlUrls crlPoints
  cases findExtension ExtensionValue.crlDistributionPoints? cert.extensions with
  | error raised => rfl
  | ok found =>
    cases found with
    | none => rfl
    | some points =>
      show Except.ok (points.flatMap pointUrls) = Except.ok (List.map Prod.snd _)
      rw [List.map_flatMap]
      congr 2
      funext point
      rw [List.map_map]
      exact (List.map_id _).symm

/-- What one turn of the loop does with a URL it can fetch. -/
theorem tryCrl_fetched {issuer : Certificate} {url : String} {raw : Bytes} {u t : σ}
    (fetched : fetch web (.str url) none u = .ok raw t) :
    tryCrl lib web now cert issuer url u = orRaise (crlVerdict lib now cert issuer raw) t := by
  have caught : except [.osError, .valueError] (fetch web (.str url) none) u = .ok (.ok raw) t :=
    run_caught_ok fetched
  unfold tryCrl
  rw [run_bind, caught]

/-- What one turn of the loop does with a URL it cannot fetch. -/
theorem tryCrl_failed {issuer : Certificate} {url : String} {raised : PyErr} {u t : σ}
    (failed : fetch web (.str url) none u = .error raised t) :
    tryCrl lib web now cert issuer url u =
      if raised.isA [.osError, .valueError] then .ok none t else .error raised t := by
  have caught : except [.osError, .valueError] (fetch web (.str url) none) u =
      if raised.isA [.osError, .valueError] then .ok (.error raised) t else .error raised t :=
    run_caught_error failed
  unfold tryCrl
  rw [run_bind, caught]
  by_cases catches : raised.isA [.osError, .valueError] = true
  · rw [if_pos catches, if_pos catches]
    rfl
  · rw [if_neg catches, if_neg catches]

/-- A turn that answers fetched something. -/
theorem tryCrl_some {issuer : Certificate} {url : String} {verdict : Verdict} {u t : σ}
    (answered : tryCrl lib web now cert issuer url u = .ok (some verdict) t) :
    ∃ raw, fetch web (.str url) none u = .ok raw t ∧
      crlVerdict lib now cert issuer raw = .ok (some verdict) := by
  cases fetched : fetch web (.str url) none u with
  | ok raw after =>
    rw [tryCrl_fetched fetched] at answered
    cases judged : crlVerdict lib now cert issuer raw with
    | error raised =>
      rw [judged] at answered
      cases answered
    | ok found =>
      rw [judged] at answered
      cases answered
      exact ⟨raw, rfl, judged⟩
  | error raised after =>
    rw [tryCrl_failed fetched] at answered
    split at answered <;> cases answered

/-- **The CRL check is its loop**, once there is an issuer. -/
theorem checkCrl_run {ca : Certificate} {points : List (DistributionPoint × String)}
    (read : crlPoints cert = .ok points) :
    checkCrl lib web now cert (some ca) s =
      match firstHit (tryCrl lib web now cert ca) (points.map Prod.snd) s with
      | .ok (some verdict) t => .ok verdict t
      | .ok none t => .ok (.unavailable, some (if points = [] then
          "no CRL distribution point in extension"
          else "no usable CRL could be retrieved")) t
      | .error raised t => .error raised t := by
  have urls : crlUrls cert = .ok (points.map Prod.snd) := by
    rw [crlUrls_eq, read]
    rfl
  cases points with
  | nil =>
    unfold checkCrl
    rw [urls]
    rfl
  | cons point rest =>
    rw [checkCrl_listed urls, firstHitOr_run, if_neg (List.cons_ne_nil _ _), List.map_cons]
    cases firstHit (tryCrl lib web now cert ca) (point.2 :: rest.map Prod.snd) s with
    | error raised t => rfl
    | ok answer t => cases answer <;> rfl

/-- A GOOD of `_check_crl` comes out of its loop. -/
theorem checkCrl_good {issuer : Option Certificate} {detail : Option String} {t : σ}
    (good : checkCrl lib web now cert issuer s = .ok (.good, detail) t) :
    ∃ ca points, issuer = some ca ∧ crlPoints cert = .ok points ∧
      firstHit (tryCrl lib web now cert ca) (points.map Prod.snd) s =
        .ok (some (.good, detail)) t := by
  cases issuer with
  | none => cases outcome_ok checkCrl_none good
  | some ca =>
    cases read : crlPoints cert with
    | error raised =>
      have urls : crlUrls cert = .error raised := by
        rw [crlUrls_eq, read]
        rfl
      unfold checkCrl at good
      rw [urls] at good
      cases good
    | ok points =>
      refine ⟨ca, points, rfl, rfl, ?_⟩
      rw [checkCrl_run read] at good
      split at good
      · rename_i verdict after hit
        cases good
        exact hit
      · cases good
      · cases good

/-- A list of points, cut where its URLs are. -/
theorem points_split {points : List (DistributionPoint × String)} {tried rest : List String}
    {url : String} (split : points.map Prod.snd = tried ++ url :: rest) :
    ∃ before point after, points = before ++ (point, url) :: after ∧
      before.map Prod.snd = tried := by
  obtain ⟨before, remaining, rfl, rfl, tail⟩ := List.map_eq_append_iff.mp split
  obtain ⟨⟨point, other⟩, after, rfl, rfl, _⟩ := List.map_eq_cons_iff.mp tail
  exact ⟨before, point, after, rfl, rfl⟩

/-- The CRL a GOOD rests on was reached and proves it. -/
theorem GoodRestsOn.proves {issuer : Option Certificate} {point : DistributionPoint}
    {crl : CertificateRevocationList} (rests : GoodRestsOn lib web now cert issuer s point crl) :
    ∃ ca, issuer = some ca ∧ Reaches lib web now cert ca s point crl ∧
      ProvesGood lib now crl cert ca := by
  obtain ⟨ca, tried, url, rest, u, raw, t, detail, known, points, skipped, fetched, loaded,
    answered, _⟩ := rests
  refine ⟨ca, known, ⟨tried, url, rest, u, raw, t, points, skipped, fetched, loaded⟩, ?_⟩
  rw [tryCrl_fetched fetched, crlVerdict_loaded loaded] at answered
  cases judged : judgeCrl lib now cert ca crl with
  | error raised =>
    rw [judged] at answered
    cases answered
  | ok found =>
    rw [judged] at answered
    cases answered
    rcases judgeCrl_cases judged with ⟨_, absurd, _⟩ | absurd | ⟨proves, _⟩
    · cases absurd
    · cases absurd
    · exact proves

/-- **A reached CRL that proves GOOD is the one the verdict rests on.** -/
theorem Reaches.rests {ca : Certificate} {point : DistributionPoint}
    {crl : CertificateRevocationList} (reached : Reaches lib web now cert ca s point crl)
    (proves : ProvesGood lib now crl cert ca) :
    GoodRestsOn lib web now cert (some ca) s point crl := by
  obtain ⟨tried, url, rest, u, raw, t, points, skipped, fetched, loaded⟩ := reached
  have answered : tryCrl lib web now cert ca url u = .ok (some (.good, some "via CRL")) t := by
    rw [tryCrl_fetched fetched, crlVerdict_loaded loaded, judgeCrl_good proves]
    rfl
  have hit : firstHit (tryCrl lib web now cert ca)
      ((tried ++ (point, url) :: rest).map Prod.snd) s = .ok (some (.good, some "via CRL")) t :=
    firstHit_some_iff.mpr ⟨tried.map Prod.snd, url, rest.map Prod.snd, u, by simp, skipped, answered⟩
  have good : checkCrl lib web now cert (some ca) s = .ok (.good, some "via CRL") t := by
    rw [checkCrl_run points, hit]
  exact ⟨ca, tried, url, rest, u, raw, t, some "via CRL", rfl, points, skipped, fetched, loaded,
    answered, good⟩

/-- **Every GOOD of `_check_crl` rests on a CRL**, fetched for a point of the certificate. -/
theorem checkCrl_good_rests {issuer : Option Certificate} {detail : Option String} {t : σ}
    (good : checkCrl lib web now cert issuer s = .ok (.good, detail) t) :
    ∃ point crl, GoodRestsOn lib web now cert issuer s point crl := by
  obtain ⟨ca, points, known, read, hit⟩ := checkCrl_good good
  obtain ⟨tried, url, rest, u, split, skipped, answered⟩ := firstHit_some_iff.mp hit
  obtain ⟨before, point, after, rfl, rfl⟩ := points_split split
  obtain ⟨raw, fetched, verdict⟩ := tryCrl_some answered
  obtain ⟨crl, loaded, _⟩ := crlVerdict_proves verdict (by simp)
  exact ⟨point, crl, ca, before, url, after, u, raw, t, detail, known, read, skipped, fetched,
    loaded, answered, good⟩

variable (lib web now cert)

/-- **A GOOD rests on CRLs of the right scope exactly when no foreign shard is in the way**: no
reached URL serves a CRL that proves GOOD but names only other distribution points. -/
theorem checkCrl_scope_iff (issuer : Option Certificate) (s : σ) :
    (∀ point crl, GoodRestsOn lib web now cert issuer s point crl →
      ∀ names, NamesItsPoint crl names → ∃ name ∈ names, name ∈ point.fullName.getD []) ↔
    ∀ ca point crl, issuer = some ca → Reaches lib web now cert ca s point crl →
      ProvesGood lib now crl cert ca → ¬ ForeignShard point crl := by
  refine ⟨?_, ?_⟩
  · rintro inScope ca point crl rfl reached proves ⟨names, named, foreign⟩
    obtain ⟨name, member, shared⟩ := inScope point crl (reached.rests proves) names named
    exact foreign name member shared
  · intro noForeign point crl rests names named
    obtain ⟨ca, known, reached, proves⟩ := rests.proves
    have notForeign := noForeign ca point crl known reached proves
    by_contra disjoint
    refine notForeign ⟨names, named, fun name member shared => disjoint ⟨name, member, shared⟩⟩

end Loop

/-! ### A sharded CRL -/

/-- The extension of the second shard of the authority. -/
def sampleShard : Extension :=
  ⟨"2.5.29.28", true,
    .issuingDistributionPoint { fullName := some [.uniformResourceIdentifier "http://ca/2.crl"] }⟩

/-- The second shard, replayed at the URL of the first, makes a certificate of the first GOOD. -/
theorem checkCrl_scope_counterexample :
    let lib := samplePackage (sampleCrl [sampleShard] [])
    let cert := sampleLeaf [sampleCrlPoint "http://ca/1.crl"]
    let point : DistributionPoint := ⟨some [.uniformResourceIdentifier "http://ca/1.crl"]⟩
    ¬ ∀ crl, GoodRestsOn lib (sampleWeb (ascii "crl")) Instant.day cert (some sampleCa) () point crl →
      ∀ names, NamesItsPoint crl names → ∃ name ∈ names, name ∈ point.fullName.getD [] := by
  intro lib cert point inScope
  have rests : GoodRestsOn lib (sampleWeb (ascii "crl")) Instant.day cert (some sampleCa) () point
      (sampleCrl [sampleShard] []) :=
    ⟨sampleCa, [], "http://ca/1.crl", [], (), ascii "crl", (), some "via CRL", rfl, rfl, .nil (), rfl,
      rfl, rfl, rfl⟩
  obtain ⟨name, member, shared⟩ := inScope _ rests _ ⟨_, sampleShard, _, rfl, by simp, rfl, rfl⟩
  revert name
  decide

end Certinspect.Revocation
