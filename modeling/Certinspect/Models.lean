/-
**The typed shapes shared across modules, `models.py`.**

`Analysis` is what `analyze` returns. `CertificateInfo` adds what the inspection records: the status
and the hostname match always, the results of the other checks only when they ran, so that each of
those fields is absent (`none`) or present.
-/

import Certinspect.ExitCodes
import Certinspect.X509

namespace Certinspect

/-- What `analyze` reads off a certificate. -/
structure Analysis where
  subject : String
  issuer : String
  notValidBefore : Instant
  notValidAfter : Instant
  serialNumber : Int
  signatureAlgorithm : String
  daysToExpire : Int
  validityDays : Int
  keyType : String
  keySize : Option Nat
  san : List String
  fingerprintSha256 : String
  isCa : Bool
  selfSigned : Bool
  keyUsage : List String
  extendedKeyUsage : List String
  sctCount : Nat
  mustStaple : Bool
  weak : List String
  deriving DecidableEq, Repr

/-- The root cause `diagnose_chain` names. -/
structure ChainDiagnosis where
  code : String
  detail : String
  deriving DecidableEq, Repr

/-- One certificate of the displayed chain. -/
structure ChainSummary where
  subject : String
  issuer : String
  notValidAfter : Instant
  serialNumber : Int
  isCa : Bool
  deriving DecidableEq, Repr

/-- The outcome of one inspection; a key that a check sets is absent when the check did not run. -/
structure CertificateInfo extends Analysis where
  status : Status
  hostnameMatch : Option Bool
  tlsVersion : Option (Option String) := none
  cipher : Option (Option String) := none
  chainTrusted : Option Bool := none
  chainError : Option (Option String) := none
  chainDiagnosis : Option ChainDiagnosis := none
  chainWarnings : Option (List String) := none
  chain : Option (List ChainSummary) := none
  revocationStatus : Option RevocationStatus := none
  revocationDetail : Option (Option String) := none
  pinMatch : Option Bool := none
  expectedSanMissing : Option (List String) := none
  policyViolations : Option (List String) := none
  deriving DecidableEq, Repr

/-- One inspected target: its display label, analysis and exit code. -/
structure InspectionResult where
  label : Option String
  info : CertificateInfo
  code : Code
  deriving DecidableEq, Repr

/-- `target or info["subject"]`: the name the exporters give a result. -/
def InspectionResult.shownName (result : InspectionResult) : String :=
  (given result.label).getD result.info.subject

/-- The handshake of `get_server_cert`; `chain` is the chain as the server sent it. -/
structure ConnectionInfo where
  tlsVersion : Option String
  cipher : Option String
  chain : List Certificate

end Certinspect
