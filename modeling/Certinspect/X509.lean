/-
**The X.509 objects as the program reads them.**

The `cryptography` package parses certificates, CRLs and OCSP responses and checks signatures; its
code is outside the repository. Its objects are records of what their attributes return (an
attribute that may raise is an `Except`), and its functions are the fields of `Cryptography`, a
parameter of the model.

* `GeneralName` and `GeneralName.value` — an access location or a distribution-point name is not
  always text: `.value` is a `PyValue`.
* `Certificate`, `CertificateRevocationList`, `OcspResponse`, with `findExtension`, the model of
  `extensions.get_extension_for_class`.
* `Cryptography.Documented` — what the package's documentation says about the exceptions its
  functions raise; results that need it name it as a hypothesis.
-/

import Certinspect.IpAddress
import Certinspect.Python

namespace Certinspect

/-! ### Names -/

/-- The value of a name attribute: text, or the raw bytes of a bit string. -/
inductive AttributeValue
  | text (value : String)
  | raw (value : Bytes)
  deriving DecidableEq, Repr

/-- An `x509.Name`: its attributes in order, and the text of `rfc4514_string()`. -/
structure X509Name where
  attributes : List (String × AttributeValue)
  rfc4514 : String
  deriving DecidableEq, Repr

/-- An `x509.GeneralName`. -/
inductive GeneralName
  | uniformResourceIdentifier (value : String)
  | dnsName (value : String)
  | rfc822Name (value : String)
  | directoryName (value : X509Name)
  | ipAddress (value : IpAddress)
  | registeredId (dotted : String) (known : String)
  | otherName (typeId : String) (value : Bytes)
  deriving DecidableEq, Repr

/-- What `.value` of a general name returns, by Python type; an OID comes with the name the package
knows it by. -/
inductive PyValue
  | str (value : String)
  | name (value : X509Name)
  | ip (value : IpAddress)
  | oid (dotted : String) (known : String)
  | bytes (value : Bytes)
  deriving DecidableEq, Repr

/-- `general_name.value`. -/
def GeneralName.value : GeneralName → PyValue
  | .uniformResourceIdentifier value => .str value
  | .dnsName value => .str value
  | .rfc822Name value => .str value
  | .directoryName value => .name value
  | .ipAddress value => .ip value
  | .registeredId dotted known => .oid dotted known
  | .otherName _ value => .bytes value

/-- `str(value)`. -/
def PyValue.text : PyValue → String
  | .str value => value
  | .name value => s!"<Name({value.rfc4514})>"
  | .ip value => value.str
  | .oid dotted known => s!"<ObjectIdentifier(oid={dotted}, name={known})>"
  | .bytes value => reprBytes value

/-! ### Extensions -/

/-- One entry of the Authority Information Access extension. -/
structure AccessDescription where
  accessMethod : String
  accessLocation : GeneralName
  deriving DecidableEq, Repr

/-- A reason flag of a CRL entry or of a CRL scope. -/
inductive ReasonFlag
  | unspecified
  | keyCompromise
  | caCompromise
  | affiliationChanged
  | superseded
  | cessationOfOperation
  | certificateHold
  | privilegeWithdrawn
  | aaCompromise
  | removeFromCrl
  deriving DecidableEq, Repr

/-- A distribution point of the certificate's CRLDistributionPoints extension. -/
structure DistributionPoint where
  fullName : Option (List GeneralName)
  deriving DecidableEq, Repr

/-- The IssuingDistributionPoint extension of a CRL. -/
structure IssuingDistributionPoint where
  fullName : Option (List GeneralName) := none
  onlyContainsUserCerts : Bool := false
  onlyContainsCaCerts : Bool := false
  onlySomeReasons : Option (List ReasonFlag) := none
  indirectCrl : Bool := false
  onlyContainsAttributeCerts : Bool := false
  deriving DecidableEq, Repr

/-- The KeyUsage extension; the last two flags are defined only with `keyAgreement`. -/
structure KeyUsage where
  digitalSignature : Bool := false
  contentCommitment : Bool := false
  keyEncipherment : Bool := false
  dataEncipherment : Bool := false
  keyAgreement : Bool := false
  keyCertSign : Bool := false
  crlSign : Bool := false
  encipherOnly : Bool := false
  decipherOnly : Bool := false
  deriving DecidableEq, Repr

/-- A parsed extension value, by class. -/
inductive ExtensionValue
  | basicConstraints (ca : Bool)
  | authorityInformationAccess (descriptions : List AccessDescription)
  | crlDistributionPoints (points : List DistributionPoint)
  | subjectAlternativeName (names : List GeneralName)
  | keyUsage (usage : KeyUsage)
  | extendedKeyUsage (oids : List String)
  | precertificateSignedCertificateTimestamps (count : Nat)
  | tlsFeature (statusRequest : Bool)
  | issuingDistributionPoint (scope : IssuingDistributionPoint)
  | deltaCrlIndicator
  | unrecognized
  deriving DecidableEq, Repr

/-- An extension: its OID in dotted form, its criticality and its value. -/
structure Extension where
  oid : String
  critical : Bool
  value : ExtensionValue
  deriving DecidableEq, Repr

/-- `extensions.get_extension_for_class(cls).value`, with `none` for `ExtensionNotFound`; `pick`
recognizes the values of the class. -/
def findExtension {α : Type} (pick : ExtensionValue → Option α)
    (extensions : Except PyErr (List Extension)) : Except PyErr (Option α) :=
  extensions.map fun list => list.findSome? fun extension => pick extension.value

theorem findExtension_error_iff {α : Type} {pick : ExtensionValue → Option α}
    {extensions : Except PyErr (List Extension)} {err : PyErr} :
    findExtension pick extensions = .error err ↔ extensions = .error err := by
  unfold findExtension
  cases extensions <;> simp [Except.map]

def ExtensionValue.basicConstraints? : ExtensionValue → Option Bool
  | .basicConstraints ca => some ca
  | _ => none

def ExtensionValue.authorityInformationAccess? : ExtensionValue → Option (List AccessDescription)
  | .authorityInformationAccess descriptions => some descriptions
  | _ => none

def ExtensionValue.crlDistributionPoints? : ExtensionValue → Option (List DistributionPoint)
  | .crlDistributionPoints points => some points
  | _ => none

def ExtensionValue.extendedKeyUsage? : ExtensionValue → Option (List String)
  | .extendedKeyUsage oids => some oids
  | _ => none

def ExtensionValue.subjectAlternativeName? : ExtensionValue → Option (List GeneralName)
  | .subjectAlternativeName names => some names
  | _ => none

def ExtensionValue.keyUsage? : ExtensionValue → Option KeyUsage
  | .keyUsage usage => some usage
  | _ => none

def ExtensionValue.precertificateSignedCertificateTimestamps? : ExtensionValue → Option Nat
  | .precertificateSignedCertificateTimestamps count => some count
  | _ => none

def ExtensionValue.tlsFeature? : ExtensionValue → Option Bool
  | .tlsFeature statusRequest => some statusRequest
  | _ => none

/-! ### Keys and certificates -/

/-- The public key families the program tells apart; `other` is a key the package can load whose
class is none of them. -/
inductive KeyFamily
  | rsa
  | ec
  | dsa
  | ed25519
  | ed448
  | other (className : String)
  deriving DecidableEq, Repr

/-- A public key: its family, its size in bits (absent for EdDSA keys) and its encoding. -/
structure PublicKey where
  family : KeyFamily
  keySize : Option Nat
  spki : Bytes
  deriving DecidableEq, Repr

/-- An `x509.Certificate`. `publicKey` and `extensions` are what `public_key()` and `.extensions`
return or raise. -/
structure Certificate where
  der : Bytes
  subject : X509Name
  issuer : X509Name
  serialNumber : Int
  notValidBefore : Instant
  notValidAfter : Instant
  signatureAlgorithmOid : String
  fingerprintSha256 : Bytes
  publicKey : Except PyErr PublicKey
  extensions : Except PyErr (List Extension)

/-- `Certificate.__eq__` compares the encodings. -/
instance : BEq Certificate := ⟨fun first second => first.der == second.der⟩

/-! ### CRLs and OCSP -/

/-- An entry of a CRL. -/
structure RevokedCertificate where
  serialNumber : Int
  revocationDate : Option Instant
  reason : Option ReasonFlag
  deriving DecidableEq, Repr

/-- An `x509.CertificateRevocationList`. -/
structure CertificateRevocationList where
  der : Bytes
  issuer : X509Name
  lastUpdate : Except PyErr (Option Instant)
  nextUpdate : Except PyErr (Option Instant)
  extensions : Except PyErr (List Extension)
  entries : List RevokedCertificate

/-- `crl.get_revoked_certificate_by_serial_number(serial)`. -/
def CertificateRevocationList.revokedBySerial (crl : CertificateRevocationList) (serial : Int) :
    Option RevokedCertificate :=
  crl.entries.find? fun entry => entry.serialNumber == serial

/-- `ocsp.OCSPResponseStatus`. -/
inductive OcspResponseStatus
  | successful
  | malformedRequest
  | internalError
  | tryLater
  | sigRequired
  | unauthorized
  deriving DecidableEq, Repr

/-- `response_status.name`. -/
def OcspResponseStatus.name : OcspResponseStatus → String
  | .successful => "SUCCESSFUL"
  | .malformedRequest => "MALFORMED_REQUEST"
  | .internalError => "INTERNAL_ERROR"
  | .tryLater => "TRY_LATER"
  | .sigRequired => "SIG_REQUIRED"
  | .unauthorized => "UNAUTHORIZED"

/-- `ocsp.OCSPCertStatus`. -/
inductive OcspCertStatus
  | good
  | revoked
  | unknown
  deriving DecidableEq, Repr

/-- What an OCSP request asks about: the CertID fields. -/
structure OcspRequest where
  serialNumber : Int
  issuerNameHash : Bytes
  issuerKeyHash : Bytes
  der : Bytes
  deriving DecidableEq, Repr

/-- The one SINGLERESP of a successful response; reading any of it raises when there is not exactly
one, see `OcspResponse.single`. -/
structure SingleResponse where
  serialNumber : Int
  issuerNameHash : Bytes
  issuerKeyHash : Bytes
  certificateStatus : OcspCertStatus
  thisUpdate : Except PyErr (Option Instant)
  nextUpdate : Except PyErr (Option Instant)
  revocationTime : Option Instant

/-- An `ocsp.OCSPResponse`. The ResponderID is a name or a key hash. -/
structure OcspResponse where
  responseStatus : OcspResponseStatus
  single : Except PyErr SingleResponse
  responderName : Option X509Name
  responderKeyHash : Option Bytes
  certificates : Except PyErr (List Certificate)
  signature : Bytes
  tbsResponseBytes : Bytes
  signatureHashAlgorithm : Except PyErr (Option String)

/-! ### The package -/

/-- How a signature is checked under a key: RSA with PKCS#1 v1.5, ECDSA, or EdDSA. -/
inductive SignatureScheme
  | pkcs1v15 (hash : Option String)
  | ecdsa (hash : Option String)
  | eddsa
  deriving DecidableEq, Repr

/-- The functions of the `cryptography` package that the program calls. -/
structure Cryptography where
  loadDerX509Certificate : Bytes → Except PyErr Certificate
  loadPemX509Certificate : Bytes → Except PyErr Certificate
  loadPemX509Certificates : Bytes → Except PyErr (List Certificate)
  loadDerX509Crl : Bytes → Except PyErr CertificateRevocationList
  loadPemX509Crl : Bytes → Except PyErr CertificateRevocationList
  loadDerOcspResponse : Bytes → Except PyErr OcspResponse
  /-- `cert.verify_directly_issued_by(issuer)`. -/
  verifyDirectlyIssuedBy : Certificate → Certificate → Except PyErr Unit
  /-- `public_key.verify(...)`. -/
  verify : PublicKey → SignatureScheme → Bytes → Bytes → Except PyErr Unit
  /-- `crl.is_signature_valid(public_key)`. -/
  isSignatureValid : CertificateRevocationList → PublicKey → Except PyErr Bool
  /-- `SubjectKeyIdentifier.from_public_key(public_key).digest`. -/
  subjectKeyIdentifier : PublicKey → Bytes
  /-- `OCSPRequestBuilder().add_certificate(cert, issuer, SHA1()).build()`. -/
  ocspRequest : Certificate → Certificate → OcspRequest

/-! ### The exceptions the package documents -/

/-- `public_key()` raises `UnsupportedAlgorithm` on a key type it does not know, `.extensions`
`DuplicateExtension` on a repeated extension; else both raise `ValueError`. -/
structure Certificate.Documented (cert : Certificate) : Prop where
  publicKey : ∀ err, cert.publicKey = .error err →
    err.isA [.valueError] = true ∨ err.cls = .unsupportedAlgorithm
  extensions : ∀ err, cert.extensions = .error err →
    err.isA [.valueError] = true ∨ err.cls = .duplicateExtension

/-- What the attributes of a CRL raise. -/
structure CertificateRevocationList.Documented (crl : CertificateRevocationList) : Prop where
  lastUpdate : ∀ err, crl.lastUpdate = .error err → err.isA [.valueError, .attributeError] = true
  nextUpdate : ∀ err, crl.nextUpdate = .error err → err.isA [.valueError, .attributeError] = true
  extensions : ∀ err, crl.extensions = .error err →
    err.isA [.valueError] = true ∨ err.cls = .duplicateExtension

/-- What the attributes of an OCSP response raise. -/
structure OcspResponse.Documented (response : OcspResponse) : Prop where
  single : ∀ err, response.single = .error err → err.isA [.valueError] = true
  thisUpdate : ∀ single err, response.single = .ok single → single.thisUpdate = .error err →
    err.isA [.valueError, .attributeError] = true
  nextUpdate : ∀ single err, response.single = .ok single → single.nextUpdate = .error err →
    err.isA [.valueError, .attributeError] = true
  certificates : ∀ err, response.certificates = .error err → err.isA [.valueError] = true
  embedded : ∀ embedded, response.certificates = .ok embedded → ∀ cert ∈ embedded, cert.Documented
  signatureHashAlgorithm : ∀ err, response.signatureHashAlgorithm = .error err →
    err.isA [.unsupportedAlgorithm, .valueError] = true

/-- What the functions of the package raise: the parsers `ValueError`,
`verify_directly_issued_by` also `InvalidSignature`, `TypeError` or, for an issuer key type it does
not know, `UnsupportedAlgorithm`. -/
structure Cryptography.Documented (lib : Cryptography) : Prop where
  loadDerX509Certificate : ∀ raw err, lib.loadDerX509Certificate raw = .error err →
    err.isA [.valueError] = true
  loadDerX509Crl : ∀ raw err, lib.loadDerX509Crl raw = .error err → err.isA [.valueError] = true
  loadPemX509Crl : ∀ raw err, lib.loadPemX509Crl raw = .error err → err.isA [.valueError] = true
  loadDerOcspResponse : ∀ raw err, lib.loadDerOcspResponse raw = .error err →
    err.isA [.valueError] = true
  derCrl : ∀ raw crl, lib.loadDerX509Crl raw = .ok crl → crl.Documented
  pemCrl : ∀ raw crl, lib.loadPemX509Crl raw = .ok crl → crl.Documented
  ocspResponse : ∀ raw response, lib.loadDerOcspResponse raw = .ok response → response.Documented
  verifyDirectlyIssuedBy : ∀ cert issuer err, lib.verifyDirectlyIssuedBy cert issuer = .error err →
    err.isA [.invalidSignature, .typeError, .valueError] = true ∨
      (err.cls = .unsupportedAlgorithm ∧ ∀ key, issuer.publicKey ≠ .ok key)
  issuerKey : ∀ cert issuer, lib.verifyDirectlyIssuedBy cert issuer = .ok () →
    ∃ key, issuer.publicKey = .ok key
  verify : ∀ key scheme signature data err, lib.verify key scheme signature data = .error err →
    err.isA [.unsupportedAlgorithm, .invalidSignature, .typeError, .valueError] = true
  isSignatureValid : ∀ crl key err, lib.isSignatureValid crl key = .error err →
    err.isA [.typeError, .valueError] = true

end Certinspect
