/-
**Exit codes and their severity, `exit_codes.py`.**

`Code` is what a run can exit with: an `ExitCode`, or the plain `RUNTIME_ERROR` of a target that
could not be inspected. The numbers are labels; `severityOrder` ranks them, and `mostSevere` picks
the reported one. `severityRank_injective` and `severityRank_le_ok` are what makes that choice
independent of order and grouping.
-/

import Certinspect.Library.Severity

namespace Certinspect

open Library

/-- Exit code reflecting the worst certificate state found. -/
inductive ExitCode
  | ok
  | expiring
  | invalid
  | hostnameMismatch
  | untrustedOrRevoked
  | pinMismatch
  | sanMismatch
  | policy
  deriving DecidableEq, Repr

/-- Certificate validity status returned by `certificateStatus`. -/
inductive Status
  | valid
  | expiring
  | critical
  | expired
  | notYetValid
  | invalidDates
  deriving DecidableEq, Repr

/-- The string a status is. -/
def Status.str : Status → String
  | .valid => "VALID"
  | .expiring => "EXPIRING"
  | .critical => "CRITICAL"
  | .expired => "EXPIRED"
  | .notYetValid => "NOT YET VALID"
  | .invalidDates => "INVALID DATES"

/-- Revocation verdict from OCSP/CRL. -/
inductive RevocationStatus
  | good
  | revoked
  | unknown
  | unavailable
  deriving DecidableEq, Repr

/-- The string a revocation status is. -/
def RevocationStatus.str : RevocationStatus → String
  | .good => "GOOD"
  | .revoked => "REVOKED"
  | .unknown => "UNKNOWN"
  | .unavailable => "UNAVAILABLE"

/-- A process exit code: a certificate state, or the generic runtime error. -/
inductive Code
  | exit (code : ExitCode)
  | runtimeError
  deriving DecidableEq, Repr

/-- The number a code is. -/
def Code.value : Code → Int
  | .exit .ok => 0
  | .runtimeError => 1
  | .exit .expiring => 3
  | .exit .invalid => 4
  | .exit .hostnameMismatch => 5
  | .exit .untrustedOrRevoked => 6
  | .exit .pinMismatch => 7
  | .exit .sanMismatch => 8
  | .exit .policy => 9

/-- `EXIT_BY_STATUS`: the four non-valid date states all share `invalid`. -/
def exitByStatus : Status → ExitCode
  | .valid => .ok
  | .expiring => .expiring
  | .critical => .invalid
  | .expired => .invalid
  | .invalidDates => .invalid
  | .notYetValid => .invalid

/-- `_SEVERITY_ORDER`, from most to least severe. -/
def severityOrder : List Code :=
  [.exit .untrustedOrRevoked, .exit .pinMismatch, .exit .invalid, .exit .hostnameMismatch,
    .runtimeError, .exit .sanMismatch, .exit .policy, .exit .expiring, .exit .ok]

/-- `_SEVERITY_RANK`: the position in the order; every code has one (`mem_severityOrder`). -/
def severityRank (code : Code) : Nat := severityOrder.idxOf code

/-- `most_severe`: the most severe of the codes, or `ok` when there is none. -/
def mostSevere (codes : List Code) : Code := leastBy severityRank (.exit .ok) codes

theorem mem_severityOrder (code : Code) : code ∈ severityOrder := by
  rcases code with ⟨_ | _ | _ | _ | _ | _ | _ | _⟩ | _ <;> decide

theorem severityRank_injective : Function.Injective severityRank := by
  intro first second same
  exact (List.idxOf_inj (mem_severityOrder first)).mp same

theorem severityRank_le_ok (code : Code) : severityRank code ≤ severityRank (.exit .ok) := by
  have inOrder := List.idxOf_lt_length_of_mem (mem_severityOrder code)
  have last : severityRank (.exit .ok) = 8 := by decide
  have length : severityOrder.length = 9 := by decide
  unfold severityRank at *
  omega

theorem code_value_injective : Function.Injective Code.value := by
  intro first second same
  rcases first with ⟨_ | _ | _ | _ | _ | _ | _ | _⟩ | _ <;>
    rcases second with ⟨_ | _ | _ | _ | _ | _ | _ | _⟩ | _ <;> first | rfl | cases same

/-! ### The severity laws at the program's codes -/

theorem mostSevere_eq_iff {codes : List Code} {code : Code} :
    mostSevere codes = code ↔ code ∈ Code.exit .ok :: codes ∧
      ∀ other ∈ codes, severityRank code ≤ severityRank other :=
  leastBy_eq_iff severityRank_injective severityRank_le_ok

theorem mostSevere_congr {first second : List Code} (same : ∀ code, code ∈ first ↔ code ∈ second) :
    mostSevere first = mostSevere second :=
  leastBy_congr severityRank_injective severityRank_le_ok same

theorem mostSevere_perm {first second : List Code} (reordered : first.Perm second) :
    mostSevere first = mostSevere second :=
  leastBy_perm severityRank_injective severityRank_le_ok reordered

theorem mostSevere_flatten (groups : List (List Code)) :
    mostSevere (groups.map mostSevere) = mostSevere groups.flatten :=
  leastBy_flatten severityRank_injective severityRank_le_ok groups

theorem mostSevere_eq_ok_iff {codes : List Code} :
    mostSevere codes = .exit .ok ↔ ∀ code ∈ codes, code = .exit .ok :=
  leastBy_eq_fallback_iff severityRank_injective severityRank_le_ok

end Certinspect
