/-
**Labels tell services apart, `_target_label` in `cli.py`.**

A label has one of three shapes: the bare host on the default port, `host:port`, and `[host]:port`
when the host has a colon itself. A bare IPv6 literal looks like `host:port`, but has more colons.

* `HostText` — the hosts that `urlsplit` gives.
* `LabelShape` — the three shapes; `targetLabel_shape` — a label has the one that fits.
* `targetLabel_inj` — no two shapes overlap, and each can be taken apart.
* **`targetLabel_eq_iff`** — two services have the same label exactly when they are the same, so the
  entries of a batch keep them apart.
-/

import Certinspect.Cli.Batch
import Certinspect.Formatter.Prometheus

namespace Certinspect.Cli

open Library

/-! ### The shapes of a label -/

/-- A host without brackets: a name or an IPv4 address without a colon, or an IPv6 literal with at
least two. -/
structure HostText (host : String) : Prop where
  noOpen : '[' ∉ host.toList
  noClose : ']' ∉ host.toList
  colons : ':' ∉ host.toList ∨ 2 ≤ host.toList.count ':'

/-- The characters of a label, by what is labelled. -/
inductive LabelShape (defaultPort : Int) (host : String) : Int → List Char → Prop
  | bare : LabelShape defaultPort host defaultPort host.toList
  | name {port : Int} : port ≠ defaultPort → ':' ∉ host.toList →
      LabelShape defaultPort host port (host.toList ++ ':' :: port.repr.toList)
  | address {port : Int} : port ≠ defaultPort → ':' ∈ host.toList →
      LabelShape defaultPort host port ('[' :: (host.toList ++ ']' :: ':' :: port.repr.toList))

section Shapes

variable {defaultPort : Int} {host host' : String} {port port' : Int}

theorem targetLabel_shape (defaultPort : Int) (host : String) (port : Int) :
    LabelShape defaultPort host port (targetLabel host port defaultPort).toList := by
  have colon : occursIn ":" host = true ↔ ':' ∈ host.toList :=
    occursIn_iff.trans (List.singleton_infix_iff ':' host.toList)
  unfold targetLabel
  by_cases isDefault : port = defaultPort
  · rw [if_pos isDefault, isDefault]
    exact .bare
  rw [if_neg isDefault]
  by_cases inside : ':' ∈ host.toList
  · rw [if_pos (colon.mpr inside)]
    have shape : (s!"[{host}]:{port}").toList =
        '[' :: (host.toList ++ ']' :: ':' :: port.repr.toList) := by
      simp [String.toList_append, toString]
    rw [shape]
    exact .address isDefault inside
  · rw [if_neg fun found => inside (colon.mp found)]
    have shape : (s!"{host}:{port}").toList = host.toList ++ ':' :: port.repr.toList := by
      simp [String.toList_append, toString]
    rw [shape]
    exact .name isDefault inside

/-- What a port is not written with. -/
theorem notMem_port {c : Char} (noDigit : c.isDigit = false) (noSign : c ≠ '-') (port : Int) :
    c ∉ port.repr.toList := by
  intro member
  rcases mem_repr member with digit | sign
  · rw [noDigit] at digit
    cases digit
  · exact noSign sign

/-- `host:port` has no bracket. -/
theorem noOpen_name (shape : HostText host) (port : Int) :
    '[' ∉ host.toList ++ ':' :: port.repr.toList := by
  have noPortOpen := notMem_port (c := '[') (by decide) (by decide) port
  simp [shape.noOpen, noPortOpen]

/-- A bare host has no colon or several, `host:port` has one. -/
theorem bare_ne_name (shape : HostText host) (noColon : ':' ∉ host'.toList) (port : Int) :
    host.toList ≠ host'.toList ++ ':' :: port.repr.toList := by
  intro same
  have noPortColon := List.count_eq_zero.mpr (notMem_port (c := ':') (by decide) (by decide) port)
  have one : host.toList.count ':' = 1 := by
    rw [same, List.count_append, List.count_cons_self, List.count_eq_zero.mpr noColon, noPortColon]
  rcases shape.colons with none | several
  · rw [List.count_eq_zero.mpr none] at one
    cases one
  · omega

/-- `host:port` is taken apart at its colon. -/
theorem name_inj (noColon : ':' ∉ host.toList) (same : host.toList ++ ':' :: port.repr.toList =
    host'.toList ++ ':' :: port'.repr.toList) : host = host' ∧ port = port' := by
  have noPortColon := notMem_port (c := ':') (by decide) (by decide)
  obtain ⟨hosts, _, ports⟩ := (List.append_cons_inj_of_notMem noColon (noPortColon port)).mp same
  exact ⟨String.toList_inj.mp hosts, Int.repr_inj.mp (String.toList_inj.mp ports)⟩

/-- `[host]:port` is taken apart at its closing bracket. -/
theorem address_inj (shape : HostText host) (same : host.toList ++ ']' :: ':' :: port.repr.toList =
    host'.toList ++ ']' :: ':' :: port'.repr.toList) : host = host' ∧ port = port' := by
  have noPortClose := notMem_port (c := ']') (by decide) (by decide)
  have noClose : ']' ∉ ':' :: port.repr.toList := by
    simp [noPortClose]
  obtain ⟨hosts, _, rest⟩ := (List.append_cons_inj_of_notMem shape.noClose noClose).mp same
  exact ⟨String.toList_inj.mp hosts, Int.repr_inj.mp (String.toList_inj.mp (List.cons.inj rest).2)⟩

/-- **Labels of one text are labels of one service**: the shapes do not overlap, and each can be
taken apart. -/
theorem LabelShape.inj {text text' : List Char} (shape : HostText host) (shape' : HostText host')
    (label : LabelShape defaultPort host port text)
    (label' : LabelShape defaultPort host' port' text') (same : text = text') :
    host = host' ∧ port = port' := by
  cases label with
  | bare =>
    cases label' with
    | bare => exact ⟨String.toList_inj.mp same, rfl⟩
    | name _ noColon => exact (bare_ne_name shape noColon port' same).elim
    | address _ _ => exact (shape.noOpen (same ▸ List.mem_cons_self)).elim
  | name _ noColon =>
    cases label' with
    | bare => exact (bare_ne_name shape' noColon port same.symm).elim
    | name _ _ => exact name_inj noColon same
    | address _ _ => exact (noOpen_name shape port (same ▸ List.mem_cons_self)).elim
  | address _ _ =>
    cases label' with
    | bare => exact (shape'.noOpen (same.symm ▸ List.mem_cons_self)).elim
    | name _ _ => exact (noOpen_name shape' port' (same.symm ▸ List.mem_cons_self)).elim
    | address _ _ => exact address_inj shape (List.cons.inj same).2

theorem targetLabel_inj (shape : HostText host) (shape' : HostText host') :
    targetLabel host port defaultPort = targetLabel host' port' defaultPort ↔
      (host, port) = (host', port') := by
  refine ⟨?_, ?_⟩
  · intro same
    obtain ⟨hosts, ports⟩ := LabelShape.inj shape shape' (targetLabel_shape defaultPort host port)
      (targetLabel_shape defaultPort host' port') (congrArg String.toList same)
    rw [hosts, ports]
  · intro same
    obtain ⟨rfl, rfl⟩ := Prod.mk.inj same
    rfl

end Shapes

/-! ### The services of a batch -/

section Services

variable (urlsplit : String → Except PyErr SplitResult)

/-- The name `_run` gives a host target: its label, or the target itself when it cannot be split. -/
def nameOf (defaultPort : Int) (raw : String) : String :=
  match splitTarget urlsplit raw defaultPort with
  | .ok (host, port) => targetLabel host port defaultPort
  | .error _ => raw

variable {urlsplit} {opts : InspectOptions} {defaultPort : Int} {singleFile : Bool}
  {inspect : Inspector} {raw host : String} {port : Int} {entry : Entry}

theorem nameOf_split (split : splitTarget urlsplit raw defaultPort = .ok (host, port)) :
    nameOf urlsplit defaultPort raw = targetLabel host port defaultPort := by
  unfold nameOf
  rw [split]

/-- An entry keeps the name and the label it is settled with. -/
theorem settle_named {name : String} {label : Option String} {inspected : Inspection}
    (settled : settle name label inspected = .ok entry) :
    entry.1 = name ∧ ∀ result, entry.2 = .ok result →
      result.label = label ∧ inspected = .ok (result.info, result.code) := by
  cases inspected with
  | ok found =>
    cases settled
    refine ⟨rfl, ?_⟩
    intro result same
    cases same
    exact ⟨rfl, rfl⟩
  | error err =>
    rw [settle_error] at settled
    split at settled
    · cases settled
      refine ⟨rfl, ?_⟩
      intro result absurd
      cases absurd
    · cases settled

/-- **The entry of a host is named by its target**, and so is its result. -/
theorem runItem_named
    (ran : runItem urlsplit opts defaultPort singleFile inspect (.host raw) = .ok entry) :
    entry.1 = nameOf urlsplit defaultPort raw ∧ ∀ result, entry.2 = .ok result →
      result.label = some (nameOf urlsplit defaultPort raw) ∧
        outcomeOf urlsplit opts defaultPort inspect (.host raw) =
          .ok (result.info, result.code) := by
  unfold nameOf
  rw [outcomeOf]
  rw [runItem] at ran
  cases split : splitTarget urlsplit raw defaultPort with
  | ok found =>
    obtain ⟨host, port⟩ := found
    rw [split] at ran
    exact settle_named ran
  | error err =>
    rw [split, exceptPure_error] at ran
    split at ran
    · cases ran
      refine ⟨rfl, ?_⟩
      intro result absurd
      cases absurd
    · cases ran

/-- The name that a result is printed under is its label, when it has a host. -/
theorem shownName_labelled {result : InspectionResult} (named : host ≠ "")
    (labelled : result.label = some (targetLabel host port defaultPort)) :
    result.shownName = targetLabel host port defaultPort := by
  have filled : targetLabel host port defaultPort ≠ "" := by
    have shape := targetLabel_shape defaultPort host port
    intro empty
    rw [empty] at shape
    cases text : host.toList with
    | nil => exact named (String.toList_eq_nil_iff.mp text)
    | cons c rest =>
      generalize written : "".toList = label at shape
      cases shape with
      | bare => rw [text] at written; cases written
      | name _ _ => rw [text] at written; cases written
      | address _ _ => cases written
  unfold InspectionResult.shownName given
  rw [labelled, Option.filter_some, if_pos (bne_iff_ne.mpr filled), Option.getD_some]

/-- **Labels tell services apart**: on every default port, two hosts with their ports have the same
label exactly when they are the same. So two targets of a batch that split into different services
have different names, their results different labels, and all of these are written differently in the
Prometheus output, where only a result without a host has its subject for a name. -/
theorem targetLabel_eq_iff (defaultPort : Int) {host host' : String} {port port' : Int}
    (shape : HostText host) (shape' : HostText host') :
    (targetLabel host port defaultPort = targetLabel host' port' defaultPort ↔
      (host, port) = (host', port')) ∧
    ∀ urlsplit raw raw', splitTarget urlsplit raw defaultPort = .ok (host, port) →
      splitTarget urlsplit raw' defaultPort = .ok (host', port') → (host, port) ≠ (host', port') →
      ∀ opts singleFile inspect inspect' entry entry',
        runItem urlsplit opts defaultPort singleFile inspect (.host raw) = .ok entry →
        runItem urlsplit opts defaultPort singleFile inspect' (.host raw') = .ok entry' →
        entry.1 ≠ entry'.1 ∧
        Formatter.prometheusLabel entry.1 ≠ Formatter.prometheusLabel entry'.1 ∧
        ∀ result result', entry.2 = .ok result → entry'.2 = .ok result' →
          result.label ≠ result'.label ∧
          (host ≠ "" → host' ≠ "" →
            Formatter.prometheusLabel result.shownName ≠
              Formatter.prometheusLabel result'.shownName) := by
  refine ⟨targetLabel_inj shape shape', ?_⟩
  intro urlsplit raw raw' split split' different opts singleFile inspect inspect' entry entry' ran
    ran'
  obtain ⟨named, labelled⟩ := runItem_named ran
  obtain ⟨named', labelled'⟩ := runItem_named ran'
  rw [nameOf_split split] at named labelled
  rw [nameOf_split split'] at named' labelled'
  have apart : targetLabel host port defaultPort ≠ targetLabel host' port' defaultPort :=
    fun same => different ((targetLabel_inj shape shape').mp same)
  rw [named, named']
  refine ⟨apart, ?_, ?_⟩
  · exact fun same => apart (Formatter.prometheusLabel_inj same)
  · intro result result' succeeded succeeded'
    have label := (labelled result succeeded).1
    have label' := (labelled' result' succeeded').1
    refine ⟨?_, fun hosted hosted' => ?_⟩
    · rw [label, label']
      exact fun same => apart (Option.some.inj same)
    · rw [shownName_labelled hosted label, shownName_labelled hosted' label']
      exact fun same => apart (Formatter.prometheusLabel_inj same)

end Services

/-- A bare IPv6 literal on the default port and a host with a port. -/
theorem targetLabel_eq_iff_ipv6 :
    HostText "::1" ∧ HostText "a.com" ∧ targetLabel "::1" 443 443 ≠ targetLabel "a.com" 8443 443 := by
  have literal : HostText "::1" := ⟨by decide, by decide, Or.inr (by decide)⟩
  have name : HostText "a.com" := ⟨by decide, by decide, Or.inl (by decide)⟩
  refine ⟨literal, name, ?_⟩
  intro same
  have absurd := (targetLabel_eq_iff 443 literal name).1.mp same
  revert absurd
  decide

end Certinspect.Cli
