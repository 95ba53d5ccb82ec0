/-
**Stretches of a stream.**

A stream is given position by position: `found p x` says that the element at position `p` is `x`. A
stream may end anywhere or go on for ever. `Segment found p xs q` says that the elements from `p`
up to, not including, `q` are exactly `xs`.

* `Segment.append`, `Segment.snoc` — reading on.
* `Segment.length`, `Segment.unique` — how far a segment reaches, and that the stream fills it in one
  way.
-/

import Mathlib.Data.List.Basic

namespace Certinspect.Library

section Segment

variable {α : Type} {found : Nat → α → Prop}

/-- The elements from one position up to another. -/
inductive Segment (found : Nat → α → Prop) : Nat → List α → Nat → Prop
  | nil (p : Nat) : Segment found p [] p
  | cons {p q : Nat} {x : α} {xs : List α} :
      found p x → Segment found (p + 1) xs q → Segment found p (x :: xs) q

theorem Segment.append {p q r : Nat} {xs ys : List α} (first : Segment found p xs q)
    (second : Segment found q ys r) : Segment found p (xs ++ ys) r := by
  induction first with
  | nil p => exact second
  | cons here _ ih => exact .cons here (ih second)

theorem Segment.length {p q : Nat} {xs : List α} (read : Segment found p xs q) :
    q = p + xs.length := by
  induction read with
  | nil p => rfl
  | cons _ _ ih => rw [ih, List.length_cons, Nat.add_assoc, Nat.add_comm 1]

theorem Segment.snoc {p q : Nat} {xs : List α} {x : α} (read : Segment found p xs q)
    (here : found q x) : Segment found p (xs ++ [x]) (q + 1) :=
  read.append (.cons here (.nil _))

/-- A stream with one element at each position has one segment between two positions. -/
theorem Segment.unique {p q : Nat} {xs ys : List α}
    (single : ∀ p x y, found p x → found p y → x = y) (first : Segment found p xs q)
    (second : Segment found p ys q) : xs = ys := by
  induction first generalizing ys with
  | nil p =>
    cases second with
    | nil => rfl
    | cons _ rest =>
      have reach := rest.length
      omega
  | cons here rest ih =>
    cases second with
    | nil =>
      have reach := rest.length
      omega
    | cons other after => rw [single _ _ _ here other, ih after]

end Segment

end Certinspect.Library
