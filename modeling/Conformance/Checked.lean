/-! # Checked reading

Reading a document collects every complaint, each with the place it is about.

* `Checked`: a value, or the complaints in order.
* `Checked.under`: complaints about a part become complaints about the whole.
-/

namespace Conformance
set_option autoImplicit false

/-- One step on the way to a place: a key or an index. -/
inductive Place where
  | key (name : String)
  | index (i : Nat)
  deriving DecidableEq

/-- What can be wrong with a value. -/
inductive Complaint where
  | missing
  /-- A text was expected. -/
  | noText
  /-- A list was expected. -/
  | noList
  /-- A mapping was expected. -/
  | noRecord
  /-- Not one of the allowed texts. -/
  | notAllowed
  /-- A truth value was expected. -/
  | noTruthValue
  /-- A number or text that stands for no truth value. -/
  | unreadableTruthValue
  deriving DecidableEq

structure Issue where
  place : List Place
  complaint : Complaint
  deriving DecidableEq

inductive Checked (α : Type) where
  | ok (a : α)
  | issues (list : List Issue)

namespace Checked

/-- Complaints of both sides are kept, those of the left side first. -/
def combine {α β : Type} (f : Checked (α → β)) (x : Checked α) : Checked β :=
  match f, x with
  | ok f, ok a => ok (f a)
  | ok _, issues l => issues l
  | issues l, ok _ => issues l
  | issues l, issues m => issues (l ++ m)

instance : Applicative Checked where
  pure := ok
  seq f x := combine f (x ())

def fail {α : Type} (c : Complaint) : Checked α := issues [⟨[], c⟩]

def under {α : Type} (p : Place) : Checked α → Checked α
  | ok a => ok a
  | issues l => issues (l.map fun i => { i with place := p :: i.place })

/-- Reads the items of a list, each under its index from `i` on. -/
def each {α β : Type} (read : α → Checked β) : Nat → List α → Checked (List β)
  | _, [] => ok []
  | i, a :: rest => combine (combine (ok List.cons) (under (.index i) (read a))) (each read (i + 1) rest)

end Checked

end Conformance
