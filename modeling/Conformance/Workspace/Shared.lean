import Conformance.Workspace

/-! # The shared workspace

A workspace for callers that bring none of their own. It is made when it is first asked for, and
can be given up; whether it is still the one that was remembered can be asked.
-/

namespace Conformance
set_option autoImplicit false

structure SharedWorkspace where
  current : Option Workspace
  /-- The current workspace is the remembered one. -/
  isRemembered : Bool

namespace SharedWorkspace

/-- A fresh workspace, which is remembered. -/
def initial : SharedWorkspace := ⟨some (.new none none), true⟩

def get (s : SharedWorkspace) : Workspace := s.current.getD (.new none none)

/-- The shared workspace with its state replaced. -/
def set (s : SharedWorkspace) (w : Workspace) : SharedWorkspace := { s with current := some w }

/-- Gives the workspace up; the reset of a workspace that is there is reported. -/
def discard (s : SharedWorkspace) : SharedWorkspace × List Event :=
  (⟨none, false⟩, if s.current.isSome then [.reset] else [])

/-- Whether the workspace is the remembered one; from now on it is. -/
def remember (s : SharedWorkspace) : Bool × SharedWorkspace :=
  (s.isRemembered, ⟨some s.get, true⟩)

end SharedWorkspace

end Conformance
