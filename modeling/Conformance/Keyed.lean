/-! # Values by key

* `Keyed.put`: a key keeps the place where it first appeared and takes the newest value.
-/

namespace Conformance.Keyed
set_option autoImplicit false

variable {α : Type}

def put (key : String) (a : α) : List (String × α) → List (String × α)
  | [] => [(key, a)]
  | e :: rest => if e.1 = key then (key, a) :: rest else e :: put key a rest

def ofList (l : List (String × α)) : List (String × α) := l.foldl (fun b e => put e.1 e.2 b) []

def get? (l : List (String × α)) (key : String) : Option α :=
  (l.find? fun e => e.1 = key).map Prod.snd

end Conformance.Keyed
