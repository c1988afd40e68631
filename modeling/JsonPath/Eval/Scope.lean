import JsonPath.Eval.Result

/-!
# Scopes

What the references of a statement stand for at some place of an evaluation.
-/

namespace JsonPath

/-- Values of named variables. -/
abbrev Variables := Members

namespace Variables

/-- Sets a variable, and its value before. -/
def set (name : String) (v : Value) (vars : Variables) : Variables :=
  Members.insert name v vars

/-- Removes a variable. -/
def unset (name : String) (vars : Variables) : Variables :=
  vars.filter fun (n, _) => n != name

end Variables

/-- What the references of an expression stand for. -/
structure Scope where
  /-- The item that is evaluated. -/
  root : Value
  vars : Variables
  /-- The candidate of the innermost filter. -/
  current : Option Value := none
  /-- The length of the innermost array that is being subscripted. -/
  length : Option Nat := none

namespace Scope

/-- What `@` stands for; the root outside a filter. -/
def candidate (s : Scope) : Value := s.current.getD s.root

/-- What `last` stands for; nothing outside a subscript. -/
def lastIndex (s : Scope) : Sequence :=
  match s.length with
  | some n => .single (.integer (.ofInt ((n : Int) - 1)))
  | none => .empty

/-- The value of a variable. -/
def lookup (s : Scope) (name : String) : Result :=
  match Members.get? s.vars name with
  | some v => .ok v
  | none => .error (.unknownVariable name)

/-- The scope of a filter for one candidate. -/
def withCurrent (s : Scope) (v : Value) : Scope := { s with current := some v }

/-- The scope of the subscripts of an array. -/
def withLength (s : Scope) (n : Nat) : Scope := { s with length := some n }

end Scope

end JsonPath
