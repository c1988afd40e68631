/-!
# Three-valued truth

Predicates are true, false or unknown.  The connectives are not Kleene's: an
unknown operand counts as false under `all` and `some`, and the negation of
unknown is true.  Operands may also be errors, which are reached from left to
right.
-/

namespace JsonPath

/-- The truth values of SQL: a predicate may be neither true nor false. -/
inductive Truth where
  | holds
  | fails
  | unknown
  deriving DecidableEq, Repr

namespace Truth

/-- A truth value that is known. -/
def ofBool (b : Bool) : Truth := if b then holds else fails

/-- Over the outcomes of a sequence: true if any is true, else unknown if any is
unknown, else false. -/
def any : List Truth → Truth
  | [] => fails
  | outcome :: rest =>
      match outcome, any rest with
      | holds, _ => holds
      | _, holds => holds
      | unknown, _ => unknown
      | fails, tail => tail

/-- True when every operand is; the first one that is not, or is an error,
decides. -/
def conjunction {ε : Type} : List (Except ε Truth) → Except ε Truth
  | [] => .ok holds
  | .error e :: _ => .error e
  | .ok holds :: rest => conjunction rest
  | .ok _ :: _ => .ok fails

/-- True when some operand is; the first one that is, or is an error,
decides. -/
def disjunction {ε : Type} : List (Except ε Truth) → Except ε Truth
  | [] => .ok fails
  | .error e :: _ => .error e
  | .ok holds :: _ => .ok holds
  | .ok _ :: rest => disjunction rest

/-- The negation of unknown is true. -/
def negate : Truth → Truth
  | holds => fails
  | fails | unknown => holds

/-- The test `is unknown`, whose own outcome is always known. -/
def isUnknown (t : Truth) : Truth := ofBool (t == unknown)

/-- Whether a sequence has results: unknown if any of them is an error.  An
error that `fatal` names is passed on instead. -/
def existence {ε α : Type} (fatal : ε → Bool) : List (Except ε α) → Except ε Truth
  | [] => .ok fails
  | .error e :: _ => if fatal e then .error e else .ok unknown
  | .ok _ :: rest =>
      match existence fatal rest with
      | .error e => .error e
      | .ok unknown => .ok unknown
      | .ok _ => .ok holds

end Truth

end JsonPath
