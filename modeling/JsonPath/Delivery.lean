import JsonPath.Statement

/-!
# Delivery of values

The values of a statement are handed out one at a time.  A delivery knows the
items that it has not come to, what is left of the results of the item that it is
at, and whether that item has had a value: only until then do the defaults stand
in for it.  No item is evaluated before its first result is asked for.
-/

namespace JsonPath

/-- Where the delivery of the values of a statement has come to. -/
structure Delivery where
  statement : Statement
  vars : Variables
  defaults : Defaults
  /-- The items after the one that the delivery is at. -/
  items : List Value
  /-- What is left of the results of the item that the delivery is at. -/
  current : Option Results
  /-- Whether that item has had a value. -/
  produced : Bool

namespace Delivery

/-- A delivery in front of its first item. -/
def start (statement : Statement) (vars : Variables) (defaults : Defaults)
    (items : List Value) : Delivery :=
  { statement, vars, defaults, items, current := none, produced := false }

/-- Comes to an item. -/
def comeTo (d : Delivery) (item : Value) (rest : List Value) : Delivery :=
  { d with
    items := rest
    current := some (d.statement.evaluate d.vars item).results
    produced := false }

/-- What the current item delivers next, defaults included.  An error is the last
result of its item. -/
def fromCurrent (d : Delivery) : Option Result × Delivery :=
  match d.current with
  | none => (none, d)
  | some (.ok v :: rest) => (some (.ok v), { d with current := some rest, produced := true })
  | some (.error e :: _) =>
      (some (if d.produced then .error e else Statement.onFailure d.defaults e),
        { d with current := none })
  | some [] =>
      match d.produced, d.defaults.onEmpty with
      | false, some v => (some (.ok v), { d with current := none })
      | _, _ => (none, { d with current := none })

/-- The next result of the current item, or of the first of some items after it that
delivers anything. -/
def search (d : Delivery) (items : List Value) : Option Result × Delivery :=
  match d.fromCurrent with
  | (some r, d') => (some r, d')
  | (none, d') =>
      match items with
      | [] => (none, d')
      | item :: rest => search (d'.comeTo item rest) rest

/-- The next result; none when the items have come to their end. -/
def next (d : Delivery) : Option Result × Delivery := d.search d.items

/-- The next results, as many as are asked for. -/
def take (d : Delivery) : Nat → List (Option Result) × Delivery
  | 0 => ([], d)
  | count + 1 =>
      let (r, d') := d.next
      let (rs, d'') := d'.take count
      (r :: rs, d'')

/-- All results that have not been delivered. -/
def remaining (d : Delivery) : Results :=
  (match d.current with
    | none => []
    | some results => Statement.deliver d.defaults d.produced results) ++
    d.statement.values d.vars d.defaults d.items

end Delivery

end JsonPath
