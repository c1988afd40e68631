import JsonPath.Value

/-!
# All through a value

`Value.Everywhere` tests every number and every date-time in a value, however deep it
stands, and asks for distinct keys in every object.  With different tests it says what
equality, evaluation and JSON texts need of a value: `Regular`, `DistinctKeys` and
`Representable`.

`Value.depth` counts the containers that stand around one another.
-/

namespace JsonPath.Value

/-! ## Tests of the leaves -/

/-- The numbers in a value that are not integers pass the one test and its date-times the
other, and no object in it has a key twice. -/
inductive Everywhere (number : Binary64 → Prop) (dateTime : DateTime → Prop) : Value → Prop where
  | null : Everywhere number dateTime .null
  | boolean (b : Bool) : Everywhere number dateTime (.boolean b)
  | integer (n : Int64) : Everywhere number dateTime (.integer n)
  | number {x : Binary64} (h : number x) : Everywhere number dateTime (.number x)
  | string (s : String) : Everywhere number dateTime (.string s)
  | array {items : List Value} (h : ∀ v ∈ items, Everywhere number dateTime v) :
      Everywhere number dateTime (.array items)
  | object {members : Members} (hkeys : (members.map Prod.fst).Nodup)
      (h : ∀ m ∈ members, Everywhere number dateTime m.2) :
      Everywhere number dateTime (.object members)
  | dateTime {d : DateTime} (h : dateTime d) : Everywhere number dateTime (.dateTime d)

namespace Everywhere

variable {number number' : Binary64 → Prop} {dateTime dateTime' : DateTime → Prop} {v : Value}

/-- What passes two tests passes any that follows from them. -/
theorem and {number'' : Binary64 → Prop} {dateTime'' : DateTime → Prop}
    (h : v.Everywhere number dateTime) (h' : v.Everywhere number' dateTime')
    (hnumber : ∀ x, number x → number' x → number'' x)
    (hdateTime : ∀ d, dateTime d → dateTime' d → dateTime'' d) :
    v.Everywhere number'' dateTime'' := by
  induction h with
  | null => exact .null
  | boolean b => exact .boolean b
  | integer n => exact .integer n
  | number h =>
      cases h' with
      | number h' => exact .number (hnumber _ h h')
  | string s => exact .string s
  | array _ ih =>
      cases h' with
      | array h' => exact .array fun v hv => ih v hv (h' v hv)
  | object hkeys _ ih =>
      cases h' with
      | object _ h' => exact .object hkeys fun m hm => ih m hm (h' m hm)
  | dateTime h =>
      cases h' with
      | dateTime h' => exact .dateTime (hdateTime _ h h')

theorem mono (h : v.Everywhere number dateTime) (hnumber : ∀ x, number x → number' x)
    (hdateTime : ∀ d, dateTime d → dateTime' d) : v.Everywhere number' dateTime' :=
  h.and h (fun x hx _ => hnumber x hx) fun d hd _ => hdateTime d hd

end Everywhere

/-- No NaN is anywhere in a value, and no object in it has a key twice. -/
def Regular : Value → Prop := Everywhere (· ≠ .nan) fun _ => True

/-- No object in a value has a key twice. -/
def DistinctKeys : Value → Prop := Everywhere (fun _ => True) fun _ => True

/-- No date-time and no number that is not finite is anywhere in a value, and no object
in it has a key twice. -/
def Representable : Value → Prop := Everywhere (·.isFinite = true) fun _ => False

theorem Regular.distinctKeys {v : Value} (h : v.Regular) : v.DistinctKeys :=
  h.mono (fun _ _ => trivial) fun _ _ => trivial

theorem Representable.distinctKeys {v : Value} (h : v.Representable) : v.DistinctKeys :=
  h.mono (fun _ _ => trivial) fun _ _ => trivial

/-! ## Depth -/

mutual

/-- How many containers stand around one another in a value. -/
def depth : Value → Nat
  | .array items => itemsDepth items + 1
  | .object members => membersDepth members + 1
  | _ => 0

/-- The greatest depth of some elements. -/
def itemsDepth : List Value → Nat
  | [] => 0
  | v :: rest => max v.depth (itemsDepth rest)

/-- The greatest depth of the values of some members. -/
def membersDepth : List (String × Value) → Nat
  | [] => 0
  | (_, v) :: rest => max v.depth (membersDepth rest)

end

theorem depth_le_itemsDepth {items : List Value} {v : Value} (h : v ∈ items) :
    v.depth ≤ itemsDepth items := by
  induction items with
  | nil => cases h
  | cons w rest ih =>
      rw [itemsDepth]
      rcases List.mem_cons.1 h with rfl | hrest
      · exact Nat.le_max_left _ _
      · exact Nat.le_trans (ih hrest) (Nat.le_max_right _ _)

theorem depth_le_membersDepth {members : Members} {m : String × Value} (h : m ∈ members) :
    m.2.depth ≤ membersDepth members := by
  induction members with
  | nil => cases h
  | cons n rest ih =>
      rw [membersDepth]
      rcases List.mem_cons.1 h with rfl | hrest
      · exact Nat.le_max_left _ _
      · exact Nat.le_trans (ih hrest) (Nat.le_max_right _ _)

end JsonPath.Value
