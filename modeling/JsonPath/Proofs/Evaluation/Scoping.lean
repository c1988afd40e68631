import JsonPath.Proofs.Evaluation.References

/-!
# Lexical scopes

`@` and `last` are bound like local variables.  A predicate that is evaluated for a
candidate gives what it gives with a variable in the place of its free `@`, and an
index that is evaluated for an array gives what it gives with a number in the place
of its free `last`.  Filters and subscripts inside keep their own `@` and `last`, and
behind them the outer ones stand for what they stood for before.

Both are cases of `Expr.eval_replace`.
-/

namespace JsonPath

/-! ## The candidate as a variable -/

theorem Members.get?_cons (key name : String) (v : Value) (members : Members) :
    Members.get? ((key, v) :: members) name =
      if name = key then some v else Members.get? members name := by
  rw [Members.get?, List.lookup_cons]
  by_cases h : name = key
  · simp [h]
  · simp [h, beq_false_of_ne h, Members.get?]

/-- The members after one has been set. -/
theorem Members.get?_insert (key name : String) (v : Value) (members : Members) :
    Members.get? (Members.insert key v members) name =
      if name = key then some v else Members.get? members name := by
  induction members with
  | nil => rw [Members.insert, get?_cons]
  | cons member rest ih =>
      obtain ⟨k, w⟩ := member
      rw [Members.insert]
      by_cases hkey : k = key
      · subst hkey
        rw [if_pos rfl, get?_cons, get?_cons]
        by_cases hname : name = k <;> simp [hname]
      · rw [if_neg hkey, get?_cons, get?_cons, ih]
        by_cases hname : name = k
        · subst hname
          simp [hkey]
        · simp [hname]

/-- A scope with one more variable. -/
def Scope.bind (s : Scope) (name : String) (v : Value) : Scope :=
  { s with vars := s.vars.set name v }

theorem Scope.lookup_bind (s : Scope) (name other : String) (v : Value) :
    (s.bind name v).lookup other = if other = name then .ok v else s.lookup other := by
  simp only [Scope.lookup, Scope.bind, Variables.set, Members.get?_insert]
  by_cases h : other = name <;> simp [h]

/-- The variable for the candidate yields the candidate. -/
theorem represents_bind (mode : Mode) (s : Scope) (v : Value) (name : String) :
    Replacement.Represents { current := .variable name } mode (s.withCurrent v)
      (s.bind name v) := by
  constructor
  · intro length
    show Sequence.ofResult ((s.bind name v).lookup name) = .single v
    rw [Scope.lookup_bind, if_pos rfl]
    rfl
  · intro current
    rfl

/-- A new variable is seen by nobody who does not name it. -/
theorem agreeOn_bind {gs : List Global} {name : String} (h : .named name ∉ gs) (s : Scope)
    (v : Value) : (s.withCurrent v).AgreeOn (s.bind name v) gs := by
  intro g hg
  cases g with
  | root => rfl
  | named other =>
      have hne : other ≠ name := by
        rintro rfl
        exact h hg
      show s.lookup other = (s.bind name v).lookup other
      rw [Scope.lookup_bind, if_neg hne]

/-- The candidate of a filter is a variable of its predicate, which the predicates of
filters inside do not see: they have candidates of their own. -/
theorem current_lexically_scoped (mode : Mode) (s : Scope) (c : Value) (p : Predicate)
    (x : String) (hx : .named x ∉ p.globals) :
    p.truth mode (s.withCurrent c) =
      (p.replace { current := .variable x }).truth mode (s.bind x c) ∧
    ∀ v, (Accessor.filter p).apply mode (s.withCurrent c) v =
      .deferred ((candidates mode v).flatMap fun own =>
        kept own ((p.replace { current := .variable x }).truth mode (s.bind x own))) := by
  have htruth (candidate : Value) : p.truth mode (s.withCurrent candidate) =
      (p.replace { current := .variable x }).truth mode (s.bind x candidate) :=
    (p.truth_replace (represents_bind mode s candidate x) (agreeOn_bind hx s candidate)).symm
  refine ⟨htruth c, fun v => ?_⟩
  -- the inner candidate takes the place of the outer one
  have hinner (own : Value) : (s.withCurrent c).withCurrent own = s.withCurrent own := rfl
  simp only [Accessor.apply, hinner, htruth]

/-- A filter between two references to the outer candidate. -/
theorem current_lexically_scoped_around_filter :
    let c : Value := .object [("a", .integer 1), ("b", .array [.integer 2, .integer 3])]
    let s : Scope := { root := .null, vars := [("x", .integer 7)] }
    let inner : Predicate := .compare .greater .current (.variable "x")
    let p : Predicate := .conjunction
      [.compare .equal (.access .current (.member "a")) (.integer 1),
        .negation (.existence (.access (.access .current (.member "b")) (.filter inner))),
        .compare .equal (.access .current (.member "a")) (.integer 1)]
    .named "candidate" ∉ p.globals ∧ p.truth .lax (s.withCurrent c) = .ok .holds ∧
      (p.replace { current := .variable "candidate" }).truth .lax (s.bind "candidate" c) =
        .ok .holds := by
  intro c s inner p
  have hx : .named "candidate" ∉ p.globals := by decide
  have hholds : p.truth .lax (s.withCurrent c) = .ok .holds := rfl
  have hscoped := (current_lexically_scoped .lax s c p "candidate" hx).1
  exact ⟨hx, hholds, hscoped.symm.trans hholds⟩

/-! ## The last index as a number -/

/-- The greatest index of an array of some length, as it is written. -/
def Expr.lastOf (length : Nat) : Expr := .integer (.ofInt ((length : Int) - 1))

theorem Expr.lastOf_eq (length : Nat) (k : Int64) (h : k.toInt = (length : Int) - 1) :
    lastOf length = .integer k := by
  rw [lastOf, ← h, Int64.ofInt_toInt]

/-- The number yields what `last` yields. -/
theorem represents_lastOf (mode : Mode) (s : Scope) (n : Nat) :
    Replacement.Represents { last := .lastOf n } mode (s.withLength n) s := by
  constructor
  · intro length
    rfl
  · intro current
    rfl

theorem agreeOn_withLength (s : Scope) (n : Nat) (gs : List Global) :
    (s.withLength n).AgreeOn s gs :=
  fun g _ => s.global_withLength n g

/-- The indices of a subscript have the last index of the array that it is applied
to, whatever array is being subscripted around it. -/
theorem selectAll_lastOf (mode : Mode) (s : Scope) (items : List Value) (subs : List Subscript) :
    selectAll mode (s.withLength items.length) items subs =
      selectAll mode s items (subscriptsReplace { last := .lastOf items.length } subs) :=
  (selectAll_replace subs (represents_lastOf mode s items.length)
    (agreeOn_withLength s items.length _) items).symm

/-- `last` is the number of the greatest index in every place where it is free.  A
subscript inside has the array that it is applied to, which in lax mode may be one
of a single value. -/
theorem last_lexically_scoped (mode : Mode) (s : Scope) :
    (∀ (n : Nat) (k : Int64), k.toInt = (n : Int) - 1 → Expr.lastOf n = .integer k) ∧
    (∀ (e : Expr) (n : Nat), e.eval mode (s.withLength n) =
      (e.replace { last := .lastOf n }).eval mode s) ∧
    (∀ subs v items, subscripted mode v = .ok items →
      (Accessor.subscripts subs).apply mode s v = .ofExcept
        (selectAll mode s items (subscriptsReplace { last := .lastOf items.length } subs))) ∧
    ∀ subs v, (∀ items, v ≠ .array items) →
      (Accessor.subscripts subs).apply .lax s v = .ofExcept
        (selectAll .lax s [v] (subscriptsReplace { last := .integer 0 } subs)) := by
  refine ⟨Expr.lastOf_eq, fun e n => ?_, fun subs v items hitems => ?_, fun subs v hv => ?_⟩
  · exact (e.eval_replace (represents_lastOf mode s n) (agreeOn_withLength s n _)).symm
  · simp only [Accessor.apply, hitems, selectAll_lastOf]
  · have hitems : subscripted .lax v = .ok [v] := by
      cases v with
      | array items => exact absurd rfl (hv items)
      | _ => rfl
    have hzero : Expr.lastOf [v].length = .integer 0 := rfl
    simp only [Accessor.apply, hitems, selectAll_lastOf, hzero]

/-- The last element of an array of three, and then the last index of an array of
two; the last of two elements; and a number for an array of its own. -/
theorem last_lexically_scoped_nested :
    let s : Scope :=
      { root := .array [.array [.integer 10, .integer 20, .integer 30]], vars := [] }
    let inner : Expr := .access (.access .root (.subscripts [.indices (.integer 0)]))
      (.subscripts [.indices .last])
    let pair : List Value := [.integer 40, .integer 50]
    (1 : Int64).toInt = (2 : Nat) - 1 ∧
      (Expr.binary .add inner .last).eval .strict (s.withLength 2) = .single (.integer 31) ∧
      (Expr.binary .add inner (.integer 1)).eval .strict s = .single (.integer 31) ∧
      subscripted .strict (.array pair) = .ok pair ∧
      (Accessor.subscripts [.indices .last]).apply .strict s (.array pair) =
        .ofExcept (.ok [.integer 50]) ∧
      (∀ items, Value.integer 5 ≠ .array items) ∧
      (Accessor.subscripts [.indices .last]).apply .lax s (.integer 5) =
        .ofExcept (.ok [.integer 5]) := by
  intro s inner pair
  obtain ⟨hnumber, hexpr, hsubscripts, -⟩ := last_lexically_scoped .strict s
  obtain ⟨-, -, -, hsingle⟩ := last_lexically_scoped .lax s
  have hindex : (1 : Int64).toInt = (2 : Nat) - 1 := rfl
  have heval : (Expr.binary .add inner .last).eval .strict (s.withLength 2) =
      .single (.integer 31) := rfl
  have hreplaced := hexpr (.binary .add inner .last) 2
  rw [hnumber 2 1 hindex, heval] at hreplaced
  have hpair : subscripted .strict (.array pair) = .ok pair := rfl
  have hfive : ∀ items, Value.integer 5 ≠ .array items := nofun
  refine ⟨hindex, heval, hreplaced.symm, hpair, ?_, hfive, ?_⟩
  · rw [hsubscripts [.indices .last] (.array pair) pair hpair]
    rfl
  · rw [hsingle [.indices .last] (.integer 5) hfive]
    rfl

end JsonPath
