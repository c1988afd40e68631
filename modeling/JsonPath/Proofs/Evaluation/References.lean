import JsonPath.Proofs.Evaluation.Sequencing
import JsonPath.Proofs.Parsing.Grammar

/-!
# References and what they are replaced with

An expression refers to four things.  The item and the variables are the same in
every scope of an evaluation (`Global`).  The candidate and the last index belong to
the innermost filter and to the innermost subscript: a reference to one of them is
free where no filter, or no subscript, of the expression itself stands around it.

`replace` puts expressions in the place of the free references.  Its law is
`Expr.eval_replace` with its companions, one induction over the whole syntax: if the
replacements yield in a scope what the references yield in another one
(`Replacement.Represents`), and the scopes agree on the globals that occur, then the
results are the same.  With the references in their own places it says when two scopes
yield the same.
-/

namespace JsonPath

open JsonPath.Parser (Nesting)

/-! ## Globals -/

/-- What all scopes of an evaluation have in common. -/
inductive Global where
  /-- The item. -/
  | root
  /-- A variable. -/
  | named (name : String)
  deriving DecidableEq

/-- What a global stands for. -/
def Scope.global (s : Scope) : Global → Result
  | .root => .ok s.root
  | .named name => s.lookup name

mutual

/-- The globals that occur in an expression, in filters and subscripts too. -/
def Expr.globals : Expr → List Global
  | .integer _ | .number _ | .string _ | .boolean _ | .null | .current | .last => []
  | .root => [.root]
  | .variable name => [.named name]
  | .signed _ operand => operand.globals
  | .binary _ left right => left.globals ++ right.globals
  | .access base step => base.globals ++ step.globals

/-- The globals that occur in an accessor. -/
def Accessor.globals : Accessor → List Global
  | .member _ | .memberWildcard | .elementWildcard | .method _ | .dateTime _ => []
  | .subscripts subs => subscriptsGlobals subs
  | .filter condition => condition.globals

/-- The globals that occur in some subscripts. -/
def subscriptsGlobals : List Subscript → List Global
  | [] => []
  | sub :: subs => sub.globals ++ subscriptsGlobals subs

/-- The globals that occur in a subscript. -/
def Subscript.globals : Subscript → List Global
  | .indices positions => positions.globals
  | .range low high => low.globals ++ high.globals

/-- The globals that occur in a predicate. -/
def Predicate.globals : Predicate → List Global
  | .compare _ left right => left.globals ++ right.globals
  | .existence operand => operand.globals
  | .startsWith subject start => subject.globals ++ start.globals
  | .likeRegex subject _ => subject.globals
  | .conjunction operands | .disjunction operands => predicatesGlobals operands
  | .negation operand | .isUnknown operand => operand.globals
  | .condition e => e.globals

/-- The globals that occur in some predicates. -/
def predicatesGlobals : List Predicate → List Global
  | [] => []
  | p :: ps => p.globals ++ predicatesGlobals ps

end

/-! ## Replacement -/

/-- What is put in the place of free references. -/
structure Replacement where
  /-- For `@`. -/
  current : Expr := .current
  /-- For `last`. -/
  last : Expr := .last

mutual

/-- An expression with its free references replaced.  The predicate of a filter has
an `@` of its own, and the indices of a subscript have a `last` of their own. -/
def Expr.replace (r : Replacement) : Expr → Expr
  | .integer n => .integer n
  | .number x => .number x
  | .string t => .string t
  | .boolean b => .boolean b
  | .null => .null
  | .root => .root
  | .current => r.current
  | .last => r.last
  | .variable name => .variable name
  | .signed op operand => .signed op (operand.replace r)
  | .binary op left right => .binary op (left.replace r) (right.replace r)
  | .access base step => .access (base.replace r) (step.replace r)

/-- Replaces the free references of an accessor: no `last` of a subscript, no `@` of a filter. -/
def Accessor.replace (r : Replacement) : Accessor → Accessor
  | .member name => .member name
  | .memberWildcard => .memberWildcard
  | .elementWildcard => .elementWildcard
  | .subscripts subs => .subscripts (subscriptsReplace { r with last := .last } subs)
  | .filter condition => .filter (condition.replace { r with current := .current })
  | .method m => .method m
  | .dateTime template => .dateTime template

/-- Replaces the free references of some subscripts. -/
def subscriptsReplace (r : Replacement) : List Subscript → List Subscript
  | [] => []
  | sub :: subs => sub.replace r :: subscriptsReplace r subs

/-- Replaces the free references of a subscript. -/
def Subscript.replace (r : Replacement) : Subscript → Subscript
  | .indices positions => .indices (positions.replace r)
  | .range low high => .range (low.replace r) (high.replace r)

/-- Replaces the free references of a predicate. -/
def Predicate.replace (r : Replacement) : Predicate → Predicate
  | .compare op left right => .compare op (left.replace r) (right.replace r)
  | .existence operand => .existence (operand.replace r)
  | .startsWith subject start => .startsWith (subject.replace r) (start.replace r)
  | .likeRegex subject pattern => .likeRegex (subject.replace r) pattern
  | .conjunction operands => .conjunction (predicatesReplace r operands)
  | .disjunction operands => .disjunction (predicatesReplace r operands)
  | .negation operand => .negation (operand.replace r)
  | .isUnknown operand => .isUnknown (operand.replace r)
  | .condition e => .condition (e.replace r)

/-- Replaces the free references of some predicates. -/
def predicatesReplace (r : Replacement) : List Predicate → List Predicate
  | [] => []
  | p :: ps => p.replace r :: predicatesReplace r ps

end

/-! ## Two scopes -/

variable {mode : Mode} {r : Replacement} {s t : Scope}

/-- In `t` the replacements yield what the references yield in `s`.  That for `@`
does so whatever array is being subscripted there, and that for `last` whatever the
candidate is, since a free `@` may stand in a subscript and a free `last` in a
filter. -/
structure Replacement.Represents (r : Replacement) (mode : Mode) (s t : Scope) : Prop where
  current : ∀ length, r.current.eval mode { t with length } = .single s.candidate
  last : ∀ current, r.last.eval mode { t with current } = s.lastIndex

/-- A filter takes the place of whatever `@` has been replaced with. -/
theorem Replacement.Represents.withCurrent (h : r.Represents mode s t) (v : Value) :
    Represents { r with current := .current } mode (s.withCurrent v) (t.withCurrent v) := by
  constructor
  · intro length
    rfl
  · intro current
    exact h.last current

/-- A subscript takes the place of whatever `last` has been replaced with. -/
theorem Replacement.Represents.withLength (h : r.Represents mode s t) (n : Nat) :
    Represents { r with last := .last } mode (s.withLength n) (t.withLength n) := by
  constructor
  · intro length
    exact h.current length
  · intro current
    rfl

/-- A candidate is not among the globals. -/
theorem Scope.global_withCurrent (s : Scope) (v : Value) (g : Global) :
    (s.withCurrent v).global g = s.global g := by
  cases g <;> rfl

/-- A length is not among the globals. -/
theorem Scope.global_withLength (s : Scope) (n : Nat) (g : Global) :
    (s.withLength n).global g = s.global g := by
  cases g <;> rfl

/-- The scopes agree on some globals. -/
def Scope.AgreeOn (s t : Scope) (globals : List Global) : Prop :=
  ∀ g ∈ globals, s.global g = t.global g

namespace Scope.AgreeOn

variable {gs hs : List Global}

theorem left (h : AgreeOn s t (gs ++ hs)) : AgreeOn s t gs :=
  fun g hg => h g (List.mem_append_left _ hg)

theorem right (h : AgreeOn s t (gs ++ hs)) : AgreeOn s t hs :=
  fun g hg => h g (List.mem_append_right _ hg)

theorem withCurrent (h : AgreeOn s t gs) (v : Value) :
    AgreeOn (s.withCurrent v) (t.withCurrent v) gs := by
  intro g hg
  rw [global_withCurrent, global_withCurrent, h g hg]

theorem withLength (h : AgreeOn s t gs) (n : Nat) :
    AgreeOn (s.withLength n) (t.withLength n) gs := by
  intro g hg
  rw [global_withLength, global_withLength, h g hg]

end Scope.AgreeOn

/-! ## Evaluation after replacement -/

mutual

theorem Expr.eval_replace : ∀ (e : Expr) {r : Replacement} {s t : Scope},
    r.Represents mode s t → s.AgreeOn t e.globals → (e.replace r).eval mode t = e.eval mode s
  | .integer _, _, _, _, _, _ | .number _, _, _, _, _, _ | .string _, _, _, _, _, _
  | .boolean _, _, _, _, _, _ | .null, _, _, _, _, _ => rfl
  | .root, _, s, t, _, hg => by
      have hroot : (.ok s.root : Result) = .ok t.root := hg .root List.mem_cons_self
      injection hroot with hroot
      rw [Expr.replace, Expr.eval, Expr.eval, hroot]
  | .current, _, _, t, h, _ => h.current t.length
  | .last, _, _, t, h, _ => h.last t.current
  | .variable name, _, s, t, _, hg => by
      have hlookup : s.lookup name = t.lookup name := hg (.named name) List.mem_cons_self
      rw [Expr.replace, Expr.eval, Expr.eval, hlookup]
  | .signed op operand, _, _, _, h, hg => by
      rw [Expr.replace, Expr.eval, Expr.eval, operand.eval_replace h hg]
  | .binary op left right, _, _, _, h, hg => by
      rw [Expr.replace, Expr.eval, Expr.eval, left.eval_replace h hg.left,
        right.eval_replace h hg.right]
  | .access base step, _, _, _, h, hg => by
      rw [Expr.replace, Expr.eval, Expr.eval, base.eval_replace h hg.left,
        funext fun v => step.apply_replace h hg.right v]

theorem Accessor.apply_replace : ∀ (step : Accessor) {r : Replacement} {s t : Scope},
    r.Represents mode s t → s.AgreeOn t step.globals → ∀ v,
      (step.replace r).apply mode t v = step.apply mode s v
  | .member _, _, _, _, _, _, _ | .memberWildcard, _, _, _, _, _, _
  | .elementWildcard, _, _, _, _, _, _ | .method _, _, _, _, _, _, _
  | .dateTime _, _, _, _, _, _, _ => rfl
  | .subscripts subs, _, _, _, h, hg, v => by
      rw [Accessor.replace, Accessor.apply, Accessor.apply]
      cases subscripted mode v with
      | error e => rfl
      | ok items =>
          have hselect := selectAll_replace subs (h.withLength items.length)
            (hg.withLength items.length) items
          simp only [hselect]
  | .filter condition, r, s, t, h, hg, v => by
      have htruth (candidate : Value) :
          (condition.replace { r with current := .current }).truth mode (t.withCurrent candidate) =
            condition.truth mode (s.withCurrent candidate) :=
        condition.truth_replace (h.withCurrent candidate) (hg.withCurrent candidate)
      simp only [Accessor.replace, Accessor.apply, htruth]

theorem selectAll_replace : ∀ (subs : List Subscript) {r : Replacement} {s t : Scope},
    r.Represents mode s t → s.AgreeOn t (subscriptsGlobals subs) → ∀ items,
      selectAll mode t items (subscriptsReplace r subs) = selectAll mode s items subs
  | [], _, _, _, _, _, _ => rfl
  | sub :: subs, _, _, _, h, hg, items => by
      rw [subscriptsReplace, selectAll_cons, selectAll_cons, sub.select_replace h hg.left items,
        selectAll_replace subs h hg.right items]

theorem Subscript.select_replace : ∀ (sub : Subscript) {r : Replacement} {s t : Scope},
    r.Represents mode s t → s.AgreeOn t sub.globals → ∀ items,
      (sub.replace r).select mode t items = sub.select mode s items
  | .indices positions, _, _, _, h, hg, items => by
      rw [Subscript.replace, Subscript.select, Subscript.select, positions.eval_replace h hg]
  | .range low high, _, _, _, h, hg, items => by
      rw [Subscript.replace, select_range, select_range, low.eval_replace h hg.left,
        high.eval_replace h hg.right]

theorem Predicate.truth_replace : ∀ (p : Predicate) {r : Replacement} {s t : Scope},
    r.Represents mode s t → s.AgreeOn t p.globals →
      (p.replace r).truth mode t = p.truth mode s
  | .compare _ left right, _, _, _, h, hg => by
      rw [Predicate.replace, truth_compare, truth_compare, left.eval_replace h hg.left,
        right.eval_replace h hg.right]
  | .existence operand, _, _, _, h, hg => by
      rw [Predicate.replace, Predicate.truth, Predicate.truth, operand.eval_replace h hg]
  | .startsWith subject start, _, _, _, h, hg => by
      rw [Predicate.replace, truth_startsWith, truth_startsWith, subject.eval_replace h hg.left,
        start.eval_replace h hg.right]
  | .likeRegex subject _, _, _, _, h, hg => by
      rw [Predicate.replace, truth_likeRegex, truth_likeRegex, subject.eval_replace h hg]
  | .conjunction operands, _, _, _, h, hg => by
      rw [Predicate.replace, Predicate.truth, Predicate.truth, truths_replace operands h hg]
  | .disjunction operands, _, _, _, h, hg => by
      rw [Predicate.replace, Predicate.truth, Predicate.truth, truths_replace operands h hg]
  | .negation operand, _, _, _, h, hg => by
      rw [Predicate.replace, truth_negation, truth_negation, operand.truth_replace h hg]
  | .isUnknown operand, _, _, _, h, hg => by
      rw [Predicate.replace, truth_isUnknown, truth_isUnknown, operand.truth_replace h hg]
  | .condition e, _, _, _, h, hg => by
      rw [Predicate.replace, truth_condition, truth_condition, e.eval_replace h hg]

theorem truths_replace : ∀ (ps : List Predicate) {r : Replacement} {s t : Scope},
    r.Represents mode s t → s.AgreeOn t (predicatesGlobals ps) →
      truths mode t (predicatesReplace r ps) = truths mode s ps
  | [], _, _, _, _, _ => rfl
  | p :: ps, _, _, _, h, hg => by
      rw [predicatesReplace, truths, truths, p.truth_replace h hg.left,
        truths_replace ps h hg.right]

end

/-! ## Replacing nothing

Where every reference that may occur keeps its place, an expression stays as it is, so
that `Expr.eval_replace` also compares two scopes on one expression. -/

/-- The references that may occur at a place are put in their own places. -/
structure Replacement.Keeps (r : Replacement) (c : Nesting) : Prop where
  current : c.inFilter = true → r.current = .current
  last : c.inSubscript = true → r.last = .last

namespace Replacement.Keeps

variable {c : Nesting}

/-- Where every reference may occur, none is replaced. -/
theorem anywhere : Keeps {} { inFilter := true, inSubscript := true } :=
  ⟨fun _ => rfl, fun _ => rfl⟩

/-- Where no reference may occur, there is none to keep. -/
theorem nowhere (r : Replacement) : r.Keeps { inFilter := false, inSubscript := false } :=
  ⟨fun h => absurd h Bool.false_ne_true, fun h => absurd h Bool.false_ne_true⟩

theorem withCurrent (h : r.Keeps c) :
    Keeps { r with current := .current } { c with inFilter := true } :=
  ⟨fun _ => rfl, h.last⟩

theorem withLength (h : r.Keeps c) :
    Keeps { r with last := .last } { c with inSubscript := true } :=
  ⟨h.current, fun _ => rfl⟩

end Replacement.Keeps

mutual

theorem Expr.replace_of_keeps : ∀ (e : Expr) {r : Replacement} {c : Nesting},
    r.Keeps c → e.Scoped c → e.replace r = e
  | .integer _, _, _, _, _ | .number _, _, _, _, _ | .string _, _, _, _, _
  | .boolean _, _, _, _, _ | .null, _, _, _, _ | .root, _, _, _, _
  | .variable _, _, _, _, _ => rfl
  | .current, _, _, h, hc => h.current hc
  | .last, _, _, h, hc => h.last hc
  | .signed op operand, _, _, h, hc => congrArg (Expr.signed op) (operand.replace_of_keeps h hc)
  | .binary op left right, _, _, h, hc => by
      rw [Expr.replace, left.replace_of_keeps h hc.1, right.replace_of_keeps h hc.2]
  | .access base step, _, _, h, hc => by
      rw [Expr.replace, base.replace_of_keeps h hc.1, step.replace_of_keeps h hc.2]

theorem Accessor.replace_of_keeps : ∀ (step : Accessor) {r : Replacement} {c : Nesting},
    r.Keeps c → step.Scoped c → step.replace r = step
  | .member _, _, _, _, _ | .memberWildcard, _, _, _, _ | .elementWildcard, _, _, _, _
  | .method _, _, _, _, _ | .dateTime _, _, _, _, _ => rfl
  | .subscripts subs, _, _, h, hc =>
      congrArg Accessor.subscripts (subscripts_replace_of_keeps subs h.withLength hc)
  | .filter condition, _, _, h, hc =>
      congrArg Accessor.filter (condition.replace_of_keeps h.withCurrent hc)

theorem subscripts_replace_of_keeps : ∀ (subs : List Subscript) {r : Replacement} {c : Nesting},
    r.Keeps c → subscriptsScoped c subs → subscriptsReplace r subs = subs
  | [], _, _, _, _ => rfl
  | sub :: subs, _, _, h, hc => by
      rw [subscriptsReplace, sub.replace_of_keeps h hc.1, subscripts_replace_of_keeps subs h hc.2]

theorem Subscript.replace_of_keeps : ∀ (sub : Subscript) {r : Replacement} {c : Nesting},
    r.Keeps c → sub.Scoped c → sub.replace r = sub
  | .indices positions, _, _, h, hc =>
      congrArg Subscript.indices (positions.replace_of_keeps h hc)
  | .range low high, _, _, h, hc => by
      rw [Subscript.replace, low.replace_of_keeps h hc.1, high.replace_of_keeps h hc.2]

theorem Predicate.replace_of_keeps : ∀ (p : Predicate) {r : Replacement} {c : Nesting},
    r.Keeps c → p.Scoped c → p.replace r = p
  | .compare op left right, _, _, h, hc => by
      rw [Predicate.replace, left.replace_of_keeps h hc.1, right.replace_of_keeps h hc.2]
  | .existence operand, _, _, h, hc =>
      congrArg Predicate.existence (operand.replace_of_keeps h hc)
  | .startsWith subject start, _, _, h, hc => by
      rw [Predicate.replace, subject.replace_of_keeps h hc.1, start.replace_of_keeps h hc.2]
  | .likeRegex subject pattern, _, _, h, hc =>
      congrArg (Predicate.likeRegex · pattern) (subject.replace_of_keeps h hc)
  | .conjunction operands, _, _, h, hc =>
      congrArg Predicate.conjunction (predicates_replace_of_keeps operands h hc)
  | .disjunction operands, _, _, h, hc =>
      congrArg Predicate.disjunction (predicates_replace_of_keeps operands h hc)
  | .negation operand, _, _, h, hc =>
      congrArg Predicate.negation (operand.replace_of_keeps h hc)
  | .isUnknown operand, _, _, h, hc =>
      congrArg Predicate.isUnknown (operand.replace_of_keeps h hc)
  | .condition e, _, _, h, hc => congrArg Predicate.condition (e.replace_of_keeps h hc)

theorem predicates_replace_of_keeps :
    ∀ (ps : List Predicate) {r : Replacement} {c : Nesting},
      r.Keeps c → predicatesScoped c ps → predicatesReplace r ps = ps
  | [], _, _, _, _ => rfl
  | p :: ps, _, _, h, hc => by
      rw [predicatesReplace, p.replace_of_keeps h hc.1, predicates_replace_of_keeps ps h hc.2]

end

theorem Expr.replace_self (e : Expr) : e.replace {} = e :=
  e.replace_of_keeps .anywhere e.scoped_anywhere

theorem Accessor.replace_self (step : Accessor) : step.replace {} = step :=
  step.replace_of_keeps .anywhere step.scoped_anywhere

theorem Predicate.replace_self (p : Predicate) : p.replace {} = p :=
  p.replace_of_keeps .anywhere p.scoped_anywhere

/-- Scopes with the same candidate and the same last index yield the same for `@` and
for `last`. -/
theorem represents_self (hcurrent : t.candidate = s.candidate)
    (hlast : t.lastIndex = s.lastIndex) : Replacement.Represents {} mode s t := by
  constructor
  · intro length
    show Sequence.single t.candidate = .single s.candidate
    rw [hcurrent]
  · intro current
    exact hlast

/-- An accessor yields the same in scopes that differ in nothing it refers to. -/
theorem Accessor.apply_congr (step : Accessor) (hcurrent : t.candidate = s.candidate)
    (hlast : t.lastIndex = s.lastIndex) (hg : s.AgreeOn t step.globals) (v : Value) :
    step.apply mode t v = step.apply mode s v := by
  have h : (step.replace {}).apply mode t v = step.apply mode s v :=
    step.apply_replace (represents_self hcurrent hlast) hg v
  rwa [step.replace_self] at h

end JsonPath
