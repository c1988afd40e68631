import JsonPath.Proofs.Evaluation.Sequencing
import JsonPath.Syntax.Parser

/-!
# Laws of the connectives

The connectives are not Kleene's: an unknown operand counts as false in a conjunction and in
a disjunction, while its negation is true, and operands behind the one that decides are not
reached, nor are their errors.  De Morgan's laws hold nevertheless, and parentheses around
neighbouring operands of a chain change nothing.

Both are stated of outcomes, a truth or an error for each operand, and carry over to
predicates.  A list of outcomes splits at any place: the first part decides, unless it comes
to the value that leaves the decision to the rest (`conjunction_append`,
`disjunction_append`).  A group in parentheses is one operand with the outcome of its part,
so regrouping is splitting in two ways.
-/

namespace JsonPath

/-! ## Outcomes -/

namespace Truth

variable {ε : Type}

theorem conjunction_cons (t : Except ε Truth) (ts : List (Except ε Truth)) :
    conjunction (t :: ts) =
      t >>= fun t => if t = .holds then conjunction ts else .ok .fails := by
  cases t with
  | error e => rfl
  | ok t => cases t <;> rfl

theorem disjunction_cons (t : Except ε Truth) (ts : List (Except ε Truth)) :
    disjunction (t :: ts) =
      t >>= fun t => if t = .holds then .ok .holds else disjunction ts := by
  cases t with
  | error e => rfl
  | ok t => cases t <;> rfl

/-- The operands behind some others are reached if those are all true. -/
theorem conjunction_append (ts us : List (Except ε Truth)) :
    conjunction (ts ++ us) =
      conjunction ts >>= fun t => if t = .holds then conjunction us else .ok .fails := by
  induction ts with
  | nil => rfl
  | cons t ts ih =>
      rw [List.cons_append, conjunction_cons, conjunction_cons, ih]
      cases t with
      | error e => rfl
      | ok t => cases t <;> rfl

/-- The operands behind some others are reached if none of those is true. -/
theorem disjunction_append (ts us : List (Except ε Truth)) :
    disjunction (ts ++ us) =
      disjunction ts >>= fun t => if t = .holds then .ok .holds else disjunction us := by
  induction ts with
  | nil => rfl
  | cons t ts ih =>
      rw [List.cons_append, disjunction_cons, disjunction_cons, ih]
      cases t with
      | error e => rfl
      | ok t => cases t <;> rfl

/-- Some operands are as good as one with their outcome. -/
theorem conjunction_group (before group after : List (Except ε Truth)) :
    conjunction (before ++ conjunction group :: after) =
      conjunction (before ++ group ++ after) := by
  rw [List.append_assoc, conjunction_append before, conjunction_append before,
    conjunction_append group, conjunction_cons]

theorem disjunction_group (before group after : List (Except ε Truth)) :
    disjunction (before ++ disjunction group :: after) =
      disjunction (before ++ group ++ after) := by
  rw [List.append_assoc, disjunction_append before, disjunction_append before,
    disjunction_append group, disjunction_cons]

/-- The operand that decides a conjunction, by being false or unknown, decides the
disjunction of the negations by being true there. -/
theorem conjunction_negate (ts : List (Except ε Truth)) :
    (conjunction ts).map negate = disjunction (ts.map (Except.map negate)) := by
  induction ts with
  | nil => rfl
  | cons t ts ih =>
      rw [List.map_cons, conjunction_cons, disjunction_cons, ← ih]
      cases t with
      | error e => rfl
      | ok t => cases t <;> rfl

-- The unknown operand decides, and the error behind it is not reached.
example : (conjunction [.ok .unknown, .error ()]).map negate = .ok .holds := rfl

theorem disjunction_negate (ts : List (Except ε Truth)) :
    (disjunction ts).map negate = conjunction (ts.map (Except.map negate)) := by
  induction ts with
  | nil => rfl
  | cons t ts ih =>
      rw [List.map_cons, disjunction_cons, conjunction_cons, ← ih]
      cases t with
      | error e => rfl
      | ok t => cases t <;> rfl

end Truth

/-! ## Predicates -/

variable {mode : Mode} {s : Scope}

theorem truths_eq_map (ps : List Predicate) :
    truths mode s ps = ps.map (Predicate.truth mode s) := by
  induction ps with
  | nil => rfl
  | cons p ps ih => rw [truths, ih, List.map_cons]

theorem truth_conjunction (ps : List Predicate) :
    (Predicate.conjunction ps).truth mode s =
      Truth.conjunction (ps.map (Predicate.truth mode s)) := by
  rw [Predicate.truth, truths_eq_map]

theorem truth_disjunction (ps : List Predicate) :
    (Predicate.disjunction ps).truth mode s =
      Truth.disjunction (ps.map (Predicate.truth mode s)) := by
  rw [Predicate.truth, truths_eq_map]

theorem truth_negation_eq_map (p : Predicate) :
    (Predicate.negation p).truth mode s = (p.truth mode s).map Truth.negate := by
  rw [truth_negation]
  cases p.truth mode s <;> rfl

theorem truth_negations (ps : List Predicate) :
    (ps.map Predicate.negation).map (Predicate.truth mode s) =
      (ps.map (Predicate.truth mode s)).map (Except.map Truth.negate) := by
  rw [List.map_map, List.map_map]
  exact List.map_congr_left fun p _ => truth_negation_eq_map p

section Chains

variable {join : List Predicate → Predicate}

/-- The parser makes no chain of one operand. -/
theorem joined_of_length_ne_one {ps : List Predicate} (h : ps.length ≠ 1) :
    Parser.joined join ps = join ps := by
  match ps with
  | [] | _ :: _ :: _ => rfl
  | [_] => exact absurd rfl h

/-- If a group is as good as its operands wherever it stands in a longer chain, it is as good
as they are in every chain that the parser makes. -/
theorem joined_group
    (hgroup : ∀ before group after : List Predicate,
      (join (before ++ join group :: after)).truth mode s =
        (join (before ++ group ++ after)).truth mode s)
    (before : List Predicate) (p : Predicate) (group after : List Predicate) :
    (Parser.joined join (before ++ Parser.joined join (p :: group) :: after)).truth mode s =
      (Parser.joined join (before ++ (p :: group) ++ after)).truth mode s := by
  cases group with
  | nil => rw [List.append_assoc, List.singleton_append, Parser.joined]
  | cons q group =>
      by_cases hwhole : before = [] ∧ after = []
      · obtain ⟨rfl, rfl⟩ := hwhole
        rw [List.append_nil]
        rfl
      · have houter : (before ++ Parser.joined join (p :: q :: group) :: after).length ≠ 1 := by
          rw [List.length_append, List.length_cons]
          intro hlength
          exact hwhole ⟨List.eq_nil_of_length_eq_zero (by omega),
            List.eq_nil_of_length_eq_zero (by omega)⟩
        have hinner : (before ++ (p :: q :: group) ++ after).length ≠ 1 := by
          simp only [List.length_append, List.length_cons]
          omega
        rw [joined_of_length_ne_one houter, joined_of_length_ne_one hinner]
        exact hgroup before (p :: q :: group) after

end Chains

/-- De Morgan's laws for any operands, and parentheses around neighbouring operands of a
chain, be it the whole chain or one of them, as the parser makes it. -/
theorem de_morgan_and_regrouping (mode : Mode) (s : Scope) :
    (∀ ps, (Predicate.negation (.conjunction ps)).truth mode s =
      (Predicate.disjunction (ps.map .negation)).truth mode s) ∧
    (∀ ps, (Predicate.negation (.disjunction ps)).truth mode s =
      (Predicate.conjunction (ps.map .negation)).truth mode s) ∧
    (∀ before group after,
      (Predicate.conjunction (before ++ .conjunction group :: after)).truth mode s =
        (Predicate.conjunction (before ++ group ++ after)).truth mode s) ∧
    (∀ before group after,
      (Predicate.disjunction (before ++ .disjunction group :: after)).truth mode s =
        (Predicate.disjunction (before ++ group ++ after)).truth mode s) ∧
    (∀ before p group after,
      (Parser.joined .conjunction
          (before ++ Parser.joined .conjunction (p :: group) :: after)).truth mode s =
        (Parser.joined .conjunction (before ++ (p :: group) ++ after)).truth mode s) ∧
    ∀ before p group after,
      (Parser.joined .disjunction
          (before ++ Parser.joined .disjunction (p :: group) :: after)).truth mode s =
        (Parser.joined .disjunction (before ++ (p :: group) ++ after)).truth mode s := by
  have hconjunction (before group after : List Predicate) :
      (Predicate.conjunction (before ++ .conjunction group :: after)).truth mode s =
        (Predicate.conjunction (before ++ group ++ after)).truth mode s := by
    simp only [truth_conjunction, List.map_append, List.map_cons, Truth.conjunction_group]
  have hdisjunction (before group after : List Predicate) :
      (Predicate.disjunction (before ++ .disjunction group :: after)).truth mode s =
        (Predicate.disjunction (before ++ group ++ after)).truth mode s := by
    simp only [truth_disjunction, List.map_append, List.map_cons, Truth.disjunction_group]
  refine ⟨fun ps => ?_, fun ps => ?_, hconjunction, hdisjunction, joined_group hconjunction,
    joined_group hdisjunction⟩
  · rw [truth_negation_eq_map, truth_conjunction, truth_disjunction, truth_negations,
      Truth.conjunction_negate]
  · rw [truth_negation_eq_map, truth_disjunction, truth_conjunction, truth_negations,
      Truth.disjunction_negate]

end JsonPath
