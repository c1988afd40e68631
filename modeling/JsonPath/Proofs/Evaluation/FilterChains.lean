import JsonPath.Proofs.Evaluation.Cutting
import JsonPath.Proofs.Evaluation.Unwrapping

/-!
# Chains of filters

A chain of filters puts its predicates to a candidate one after the other.  The first one
that is not true drops the candidate, and so does the first error, which no later filter
sees.  A conjunction stops at the same predicate; there the error leaves the conjunction and
is caught by the one filter around it (`kept_conjunction_cons`).

In lax mode every filter of the chain unwraps what the one before it has kept.  A candidate
that is an array falls apart in this way where the conjunction asks about the whole of it,
so that `filter_chain_eq_conjunction` leaves out the case that the first filter keeps one.
-/

namespace JsonPath

open Grammar (walk)

variable {mode : Mode} {s : Scope}

/-! ## One candidate -/

/-- The predicate is true of the candidate. -/
def Predicate.holdsOf (mode : Mode) (s : Scope) (p : Predicate) (candidate : Value) : Bool :=
  p.truth mode (s.withCurrent candidate) matches .ok .holds

theorem Predicate.holdsOf_iff {p : Predicate} {c : Value} :
    p.holdsOf mode s c = true ↔ p.truth mode (s.withCurrent c) = .ok .holds := by
  unfold holdsOf
  split
  · next h => simp [h]
  · next h => simpa using h

theorem of_ok_mem_kept {c v : Value} {t : Except EvalError Truth} (h : .ok v ∈ kept c t) :
    v = c ∧ t = .ok .holds := by
  cases t with
  | ok t => cases t <;> simp_all [kept]
  | error e => cases hfatal : e.isFatal <;> simp [kept, hfatal] at h

/-- What a conjunction keeps has passed its first operand, and then the others. -/
theorem kept_conjunction_cons (c : Value) (t : Except EvalError Truth)
    (ts : List (Except EvalError Truth)) :
    kept c (Truth.conjunction (t :: ts)) = (kept c t).flatMap fun
      | .ok v => kept v (Truth.conjunction ts)
      | .error e => [.error e] := by
  cases t with
  | ok t => cases t <;> simp [kept, Truth.conjunction]
  | error e => cases hfatal : e.isFatal <;> simp [kept, Truth.conjunction, hfatal]

/-- The filters of a chain, on what is not unwrapped by them. -/
theorem through_filters {c : Value} (hc : candidates mode c = [c]) (ps : List Predicate) :
    ((Sequence.single c).through mode s (ps.map .filter)).results =
      kept c (Truth.conjunction (truths mode (s.withCurrent c) ps)) := by
  induction ps with
  | nil => rfl
  | cons p ps ih =>
      have hfirst : ((Sequence.single c).andThen ((Accessor.filter p).apply mode s)).results =
          kept c (p.truth mode (s.withCurrent c)) := by
        show ((candidates mode c).flatMap _) = _
        rw [hc, List.flatMap_singleton]
      rw [List.map_cons, through_cons, results_through, hfirst, truths, kept_conjunction_cons]
      refine List.flatMap_congr fun r hr => ?_
      cases r with
      | error e => rfl
      | ok v =>
          obtain ⟨rfl, -⟩ := of_ok_mem_kept hr
          exact ih

/-! ## The candidates of a value -/

/-- Predicates with `&&` between them are a conjunction, and one predicate is as good as one
to a filter. -/
theorem kept_joined (c : Value) (p : Predicate) (ps : List Predicate) :
    kept c ((Parser.joined .conjunction (p :: ps)).truth mode s) =
      kept c (Truth.conjunction (truths mode s (p :: ps))) := by
  cases ps with
  | nil =>
      rw [truths, truths, kept_conjunction_cons]
      show kept c (p.truth mode s) = _
      cases p.truth mode s with
      | ok t => cases t <;> rfl
      | error e => cases hfatal : e.isFatal <;> simp [kept, hfatal]
  | cons q ps =>
      show kept c ((Predicate.conjunction (p :: q :: ps)).truth mode s) = _
      rw [Predicate.truth]

/-- A chain of filters on a value.  Its first filter may unwrap the value. -/
theorem through_filter_cons {p : Predicate} {v : Value}
    (hkept : ∀ c ∈ candidates mode v, p.holdsOf mode s c → candidates mode c = [c])
    (ps : List Predicate) :
    ((Sequence.single v).through mode s ((p :: ps).map .filter)).results =
      ((Accessor.filter (Parser.joined .conjunction (p :: ps))).apply mode s v).results := by
  rw [List.map_cons, through_cons, results_through]
  show ((candidates mode v).flatMap _).flatMap _ = (candidates mode v).flatMap _
  rw [List.flatMap_assoc]
  refine List.flatMap_congr fun c hc => ?_
  rw [kept_joined, truths, kept_conjunction_cons]
  refine List.flatMap_congr fun r hr => ?_
  cases r with
  | error e => rfl
  | ok w =>
      obtain ⟨rfl, htruth⟩ := of_ok_mem_kept hr
      exact through_filters (hkept w hc (Predicate.holdsOf_iff.2 htruth)) ps

/-! ## Chains -/

/-- Accessors on what is not known at once yield nothing that is. -/
theorem through_deferred (steps : List Accessor) (results : Results) :
    (Sequence.deferred results).through mode s steps =
      .deferred ((Sequence.deferred results).through mode s steps).results := by
  induction steps generalizing results with
  | nil => rfl
  | cons step steps ih => exact ih _

theorem through_aborted (steps : List Accessor) (e : EvalError) :
    (Sequence.aborted e).through mode s steps = .aborted e := by
  induction steps with
  | nil => rfl
  | cons step steps ih => exact ih

/-- A chain that is one filter on every value is one filter on the sequence. -/
theorem through_eq_andThen {p : Predicate} {ps : List Predicate} {sequence : Sequence}
    (h : ∀ v, .ok v ∈ sequence.results →
      ((Sequence.single v).through mode s ((p :: ps).map .filter)).results =
        ((Accessor.filter (Parser.joined .conjunction (p :: ps))).apply mode s v).results) :
    sequence.through mode s ((p :: ps).map .filter) =
      sequence.andThen ((Accessor.filter (Parser.joined .conjunction (p :: ps))).apply mode s) := by
  cases sequence with
  | aborted error => exact through_aborted _ error
  | single v =>
      have hv := h v (List.mem_singleton_self _)
      exact (through_deferred _ _).trans (congrArg Sequence.deferred hv)
  | deferred results =>
      rw [through_deferred, results_through]
      refine congrArg Sequence.deferred (List.flatMap_congr fun r hr => ?_)
      cases r with
      | error error => rfl
      | ok v => exact h v hr

/-! ## What a chain keeps -/

theorem conjunction_truths_iff {s : Scope} {ps : List Predicate} :
    Truth.conjunction (truths mode s ps) = .ok .holds ↔
      ∀ p ∈ ps, p.truth mode s = .ok .holds := by
  induction ps with
  | nil => simp [truths, Truth.conjunction]
  | cons p ps ih =>
      rw [truths, List.forall_mem_cons, ← ih]
      cases p.truth mode s with
      | ok t => cases t <;> simp [Truth.conjunction]
      | error e => simp [Truth.conjunction]

/-- Several predicates with `&&` between them are true together. -/
theorem joined_holdsOf (c : Value) (p : Predicate) (ps : List Predicate) :
    (Parser.joined .conjunction (p :: ps)).holdsOf mode s c =
      (p :: ps).all fun q => q.holdsOf mode s c := by
  rw [Bool.eq_iff_iff]
  cases ps with
  | nil => simp [Parser.joined]
  | cons q ps =>
      have htruth : (Parser.joined .conjunction (p :: q :: ps)).truth mode (s.withCurrent c) =
          Truth.conjunction (truths mode (s.withCurrent c) (p :: q :: ps)) := by
        show (Predicate.conjunction (p :: q :: ps)).truth mode _ = _
        rw [Predicate.truth]
      rw [Predicate.holdsOf_iff, htruth, conjunction_truths_iff, List.all_eq_true]
      simp only [Predicate.holdsOf_iff]

/-- A filter whose predicate is no fatal error keeps the candidates of which it is true. -/
theorem filter_results {p : Predicate} {v : Value}
    (h : ∀ c ∈ candidates mode v, p.truth mode (s.withCurrent c) ≠ .error .quotientOverflow) :
    ((Accessor.filter p).apply mode s v).results =
      .ofValues ((candidates mode v).filter (p.holdsOf mode s)) := by
  show ((candidates mode v).flatMap _) = _
  generalize candidates mode v = cs at h ⊢
  induction cs with
  | nil => rfl
  | cons c cs ih =>
      obtain ⟨hc, hcs⟩ := List.forall_mem_cons.1 h
      rw [List.flatMap_cons, ih hcs, List.filter_cons, Predicate.holdsOf]
      cases htruth : p.truth mode (s.withCurrent c) with
      | ok t => cases t <;> rfl
      | error e =>
          have hfatal : e.isFatal = false :=
            EvalError.isFatal_eq_false_iff.2 fun he => hc (he ▸ htruth)
          simp [kept, hfatal]

/-- A chain of filters is one filter with the conjunction of the predicates, unless in lax
mode the first filter keeps an array.  Of every value of the path it keeps the candidates of
which all predicates are true, and the errors of the path stay in their places. -/
theorem filter_chain_eq_conjunction (mode : Mode) (s : Scope) (e : Expr) (p : Predicate)
    (ps : List Predicate)
    (hkept : mode = .strict ∨ ∀ v, .ok v ∈ (e.eval mode s).results →
      ∀ c ∈ candidates mode v, p.holdsOf mode s c → ∀ vs, c ≠ .array vs) :
    let chain := (walk e ((p :: ps).map .filter)).eval mode s
    chain = (Expr.access e (.filter (Parser.joined .conjunction (p :: ps)))).eval mode s ∧
      ((∀ v, .ok v ∈ (e.eval mode s).results → ∀ c ∈ candidates mode v,
          (Parser.joined .conjunction (p :: ps)).truth mode (s.withCurrent c) ≠
            .error .quotientOverflow) →
        chain.results = (e.eval mode s).results.flatMap fun
          | .ok v => Results.ofValues ((candidates mode v).filter fun c =>
              (p :: ps).all fun q => q.holdsOf mode s c)
          | .error error => [.error error]) := by
  intro chain
  have hchain : chain = (e.eval mode s).through mode s ((p :: ps).map .filter) := eval_walk _ e
  have heq : chain =
      (Expr.access e (.filter (Parser.joined .conjunction (p :: ps)))).eval mode s := by
    rw [hchain, Expr.eval]
    refine through_eq_andThen fun v hv => through_filter_cons (fun c hc hp => ?_) ps
    exact candidates_eq_singleton (hkept.imp_right fun h => h v hv c hc hp)
  refine ⟨heq, fun hfatal => ?_⟩
  rw [heq, Expr.eval, Sequence.results_andThen]
  refine List.flatMap_congr fun r hr => ?_
  cases r with
  | error error => rfl
  | ok v =>
      show ((Accessor.filter _).apply mode s v).results = _
      rw [filter_results (hfatal v hr)]
      exact congrArg _ (List.filter_congr fun c _ => joined_holdsOf c p ps)

/-- Of the two numbers beyond two the second predicate is an error for three.  What is no
number is an error of the path. -/
theorem filter_chain_eq_conjunction_lax :
    let s : Scope :=
      { root := .array [.integer 5, .string "x", .integer 3, .integer 1], vars := [] }
    let e : Expr := .signed .plus (.access .root .elementWildcard)
    let p : Predicate := .compare .greater .current (.integer 2)
    let q : Predicate := .compare .equal
      (.binary .modulo (.integer 12) (.binary .subtract .current (.integer 3))) (.integer 0)
    (∀ v, .ok v ∈ (e.eval .lax s).results →
        ∀ c ∈ candidates .lax v, p.holdsOf .lax s c → ∀ vs, c ≠ .array vs) ∧
      (∀ v, .ok v ∈ (e.eval .lax s).results → ∀ c ∈ candidates .lax v,
        (Predicate.conjunction [p, q]).truth .lax (s.withCurrent c) ≠ .error .quotientOverflow) ∧
      q.truth .lax (s.withCurrent (.integer 3)) = .error .divisionByZero ∧
      ((walk e [.filter p, .filter q]).eval .lax s).results =
        [.ok (.integer 5), .error (.typeMismatch (.signed .plus .string))] ∧
      ((Expr.access e (.filter (.conjunction [p, q]))).eval .lax s).results =
        [.ok (.integer 5), .error (.typeMismatch (.signed .plus .string))] := by
  intro s e p q
  have hpath : (e.eval .lax s).results = [.ok (.integer 5),
      .error (.typeMismatch (.signed .plus .string)), .ok (.integer 3), .ok (.integer 1)] := rfl
  have hcandidates : ∀ v, .ok v ∈ (e.eval .lax s).results → ∀ c ∈ candidates .lax v,
      c = .integer 5 ∨ c = .integer 3 ∨ c = .integer 1 := by
    rw [hpath]
    intro v hv c hc
    simp only [List.mem_cons, Except.ok.injEq, reduceCtorEq, List.not_mem_nil, false_or,
      or_false] at hv
    rcases hv with rfl | rfl | rfl <;> cases List.mem_singleton.1 hc <;> simp
  have hkept : ∀ v, .ok v ∈ (e.eval .lax s).results →
      ∀ c ∈ candidates .lax v, p.holdsOf .lax s c → ∀ vs, c ≠ .array vs := by
    intro v hv c hc _ vs
    rcases hcandidates v hv c hc with rfl | rfl | rfl <;> simp
  have hfatal : ∀ v, .ok v ∈ (e.eval .lax s).results → ∀ c ∈ candidates .lax v,
      (Predicate.conjunction [p, q]).truth .lax (s.withCurrent c) ≠ .error .quotientOverflow := by
    intro v hv c hc h
    rcases hcandidates v hv c hc with rfl | rfl | rfl <;> cases h
  obtain ⟨heq, hfound⟩ := filter_chain_eq_conjunction .lax s e p [q] (.inr hkept)
  have hchain : ((walk e [.filter p, .filter q]).eval .lax s).results =
      [.ok (.integer 5), .error (.typeMismatch (.signed .plus .string))] := by
    refine (hfound hfatal).trans ?_
    rw [hpath]
    rfl
  exact ⟨hkept, hfatal, rfl, hchain, (congrArg Sequence.results heq).symm.trans hchain⟩

-- The first filter keeps an array, which falls apart before the second one.
example :
    let s : Scope := { root := .array [.array [.integer 1]], vars := [] }
    let p : Predicate := .existence .current
    let q : Predicate := .compare .equal .current (.integer 1)
    ((walk .root [.filter p, .filter q]).eval .lax s).results = [.ok (.integer 1)] ∧
      ((Expr.access .root (.filter (.conjunction [p, q]))).eval .lax s).results = [] :=
  ⟨rfl, rfl⟩

end JsonPath
