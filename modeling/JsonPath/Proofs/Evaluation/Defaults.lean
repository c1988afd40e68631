import JsonPath.Proofs.Evaluation.ModeExtension
import JsonPath.Session
import Mathlib.Data.List.Forall2

/-!
# Values with defaults

A delivery hands out the values of a statement one at a time.  What it hands out
is said here item by item: `Defaults.outcome` is the whole of what an item is
worth, given all its results.

* One step of a delivery is read off its remaining results.  `next_remaining` says
  that a call of `next` takes the first of them and leaves the others, and
  `take_remaining` is the induction over any number of calls.
* `deliver_agrees` compares what is delivered for an item with its outcome.  They
  are the same but for an overflow, which no default stands in for.
* `values_follow_defaults` joins the two for a whole run.
-/

namespace JsonPath

/-! ## What an item is worth -/

/-- The first error among results. -/
def Results.firstError? (results : Results) : Option EvalError :=
  results.findSome? fun
    | .error e => some e
    | .ok _ => none

/-- What is to be delivered for an item: the values in front of the first error and
that error, or all values.  Where there is no value, a default takes the place of
the error or of nothing. -/
def Defaults.outcome (defaults : Defaults) (results : Results) : Results :=
  match results.firstError? with
  | some e =>
      match results.beforeError, defaults.onError with
      | [], some v => [.ok v]
      | values, _ => Results.ofValues values ++ [.error e]
  | none =>
      match results.beforeError, defaults.onEmpty with
      | [], some v => [.ok v]
      | values, _ => .ofValues values

/-! ## A delivery and what remains of it -/

namespace Delivery

/-- What the current item delivers comes first among the remaining results. -/
theorem fromCurrent_remaining (d : Delivery) :
    d.fromCurrent.1.toList ++ d.fromCurrent.2.remaining = d.remaining := by
  rcases d with ⟨statement, vars, defaults, items, current, produced⟩
  rcases current with _ | _ | ⟨_ | v, rest⟩
  · rfl
  · cases produced with
    | true => rfl
    | false =>
        cases h : defaults.onEmpty <;> simp [fromCurrent, remaining, Statement.deliver, h]
  · cases produced <;> rfl
  · rfl

/-- When the current item delivers nothing, the delivery has left it for the items
behind. -/
theorem fromCurrent_none (d : Delivery) (h : d.fromCurrent.1 = none) :
    d.fromCurrent.2.current = none ∧ d.fromCurrent.2.items = d.items := by
  rcases d with ⟨statement, vars, defaults, items, current, produced⟩
  rcases current with _ | _ | ⟨_ | v, rest⟩
  · exact ⟨rfl, rfl⟩
  · cases produced with
    | true => exact ⟨rfl, rfl⟩
    | false =>
        cases hdefault : defaults.onEmpty with
        | none => simp [fromCurrent, hdefault]
        | some v => simp [fromCurrent, hdefault] at h
  · cases h
  · cases h

/-- To come to the next item changes nothing of what remains. -/
theorem comeTo_remaining (d : Delivery) (item : Value) (rest : List Value)
    (hcurrent : d.current = none) (hitems : d.items = item :: rest) :
    (d.comeTo item rest).remaining = d.remaining := by
  simp [remaining, comeTo, hcurrent, hitems, Statement.values]

/-- The search stops at the first of the remaining results. -/
theorem search_remaining (d : Delivery) (items : List Value) (h : d.items = items) :
    (d.search items).1 = d.remaining.head? ∧ (d.search items).2.remaining = d.remaining.tail := by
  have hremaining := d.fromCurrent_remaining
  have hnone := d.fromCurrent_none
  induction items generalizing d with
  | nil =>
      unfold search
      rcases hcurrent : d.fromCurrent with ⟨_ | r, d'⟩
      · rw [hcurrent] at hremaining hnone
        obtain ⟨hend, hitems⟩ : d'.current = none ∧ d'.items = d.items := hnone rfl
        have hempty : d'.remaining = [] := by
          simp [remaining, hend, hitems, h, Statement.values]
        rw [← hremaining]
        simp [hempty]
      · rw [← hremaining, hcurrent]
        simp
  | cons item rest ih =>
      unfold search
      rcases hcurrent : d.fromCurrent with ⟨_ | r, d'⟩
      · rw [hcurrent] at hremaining hnone
        obtain ⟨hend, hitems⟩ := hnone rfl
        have hcome := d'.comeTo_remaining item rest hend (hitems.trans h)
        have hsearch := ih (d'.comeTo item rest) rfl (fromCurrent_remaining _)
          (fromCurrent_none _)
        rw [hcome] at hsearch
        rw [← hremaining]
        exact hsearch
      · rw [← hremaining, hcurrent]
        simp

/-- A call hands out the first of the remaining results and leaves the others. -/
theorem next_remaining (d : Delivery) :
    d.next.1 = d.remaining.head? ∧ d.next.2.remaining = d.remaining.tail :=
  d.search_remaining d.items rfl

/-- Any number of calls hands out that many of the remaining results, and behind the
last of them the end. -/
theorem take_remaining (d : Delivery) (count : Nat) :
    (d.take count).1 = Cursor.entriesOf count d.remaining ∧
      (d.take count).2.remaining = d.remaining.drop count := by
  induction count generalizing d with
  | zero => simp [take, Cursor.entriesOf]
  | succ count ih =>
      obtain ⟨hfirst, hrest⟩ := d.next_remaining
      obtain ⟨hentries, hleft⟩ := ih d.next.2
      rw [hrest] at hentries hleft
      refine ⟨?_, ?_⟩
      · show d.next.1 :: (d.next.2.take count).1 = _
        rw [hfirst, hentries, Cursor.entriesOf_succ]
      · show (d.next.2.take count).2.remaining = _
        rw [hleft, List.drop_tail]

/-- At its start a delivery has all values in front of it. -/
theorem start_remaining (statement : Statement) (vars : Variables) (defaults : Defaults)
    (items : List Value) :
    (start statement vars defaults items).remaining = statement.values vars defaults items := rfl

end Delivery

/-! ## What is delivered and what an item is worth -/

/-- A result that is delivered is the one that is wanted, or it is an overflow. -/
def Agrees (delivered wanted : Result) : Prop :=
  delivered = wanted ∨ delivered = .error .quotientOverflow

theorem Agrees.refl_all (results : Results) : List.Forall₂ Agrees results results :=
  List.forall₂_same.2 fun _ _ => .inl rfl

namespace Statement

/-- Once an item has had a value, no default matters. -/
theorem deliver_produced (defaults : Defaults) (results : Results) :
    deliver defaults true results =
      Results.ofValues results.beforeError ++
        (results.firstError?.map Except.error).toList := by
  induction results with
  | nil => rfl
  | cons r results ih =>
      cases r with
      | error e => rfl
      | ok v =>
          rw [deliver, ih]
          rfl

theorem onFailure_agrees (defaults : Defaults) (e : EvalError) :
    Agrees (onFailure defaults e)
      (match defaults.onError with | some v => .ok v | none => .error e) := by
  rw [onFailure]
  cases defaults.onError with
  | none => exact .inl rfl
  | some v =>
      by_cases hfatal : e.isFatal
      · have he : e = .quotientOverflow := EvalError.isFatal_iff.1 hfatal
        simp only [hfatal, if_true]
        exact .inr (by rw [he])
      · simp only [hfatal]
        exact .inl rfl

/-- What is delivered for an item is what it is worth. -/
theorem deliver_agrees (defaults : Defaults) (results : Results) :
    List.Forall₂ Agrees (deliver defaults false results) (defaults.outcome results) := by
  match results with
  | [] =>
      cases h : defaults.onEmpty with
      | none => simp [deliver, Defaults.outcome, Results.firstError?, Results.beforeError,
          Results.ofValues, h]
      | some v =>
          simpa [deliver, Defaults.outcome, Results.firstError?, Results.beforeError, h] using
            .inl rfl
  | .error e :: rest =>
      have hfailure := onFailure_agrees defaults e
      cases h : defaults.onError <;> rw [h] at hfailure <;>
        simpa [deliver, Defaults.outcome, Results.firstError?, Results.beforeError,
          Results.ofValues, h] using hfailure
  | .ok v :: rest =>
      -- there is a value, so that neither side looks at the defaults any more
      have houtcome : defaults.outcome (.ok v :: rest) =
          .ok v :: (Results.ofValues (Results.beforeError rest) ++
            ((Results.firstError? rest).map Except.error).toList) := by
        have hfirst : Results.firstError? (.ok v :: rest) = Results.firstError? rest := rfl
        rw [Defaults.outcome, hfirst]
        cases Results.firstError? rest <;> simp [Results.beforeError, Results.ofValues]
      rw [deliver, deliver_produced, houtcome]
      exact Agrees.refl_all _

theorem values_agrees (statement : Statement) (vars : Variables) (defaults : Defaults)
    (items : List Value) :
    List.Forall₂ Agrees (statement.values vars defaults items)
      (items.flatMap fun item => defaults.outcome (statement.evaluate vars item).results) := by
  induction items with
  | nil => exact .nil
  | cons item items ih =>
      simp only [values, List.flatMap_cons] at ih ⊢
      exact List.rel_append (deliver_agrees defaults _) ih

end Statement

/-- Where no overflow is delivered, the results are the ones that are wanted. -/
theorem eq_of_agrees {delivered wanted : Results} (h : List.Forall₂ Agrees delivered wanted)
    (hno : .error .quotientOverflow ∉ delivered) : delivered = wanted := by
  induction h with
  | nil => rfl
  | @cons r r' rs rs' hr _ ih =>
      have hne : r ≠ .error .quotientOverflow := by
        rintro rfl
        exact hno List.mem_cons_self
      rw [hr.resolve_right hne, ih fun hmem => hno (List.mem_cons_of_mem _ hmem)]

/-- The same of the entries up to some number: only an overflow among these
matters. -/
theorem entriesOf_eq_of_agrees {delivered wanted : Results}
    (h : List.Forall₂ Agrees delivered wanted) (count : Nat)
    (hno : some (.error .quotientOverflow) ∉ Cursor.entriesOf count delivered) :
    Cursor.entriesOf count delivered = Cursor.entriesOf count wanted := by
  have htake : delivered.take count = wanted.take count := by
    refine eq_of_agrees (List.forall₂_take count h) fun hmem => hno ?_
    exact List.mem_append_left _ (List.mem_map_of_mem hmem)
  rw [Cursor.entriesOf, Cursor.entriesOf, htake, h.length_eq]

/-- A delivery hands out what the items are worth, one item after the other, and
then the end for ever. -/
theorem values_follow_defaults (statement : Statement) (vars : Variables) (defaults : Defaults)
    (items : List Value) :
    (∀ count, some (.error .quotientOverflow) ∉
        ((Delivery.start statement vars defaults items).take count).1 →
      ((Delivery.start statement vars defaults items).take count).1 =
        Cursor.entriesOf count
          (items.flatMap fun item => defaults.outcome (statement.evaluate vars item).results)) ∧
    (.error .quotientOverflow ∉ statement.values vars defaults items →
      statement.values vars defaults items =
        items.flatMap fun item => defaults.outcome (statement.evaluate vars item).results) := by
  have hagrees := statement.values_agrees vars defaults items
  constructor
  · intro count hno
    obtain ⟨hentries, -⟩ := (Delivery.start statement vars defaults items).take_remaining count
    rw [Delivery.start_remaining] at hentries
    rw [hentries] at hno ⊢
    exact entriesOf_eq_of_agrees hagrees count hno
  · exact eq_of_agrees hagrees

/-- An item with a value in front of an error, one without results, and one with an
error at once: the defaults stand in for the last two, and the value behind the
error is not delivered. -/
theorem values_follow_defaults_members :
    let statement : Statement :=
      { source := "strict $[*].a", mode := .strict
        body := .path (.access (.access .root .elementWildcard) (.member "a")) }
    let defaults : Defaults := { onEmpty := some .null, onError := some (.string "none") }
    let items : List Value :=
      [.array [.object [("a", .integer 1)], .object [], .object [("a", .integer 2)]],
        .array [], .integer 5]
    let calls := ((Delivery.start statement [] defaults items).take 6).1
    some (.error .quotientOverflow) ∉ calls ∧
      calls = [some (.ok (.integer 1)), some (.error (.keyNotFound "a")), some (.ok .null),
        some (.ok (.string "none")), none, none] := by
  intro statement defaults items calls
  have hcalls : calls = [some (.ok (.integer 1)), some (.error (.keyNotFound "a")),
      some (.ok .null), some (.ok (.string "none")), none, none] := rfl
  have hno : some (.error .quotientOverflow) ∉ calls := by simp [hcalls]
  have hfollow := (values_follow_defaults statement [] defaults items).1 6 hno
  exact ⟨hno, hfollow⟩

end JsonPath
