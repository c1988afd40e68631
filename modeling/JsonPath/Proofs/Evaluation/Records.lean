import JsonPath.Proofs.Evaluation.Subscripting

/-!
# Objects as records

`.keyvalue()` turns the members of objects into records, in an array of objects the members
of all of them.  A record has the index of its object, and the objects can be put together
again from it.

* `grouped` collects things by the numbers they are marked with.  What is marked with its
  position in a list of lists comes back as these lists (`grouped_positions`); an empty list
  leaves its number out.
* `recordsOf` are the records of objects in a row, which the method yields
  (`keyValue_of_holdsObjects`), and `rebuilt` takes them back (`rebuilt_recordsOf`).
* An array with anything else in it has no records (`recordsFrom_eq_error`).
-/

namespace JsonPath

/-! ## Grouping -/

section Grouping

variable {α : Type}

/-- The groups of things that are marked with numbers, in the order in which the numbers first
come. -/
def grouped (marked : List (Int × α)) : List (Int × List α) :=
  (marked.map Prod.fst).eraseDups.map fun mark =>
    (mark, (marked.filter fun entry => entry.1 == mark).map Prod.snd)

theorem marks_eraseDups (mark : Int) (a : α) (group : List α) {others : List (Int × α)}
    (h : ∀ entry ∈ others, entry.1 ≠ mark) :
    (((a :: group).map (mark, ·) ++ others).map Prod.fst).eraseDups =
      mark :: (others.map Prod.fst).eraseDups := by
  have hgroup : (group.map fun _ => mark).filter (fun other => !other == mark) = [] := by simp
  have hothers : (others.map Prod.fst).filter (fun other => !other == mark) =
      others.map Prod.fst := by
    rw [List.filter_eq_self]
    intro other hother
    obtain ⟨entry, hentry, rfl⟩ := List.mem_map.1 hother
    simpa using h entry hentry
  rw [List.map_append, List.map_map]
  show (mark :: ((group.map fun _ => mark) ++ others.map Prod.fst)).eraseDups = _
  rw [List.eraseDups_cons, List.filter_append, hgroup, hothers, List.nil_append]

/-- The things with the first mark are the first group. -/
theorem grouped_cons (mark : Int) (a : α) (group : List α) {others : List (Int × α)}
    (h : ∀ entry ∈ others, entry.1 ≠ mark) :
    grouped ((a :: group).map (mark, ·) ++ others) = (mark, a :: group) :: grouped others := by
  have hfilter (other : Int) :
      (((a :: group).map (mark, ·) ++ others).filter fun entry => entry.1 == other) =
        (if mark = other then (a :: group).map (mark, ·) else []) ++
          others.filter fun entry => entry.1 == other := by
    rw [List.filter_append]
    by_cases hmark : mark = other <;> simp [hmark]
  have hothers : others.filter (fun entry => entry.1 == mark) = [] := by simpa using h
  rw [grouped, marks_eraseDups mark a group h, List.map_cons, hfilter, hothers]
  congr 1
  · simp [Function.comp_def]
  · refine List.map_congr_left fun other hother => ?_
    have hne : mark ≠ other := by
      rintro rfl
      obtain ⟨entry, hentry, heq⟩ := List.mem_map.1 (List.mem_eraseDups.1 hother)
      exact h entry hentry heq
    rw [hfilter, if_neg hne, List.nil_append]

/-- Lists that are each marked with their position are the groups; an empty one leaves no
trace. -/
theorem grouped_positions (lists : List (List α)) (start : Nat) :
    grouped ((lists.zipIdx start).flatMap fun (list, i) => list.map ((i : Int), ·)) =
      ((lists.zipIdx start).filter fun (list, _) => !list.isEmpty).map fun (list, i) =>
        ((i : Int), list) := by
  induction lists generalizing start with
  | nil => rfl
  | cons list lists ih =>
      rw [List.zipIdx_cons, List.flatMap_cons, List.filter_cons]
      cases list with
      | nil => exact ih (start + 1)
      | cons a group =>
          have hothers : ∀ entry ∈ (lists.zipIdx (start + 1)).flatMap fun (list, i) =>
              list.map ((i : Int), ·), entry.1 ≠ (start : Int) := by
            intro entry hentry
            obtain ⟨⟨list, i⟩, hi, hentry⟩ := List.mem_flatMap.1 hentry
            obtain ⟨b, -, rfl⟩ := List.mem_map.1 hentry
            have hle := List.le_snd_of_mem_zipIdx hi
            show (i : Int) ≠ start
            omega
          rw [grouped_cons _ a group hothers, ih]
          rfl

end Grouping

/-! ## Records -/

/-- The record of a member of the object at some position. -/
def memberRecord (position : Nat) (m : String × Value) : Value :=
  .object [("id", .integer (.ofNat position)), ("key", .string m.1), ("value", m.2)]

/-- The records of objects in a row. -/
def recordsOf (objects : List Members) (start : Nat) : List Value :=
  (objects.zipIdx start).flatMap fun (members, i) => members.map (memberRecord i)

theorem recordsFrom_objects (start : Nat) (objects : List Members) :
    recordsFrom start (objects.map .object) = .ok (recordsOf objects start) := by
  induction objects generalizing start with
  | nil => rfl
  | cons members objects ih =>
      rw [List.map_cons, recordsFrom, ih]
      rfl

/-- The first value that is not an object decides; nothing is left of the records before. -/
theorem recordsFrom_eq_error {items : List Value} {item : Value} (start : Nat)
    (h : items.find? (fun item => item.kind != .object) = some item) :
    recordsFrom start items = .error (.notAnObject .keyValue item.kind) := by
  induction items generalizing start with
  | nil => cases h
  | cons head items ih =>
      cases head with
      | object members =>
          have hrest : items.find? (fun item => item.kind != .object) = some item := h
          rw [recordsFrom, ih (start + 1) hrest]
          rfl
      | _ =>
          cases h
          rfl

/-- The values that are objects, or in lax mode arrays of objects, with these objects. -/
inductive Value.HoldsObjects (mode : Mode) : Value → List Members → Prop
  | lone (members : Members) : HoldsObjects mode (.object members) [members]
  | array (hmode : mode = .lax) (objects : List Members) :
      HoldsObjects mode (.array (objects.map .object)) objects

section

variable {mode : Mode} {v : Value} {objects : List Members}

theorem keyValue_of_holdsObjects (h : v.HoldsObjects mode objects) :
    keyValue mode v = .ofValues (recordsOf objects 0) := by
  cases h with
  | lone members =>
      have hrecords := recordsFrom_objects 0 [members]
      cases mode <;> exact congrArg Sequence.ofExcept hrecords
  | array hmode objects =>
      subst hmode
      exact congrArg Sequence.ofExcept (recordsFrom_objects 0 objects)

theorem memberWildcard_of_holdsObjects (h : v.HoldsObjects mode objects) :
    memberWildcard mode v = .ofValues (objects.flatMap fun members => members.map Prod.snd) := by
  cases h with
  | lone members => simp [memberWildcard, Value.memberValues]
  | array hmode objects =>
      subst hmode
      simp only [memberWildcard, Value.elements, List.flatMap_map, Value.memberValues]

theorem length_of_holdsObjects (h : v.HoldsObjects mode objects) :
    objects.length = v.elements.length := by
  cases h with
  | lone members => rfl
  | array hmode objects => exact (List.length_map _).symm

end

/-- A member that all records have is taken from each of them. -/
theorem member_of_records {mode : Mode} {name : String} {part : String × Value → Value}
    (h : ∀ i m, member mode name (memberRecord i m) = .single (part m))
    (objects : List Members) (start : Nat) :
    ((Sequence.ofValues (recordsOf objects start)).andThen (member mode name)).results =
      Results.ofValues (objects.flatMap fun members => members.map part) := by
  have hone (members : Members) (i : Nat) :
      (members.map (memberRecord i)).flatMap (fun v => (member mode name v).results) =
        Results.ofValues (members.map part) := by
    simp only [List.flatMap_map, h, Sequence.results, Results.ofValues, List.map_map]
    exact List.map_eq_flatMap.symm
  calc ((Sequence.ofValues (recordsOf objects start)).andThen (member mode name)).results
    _ = (recordsOf objects start).flatMap fun v => (member mode name v).results := by
        rw [Sequence.results_andThen]
        exact List.flatMap_map _ _ _
    _ = (objects.zipIdx start).flatMap fun entry => Results.ofValues (entry.1.map part) := by
        rw [recordsOf, List.flatMap_assoc]
        exact List.flatMap_congr fun entry _ => hone entry.1 entry.2
    _ = ((objects.zipIdx start).map Prod.fst).flatMap fun members =>
          Results.ofValues (members.map part) := by
        rw [List.flatMap_map]
    _ = objects.flatMap fun members => Results.ofValues (members.map part) := by
        rw [List.zipIdx_map_fst]
    _ = Results.ofValues (objects.flatMap fun members => members.map part) :=
        (List.map_flatMap ..).symm

/-! ## Objects from their records -/

/-- A record taken apart: the index of its object, and the member. -/
def Value.record? (v : Value) : Option (Int × String × Value) := do
  match ← v.member? "id", ← v.member? "key", ← v.member? "value" with
  | .integer index, .string key, value => some (index.toInt, key, value)
  | _, _, _ => none

/-- The objects that records tell of, each with its index. -/
def rebuilt (records : List Value) : List (Int × Members) :=
  grouped (records.filterMap Value.record?)

theorem record?_memberRecord (i : Nat) (m : String × Value) :
    (memberRecord i m).record? = some ((Int64.ofNat i).toInt, m) := rfl

/-- Records give the objects back, but for those without members. -/
theorem rebuilt_recordsOf {objects : List Members}
    (h : (objects.length : Int) - 1 ≤ Int64.maxValue.toInt) :
    rebuilt (recordsOf objects 0) =
      (objects.zipIdx.filter fun (members, _) => !members.isEmpty).map fun (members, i) =>
        ((i : Int), members) := by
  have hmarked : (recordsOf objects 0).filterMap Value.record? =
      objects.zipIdx.flatMap fun (members, i) => members.map ((i : Int), ·) := by
    rw [recordsOf, List.filterMap_flatMap]
    refine List.flatMap_congr fun (members, i) hi => ?_
    have hindex : (Int64.ofNat i).toInt = i := by
      refine Int64.toInt_ofNat_of_lt ?_
      have hlt : i < objects.length := by simpa using List.snd_lt_of_mem_zipIdx hi
      have hmax : Int64.maxValue.toInt = 2 ^ 63 - 1 := by decide
      omega
    simp only [List.filterMap_map, Function.comp_def, record?_memberRecord, hindex]
    exact congrFun List.filterMap_eq_map' members
  rw [rebuilt, hmarked, grouped_positions]

/-! ## The method -/

section

variable {mode : Mode} {s : Scope} {e : Expr}

/-- On a single value an accessor has the results that it has on that value. -/
theorem results_access_of_single {v : Value} (h : (e.eval mode s).results = [.ok v])
    (stage : Accessor) :
    ((Expr.access e stage).eval mode s).results = (stage.apply mode s v).results := by
  rw [Expr.eval, Sequence.results_andThen, h]
  exact List.flatMap_singleton _ _

theorem results_member_of_ofValues {vs : List Value}
    (h : (e.eval mode s).results = Results.ofValues vs) (name : String) :
    ((Expr.access e (.member name)).eval mode s).results =
      ((Sequence.ofValues vs).andThen (member mode name)).results := by
  rw [Expr.eval, Sequence.results_andThen, Sequence.results_andThen, h]
  rfl

theorem member_value_memberRecord (i : Nat) (m : String × Value) :
    member mode "value" (memberRecord i m) = .single m.2 := by
  cases mode <;> rfl

theorem member_key_memberRecord (i : Nat) (m : String × Value) :
    member mode "key" (memberRecord i m) = .single (.string m.1) := by
  cases mode <;> rfl

end

/-- The records of objects have lost nothing: their values are the results of `.*`, their keys
the names of the members in order, and grouped by their ids they are the objects again, each
with its index, but for those without members.  An array with anything else in it has no
records at all in lax mode, only the error of the first such element. -/
theorem keyValue_loses_nothing (mode : Mode) (s : Scope) (e : Expr) (v : Value)
    (hv : (e.eval mode s).results = [.ok v]) :
    let records : Expr := .access e (.method .keyValue)
    (∀ objects, v.HoldsObjects mode objects →
      ((Expr.access records (.member "value")).eval mode s).results =
          ((Expr.access e .memberWildcard).eval mode s).results ∧
        ((Expr.access records (.member "key")).eval mode s).results =
          Results.ofValues (objects.flatMap fun members => members.map fun m => .string m.1) ∧
        ∃ vs, (records.eval mode s).results = Results.ofValues vs ∧
          (v.IsIndexable → rebuilt vs =
            (objects.zipIdx.filter fun (members, _) => !members.isEmpty).map fun (members, i) =>
              ((i : Int), members))) ∧
    ∀ items, mode = .lax → v = .array items → (∃ item ∈ items, item.kind ≠ .object) →
      ∃ item, items.find? (fun item => item.kind != .object) = some item ∧
        (records.eval mode s).results = [.error (.notAnObject .keyValue item.kind)] := by
  intro records
  have hstage := results_access_of_single hv
  constructor
  · intro objects hobjects
    have hrecords : (records.eval mode s).results = Results.ofValues (recordsOf objects 0) := by
      rw [hstage]
      exact congrArg Sequence.results (keyValue_of_holdsObjects hobjects)
    have hmember := results_member_of_ofValues hrecords
    refine ⟨?_, ?_, recordsOf objects 0, hrecords, fun hindexable => ?_⟩
    · rw [hmember, hstage, member_of_records member_value_memberRecord]
      exact congrArg Sequence.results (memberWildcard_of_holdsObjects hobjects).symm
    · rw [hmember]
      exact member_of_records member_key_memberRecord objects 0
    · refine rebuilt_recordsOf ?_
      rw [length_of_holdsObjects hobjects]
      exact hindexable
  · rintro items rfl rfl hother
    have hsome : (items.find? fun item => item.kind != .object).isSome := by
      simpa [List.find?_isSome] using hother
    obtain ⟨item, hfirst⟩ := Option.isSome_iff_exists.1 hsome
    refine ⟨item, hfirst, ?_⟩
    rw [hstage]
    show (Sequence.ofExcept (recordsFrom 0 items)).results = _
    rw [recordsFrom_eq_error 0 hfirst]
    exact Sequence.results_failed _

/-- An object without members between two others, and a number behind an object. -/
theorem keyValue_loses_nothing_gap :
    let first : Members := [("a", .integer 1), ("b", .array [.integer 2])]
    let third : Members := [("a", .null)]
    let v : Value := .array [.object first, .object [], .object third]
    let s : Scope := { root := v, vars := [] }
    let items : List Value := [.object first, .integer 7]
    let t : Scope := { root := .array items, vars := [] }
    let records : Expr := .access .root (.method .keyValue)
    (Expr.root.eval .lax s).results = [.ok v] ∧ v.HoldsObjects .lax [first, [], third] ∧
      v.IsIndexable ∧
      ((Expr.access records (.member "value")).eval .lax s).results =
        [.ok (.integer 1), .ok (.array [.integer 2]), .ok .null] ∧
      ((Expr.access records (.member "key")).eval .lax s).results =
        [.ok (.string "a"), .ok (.string "b"), .ok (.string "a")] ∧
      (∃ vs, (records.eval .lax s).results = Results.ofValues vs ∧
        rebuilt vs = [(0, first), (2, third)]) ∧
      (Expr.root.eval .lax t).results = [.ok (.array items)] ∧
      (∃ item ∈ items, item.kind ≠ .object) ∧
      (records.eval .lax t).results = [.error (.notAnObject .keyValue .number)] := by
  intro first third v s items t records
  have hv : (Expr.root.eval .lax s).results = [.ok v] := rfl
  have hitems : (Expr.root.eval .lax t).results = [.ok (.array items)] := rfl
  have hobjects : v.HoldsObjects .lax [first, [], third] :=
    .array rfl [first, [], third]
  have hindexable : v.IsIndexable := by
    show (3 : Int) - 1 ≤ _
    decide
  have hother : ∃ item ∈ items, item.kind ≠ .object := ⟨.integer 7, by simp [items], nofun⟩
  obtain ⟨hloses, -⟩ := keyValue_loses_nothing .lax s .root v hv
  obtain ⟨hvalue, hkey, vs, hvs, hrebuilt⟩ := hloses _ hobjects
  obtain ⟨-, hfails⟩ := keyValue_loses_nothing .lax t .root _ hitems
  obtain ⟨item, hfirst, herror⟩ := hfails _ rfl rfl hother
  obtain rfl : .integer 7 = item := Option.some.inj hfirst
  exact ⟨hv, hobjects, hindexable, hvalue, hkey, ⟨vs, hvs, hrebuilt hindexable⟩, hitems, hother,
    herror⟩

end JsonPath
