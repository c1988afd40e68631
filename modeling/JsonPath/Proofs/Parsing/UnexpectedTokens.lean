import JsonPath.Proofs.Parsing.Locality
import JsonPath.Proofs.Parsing.ViablePrefixes

/-!
# Which token is unexpected

A complaint names a place, and tokens may stand anywhere.  So the token that is complained
about is told by its index.

* `numbered` puts tokens at places that tell their index, and `StopsAt` says that the parser
  stops at an index wherever the tokens stand.  `stopsAt_iff` compares the two.
* `StopsAt.of_take`: only the tokens up to the one behind it decide where the parser stops.
* `StopsAt.completes`: the tokens before it are the beginning of a statement.

`unexpected_token_is_first_offending` puts these together.
-/

namespace JsonPath

open Grammar

namespace Parser

/-! ## Tokens apart from their places -/

/-- The tokens and their images. -/
def written (ts : Tokens) : List (Token × String) := ts.map fun t => (t.token, t.image)

/-- Tokens at places that tell how many tokens come before.  No place of a source is in
line zero. -/
def numbered (xs : List (Token × String)) : Tokens :=
  xs.mapIdx fun i x => { token := x.1, image := x.2, position := ⟨i, 0, 0⟩ }

section Numbered

variable {xs xs' : List (Token × String)} {ts pre mid : Tokens} {i n : Nat} {t : SourceToken}

theorem getElem?_numbered :
    (numbered xs)[i]? = xs[i]?.map fun x => ⟨x.1, x.2, ⟨i, 0, 0⟩⟩ :=
  List.getElem?_mapIdx

theorem written_numbered (xs : List (Token × String)) : written (numbered xs) = xs := by
  refine List.ext_getElem? fun i => ?_
  rw [written, List.getElem?_map, getElem?_numbered]
  cases xs[i]? <;> rfl

theorem take_numbered (h : xs'.take n = xs.take n) :
    (numbered xs').take n = (numbered xs).take n := by
  refine List.ext_getElem? fun i => ?_
  have hi := congrArg (·[i]?) h
  simp only [List.getElem?_take] at hi ⊢
  split at hi
  · next hlt => rw [if_pos hlt, if_pos hlt, getElem?_numbered, getElem?_numbered, hi]
  · next hge => rw [if_neg hge, if_neg hge]

/-- The place tells the token. -/
theorem getElem?_of_position (h : numbered xs = pre ++ mid)
    (hplace : (first mid).position = ⟨i, 0, 0⟩) :
    pre.length = i ∧ (numbered xs)[i]? = some (first mid) := by
  cases mid with
  | nil => cases hplace
  | cons t mid =>
      have ht : (numbered xs)[pre.length]? = some t := by simp [h]
      rw [getElem?_numbered] at ht
      obtain ⟨x, hx, hxt⟩ := Option.map_eq_some_iff.1 ht
      have hi : pre.length = i := by
        rw [← hxt] at hplace
        exact congrArg Position.offset hplace
      subst hi
      refine ⟨rfl, ?_⟩
      rw [getElem?_numbered, ht]
      rfl

end Numbered

/-! ## The same tokens elsewhere -/

section Elsewhere

variable {ts ts' : Tokens}

theorem map_token_eq (h : written ts' = written ts) :
    ts'.map (·.token) = ts.map (·.token) := by
  have hfst := congrArg (List.map Prod.fst) h
  rw [written, written, List.map_map, List.map_map] at hfst
  exact hfst

/-- Tokens that are the same apart from their places. -/
theorem alike_of_written (h : written ts' = written ts) (hts : EndsOnce (ts.map (·.token))) :
    Alike (fun _ _ => True) ts ts' := by
  obtain ⟨front, hfront, -⟩ := hts
  have htwins {t t' : SourceToken} (h : (t'.token, t'.image) = (t.token, t.image)) :
      Twins (fun _ _ => True) t t' :=
    ⟨(congrArg Prod.fst h).symm, (congrArg Prod.snd h).symm, trivial⟩
  induction front generalizing ts ts' with
  | nil =>
      obtain ⟨t, rest, rfl, ht, hrest⟩ := List.map_eq_cons_iff.1 hfront
      obtain rfl := List.map_eq_nil_iff.1 hrest
      obtain ⟨t', rest', rfl, ht', hrest'⟩ := List.map_eq_cons_iff.1 h
      obtain rfl := List.map_eq_nil_iff.1 hrest'
      exact .last (htwins ht') ht
  | cons x front ih =>
      obtain ⟨t, rest, rfl, -, hrest⟩ := List.map_eq_cons_iff.1 hfront
      obtain ⟨t', rest', rfl, ht', hrest'⟩ := List.map_eq_cons_iff.1 h
      exact .cons (htwins ht') (ih hrest' hrest)

/-- The same tokens elsewhere are complained about in the same way, at the same token. -/
theorem parse_error_elsewhere {e : SyntaxError} (h : Alike (fun _ _ => True) ts ts')
    (herror : parse ts = .error e) :
    ∃ (i : Nat) (t t' : SourceToken), ts[i]? = some t ∧ ts'[i]? = some t' ∧
      e.position = t.position ∧ parse ts' = .error ⟨e.complaint, t'.position⟩ := by
  have houtcomes := parse_outcomes h.corresponding
  rw [herror] at houtcomes
  generalize hparse : parse ts' = y at houtcomes
  cases houtcomes with
  | error hplaces =>
      obtain ⟨i, t, t', ht, ht', rfl, rfl⟩ := hplaces
      exact ⟨i, t, t', ht, ht', rfl, rfl⟩

end Elsewhere

theorem endsOnce_of_statement {xs : List Token} {s : Mode × Body} (h : Grammar.Statement xs s) :
    EndsOnce xs := by
  have hbody {us : List Token} {b : Body} (h : DerivesBody us b) : .endOfInput ∉ us := by
    obtain ⟨p, d, -⟩ := derivesBody_iff.1 h
    exact endOfInput_notMem d
  cases h with
  | unmarked h => exact ⟨_, rfl, hbody h⟩
  | lax h => exact ⟨_, rfl, by simpa using hbody h⟩
  | strict h => exact ⟨_, rfl, by simpa using hbody h⟩

/-! ## The index of an unexpected token -/

/-- Wherever the tokens stand, the one with this index is not expected. -/
def StopsAt (ts : Tokens) (i : Nat) (expected : Expectation) : Prop :=
  ∀ ts', written ts' = written ts → ∃ t, ts'[i]? = some t ∧
    parse ts' = .error ⟨.unexpectedToken expected t.describe, t.position⟩

section Index

variable {ts ts' : Tokens} {i j : Nat} {expected : Expectation} {found : String}
  {place : Position}

/-- The index can be read off the place if the tokens are numbered. -/
theorem stopsAt_iff (hts : EndsOnce (ts.map (·.token))) :
    StopsAt ts i expected ↔
      ∃ found, parse (numbered (written ts)) =
        .error ⟨.unexpectedToken expected found, ⟨i, 0, 0⟩⟩ := by
  constructor
  · intro h
    obtain ⟨t, ht, hparse⟩ := h _ (written_numbered _)
    rw [getElem?_numbered] at ht
    obtain ⟨x, -, rfl⟩ := Option.map_eq_some_iff.1 ht
    exact ⟨_, hparse⟩
  · rintro ⟨found, hparse⟩ ts' hts'
    obtain ⟨pre, mid, hnumbered, hfound, hplace, -⟩ := parse_local hparse
    obtain ⟨-, hi⟩ := getElem?_of_position hnumbered hplace.symm
    rw [← hts'] at hparse hi
    have hends : EndsOnce ((numbered (written ts')).map (·.token)) :=
      map_token_eq ((written_numbered _).trans hts') ▸ hts
    have halike := alike_of_written (written_numbered (written ts')).symm hends
    obtain ⟨j, t, t', ht, ht', hplace, hparse'⟩ := parse_error_elsewhere halike hparse
    rw [getElem?_numbered, written, List.getElem?_map, ht'] at ht
    obtain rfl := Option.some.inj ht
    obtain rfl : i = j := congrArg Position.offset hplace
    rw [getElem?_numbered, written, List.getElem?_map, ht'] at hi
    rw [hfound, ← Option.some.inj hi] at hparse'
    exact ⟨t', ht', hparse'⟩

theorem exists_stopsAt (hts : EndsOnce (ts.map (·.token)))
    (h : parse ts = .error ⟨.unexpectedToken expected found, place⟩) :
    ∃ i, StopsAt ts i expected := by
  have halike := alike_of_written (written_numbered (written ts)) hts
  obtain ⟨i, t, t', -, ht', -, hparse⟩ := parse_error_elsewhere halike h
  rw [getElem?_numbered] at ht'
  obtain ⟨x, -, rfl⟩ := Option.map_eq_some_iff.1 ht'
  exact ⟨i, (stopsAt_iff hts).2 ⟨found, hparse⟩⟩

theorem StopsAt.unique (hts : EndsOnce (ts.map (·.token))) (h : StopsAt ts i expected)
    (h' : StopsAt ts j expected) : i = j := by
  obtain ⟨found, hparse⟩ := (stopsAt_iff hts).1 h
  obtain ⟨found', hparse'⟩ := (stopsAt_iff hts).1 h'
  rw [hparse] at hparse'
  simp only [Except.error.injEq, SyntaxError.mk.injEq, Position.mk.injEq] at hparse'
  exact hparse'.2.1

/-- Only the tokens up to the one behind it decide that a token is not expected. -/
theorem StopsAt.of_take (hts : EndsOnce (ts.map (·.token))) (hts' : EndsOnce (ts'.map (·.token)))
    (h : StopsAt ts i expected) (htake : (written ts').take (i + 2) = (written ts).take (i + 2)) :
    StopsAt ts' i expected := by
  obtain ⟨found, hparse⟩ := (stopsAt_iff hts).1 h
  obtain ⟨pre, mid, hnumbered, -, hplace, hlocal⟩ := parse_local hparse
  obtain ⟨rfl, -⟩ := getElem?_of_position hnumbered hplace.symm
  have hagree := take_numbered htake
  have hpre : (numbered (written ts')).take pre.length = pre := by
    have hfront := congrArg (List.take pre.length) hagree
    rw [List.take_take, List.take_take, Nat.min_eq_left (Nat.le_add_right _ _)] at hfront
    rw [hfront, hnumbered, List.take_left]
  have hmid : ((numbered (written ts')).drop pre.length).take 2 = mid.take 2 := by
    rw [List.take_drop, hagree, hnumbered, ← List.take_drop, List.drop_left]
  have hsplit := List.take_append_drop pre.length (numbered (written ts'))
  rw [hpre] at hsplit
  refine (stopsAt_iff hts').2 ⟨found, ?_⟩
  rw [← hsplit]
  exact hlocal _ hmid

/-- The tokens before one that is not expected can be completed to a statement. -/
theorem StopsAt.completes (hts : EndsOnce (ts.map (·.token))) (h : StopsAt ts i expected)
    (hq : Quotable (ts.map (·.token))) :
    ∃ us last s, EndsOnce ((ts.take i ++ us ++ [last]).map (·.token)) ∧
      parse (ts.take i ++ us ++ [last]) = .ok s := by
  obtain ⟨found, hparse⟩ := (stopsAt_iff hts).1 h
  have htokens : (numbered (written ts)).map (·.token) = ts.map (·.token) :=
    map_token_eq (written_numbered _)
  obtain ⟨xs, rest, us, s, ⟨phrase, hnumbered, rfl⟩, hplace, hstatement, hscoped⟩ :=
    viable_of_parse (htokens ▸ hq) hparse
  obtain ⟨rfl, -⟩ := getElem?_of_position hnumbered hplace.symm
  let completion : Tokens := us.map (⟨·, "", .start⟩)
  let last : SourceToken := ⟨.endOfInput, "", .start⟩
  have hfront : (ts.take phrase.length).map (·.token) = phrase.map (·.token) := by
    rw [List.map_take, ← htokens, hnumbered, ← List.map_take, List.take_left]
  have hcompletion : completion.map (·.token) = us := by
    rw [List.map_map]
    exact List.map_id us
  have hwhole : (ts.take phrase.length ++ completion ++ [last]).map (·.token) =
      phrase.map (·.token) ++ us ++ [.endOfInput] := by
    rw [List.map_append, List.map_append, hfront, hcompletion]
    rfl
  rw [← hwhole] at hstatement
  exact ⟨completion, last, s, endsOnce_of_statement hstatement,
    parse_of_statement hstatement hscoped⟩

end Index

end Parser

open JsonPath.Parser in
/-- A token that is not expected is the first one that offends.  There is one index at which
the parser stops, wherever the tokens stand; the tokens before it can be completed to a
statement; and whatever has the same tokens up to the one behind it stops there as well, for
the same reason. -/
theorem unexpected_token_is_first_offending {ts : Tokens} {expected : Expectation}
    {found : String} {place : Position} (hts : EndsOnce (ts.map (·.token)))
    (hq : Quotable (ts.map (·.token)))
    (h : parse ts = .error ⟨.unexpectedToken expected found, place⟩) :
    ∃! i, StopsAt ts i expected ∧
      (∃ t, ts[i]? = some t ∧ found = t.describe ∧ place = t.position) ∧
      (∃ us last s, EndsOnce ((ts.take i ++ us ++ [last]).map (·.token)) ∧
        parse (ts.take i ++ us ++ [last]) = .ok s) ∧
      ∀ ts', EndsOnce (ts'.map (·.token)) →
        (written ts').take (i + 2) = (written ts).take (i + 2) → StopsAt ts' i expected := by
  obtain ⟨i, hi⟩ := exists_stopsAt hts h
  obtain ⟨t, ht, hparse⟩ := hi ts rfl
  rw [h] at hparse
  cases hparse
  exact ⟨i, ⟨hi, ⟨t, ht, rfl, rfl⟩, hi.completes hts hq, fun ts' hts' => hi.of_take hts hts'⟩,
    fun j hj => hj.1.unique hts hi⟩

open JsonPath.Parser in
/-- `$ like_regex "a" flag 1`: the flags have to be a string, and `"q"` would do. -/
theorem unexpected_token_is_first_offending_flags :
    let ts : Tokens := [⟨.dollar, "$", ⟨0, 1, 1⟩⟩, ⟨.word "like_regex", "like_regex", ⟨2, 1, 3⟩⟩,
      ⟨.string "a", "\"a\"", ⟨13, 1, 14⟩⟩, ⟨.word "flag", "flag", ⟨17, 1, 18⟩⟩,
      ⟨.integer 1, "1", ⟨22, 1, 23⟩⟩, ⟨.endOfInput, "", ⟨23, 1, 24⟩⟩]
    EndsOnce (ts.map (·.token)) ∧ Quotable (ts.map (·.token)) ∧
      parse ts = .error ⟨.unexpectedToken .stringLiteral "`1`", ⟨22, 1, 23⟩⟩ ∧
      StopsAt ts 4 .stringLiteral ∧
      ∃ us last s, parse (ts.take 4 ++ us ++ [last]) = .ok s := by
  intro ts
  have hts : EndsOnce (ts.map (·.token)) :=
    ⟨[.dollar, .word "like_regex", .string "a", .word "flag", .integer 1], rfl, by decide⟩
  have hq : Quotable (ts.map (·.token)) := by
    intro text htext
    obtain rfl : text = "a" := by simpa [ts, List.infix_cons_iff] using htext
    exact exists_quoted (by decide)
  have hparse : parse ts = .error ⟨.unexpectedToken .stringLiteral "`1`", ⟨22, 1, 23⟩⟩ := by rfl
  obtain ⟨i, ⟨hi, ⟨t, ht, -, hplace⟩, ⟨us, last, s, -, hs⟩, -⟩, -⟩ :=
    unexpected_token_is_first_offending hts hq hparse
  obtain ⟨found, hnumbered⟩ := (stopsAt_iff hts).1 hi
  have hfour : parse (numbered (written ts)) =
      .error ⟨.unexpectedToken .stringLiteral "`1`", ⟨4, 0, 0⟩⟩ := by rfl
  rw [hfour] at hnumbered
  cases hnumbered
  exact ⟨hts, hq, hparse, hi, us, last, s, hs⟩

end JsonPath
