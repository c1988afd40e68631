import JsonPath.Command.Response
import JsonPath.Proofs.Json.Spelling

/-!
# Printed values read back

The program prints values one on a line; `printed_values_read_back` says that its output
is an input of these values again, and that the indented text of a value reads back too.

* `State.completes` is the run of the reader's machine over the tokens of a value.  It
  needs room for every container that is open, which is why the depth of the value is
  bounded.  `read?_of_spells` joins it with the cutting of a text into tokens.
* A compact text holds no control character (`OneLine.compact`), so that
  `splitLines_lines` finds as many lines as values; none is passed over as blank, because
  a text of blanks is not JSON (`not_blank_of_read?`).
-/

namespace JsonPath

/-- A new member comes last. -/
theorem Members.insert_of_nodup {m : String × Value} {before after : Members}
    (h : ((before ++ m :: after).map Prod.fst).Nodup) :
    before.insert m.1 m.2 = before ++ [m] := by
  induction before with
  | nil => rfl
  | cons n rest ih =>
      rw [List.cons_append, List.map_cons, List.nodup_cons] at h
      have hne : n.1 ≠ m.1 := by
        intro heq
        exact h.1 (by simp [heq])
      rw [Members.insert, if_neg hne, ih h.2, List.cons_append]

namespace Json

/-! ## The machine over the tokens of a value -/

/-- The machine takes one token after the other. -/
def State.run (state : State) (tokens : List Token) : Option State :=
  tokens.foldlM State.step state

namespace State

variable {stack : List Frame}

theorem run_nil (state : State) : state.run [] = some state := rfl

theorem run_cons (state : State) (token : Token) (rest : List Token) :
    state.run (token :: rest) = (state.step token).bind fun after => after.run rest := rfl

theorem run_append {state after : State} {tokens rest : List Token}
    (h : state.run tokens = some after) : state.run (tokens ++ rest) = after.run rest := by
  rw [run] at h
  rw [run, List.foldlM_append, h]
  rfl

/-- The tokens of a value lead from where it is expected to where it is complete. -/
def Completes (stack : List Frame) (v : Value) : Prop :=
  run (.value stack) (tokens v) = some (.complete v stack)

/-- With room for a container the machine goes into it. -/
theorem step_openArray (h : stack.length < maxDepth) :
    step (.value stack) .openArray = some (.first stack) := by
  rw [step, begin, if_pos h]

theorem step_openObject (h : stack.length < maxDepth) :
    step (.value stack) .openObject = some (.key true [] stack) := by
  rw [step, begin, if_pos h]

/-- What is not the end of the array is its first element. -/
theorem step_first {token : Token} (h : token ≠ .closeArray) :
    step (.first stack) token = step (.value (.element [] :: stack)) token := by
  cases token <;> first | rfl | exact absurd rfl h

/-- The elements from one on, to the end of the array. -/
theorem run_items {v : Value} {rest : List Value}
    (h : ∀ w ∈ v :: rest, ∀ before, Completes (.element before :: stack) w)
    (before : List Value) :
    run (.value (.element before :: stack))
        ([Token.comma].intercalate ((v :: rest).map tokens) ++ [.closeArray]) =
      some (.complete (.array (before.reverse ++ v :: rest)) stack) := by
  induction rest generalizing v before with
  | nil =>
      rw [List.map_singleton, List.intercalate_singleton,
        run_append (h v List.mem_cons_self before)]
      simp [run_cons, run_nil, step]
  | cons w rest ih =>
      -- the comma puts the element before the others, and the next one is expected
      have hrest := ih (fun x hx => h x (List.mem_cons_of_mem v hx)) (v :: before)
      rw [List.map_cons, List.map_cons, List.intercalate_cons_cons, List.append_assoc,
        List.append_assoc, run_append (h v List.mem_cons_self before)]
      simpa [run_cons, step] using hrest

theorem run_array {items : List Value}
    (h : ∀ v ∈ items, ∀ before, Completes (.element before :: stack) v) :
    run (.first stack) ([Token.comma].intercalate (items.map tokens) ++ [.closeArray]) =
      some (.complete (.array items) stack) := by
  cases items with
  | nil => rfl
  | cons v rest =>
      obtain ⟨token, more, htokens, htoken⟩ := exists_tokens_eq_cons v
      obtain ⟨tail, htail⟩ : ∃ tail, [Token.comma].intercalate ((v :: rest).map tokens) ++
          [.closeArray] = token :: tail := by
        cases rest <;> simp [htokens, List.intercalate_cons_cons]
      have hitems := run_items h []
      rw [htail, run_cons] at hitems ⊢
      rw [step_first htoken]
      exact hitems

/-- A member where a key is expected. -/
theorem run_member {m : String × Value} {before : Members}
    (h : Completes (.member before m.1 :: stack) m.2) (mayClose : Bool) :
    run (.key mayClose before stack) (.string m.1 :: .colon :: tokens m.2) =
      some (.complete m.2 (.member before m.1 :: stack)) := by
  cases mayClose <;> simpa [run_cons, step, Completes] using h

/-- The members from one on, to the end of the object; the keys are all distinct. -/
theorem run_members {m : String × Value} {rest before : Members}
    (h : ∀ n ∈ m :: rest, ∀ before, Completes (.member before n.1 :: stack) n.2)
    (hkeys : ((before ++ m :: rest).map Prod.fst).Nodup) (mayClose : Bool) :
    run (.key mayClose before stack)
        ([Token.comma].intercalate
          ((m :: rest).map fun n => .string n.1 :: .colon :: tokens n.2) ++ [.closeObject]) =
      some (.complete (.object (before ++ m :: rest)) stack) := by
  induction rest generalizing m before mayClose with
  | nil =>
      have hinsert := Members.insert_of_nodup hkeys
      rw [List.map_singleton, List.intercalate_singleton,
        run_append (run_member (h m List.mem_cons_self before) mayClose)]
      simp [run_cons, run_nil, step, hinsert]
  | cons n rest ih =>
      -- behind a comma an object may not end, so the state is not the one at its beginning
      have hinsert := Members.insert_of_nodup hkeys
      rw [List.append_cons] at hkeys
      have hrest := ih (fun x hx => h x (List.mem_cons_of_mem m hx)) hkeys false
      rw [List.map_cons, List.map_cons, List.intercalate_cons_cons, List.append_assoc,
        List.append_assoc, run_append (run_member (h m List.mem_cons_self before) mayClose)]
      simpa [run_cons, step, hinsert] using hrest

theorem run_object {members : Members}
    (h : ∀ m ∈ members, ∀ before, Completes (.member before m.1 :: stack) m.2)
    (hkeys : (members.map Prod.fst).Nodup) :
    run (.key true [] stack)
        ([Token.comma].intercalate
          (members.map fun m => .string m.1 :: .colon :: tokens m.2) ++ [.closeObject]) =
      some (.complete (.object members) stack) := by
  cases members with
  | nil => rfl
  | cons m rest => exact run_members h hkeys true

/-- A value is read where there is room for its containers. -/
theorem completes {v : Value} (h : v.DistinctKeys)
    (hdepth : v.depth + stack.length ≤ maxDepth) : Completes stack v := by
  induction h generalizing stack with
  | null => rfl
  | boolean b => rfl
  | integer n => rfl
  | number _ => rfl
  | string s => rfl
  | dateTime _ => rfl
  | array _ ih =>
      rw [Value.depth] at hdepth
      rw [Completes, tokens, run_cons, step_openArray (by omega), Option.bind_some, itemTokens_eq]
      refine run_array fun v hv before => ih v hv ?_
      have hv := Value.depth_le_itemsDepth hv
      rw [List.length_cons]
      omega
  | object hkeys _ ih =>
      rw [Value.depth] at hdepth
      rw [Completes, tokens, run_cons, step_openObject (by omega), Option.bind_some,
        memberTokens_eq]
      refine run_object (fun m hm before => ih m hm ?_) hkeys
      have hm := Value.depth_le_membersDepth hm
      rw [List.length_cons]
      omega

end State

/-- A text that spells a value is read as that value. -/
theorem read?_of_spells {text : List Char} {v : Value} (hv : v.DistinctKeys)
    (hdepth : v.depth ≤ maxDepth) (h : Spells text (tokens v)) : read? text = some v := by
  have htokens : Token.ofChars? text = some (tokens v) := by
    simpa [Token.ofChars?] using h [] .nil
  have hrun : (tokens v).foldlM State.step (.value []) = some (.complete v []) :=
    State.completes hv hdepth
  rw [read?, htokens, Option.bind_some, ofTokens?, hrun]

/-- A text of blanks is not JSON. -/
theorem not_blank_of_read? {text : List Char} {v : Value} (h : read? text = some v) :
    text.all isBlank = false := by
  rw [← Bool.not_eq_true]
  intro hblank
  rw [read?] at h
  obtain ⟨tokens, htokens, hv⟩ := Option.bind_eq_some_iff.1 h
  rw [Token.eq_nil_of_blank hblank htokens] at hv
  cases hv

/-! ## Lines -/

/-- No control character is in the text, and so no line break. -/
def OneLine (text : List Char) : Prop := ∀ c ∈ text, 0x20 ≤ c.toNat

namespace OneLine

variable {text more : List Char}

theorem nil : OneLine [] := List.forall_mem_nil _

theorem cons {c : Char} (hc : 0x20 ≤ c.toNat) (h : OneLine text) : OneLine (c :: text) :=
  List.forall_mem_cons.2 ⟨hc, h⟩

theorem append (h : OneLine text) (hmore : OneLine more) : OneLine (text ++ more) :=
  List.forall_mem_append.2 ⟨h, hmore⟩

theorem separated {α : Type} {items : List α} {write : α → List Char}
    (h : ∀ a ∈ items, OneLine (write a)) : OneLine ([','].intercalate (items.map write)) := by
  induction items with
  | nil => exact .nil
  | cons a rest ih =>
      have hfirst := h a List.mem_cons_self
      cases rest with
      | nil => simpa using hfirst
      | cons b rest =>
          have hrest := ih fun x hx => h x (List.mem_cons_of_mem a hx)
          rw [List.map_cons, List.map_cons, List.intercalate_cons_cons, List.append_assoc]
          exact hfirst.append (.cons (by decide) hrest)

theorem hex4 (code : Nat) : OneLine (hex4 code) := by
  have hdigit : ∀ d < 16, 0x20 ≤ (Nat.digitChar d).toNat := by decide
  intro c hc
  obtain ⟨shift, -, rfl⟩ := List.mem_map.1 hc
  exact hdigit _ (Nat.mod_lt _ (by decide))

theorem escapeChar (c : Char) : OneLine (escapeChar c) := by
  unfold Json.escapeChar
  iterate 7
    split
    · simp [OneLine]
  split
  · exact .cons (by decide) (.cons (by decide) (.hex4 _))
  · next hcontrol =>
      refine .cons ?_ .nil
      omega

theorem quoted (text : List Char) : OneLine (quoted text) := by
  refine .cons (by decide) (.append ?_ (.cons (by decide) .nil))
  intro c hc
  obtain ⟨d, -, hd⟩ := List.mem_flatMap.1 hc
  exact OneLine.escapeChar d c hd

theorem numeral (n : Numeral) : OneLine n.text := by
  have hmarks : ∀ d ∈ ['.', 'e', '+', '-'], 0x20 ≤ d.toNat := by simp
  intro c hc
  rcases n.mem_text hc with hdigit | hmark
  · have hlow : 48 ≤ c.toNat := (Char.isDigit_iff_toNat.1 hdigit).1
    omega
  · exact hmarks c hmark

theorem sign (negative : Bool) (h : OneLine text) :
    OneLine ((if negative then ['-'] else []) ++ text) := by
  cases negative with
  | false => exact h
  | true => exact .cons (by decide) h

theorem scalarText (v : Value) : OneLine (scalarText v) := by
  cases v with
  | boolean b => cases b <;> simp [OneLine, Json.scalarText]
  | integer n =>
      obtain ⟨negative, numeral, htext, -⟩ := isWritten_integer n
      rw [Json.scalarText, htext]
      exact .sign negative (.numeral numeral)
  | number x =>
      cases x with
      | finite negative m =>
          obtain ⟨n, -, htext, -, -⟩ := exists_numeral m
          rw [Json.scalarText, htext, Option.getD_some]
          exact .sign negative (.numeral n)
      | _ => simp [OneLine, Json.scalarText, Binary64.text?]
  | string s => exact .quoted s.toList
  | dateTime d => exact .quoted d.text
  | _ => simp [OneLine, Json.scalarText]

/-- A value is written on one line. -/
theorem compact {v : Value} (h : v.DistinctKeys) : OneLine (compact v) := by
  induction h with
  | null => exact .scalarText .null
  | boolean b => exact .scalarText (.boolean b)
  | integer n => exact .scalarText (.integer n)
  | @number x _ => exact .scalarText (.number x)
  | string s => exact .scalarText (.string s)
  | @dateTime d _ => exact .scalarText (.dateTime d)
  | array _ ih =>
      rw [Json.compact, compactItems_eq]
      exact .cons (by decide) (.append (.separated ih) (.cons (by decide) .nil))
  | object _ _ ih =>
      rw [Json.compact, compactMembers_eq]
      refine .cons (by decide) (.append (.separated fun m hm => ?_) (.cons (by decide) .nil))
      exact .append (.quoted m.1.toList) (.cons (by decide) (ih m hm))

theorem ne_lineFeed (h : OneLine text) : ∀ c ∈ text, c ≠ '\n' := by
  rintro c hc rfl
  exact absurd (h _ hc) (by decide)

theorem ne_carriageReturn (h : OneLine text) : ∀ c ∈ text, c ≠ '\r' := by
  rintro c hc rfl
  exact absurd (h _ hc) (by decide)

end OneLine

/-- A line with its end is cut off as that line. -/
theorem splitLines_go_line {line before : List Char} (h : OneLine line) (hbefore : OneLine before)
    (rest : List Char) :
    splitLines.go (line ++ '\n' :: rest) before =
      (before.reverse ++ line) :: splitLines.go rest [] := by
  induction line generalizing before with
  | nil =>
      rw [List.nil_append, splitLines.go, List.append_nil]
      rintro line rfl
      exact hbefore.ne_carriageReturn '\r' List.mem_cons_self rfl
  | cons c line ih =>
      have hc := h.ne_lineFeed c List.mem_cons_self
      obtain ⟨hfirst, hline⟩ := List.forall_mem_cons.1 h
      rw [List.cons_append, splitLines.go, ih hline (.cons hfirst hbefore), List.reverse_cons,
        List.append_assoc, List.singleton_append]
      · exact hc
      · exact fun _ _ heq => hc heq

/-- Lines that are each ended by a line feed are the lines of the text. -/
theorem splitLines_lines {lines : List (List Char)} (h : ∀ line ∈ lines, OneLine line) :
    splitLines (lines.flatMap (· ++ ['\n'])) = lines := by
  induction lines with
  | nil => rfl
  | cons line rest ih =>
      obtain ⟨hfirst, hrest⟩ := List.forall_mem_cons.1 h
      rw [List.flatMap_cons, splitLines, List.append_assoc, List.singleton_append,
        splitLines_go_line hfirst .nil]
      exact congrArg (line :: ·) (ih hrest)

theorem mapM_read? {vs : List Value} {write : Value → List Char}
    (h : ∀ v ∈ vs, read? (write v) = some v) : (vs.map write).mapM read? = some vs := by
  induction vs with
  | nil => rfl
  | cons v rest ih =>
      obtain ⟨hfirst, hrest⟩ := List.forall_mem_cons.1 h
      rw [List.map_cons, List.mapM_cons, hfirst, ih hrest]
      rfl

/-- Lines that are each JSON are the items of an input. -/
theorem readInput?_lines {vs : List Value} {write : Value → List Char}
    (hline : ∀ v ∈ vs, OneLine (write v)) (hread : ∀ v ∈ vs, read? (write v) = some v) :
    readInput? true (vs.flatMap fun v => write v ++ ['\n']) = some vs := by
  have hlines : splitLines (vs.flatMap fun v => write v ++ ['\n']) = vs.map write := by
    have hall : ∀ line ∈ vs.map write, OneLine line := List.forall_mem_map.2 hline
    rw [← splitLines_lines hall, List.flatMap_map]
  have hkept : ((vs.map write).filter fun line => !line.all isBlank) = vs.map write := by
    rw [List.filter_eq_self]
    intro line hmem
    obtain ⟨v, hv, rfl⟩ := List.mem_map.1 hmem
    rw [not_blank_of_read? (hread v hv)]
    rfl
  rw [readInput?, if_pos rfl, hlines, hkept, mapM_read? hread]

end Json

/-! ## The output of the program -/

namespace Response

theorem foldl_addResult_ofValues (pretty : Bool) (vs : List Value) (r : Response) :
    ((Results.ofValues vs).foldl (addResult pretty) r).output.toList =
      r.output.toList ++ vs.flatMap fun v => (render pretty v).toList ++ ['\n'] := by
  induction vs generalizing r with
  | nil => simp [Results.ofValues]
  | cons v rest ih =>
      rw [Results.ofValues, List.map_cons, List.foldl_cons]
      refine (ih (r.addResult pretty (.ok v))).trans ?_
      simp [addResult, addLine]

/-- Values are printed as their texts, each with a line feed behind it. -/
theorem output_ofValues (pretty : Bool) (vs : List Value) :
    (ofResults pretty (.ofValues vs)).output.toList =
      vs.flatMap fun v => (render pretty v).toList ++ ['\n'] := by
  have hfatal : (Results.ofValues vs).fatal? = none := by
    simp [Results.fatal?, Results.ofValues, List.findSome?_eq_none_iff]
  rw [ofResults, hfatal]
  simpa [succeeded] using foldl_addResult_ofValues pretty vs succeeded

end Response

/-- The number texts in a value read back. -/
def Value.NumbersReadBack : Value → Prop := Everywhere Json.ReadsBack fun _ => True

theorem Value.Representable.legible {v : Value} (h : v.Representable) (hn : v.NumbersReadBack) :
    Json.Legible v :=
  h.and hn (fun _ _ hx => hx) fun _ hd _ => hd

/-- What is printed reads back.  Values without date-times and numbers that are not
finite, at most 127 containers deep, are printed one on a line in their compact texts;
if the shortest text of each number in them is read as that number, the whole output read
line by line gives exactly these values, each in its place, of its kind and with its
members in order.  The indented text of each of them gives it back as well. -/
theorem printed_values_read_back {vs : List Value}
    (h : ∀ v ∈ vs, v.Representable ∧ v.depth ≤ 127) (hnumbers : ∀ v ∈ vs, v.NumbersReadBack) :
    (Response.ofResults false (.ofValues vs)).output.toList =
        vs.flatMap (fun v => Json.compact v ++ ['\n']) ∧
      Json.readInput? true (vs.flatMap fun v => Json.compact v ++ ['\n']) = some vs ∧
      ∀ v ∈ vs, Json.read? (Json.pretty 0 v) = some v := by
  have hkeys : ∀ v ∈ vs, v.DistinctKeys := fun v hv => (h v hv).1.distinctKeys
  have hlegible : ∀ v ∈ vs, Json.Legible v := fun v hv => (h v hv).1.legible (hnumbers v hv)
  refine ⟨?_, ?_, fun v hv => ?_⟩
  · simpa [Response.render] using Response.output_ofValues false vs
  · refine Json.readInput?_lines (fun v hv => .compact (hkeys v hv)) fun v hv => ?_
    exact Json.read?_of_spells (hkeys v hv) (h v hv).2 (Json.spells_compact (hlegible v hv))
  · exact Json.read?_of_spells (hkeys v hv) (h v hv).2 (Json.spells_pretty (hlegible v hv) 0)

theorem printed_values_read_back_mixed :
    let tenth : Magnitude := { significand := 0x1999999999999a, exponent := 1018 }
    let vs : List Value :=
      [.object [("a\"\n", .array [.integer (-3), .number (.finite true .zero), .null]),
          ("", .object [])],
        .number (.finite false tenth), .string "\u2028", .boolean false]
    (∀ v ∈ vs, v.Representable ∧ v.depth ≤ 127) ∧ (∀ v ∈ vs, v.NumbersReadBack) ∧
      (Response.ofResults false (.ofValues vs)).output.toList =
          vs.flatMap (fun v => Json.compact v ++ ['\n']) ∧
        Json.readInput? true (vs.flatMap fun v => Json.compact v ++ ['\n']) = some vs ∧
        ∀ v ∈ vs, Json.read? (Json.pretty 0 v) = some v := by
  intro tenth vs
  have htenth : tenth.shortest = { digits := 1, exponent := -1 } := by decide +kernel
  have heverywhere {number : Binary64 → Prop} {dateTime : DateTime → Prop}
      (hzero : number (.finite true .zero)) (htenth : number (.finite false tenth)) :
      ∀ v ∈ vs, v.Everywhere number dateTime := by
    simp only [vs, List.forall_mem_cons]
    refine ⟨.object (by decide) ?_, .number htenth, .string _, .boolean _, List.forall_mem_nil _⟩
    simp only [List.forall_mem_cons]
    refine ⟨.array ?_, .object List.nodup_nil (List.forall_mem_nil _), List.forall_mem_nil _⟩
    simp only [List.forall_mem_cons]
    exact ⟨.integer _, .number hzero, .null, List.forall_mem_nil _⟩
  have hdepth : ∀ v ∈ vs, v.depth ≤ 127 := by
    simp only [vs, List.forall_mem_cons]
    exact ⟨by decide, by decide, by decide, by decide, List.forall_mem_nil _⟩
  have hrepresentable : ∀ v ∈ vs, v.Representable :=
    @heverywhere (·.isFinite = true) (fun _ => False) rfl rfl
  have h : ∀ v ∈ vs, v.Representable ∧ v.depth ≤ 127 :=
    fun v hv => ⟨hrepresentable v hv, hdepth v hv⟩
  have hnumbers : ∀ v ∈ vs, v.NumbersReadBack := by
    refine heverywhere (Json.readsBack_zero true) (Json.readsBack_of_short false ?_ ?_)
    · rw [htenth]
      decide
    · rw [htenth]
      decide
  exact ⟨h, hnumbers, printed_values_read_back h hnumbers⟩

end JsonPath
