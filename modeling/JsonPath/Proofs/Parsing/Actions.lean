import JsonPath.Syntax.Parser

/-!
# The parser as actions on a cursor

What a function of the parser does with the tokens in front of it, written down as data.
There are only a few actions: to take the next token if it passes a test, to ask whether the
input ends here, to call a function and go on with its tree, to succeed, and to complain.

* `Routine` names the functions, and `Routine.within` is the function of a name with a
  budget of calls.
* `body` says for each function which actions it takes, and `Action.exec` carries them out,
  given what the functions that are called return.
* `within_succ`: every function does with its budget what its body says, where the calls have
  one call less.  `parse_eq` is the same for a whole statement.

What holds of all actions then holds of every function, without a look at each of them.
-/

namespace JsonPath

namespace Parser

/-! ## Functions and calls -/

/-- The functions of the grammar. -/
inductive Routine where
  | disjunction
  | disjuncts
  | conjunction
  | conjuncts
  | negation
  | groupTail
  | simple
  | simpleTail
  | sum
  | sumTail
  | product
  | productTail
  | signed
  | primary
  | pathTail
  | bracketStep
  | subscripts
  | subscript
  deriving DecidableEq, Repr

namespace Routine

/-- What a function is given beside the tokens: the operand that it continues. -/
abbrev Operand : Routine → Type
  | groupTail | simpleTail | sumTail | productTail | pathTail => Expr
  | _ => Unit

/-- What a function returns beside the tokens. -/
abbrev Tree : Routine → Type
  | disjunction | conjunction | negation | groupTail | simple | simpleTail => Predicate
  | disjuncts | conjuncts => List Predicate
  | sum | sumTail | product | productTail | signed | primary | pathTail => Expr
  | bracketStep => Accessor
  | subscripts => List Subscript
  | subscript => Subscript

end Routine

/-- A function for each name. -/
abbrev Runner :=
  (r : Routine) → Nesting → r.Operand → Tokens → Except SyntaxError (r.Tree × Tokens)

/-- The functions with a budget of calls. -/
def within (fuel : Nat) : Runner
  | .disjunction, c, _, ts => disjunction fuel c ts
  | .disjuncts, c, _, ts => disjuncts fuel c ts
  | .conjunction, c, _, ts => conjunction fuel c ts
  | .conjuncts, c, _, ts => conjuncts fuel c ts
  | .negation, c, _, ts => negation fuel c ts
  | .groupTail, c, e, ts => groupTail fuel c e ts
  | .simple, c, _, ts => simple fuel c ts
  | .simpleTail, c, left, ts => simpleTail fuel c left ts
  | .sum, c, _, ts => sum fuel c ts
  | .sumTail, c, left, ts => sumTail fuel c left ts
  | .product, c, _, ts => product fuel c ts
  | .productTail, c, left, ts => productTail fuel c left ts
  | .signed, c, _, ts => signed fuel c ts
  | .primary, c, _, ts => primary fuel c ts
  | .pathTail, c, base, ts => pathTail fuel c base ts
  | .bracketStep, c, _, ts => bracketStep fuel c ts
  | .subscripts, c, _, ts => subscripts fuel c ts
  | .subscript, c, _, ts => subscript fuel c ts

theorem within_zero (r : Routine) (c : Nesting) (e : r.Operand) (ts : Tokens) :
    within 0 r c e ts = exhausted ts := by
  cases r <;> rfl

/-! ## Actions -/

/-- What is done from some place on, up to a result. -/
inductive Action (α : Type) where
  /-- Succeed. -/
  | done (a : α)
  /-- Complain that the next token is not what is expected. -/
  | refuse (expected : Expectation)
  /-- Complain about a token that has been taken. -/
  | object (complaint : Complaint) (place : Position)
  /-- Go on according to whether the input ends here. -/
  | atEnd (yes no : Action α)
  /-- Take the next token if it passes a test, or else go on without it. -/
  | take (test : Token → Bool) (taken : SourceToken → Action α) (left : Action α)
  /-- Take the next two tokens if they are these, or else go on without them. -/
  | takePair (x y : Token) (taken left : Action α)
  /-- Call a function and go on with its tree behind what it has read. -/
  | call (r : Routine) (c : Nesting) (e : r.Operand) (next : r.Tree → Action α)

namespace Action

variable {α β : Type}

/-- Goes on with what a result calls for. -/
def bind : Action α → (α → Action β) → Action β
  | done a, f => f a
  | refuse expected, _ => refuse expected
  | object complaint place, _ => object complaint place
  | atEnd yes no, f => atEnd (yes.bind f) (no.bind f)
  | take test taken left, f => take test (fun t => (taken t).bind f) (left.bind f)
  | takePair x y taken left, f => takePair x y (taken.bind f) (left.bind f)
  | call r c e next, f => call r c e fun tree => (next tree).bind f

/-- Actions in sequence. -/
instance : Monad Action where
  pure := done
  bind := bind

/-- Carries out actions on the tokens in front of the cursor. -/
def exec (run : Runner) : Action α → Tokens → Except SyntaxError (α × Tokens)
  | done a, ts => .ok (a, ts)
  | refuse expected, ts => unexpected expected ts
  | object complaint place, _ => .error ⟨complaint, place⟩
  | atEnd yes no, ts => if next ts = .endOfInput then yes.exec run ts else no.exec run ts
  | take test taken left, ts =>
      if test (next ts) then (taken (first ts)).exec run ts.tail else left.exec run ts
  | takePair x y taken left, ts =>
      if next ts = x ∧ next ts.tail = y then taken.exec run ts.tail.tail else left.exec run ts
  | call r c e next, ts => do
      let (tree, rest) ← run r c e ts
      (next tree).exec run rest

/-! ### What bodies are made of -/

/-- A call whose tree is the result. -/
def read (r : Routine) (c : Nesting) (e : r.Operand) : Action r.Tree := call r c e done

/-- Whether the input ends here. -/
def ended : Action Bool := atEnd (done true) (done false)

/-- Whether the next token is this one, which is then taken. -/
def eat (x : Token) : Action Bool := take (· = x) (fun _ => done true) (done false)

/-- Whether the next two tokens are these, which are then taken. -/
def eatPair (x y : Token) : Action Bool := takePair x y (done true) (done false)

/-- Takes the next token if it has a meaning, which is given with the place. -/
def accept (meaning : Token → Option β) : Action (Option (β × Position)) :=
  take (fun x => (meaning x).isSome)
    (fun t => done ((meaning t.token).map (·, t.position))) (done none)

/-- Takes a token that must come next. -/
def expect (x : Token) (expected : Expectation) : Action Unit :=
  take (· = x) (fun _ => done ()) (refuse expected)

end Action

open JsonPath.Parser.Action

/-! ## Parts without expressions -/

/-- The meaning of a string literal. -/
def string? : Token → Option String
  | .string s => some s
  | _ => none

/-- The text of a word. -/
def word? : Token → Option String
  | .word w => some w
  | _ => none

/-- What a `starts with` compares with. -/
def start? : Token → Option Expr
  | .string s => some (.string s)
  | .variable name => some (.variable name)
  | _ => none

/-- The atom that a token stands for, or what is wrong with it at this place. -/
def atomOf (c : Nesting) (x : Token) : Option (Except Complaint Expr) :=
  (atom? c [{ token := x, image := "", position := .start }]).map
    (·.mapError SyntaxError.complaint)

/-- A string literal and its place. -/
def stringBody : Action (String × Position) := do
  match ← accept string? with
  | some literal => return literal
  | none => refuse .stringLiteral

/-- A method of this name, behind its opening parenthesis. -/
def methodBody (name : String) (place : Position) : Action Accessor := do
  if name = "datetime" then
    let template ← accept string?
    Action.expect .closeParen .closeParen
    return .dateTime (template.map fun literal => ⟨literal.1⟩)
  else
    match ItemMethod.ofName? name with
    | none => object (.unknownMethod name) place
    | some m => do
        Action.expect .closeParen .methodEnd
        return .method m

/-- What follows a dot. -/
def dotBody : Action Accessor := do
  if ← eat .star then
    return .memberWildcard
  else
    match ← accept string? with
    | some (s, _) => return .member s
    | none =>
        match ← accept word? with
        | some (name, place) =>
            if ← eat .openParen then methodBody name place else return .member name
        | none => refuse .memberName

/-- What follows `starts` behind the subject. -/
def startsWithBody (subject : Expr) : Action Predicate := do
  Action.expect (.word "with") (.word "with")
  match ← accept start? with
  | some (start, _) => return .startsWith subject start
  | none => refuse .stringOrVariable

/-- The flags of a pattern; none are the empty text. -/
def flagsBody : Action String := do
  if ← eat (.word "flag") then
    return (← stringBody).1
  else
    return ""

/-- What follows `like_regex` behind the subject. -/
def likeRegexBody (subject : Expr) : Action Predicate := do
  let (text, place) ← stringBody
  let flags ← flagsBody
  match LikePattern.read text flags with
  | .ok pattern => return .likeRegex subject pattern
  | .error e => object (.pattern e) place

/-! ## Bodies -/

/-- The actions of each function. -/
def body : (r : Routine) → Nesting → r.Operand → Action r.Tree
  | .disjunction, c, _ => do
      return joined .disjunction (← read .disjuncts c ())
  | .disjuncts, c, _ => do
      let p ← read .conjunction c ()
      if ← eat .orOr then
        return p :: (← read .disjuncts c ())
      else
        return [p]
  | .conjunction, c, _ => do
      return joined .conjunction (← read .conjuncts c ())
  | .conjuncts, c, _ => do
      let p ← read .negation c ()
      if ← eat .andAnd then
        return p :: (← read .conjuncts c ())
      else
        return [p]
  | .negation, c, _ => do
      if ← eat .exclamation then
        return .negation (← read .negation c ())
      else if ← eat .openParen then
        let p ← read .disjunction c ()
        Action.expect .closeParen .closeParen
        if ← eat (.word "is") then
          Action.expect (.word "unknown") (.word "unknown")
          return .isUnknown p
        else
          match p with
          | .condition e => read .groupTail c e
          | p => return p
      else
        read .simple c ()
  | .groupTail, c, e => do
      let e ← read .pathTail c e
      let e ← read .productTail c e
      let e ← read .sumTail c e
      read .simpleTail c e
  | .simple, c, _ => do
      if ← eatPair (.word "exists") .openParen then
        let e ← read .sum c ()
        Action.expect .closeParen .closeParen
        return .existence e
      else
        let e ← read .sum c ()
        read .simpleTail c e
  | .simpleTail, c, left => do
      match ← accept comparison? with
      | some (op, _) => return .compare op left (← read .sum c ())
      | none =>
          if ← eat (.word "starts") then
            startsWithBody left
          else if ← eat (.word "like_regex") then
            likeRegexBody left
          else
            return .condition left
  | .sum, c, _ => do
      let left ← read .product c ()
      read .sumTail c left
  | .sumTail, c, left => do
      match ← accept additive? with
      | none => return left
      | some (op, _) =>
          let right ← read .product c ()
          read .sumTail c (.binary op left right)
  | .product, c, _ => do
      let left ← read .signed c ()
      read .productTail c left
  | .productTail, c, left => do
      match ← accept multiplicative? with
      | none => return left
      | some (op, _) =>
          let right ← read .signed c ()
          read .productTail c (.binary op left right)
  | .signed, c, _ => do
      match ← accept sign? with
      | some (op, _) => return .signed op (← read .signed c ())
      | none =>
          let e ← read .primary c ()
          read .pathTail c e
  | .primary, c, _ => do
      if ← eat .openParen then
        let e ← read .sum c ()
        Action.expect .closeParen .closeParen
        return e
      else
        match ← accept (atomOf c) with
        | some (.ok e, _) => return e
        | some (.error complaint, place) => object complaint place
        | none => refuse .pathExpression
  | .pathTail, c, base => do
      if ← eat .dot then
        let step ← dotBody
        read .pathTail c (.access base step)
      else if ← eat .openBracket then
        let step ← read .bracketStep c ()
        read .pathTail c (.access base step)
      else if ← eat .question then
        Action.expect .openParen .filterParen
        let p ← read .disjunction { c with inFilter := true } ()
        Action.expect .closeParen .closeParen
        read .pathTail c (.access base (.filter p))
      else
        return base
  | .bracketStep, c, _ => do
      if ← eatPair .star .closeBracket then
        return .elementWildcard
      else
        let subs ← read .subscripts { c with inSubscript := true } ()
        Action.expect .closeBracket .subscriptEnd
        return .subscripts subs
  | .subscripts, c, _ => do
      let sub ← read .subscript c ()
      if ← eat .comma then
        return sub :: (← read .subscripts c ())
      else
        return [sub]
  | .subscript, c, _ => do
      let low ← read .sum c ()
      if ← eat (.word "to") then
        return .range low (← read .sum c ())
      else
        return .indices low

/-- The mode that a word stands for. -/
def mode? : Token → Option Mode
  | .word "lax" => some .lax
  | .word "strict" => some .strict
  | _ => none

/-- The actions for what follows the mode of a statement. -/
def insideBody (m : Mode) : Action (Mode × Body) := do
  let p ← read .disjunction { inFilter := false, inSubscript := false } ()
  if ← ended then
    return (m, bodyOf p)
  else
    refuse .endOfInput

/-- The actions for a whole statement. -/
def statementBody : Action (Mode × Body) := do
  match ← accept mode? with
  | some (m, _) => insideBody m
  | none => insideBody .lax

/-! ## Carrying out what bodies are made of -/

section Exec

variable {α β γ : Type} (run : Runner) (ts : Tokens)

namespace Action

theorem exec_bind (x : Action α) (f : α → Action β) :
    (x >>= f).exec run ts = x.exec run ts >>= fun p => (f p.1).exec run p.2 := by
  show (x.bind f).exec run ts = _
  induction x generalizing ts with
  | done a => rfl
  | refuse expected => rfl
  | object complaint place => rfl
  | atEnd yes no ihyes ihno =>
      simp only [Action.bind, exec]
      split
      · exact ihyes ts
      · exact ihno ts
  | take test taken left ihtaken ihleft =>
      simp only [Action.bind, exec]
      split
      · exact ihtaken _ ts.tail
      · exact ihleft ts
  | takePair x y taken left ihtaken ihleft =>
      simp only [Action.bind, exec]
      split
      · exact ihtaken ts.tail.tail
      · exact ihleft ts
  | call r c e next ih =>
      simp only [Action.bind, exec, bind_assoc]
      exact bind_congr fun p => ih p.1 p.2

@[simp]
theorem exec_read (r : Routine) (c : Nesting) (e : r.Operand) :
    (read r c e).exec run ts = run r c e ts := by
  simp only [read, exec]
  cases run r c e ts <;> rfl

@[simp]
theorem exec_read_bind (r : Routine) (c : Nesting) (e : r.Operand) (f : r.Tree → Action β) :
    (read r c e >>= f).exec run ts =
      run r c e ts >>= fun p => (f p.1).exec run p.2 := rfl

@[simp]
theorem exec_ended_bind (f : Bool → Action β) :
    (ended >>= f).exec run ts =
      if next ts = .endOfInput then (f true).exec run ts else (f false).exec run ts := rfl

@[simp]
theorem exec_eat_bind (x : Token) (f : Bool → Action β) :
    (eat x >>= f).exec run ts =
      if next ts = x then (f true).exec run ts.tail else (f false).exec run ts := by
  show (if decide (next ts = x) = true then _ else _) = _
  simp only [decide_eq_true_eq]
  rfl

@[simp]
theorem exec_eatPair_bind (x y : Token) (f : Bool → Action β) :
    (eatPair x y >>= f).exec run ts =
      if next ts = x ∧ next ts.tail = y then (f true).exec run ts.tail.tail
      else (f false).exec run ts := rfl

@[simp]
theorem exec_expect_bind (x : Token) (expected : Expectation) (f : Unit → Action β) :
    (Action.expect x expected >>= f).exec run ts =
      Parser.expect x expected ts >>= fun rest => (f ()).exec run rest := by
  show (if decide (next ts = x) = true then _ else _) = _
  rw [Parser.expect]
  simp only [decide_eq_true_eq]
  split <;> rfl

@[simp]
theorem exec_accept_bind (meaning : Token → Option β) (f : Option (β × Position) → Action γ) :
    (accept meaning >>= f).exec run ts =
      match meaning (next ts) with
      | some b => (f (some (b, (first ts).position))).exec run ts.tail
      | none => (f none).exec run ts := by
  show (if (meaning (next ts)).isSome then (f ((meaning (next ts)).map _)).exec run ts.tail
    else (f none).exec run ts) = _
  cases meaning (next ts) <;> rfl

end Action

end Exec

/-! ## Functions are their bodies -/

/-- What follows a reading, for every tree and all tokens behind it. -/
theorem bind_pair_congr {α β : Type} {x : Except SyntaxError (α × Tokens)}
    {f g : α × Tokens → Except SyntaxError β} (h : ∀ a rest, f (a, rest) = g (a, rest)) :
    x >>= f = x >>= g :=
  bind_congr fun p => h p.1 p.2

section Bodies

variable (run : Runner) (fuel : Nat) (c : Nesting) (ts : Tokens)

theorem exec_stringBody :
    stringBody.exec run ts =
      stringLiteral ts >>= fun p => .ok ((p.1, (first ts).position), p.2) := by
  rw [stringBody, exec_accept_bind, stringLiteral]
  cases next ts <;> rfl

theorem exec_methodBody (name : String) :
    (methodBody name (first ts).position).exec run ts.tail.tail = methodStep name ts := by
  unfold methodBody methodStep
  split
  · simp only [exec_accept_bind]
    cases next ts.tail.tail <;> simp only [string?, exec_expect_bind] <;> rfl
  · cases ItemMethod.ofName? name with
    | none => rfl
    | some m => exact exec_expect_bind run ts.tail.tail _ _ _

theorem exec_dotBody : dotBody.exec run ts = dotStep ts := by
  rw [dotBody, dotStep, exec_eat_bind]
  split
  · next hx =>
      rw [hx]
      rfl
  · next hstar =>
      rw [if_neg Bool.false_ne_true, exec_accept_bind]
      cases hx : next ts with
      | star => exact absurd hx hstar
      | string s => rfl
      | word name =>
          simp only [string?, exec_accept_bind, hx, word?, exec_eat_bind]
          split
          · exact exec_methodBody run ts name
          · rfl
      | _ =>
          simp only [string?, exec_accept_bind, hx, word?]
          rfl

theorem exec_startsWithBody (subject : Expr) :
    (startsWithBody subject).exec run ts = startsWithTail subject ts := by
  rw [startsWithBody, startsWithTail, exec_expect_bind]
  refine bind_congr fun rest => ?_
  rw [exec_accept_bind]
  cases next rest <;> rfl

theorem exec_flagsBody : flagsBody.exec run ts = patternFlags ts := by
  rw [flagsBody, patternFlags, exec_eat_bind]
  split
  · rw [if_pos rfl, exec_bind, exec_stringBody, bind_assoc]
    cases stringLiteral ts.tail <;> rfl
  · rfl

theorem exec_likeRegexBody (subject : Expr) :
    (likeRegexBody subject).exec run ts = likeRegexTail subject ts := by
  rw [likeRegexBody, likeRegexTail, exec_bind, exec_stringBody, bind_assoc]
  refine bind_pair_congr fun text rest => ?_
  show (flagsBody >>= _).exec run rest = _
  rw [exec_bind, exec_flagsBody]
  refine bind_pair_congr fun flags rest => ?_
  dsimp only
  cases LikePattern.read text flags <;> rfl

theorem atom?_eq :
    atom? c ts = (atomOf c (next ts)).map (·.mapError (⟨·, (first ts).position⟩)) := by
  unfold atomOf atom?
  show _ = Option.map _ (Option.map _ (match next ts with | _ => _))
  cases next ts with
  | word w =>
      show wordAtom? c ts w = Option.map _ (Option.map _ (wordAtom? c _ w))
      unfold wordAtom?
      split
      · rfl
      · rfl
      · rfl
      · cases c.inSubscript <;> rfl
      · rfl
  | «at» =>
      show some (if c.inFilter then _ else _) =
        Option.map _ (Option.map _ (some (if c.inFilter then _ else _)))
      cases c.inFilter with
      | false => rfl
      | true => rfl
  | _ => rfl

/-! ### One function after the other -/

/-- A call at the end of a body. -/
theorem within_eq (r : Routine) (e : r.Operand) :
    within fuel r c e ts = (read r c e).exec (within fuel) ts :=
  (exec_read (within fuel) ts r c e).symm

theorem negation_succ :
    negation (fuel + 1) c ts = (body .negation c ()).exec (within fuel) ts := by
  rw [negation, body, exec_eat_bind]
  split
  · next hx =>
      rw [if_pos hx, if_pos rfl, exec_read_bind]
      rfl
  · next hx =>
      rw [if_neg (by rw [hx]; decide), if_neg Bool.false_ne_true, exec_eat_bind, if_pos hx,
        if_pos rfl, exec_read_bind]
      refine bind_pair_congr fun p rest => ?_
      dsimp only
      rw [exec_expect_bind]
      refine bind_congr fun rest => ?_
      rw [exec_eat_bind]
      split
      · rw [if_pos rfl, exec_expect_bind]
        rfl
      · rw [if_neg Bool.false_ne_true]
        cases p with
        | condition e => exact within_eq fuel c rest .groupTail e
        | _ => rfl
  · next hnot hopen =>
      rw [if_neg hnot, if_neg Bool.false_ne_true, exec_eat_bind, if_neg hopen,
        if_neg Bool.false_ne_true, exec_read]
      rfl

theorem groupTail_succ (e : Expr) :
    groupTail (fuel + 1) c e ts = (body .groupTail c e).exec (within fuel) ts := by
  rw [groupTail, body, exec_read_bind]
  refine bind_pair_congr fun e rest => ?_
  dsimp only
  rw [exec_read_bind]
  refine bind_pair_congr fun e rest => ?_
  dsimp only
  rw [exec_read_bind]
  exact bind_pair_congr fun e rest => within_eq fuel c rest .simpleTail e

theorem simple_succ : simple (fuel + 1) c ts = (body .simple c ()).exec (within fuel) ts := by
  rw [simple, body, exec_eatPair_bind]
  split
  · rw [if_pos rfl, exec_read_bind]
    refine bind_pair_congr fun e rest => ?_
    dsimp only
    rw [exec_expect_bind]
    rfl
  · rw [if_neg Bool.false_ne_true, exec_read_bind]
    exact bind_pair_congr fun e rest => within_eq fuel c rest .simpleTail e

theorem simpleTail_succ (left : Expr) :
    simpleTail (fuel + 1) c left ts = (body .simpleTail c left).exec (within fuel) ts := by
  rw [simpleTail, body, exec_accept_bind]
  cases comparison? (next ts) with
  | some op => rfl
  | none =>
      dsimp only
      rw [exec_eat_bind]
      split
      · next hx => rw [if_pos hx, if_pos rfl, exec_startsWithBody]
      · next hx =>
          rw [if_neg (by simp [hx]), if_neg Bool.false_ne_true, exec_eat_bind, if_pos hx,
            if_pos rfl, exec_likeRegexBody]
      · next hstarts hlike =>
          rw [if_neg hstarts, if_neg Bool.false_ne_true, exec_eat_bind, if_neg hlike]
          rfl

theorem signed_succ : signed (fuel + 1) c ts = (body .signed c ()).exec (within fuel) ts := by
  rw [signed, body, exec_accept_bind]
  cases sign? (next ts) with
  | some op => rfl
  | none =>
      dsimp only
      rw [exec_read_bind]
      exact bind_pair_congr fun e rest => within_eq fuel c rest .pathTail e

theorem primary_succ : primary (fuel + 1) c ts = (body .primary c ()).exec (within fuel) ts := by
  rw [primary, body, exec_eat_bind]
  split
  · rw [if_pos rfl, exec_read_bind]
    refine bind_pair_congr fun e rest => ?_
    dsimp only
    rw [exec_expect_bind]
    rfl
  · rw [if_neg Bool.false_ne_true, exec_accept_bind, atom?_eq]
    match atomOf c (next ts) with
    | some (.ok e) => rfl
    | some (.error complaint) => rfl
    | none => rfl

theorem pathTail_succ (base : Expr) :
    pathTail (fuel + 1) c base ts = (body .pathTail c base).exec (within fuel) ts := by
  rw [pathTail, body, exec_eat_bind]
  split
  · next hx =>
      rw [if_pos hx, if_pos rfl, exec_bind, exec_dotBody]
      exact bind_pair_congr fun step rest => within_eq fuel c rest .pathTail (.access base step)
  · next hx =>
      rw [if_neg (by rw [hx]; decide), if_neg Bool.false_ne_true, exec_eat_bind, if_pos hx,
        if_pos rfl, exec_read_bind]
      exact bind_pair_congr fun step rest => within_eq fuel c rest .pathTail (.access base step)
  · next hx =>
      rw [if_neg (by rw [hx]; decide), if_neg Bool.false_ne_true, exec_eat_bind,
        if_neg (by rw [hx]; decide), if_neg Bool.false_ne_true, exec_eat_bind, if_pos hx,
        if_pos rfl, exec_expect_bind]
      refine bind_congr fun inside => ?_
      rw [exec_read_bind]
      refine bind_pair_congr fun p rest => ?_
      dsimp only
      rw [exec_expect_bind]
      exact bind_congr fun rest => within_eq fuel c rest .pathTail (.access base (.filter p))
  · next hdot hbracket hquestion =>
      rw [if_neg hdot, if_neg Bool.false_ne_true, exec_eat_bind, if_neg hbracket,
        if_neg Bool.false_ne_true, exec_eat_bind, if_neg hquestion]
      rfl

theorem bracketStep_succ :
    bracketStep (fuel + 1) c ts = (body .bracketStep c ()).exec (within fuel) ts := by
  rw [bracketStep, body, exec_eatPair_bind]
  split
  · rfl
  · rw [if_neg Bool.false_ne_true, exec_read_bind]
    refine bind_pair_congr fun subs rest => ?_
    dsimp only
    rw [exec_expect_bind]
    rfl

theorem subscript_succ :
    subscript (fuel + 1) c ts = (body .subscript c ()).exec (within fuel) ts := by
  rw [subscript, body, exec_read_bind]
  refine bind_pair_congr fun low rest => ?_
  dsimp only
  rw [exec_eat_bind]
  split
  · rfl
  · rfl

theorem within_succ (r : Routine) (e : r.Operand) :
    within (fuel + 1) r c e ts = (body r c e).exec (within fuel) ts := by
  cases r with
  | disjunction =>
      rw [within, disjunction]
      rfl
  | disjuncts =>
      rw [within, disjuncts, body, exec_read_bind]
      refine bind_pair_congr fun p rest => ?_
      dsimp only
      rw [exec_eat_bind]
      split
      · rfl
      · rfl
  | conjunction =>
      rw [within, conjunction]
      rfl
  | conjuncts =>
      rw [within, conjuncts, body, exec_read_bind]
      refine bind_pair_congr fun p rest => ?_
      simp only [exec_eat_bind]
      split <;> rfl
  | negation => exact negation_succ fuel c ts
  | groupTail => exact groupTail_succ fuel c ts e
  | simple => exact simple_succ fuel c ts
  | simpleTail => exact simpleTail_succ fuel c ts e
  | sum =>
      rw [within, sum, body, exec_read_bind]
      exact bind_pair_congr fun left rest => within_eq fuel c rest .sumTail left
  | sumTail =>
      rw [within, sumTail, body, exec_accept_bind]
      cases additive? (next ts) with
      | none => rfl
      | some op =>
          dsimp only
          rw [exec_read_bind]
          exact bind_pair_congr fun right rest =>
            within_eq fuel c rest .sumTail (.binary op e right)
  | product =>
      rw [within, product, body, exec_read_bind]
      exact bind_pair_congr fun left rest => within_eq fuel c rest .productTail left
  | productTail =>
      rw [within, productTail, body, exec_accept_bind]
      cases multiplicative? (next ts) with
      | none => rfl
      | some op =>
          dsimp only
          rw [exec_read_bind]
          exact bind_pair_congr fun right rest =>
            within_eq fuel c rest .productTail (.binary op e right)
  | signed => exact signed_succ fuel c ts
  | primary => exact primary_succ fuel c ts
  | pathTail => exact pathTail_succ fuel c ts e
  | bracketStep => exact bracketStep_succ fuel c ts
  | subscripts =>
      rw [within, subscripts, body, exec_read_bind]
      refine bind_pair_congr fun sub rest => ?_
      dsimp only
      rw [exec_eat_bind]
      split
      · rfl
      · rfl
  | subscript => exact subscript_succ fuel c ts

theorem exec_insideBody (m : Mode) :
    (insideBody m).exec run ts >>= (fun s => .ok s.1) =
      run .disjunction { inFilter := false, inSubscript := false } () ts >>= fun p =>
        if next p.2 = .endOfInput then .ok (m, bodyOf p.1) else unexpected .endOfInput p.2 := by
  rw [insideBody, exec_read_bind, bind_assoc]
  refine bind_pair_congr fun p rest => ?_
  dsimp only
  rw [exec_ended_bind]
  split <;> rfl

theorem mode_eq :
    mode ts = match mode? (next ts) with
      | some m => (m, ts.tail)
      | none => (.lax, ts) := by
  unfold mode
  split
  · next hx => rw [hx, mode?]
  · next hx => rw [hx, mode?]
  · next hlax hstrict =>
      have hnone : mode? (next ts) = none := by
        unfold mode?
        split
        · next hx => exact absurd hx hlax
        · next hx => exact absurd hx hstrict
        · rfl
      rw [hnone]

/-- A statement is read by its actions. -/
theorem parse_eq :
    parse ts = statementBody.exec (within (budget ts)) ts >>= fun s => .ok s.1 := by
  rw [parse, mode_eq, statementBody, exec_accept_bind]
  cases mode? (next ts) with
  | some m => exact (exec_insideBody (within (budget ts)) ts.tail m).symm
  | none => exact (exec_insideBody (within (budget ts)) ts .lax).symm

end Bodies

end Parser

end JsonPath
