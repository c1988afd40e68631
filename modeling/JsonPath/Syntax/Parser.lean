import JsonPath.Syntax.Lexer
import JsonPath.Syntax.Tree

/-!
# From tokens to syntax trees

Recursive descent over the tokens of a source, which end with `endOfInput`.
Each function takes the tokens in front of it and returns the ones it left.

A parenthesis may enclose a predicate or an operand.  It is read once, as a
predicate; an expression that turns out to stand there goes on as an operand.

`parse` alone begins the recursion, with a budget of calls that is linear in the
number of tokens.
-/

namespace JsonPath

namespace Parser

/-- What may be referred to at a place of a statement. -/
structure Nesting where
  /-- Inside a filter, where `@` has a meaning. -/
  inFilter : Bool
  /-- Inside a subscript, where `last` has one. -/
  inSubscript : Bool
  deriving DecidableEq, Repr

/-- The tokens in front of the parser. -/
abbrev Tokens := List SourceToken

/-! ## The next token -/

/-- The first token.  There always is one, because `endOfInput` is never passed. -/
def first : Tokens → SourceToken
  | [] => { token := .endOfInput, image := "", position := .start }
  | t :: _ => t

/-- The next token, without its place. -/
def next (ts : Tokens) : Token := (first ts).token

/-- A complaint about the next token. -/
def complain {α : Type} (complaint : Complaint) (ts : Tokens) : Except SyntaxError α :=
  .error ⟨complaint, (first ts).position⟩

/-- A complaint that the next token is not what is expected. -/
def unexpected {α : Type} (expected : Expectation) (ts : Tokens) : Except SyntaxError α :=
  complain (.unexpectedToken expected (first ts).describe) ts

/-- The tokens behind one that must come next. -/
def expect (token : Token) (expected : Expectation) (ts : Tokens) : Except SyntaxError Tokens :=
  if next ts = token then .ok ts.tail else unexpected expected ts

/-- The tokens behind a word that must come next. -/
def expectWord (w : String) (ts : Tokens) : Except SyntaxError Tokens :=
  expect (.word w) (.word w) ts

/-- A string literal. -/
def stringLiteral (ts : Tokens) : Except SyntaxError (String × Tokens) :=
  match next ts with
  | .string s => .ok (s, ts.tail)
  | _ => unexpected .stringLiteral ts

/-! ## Operators -/

/-- The operator of a token that joins terms. -/
def additive? : Token → Option ArithmeticOp
  | .plus => some .add
  | .minus => some .subtract
  | _ => none

/-- The operator of a token that joins factors. -/
def multiplicative? : Token → Option ArithmeticOp
  | .star => some .multiply
  | .slash => some .divide
  | .percent => some .modulo
  | _ => none

/-- The sign that a token is. -/
def sign? : Token → Option SignOp
  | .plus => some .plus
  | .minus => some .minus
  | _ => none

/-- The comparison that a token is. -/
def comparison? : Token → Option Comparison
  | .equal => some .equal
  | .notEqual => some .notEqual
  | .less => some .less
  | .lessEqual => some .lessEqual
  | .greater => some .greater
  | .greaterEqual => some .greaterEqual
  | _ => none

/-! ## Parts without expressions -/

/-- The words that are operands; none for any other word. -/
def wordAtom? (c : Nesting) (ts : Tokens) : String → Option (Except SyntaxError Expr)
  | "true" => some (.ok (.boolean true))
  | "false" => some (.ok (.boolean false))
  | "null" => some (.ok .null)
  | "last" => some (if c.inSubscript then .ok .last else complain .lastOutsideSubscript ts)
  | _ => none

/-- Literals, `$`, `@`, `last` and variables; none for anything else. -/
def atom? (c : Nesting) (ts : Tokens) : Option (Except SyntaxError Expr) :=
  match next ts with
  | .dollar => some (.ok .root)
  | .at => some (if c.inFilter then .ok .current else complain .currentOutsideFilter ts)
  | .word w => wordAtom? c ts w
  | .variable name => some (.ok (.variable name))
  | .string s => some (.ok (.string s))
  | .number x => some (.ok (.number x))
  | .integer n => some (.ok (.integer n))
  | _ => none

/-- A method, from its name; a parenthesis follows it. -/
def methodStep (name : String) (ts : Tokens) : Except SyntaxError (Accessor × Tokens) :=
  let inside := ts.tail.tail
  if name = "datetime" then do
    let (template, rest) := match next inside with
      | .string s => (some (DateTemplate.mk s), inside.tail)
      | _ => (none, inside)
    return (.dateTime template, ← expect .closeParen .closeParen rest)
  else
    match ItemMethod.ofName? name with
    | none => complain (.unknownMethod name) ts
    | some m => do return (.method m, ← expect .closeParen .methodEnd inside)

/-- What follows a dot.  A name before a parenthesis is that of a method. -/
def dotStep (ts : Tokens) : Except SyntaxError (Accessor × Tokens) :=
  match next ts with
  | .star => .ok (.memberWildcard, ts.tail)
  | .string s => .ok (.member s, ts.tail)
  | .word name =>
      if next ts.tail = .openParen then methodStep name ts else .ok (.member name, ts.tail)
  | _ => unexpected .memberName ts

/-- What follows `starts`. -/
def startsWithTail (subject : Expr) (ts : Tokens) : Except SyntaxError (Predicate × Tokens) := do
  let rest ← expectWord "with" ts
  match next rest with
  | .string s => return (.startsWith subject (.string s), rest.tail)
  | .variable name => return (.startsWith subject (.variable name), rest.tail)
  | _ => unexpected .stringOrVariable rest

/-- The flags of a pattern, none if they are left out. -/
def patternFlags (ts : Tokens) : Except SyntaxError (String × Tokens) :=
  if next ts = .word "flag" then stringLiteral ts.tail else .ok ("", ts)

/-- What follows `like_regex`. -/
def likeRegexTail (subject : Expr) (ts : Tokens) : Except SyntaxError (Predicate × Tokens) := do
  let (text, rest) ← stringLiteral ts
  let (flags, rest) ← patternFlags rest
  match LikePattern.read text flags with
  | .ok pattern => return (.likeRegex subject pattern, rest)
  | .error e => complain (.pattern e) ts

/-- A chain of one operand is the operand. -/
def joined (join : List Predicate → Predicate) : List Predicate → Predicate
  | [p] => p
  | ps => join ps

/-- The budget is used up. -/
def exhausted {α : Type} (ts : Tokens) : Except SyntaxError α := complain .exhausted ts

/-! ## The grammar -/

mutual

/-- Predicates joined by `||`. -/
def disjunction : Nat → Nesting → Tokens → Except SyntaxError (Predicate × Tokens)
  | 0, _, ts => exhausted ts
  | fuel + 1, c, ts => do
      let (operands, rest) ← disjuncts fuel c ts
      return (joined .disjunction operands, rest)

/-- One predicate or more, with `||` between them. -/
def disjuncts : Nat → Nesting → Tokens → Except SyntaxError (List Predicate × Tokens)
  | 0, _, ts => exhausted ts
  | fuel + 1, c, ts => do
      let (p, rest) ← conjunction fuel c ts
      if next rest = .orOr then
        let (ps, rest) ← disjuncts fuel c rest.tail
        return (p :: ps, rest)
      else
        return ([p], rest)

/-- Predicates joined by `&&`. -/
def conjunction : Nat → Nesting → Tokens → Except SyntaxError (Predicate × Tokens)
  | 0, _, ts => exhausted ts
  | fuel + 1, c, ts => do
      let (operands, rest) ← conjuncts fuel c ts
      return (joined .conjunction operands, rest)

/-- One predicate or more, with `&&` between them. -/
def conjuncts : Nat → Nesting → Tokens → Except SyntaxError (List Predicate × Tokens)
  | 0, _, ts => exhausted ts
  | fuel + 1, c, ts => do
      let (p, rest) ← negation fuel c ts
      if next rest = .andAnd then
        let (ps, rest) ← conjuncts fuel c rest.tail
        return (p :: ps, rest)
      else
        return ([p], rest)

/-- A negated or parenthesised predicate, or a simple one. -/
def negation : Nat → Nesting → Tokens → Except SyntaxError (Predicate × Tokens)
  | 0, _, ts => exhausted ts
  | fuel + 1, c, ts =>
      match next ts with
      | .exclamation => do
          let (p, rest) ← negation fuel c ts.tail
          return (.negation p, rest)
      | .openParen => do
          let (p, rest) ← disjunction fuel c ts.tail
          let rest ← expect .closeParen .closeParen rest
          if next rest = .word "is" then
            return (.isUnknown p, ← expectWord "unknown" rest.tail)
          else
            match p with
            | .condition e => groupTail fuel c e rest
            | p => return (p, rest)
      | _ => simple fuel c ts

/-- The rest of a predicate whose left operand begins with a parenthesised
expression. -/
def groupTail : Nat → Nesting → Expr → Tokens → Except SyntaxError (Predicate × Tokens)
  | 0, _, _, ts => exhausted ts
  | fuel + 1, c, e, ts => do
      let (e, rest) ← pathTail fuel c e ts
      let (e, rest) ← productTail fuel c e rest
      let (e, rest) ← sumTail fuel c e rest
      simpleTail fuel c e rest

/-- A predicate without connectives. -/
def simple : Nat → Nesting → Tokens → Except SyntaxError (Predicate × Tokens)
  | 0, _, ts => exhausted ts
  | fuel + 1, c, ts =>
      if next ts = .word "exists" ∧ next ts.tail = .openParen then do
        let (e, rest) ← sum fuel c ts.tail.tail
        return (.existence e, ← expect .closeParen .closeParen rest)
      else do
        let (e, rest) ← sum fuel c ts
        simpleTail fuel c e rest

/-- What may follow the left operand of a predicate. -/
def simpleTail : Nat → Nesting → Expr → Tokens → Except SyntaxError (Predicate × Tokens)
  | 0, _, _, ts => exhausted ts
  | fuel + 1, c, left, ts =>
      match comparison? (next ts) with
      | some op => do
          let (right, rest) ← sum fuel c ts.tail
          return (.compare op left right, rest)
      | none =>
          match next ts with
          | .word "starts" => startsWithTail left ts.tail
          | .word "like_regex" => likeRegexTail left ts.tail
          | _ => .ok (.condition left, ts)

/-- Terms joined by `+` and `-`, from left to right. -/
def sum : Nat → Nesting → Tokens → Except SyntaxError (Expr × Tokens)
  | 0, _, ts => exhausted ts
  | fuel + 1, c, ts => do
      let (left, rest) ← product fuel c ts
      sumTail fuel c left rest

/-- Adds the terms that follow to those on the left. -/
def sumTail : Nat → Nesting → Expr → Tokens → Except SyntaxError (Expr × Tokens)
  | 0, _, _, ts => exhausted ts
  | fuel + 1, c, left, ts =>
      match additive? (next ts) with
      | none => .ok (left, ts)
      | some op => do
          let (right, rest) ← product fuel c ts.tail
          sumTail fuel c (.binary op left right) rest

/-- Factors joined by `*`, `/` and `%`, from left to right. -/
def product : Nat → Nesting → Tokens → Except SyntaxError (Expr × Tokens)
  | 0, _, ts => exhausted ts
  | fuel + 1, c, ts => do
      let (left, rest) ← signed fuel c ts
      productTail fuel c left rest

/-- Applies the factors that follow to those on the left. -/
def productTail : Nat → Nesting → Expr → Tokens → Except SyntaxError (Expr × Tokens)
  | 0, _, _, ts => exhausted ts
  | fuel + 1, c, left, ts =>
      match multiplicative? (next ts) with
      | none => .ok (left, ts)
      | some op => do
          let (right, rest) ← signed fuel c ts.tail
          productTail fuel c (.binary op left right) rest

/-- A path with any number of signs before it. -/
def signed : Nat → Nesting → Tokens → Except SyntaxError (Expr × Tokens)
  | 0, _, ts => exhausted ts
  | fuel + 1, c, ts =>
      match sign? (next ts) with
      | some op => do
          let (operand, rest) ← signed fuel c ts.tail
          return (.signed op operand, rest)
      | none => do
          let (e, rest) ← primary fuel c ts
          pathTail fuel c e rest

/-- Literals, references, and parenthesised expressions. -/
def primary : Nat → Nesting → Tokens → Except SyntaxError (Expr × Tokens)
  | 0, _, ts => exhausted ts
  | fuel + 1, c, ts =>
      if next ts = .openParen then do
        let (e, rest) ← sum fuel c ts.tail
        return (e, ← expect .closeParen .closeParen rest)
      else
        match atom? c ts with
        | some atom => do return (← atom, ts.tail)
        | none => unexpected .pathExpression ts

/-- The accessors behind an expression. -/
def pathTail : Nat → Nesting → Expr → Tokens → Except SyntaxError (Expr × Tokens)
  | 0, _, _, ts => exhausted ts
  | fuel + 1, c, base, ts =>
      match next ts with
      | .dot => do
          let (step, rest) ← dotStep ts.tail
          pathTail fuel c (.access base step) rest
      | .openBracket => do
          let (step, rest) ← bracketStep fuel c ts.tail
          pathTail fuel c (.access base step) rest
      | .question => do
          let inside ← expect .openParen .filterParen ts.tail
          let (p, rest) ← disjunction fuel { c with inFilter := true } inside
          let rest ← expect .closeParen .closeParen rest
          pathTail fuel c (.access base (.filter p)) rest
      | _ => .ok (base, ts)

/-- What follows an opening bracket, with the closing one. -/
def bracketStep : Nat → Nesting → Tokens → Except SyntaxError (Accessor × Tokens)
  | 0, _, ts => exhausted ts
  | fuel + 1, c, ts =>
      if next ts = .star ∧ next ts.tail = .closeBracket then
        .ok (.elementWildcard, ts.tail.tail)
      else do
        let (subs, rest) ← subscripts fuel { c with inSubscript := true } ts
        return (.subscripts subs, ← expect .closeBracket .subscriptEnd rest)

/-- One subscript or more, with commas between them. -/
def subscripts : Nat → Nesting → Tokens → Except SyntaxError (List Subscript × Tokens)
  | 0, _, ts => exhausted ts
  | fuel + 1, c, ts => do
      let (sub, rest) ← subscript fuel c ts
      if next rest = .comma then
        let (subs, rest) ← subscripts fuel c rest.tail
        return (sub :: subs, rest)
      else
        return ([sub], rest)

/-- Positions, or a range with `to` between its bounds. -/
def subscript : Nat → Nesting → Tokens → Except SyntaxError (Subscript × Tokens)
  | 0, _, ts => exhausted ts
  | fuel + 1, c, ts => do
      let (low, rest) ← sum fuel c ts
      if next rest = .word "to" then
        let (high, rest) ← sum fuel c rest.tail
        return (.range low high, rest)
      else
        return (.indices low, rest)

end

/-! ## Statements -/

/-- A budget that no list of tokens uses up: at most sixteen calls are made
before a token is consumed. -/
def budget (ts : Tokens) : Nat := 16 * (ts.length + 1)

/-- What a predicate asks for at the top of a statement. -/
def bodyOf : Predicate → Body
  | .condition e => .path e
  | p => .predicate p

/-- The mode that a statement begins with; lax if it begins with none. -/
def mode (ts : Tokens) : Mode × Tokens :=
  match next ts with
  | .word "lax" => (.lax, ts.tail)
  | .word "strict" => (.strict, ts.tail)
  | _ => (.lax, ts)

end Parser

open JsonPath.Parser in
/-- The mode and the body of a statement, which is all of the tokens. -/
def parse (ts : List SourceToken) : Except SyntaxError (Mode × Body) := do
  let (m, inside) := mode ts
  let (p, rest) ← disjunction (budget ts) { inFilter := false, inSubscript := false } inside
  if next rest = .endOfInput then
    return (m, bodyOf p)
  else
    unexpected .endOfInput rest

end JsonPath
