import JsonPath.Proofs.Evaluation.Equality
import JsonPath.Proofs.Parsing.Reading
import JsonPath.Proofs.Parsing.StringLiterals
import JsonPath.Proofs.Text.Quoting

/-!
# JSON text in paths

The JSON text of a string may stand in a path: it is one token, whose string is the
one that was written.

* `Json.spelling_escapeChar` says that quoted text is one of the spellings of a literal;
  `lexes_quoted` is the token that it is read as.
* `key_addressed_by_text` is about keys: behind `$.` the JSON text of a key addresses
  the member with that key, whatever characters the key holds.
-/

namespace JsonPath

/-! ## Quoted texts -/

theorem Json.spelling_escapeChar (text : List Char) :
    Spelling '"' text (text.flatMap escapeChar) := by
  induction text with
  | nil => exact .nil
  | cons c text ih =>
      rw [List.flatMap_cons]
      rcases escapeChar_cases c with ⟨hself, hquote, hbackslash, -⟩ | ⟨tail, htail, hescape, -⟩
      · rw [hself]
        exact .raw hquote hbackslash ih
      · rw [htail]
        exact .escape hescape ih

/-- A quoted text is one string. -/
theorem Lexer.readToken_quoted (text rest : List Char) :
    readToken '"' (text.flatMap Json.escapeChar ++ '"' :: rest) =
      .ok (.string (String.ofList text), rest) :=
  Literal.read_closed (l := .quotes) (Json.spelling_escapeChar text) rest

theorem lexes_quoted (text : List Char) : Lexes (Json.quoted text)
    [.string (String.ofList text), .endOfInput] :=
  .token rfl (Lexer.readToken_quoted text []) .nil

/-! ## Keys -/

/-- `$.name` -/
def memberOfRoot (key : String) : Body := .path (.access .root (.member key))

open Grammar in
theorem derives_memberOfRoot (key : String) :
    DerivesBody [.dollar, .dot, .string key] (memberOfRoot key) := by
  have hstep : Derives .accessors ([.dot, .string key] ++ []) [.member key] :=
    .accessor (.member (.string key)) .noAccessor
  exact .path (.sum_of_path (.path (.atom .root) hstep))

theorem lexes_key (key : String) :
    Lexes ('$' :: '.' :: Json.compact (.string key)) [.dollar, .dot, .string key, .endOfInput] := by
  have hkey := lexes_quoted key.toList
  rw [String.ofList_toList] at hkey
  exact .token rfl rfl (.token rfl rfl hkey)

/-- The JSON text of a key behind `$.`, with a mode before it or without. -/
theorem read_key (key : String) :
    (∃ source, Statement.read ("$." ++ String.ofList (Json.compact (.string key))) =
      .ok ⟨source, .lax, memberOfRoot key⟩) ∧
    ∃ source, Statement.read ("strict $." ++ String.ofList (Json.compact (.string key))) =
      .ok ⟨source, .strict, memberOfRoot key⟩ := by
  have hlexes : Lexes ("$." ++ String.ofList (Json.compact (.string key))).toList
      ([.dollar, .dot, .string key] ++ [.endOfInput]) := by
    simpa using lexes_key key
  obtain ⟨hlax, hstrict⟩ := read_body hlexes (derives_memberOfRoot key) ⟨trivial, trivial⟩
  rw [← String.append_assoc] at hstrict
  exact ⟨⟨_, hlax⟩, _, hstrict⟩

/-- The results of `$.name` on an object. -/
theorem evaluate_memberOfRoot (source key : String) (mode : Mode) (vars : Variables)
    (members : Members) :
    (Statement.evaluate ⟨source, mode, memberOfRoot key⟩ vars (.object members)).results =
      match Members.get? members key, mode with
      | some v, _ => [.ok v]
      | none, .lax => []
      | none, .strict => [.error (.keyNotFound key)] := by
  show (member mode key (.object members)).results = _
  simp only [member]
  cases Members.get? members key with
  | some v => cases mode <;> rfl
  | none =>
      cases mode with
      | lax => rfl
      | strict => exact Sequence.results_failed _

/-- Behind `$.` the JSON text of a key addresses the member with that key: its value,
or where there is none nothing in lax mode and an error in strict mode. -/
theorem key_addressed_by_text (key : String) (members : Members) (vars : Variables)
    (hkeys : (members.map Prod.fst).Nodup) :
    ∃ lax strict,
      Statement.read ("$." ++ String.ofList (Json.compact (.string key))) = .ok lax ∧
      Statement.read ("strict $." ++ String.ofList (Json.compact (.string key))) = .ok strict ∧
      (∀ v, (key, v) ∈ members →
        (lax.evaluate vars (.object members)).results = [.ok v] ∧
          (strict.evaluate vars (.object members)).results = [.ok v]) ∧
      (key ∉ members.map Prod.fst →
        (lax.evaluate vars (.object members)).results = [] ∧
          (strict.evaluate vars (.object members)).results = [.error (.keyNotFound key)]) := by
  obtain ⟨⟨source, hlax⟩, source', hstrict⟩ := read_key key
  refine ⟨_, _, hlax, hstrict, ?_, ?_⟩
  · intro v hmem
    have hfound : Members.get? members key = some v := Value.lookup_of_mem hkeys hmem
    simp only [evaluate_memberOfRoot, hfound]
    exact ⟨trivial, trivial⟩
  · intro hmissing
    have hnone : Members.get? members key = none := by
      rw [Members.get?, List.lookup_eq_none_iff]
      intro m hm
      rw [bne_iff_ne]
      rintro rfl
      exact hmissing (List.mem_map_of_mem hm)
    simp only [evaluate_memberOfRoot, hnone]
    exact ⟨trivial, trivial⟩

/-- A key with a quote, a backslash, a line feed and a character without a letter of
its own. -/
theorem key_addressed_by_text_escapes :
    let key := "\"\\\n\x01"
    let members : Members := [("a", .null), (key, .boolean true)]
    String.ofList (Json.compact (.string key)) = "\"\\\"\\\\\\n\\u0001\"" ∧
      (members.map Prod.fst).Nodup ∧
      ∃ strict, Statement.read "strict $.\"\\\"\\\\\\n\\u0001\"" = .ok strict ∧
        (strict.evaluate [] (.object members)).results = [.ok (.boolean true)] := by
  intro key members
  have htext : String.ofList (Json.compact (.string key)) = "\"\\\"\\\\\\n\\u0001\"" := by
    decide
  have hkeys : (members.map Prod.fst).Nodup := by decide
  obtain ⟨lax, strict, -, hread, hfound, -⟩ := key_addressed_by_text key members [] hkeys
  rw [htext] at hread
  exact ⟨htext, hkeys, strict, hread, (hfound (.boolean true) (by simp [members])).2⟩

end JsonPath
