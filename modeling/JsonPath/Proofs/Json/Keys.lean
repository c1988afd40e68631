import JsonPath.Proofs.Evaluation.Equality
import JsonPath.Proofs.Json.RoundTrip

/-!
# Distinct keys in read values

No key stands twice in an object that is read from a JSON text: a member whose key has been
there before takes the place of the earlier one (`Members.keys_insert`).  Every step of the
reader's machine keeps the keys distinct in all containers that are still open, so they are
in the value that it ends with (`distinctKeys_of_read?`).
-/

namespace JsonPath

theorem Members.keys_insert (key : String) (v : Value) (members : Members) :
    (members.insert key v).map Prod.fst =
      if key ∈ members.map Prod.fst then members.map Prod.fst
      else members.map Prod.fst ++ [key] := by
  induction members with
  | nil => rfl
  | cons m rest ih =>
      obtain ⟨k, w⟩ := m
      rw [Members.insert]
      by_cases hk : k = key
      · simp [hk]
      · rw [if_neg hk, List.map_cons, ih]
        by_cases hkey : key ∈ rest.map Prod.fst
        · simp [hkey]
        · simp [hkey, Ne.symm hk]

theorem Members.mem_insert {key : String} {v : Value} {members : Members} {m : String × Value}
    (h : m ∈ members.insert key v) : m = (key, v) ∨ m ∈ members := by
  induction members with
  | nil => exact .inl (List.mem_singleton.1 h)
  | cons n rest ih =>
      rw [Members.insert] at h
      split at h
      · next hkey =>
          rcases List.mem_cons.1 h with rfl | hrest
          · exact .inl (by rw [hkey])
          · exact .inr (List.mem_cons_of_mem _ hrest)
      · rcases List.mem_cons.1 h with rfl | hrest
        · exact .inr List.mem_cons_self
        · exact (ih hrest).imp_right (List.mem_cons_of_mem _)

theorem Value.DistinctKeys.insert {key : String} {v : Value} {members : Members}
    (h : (Value.object members).DistinctKeys) (hv : v.DistinctKeys) :
    (Value.object (members.insert key v)).DistinctKeys := by
  cases h with
  | object hkeys hmembers =>
      refine .object ?_ fun m hm => ?_
      · rw [Members.keys_insert]
        split
        · exact hkeys
        · next hnew => exact hkeys.append (List.nodup_singleton key) (by simpa using hnew)
      · rcases Members.mem_insert hm with rfl | hm
        · exact hv
        · exact hmembers m hm

namespace Json

/-! ## Tokens -/

/-- The value of a token has distinct keys. -/
def Token.DistinctKeys (token : Token) : Prop := ∀ v, token = .scalar v → v.DistinctKeys

theorem finite?_distinctKeys {x : Binary64} {v : Value} (h : finite? x = some v) :
    v.DistinctKeys := by
  unfold finite? at h
  split at h
  · cases h
    exact .number trivial
  · cases h

theorem readNumber?_distinctKeys {text rest : List Char} {v : Value}
    (h : readNumber? text = some (v, rest)) : v.DistinctKeys := by
  have hnumberOf {negative : Bool} {whole fraction : List Char} {exponent : Option Int}
      (h : numberOf? negative whole fraction exponent = some v) : v.DistinctKeys := by
    simp only [numberOf?] at h
    split at h
    · split at h
      · cases h
        exact .integer _
      · exact finite?_distinctKeys h
    · exact finite?_distinctKeys h
  simp only [readNumber?] at h
  split at h
  · cases h
  split at h
  · cases h
  split at h
  · cases h
  obtain ⟨w, hw, heq⟩ := Option.map_eq_some_iff.1 h
  cases heq
  exact hnumberOf hw

theorem Token.read?_distinctKeys {text rest : List Char} {token : Token}
    (h : Token.read? text = some (token, rest)) : token.DistinctKeys := by
  rintro v rfl
  unfold Token.read? at h
  split at h
  case h_8 => cases h; exact .null
  case h_9 | h_10 => cases h; exact .boolean _
  case h_11 =>
    obtain ⟨⟨w, after⟩, hread, heq⟩ := Option.map_eq_some_iff.1 h
    cases heq
    exact readNumber?_distinctKeys hread
  case h_7 =>
    obtain ⟨_, _, heq⟩ := Option.map_eq_some_iff.1 h
    cases heq
  all_goals cases h

theorem Token.ofChars?_distinctKeys {text : List Char} {tokens : List Token}
    (h : Token.ofChars? text = some tokens) : ∀ token ∈ tokens, token.DistinctKeys := by
  fun_induction Token.ofChars? text generalizing tokens with
  | case1 =>
      cases h
      exact fun _ htoken => nomatch htoken
  | case2 c rest _ ih => exact ih h
  | case3 => cases h
  | case4 c rest _ token after hread ih =>
      obtain ⟨more, hmore, rfl⟩ := Option.map_eq_some_iff.1 h
      intro t ht
      rcases List.mem_cons.1 ht with rfl | ht
      · exact Token.read?_distinctKeys hread
      · exact ih hmore t ht

/-! ## The machine -/

/-- The keys are distinct in what has been read of an open container. -/
inductive Frame.DistinctKeys : Frame → Prop where
  | element {before : List Value} (h : ∀ v ∈ before, v.DistinctKeys) :
      DistinctKeys (.element before)
  | member {before : Members} {key : String} (h : (Value.object before).DistinctKeys) :
      DistinctKeys (.member before key)

/-- The keys are distinct in all that has been read. -/
def State.DistinctKeys : State → Prop
  | value stack | first stack => ∀ frame ∈ stack, frame.DistinctKeys
  | key _ members stack | colon members _ stack =>
      (Value.object members).DistinctKeys ∧ ∀ frame ∈ stack, frame.DistinctKeys
  | complete v stack => v.DistinctKeys ∧ ∀ frame ∈ stack, frame.DistinctKeys

theorem State.begin_distinctKeys {stack : List Frame} {token : Token} {after : State}
    (hstack : ∀ frame ∈ stack, frame.DistinctKeys) (htoken : token.DistinctKeys)
    (h : begin stack token = some after) : after.DistinctKeys := by
  cases token with
  | scalar v =>
      cases h
      exact ⟨htoken v rfl, hstack⟩
  | string s =>
      cases h
      exact ⟨.string s, hstack⟩
  | openArray =>
      rw [begin] at h
      split at h
      · cases h
        exact hstack
      · cases h
  | openObject =>
      rw [begin] at h
      split at h
      · cases h
        exact ⟨.object List.nodup_nil (List.forall_mem_nil _), hstack⟩
      · cases h
  | _ => cases h

theorem State.DistinctKeys.cons_elements {v : Value} {before : List Value} {stack : List Frame}
    (h : (complete v (.element before :: stack)).DistinctKeys) :
    (∀ w ∈ v :: before, w.DistinctKeys) ∧ ∀ frame ∈ stack, frame.DistinctKeys := by
  obtain ⟨hv, hstack⟩ := h
  obtain ⟨hframe, hstack⟩ := List.forall_mem_cons.1 hstack
  cases hframe with
  | element hbefore => exact ⟨List.forall_mem_cons.2 ⟨hv, hbefore⟩, hstack⟩

theorem State.DistinctKeys.insert_member {v : Value} {before : Members} {name : String}
    {stack : List Frame} (h : (complete v (.member before name :: stack)).DistinctKeys) :
    (Value.object (before.insert name v)).DistinctKeys ∧
      ∀ frame ∈ stack, frame.DistinctKeys := by
  obtain ⟨hv, hstack⟩ := h
  obtain ⟨hframe, hstack⟩ := List.forall_mem_cons.1 hstack
  cases hframe with
  | member hbefore => exact ⟨hbefore.insert hv, hstack⟩

/-- A step of the machine makes no object that has a key twice. -/
theorem State.step_distinctKeys {state after : State} {token : Token}
    (hstate : state.DistinctKeys) (htoken : token.DistinctKeys)
    (h : state.step token = some after) : after.DistinctKeys := by
  unfold State.step at h
  split at h
  · exact begin_distinctKeys hstate htoken h
  · cases h
    exact ⟨.array (List.forall_mem_nil _), hstate⟩
  · have hopen : (Frame.element []).DistinctKeys := .element (List.forall_mem_nil _)
    exact begin_distinctKeys (List.forall_mem_cons.2 ⟨hopen, hstate⟩) htoken h
  · cases h
    exact hstate
  · cases h
    exact hstate
  · cases h
    exact List.forall_mem_cons.2 ⟨.member hstate.1, hstate.2⟩
  · cases h
    obtain ⟨hitems, hstack⟩ := hstate.cons_elements
    exact List.forall_mem_cons.2 ⟨.element hitems, hstack⟩
  · cases h
    obtain ⟨hitems, hstack⟩ := hstate.cons_elements
    exact ⟨.array fun w hw => hitems w (List.mem_reverse.1 hw), hstack⟩
  · cases h
    exact hstate.insert_member
  · cases h
    exact hstate.insert_member
  · cases h

theorem State.run_distinctKeys {state after : State} {tokens : List Token}
    (hstate : state.DistinctKeys) (htokens : ∀ token ∈ tokens, token.DistinctKeys)
    (h : state.run tokens = some after) : after.DistinctKeys := by
  induction tokens generalizing state with
  | nil =>
      cases h
      exact hstate
  | cons token tokens ih =>
      rw [run_cons] at h
      obtain ⟨next, hstep, h⟩ := Option.bind_eq_some_iff.1 h
      obtain ⟨htoken, htokens⟩ := List.forall_mem_cons.1 htokens
      exact ih (step_distinctKeys hstate htoken hstep) htokens h

/-- The keys in a value that is read from a text are distinct. -/
theorem distinctKeys_of_read? {text : List Char} {v : Value} (h : read? text = some v) :
    v.DistinctKeys := by
  obtain ⟨tokens, htokens, h⟩ := Option.bind_eq_some_iff.1 h
  unfold ofTokens? at h
  split at h
  · next w hrun =>
      cases h
      have hstart : (State.value []).DistinctKeys := List.forall_mem_nil _
      exact (State.run_distinctKeys hstart (Token.ofChars?_distinctKeys htokens) hrun).1
  · cases h

end Json

end JsonPath
