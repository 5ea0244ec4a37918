-- SUMMARY: Reading a printed value gives the value back.
import DexTrail.Json.Reader
import DexTrail.Proofs.Json.Lexing

/-!
# Reading printed values

The reader's machine, started on the tokens of a value with any containers open,
delivers exactly that value to the innermost of them. Together with the lexer this
makes reading the inverse of printing: `Value.IsWritten.read?_print`.
-/

namespace DexTrail.Json

namespace Reader

open Value

/-! ## Runs -/

theorem run_cons (s : State) (t : Token) (ts : List Token) :
    run s (t :: ts) = (step s t).bind fun s => run s ts := rfl

theorem run_singleton (s : State) (t : Token) : run s [t] = step s t := Option.bind_fun_some _

theorem run_append (s : State) (ts us : List Token) :
    run s (ts ++ us) = (run s ts).bind fun s => run s us := List.foldlM_append

/-! ## The start of a value -/

/-- No value starts with the end of an array. -/
theorem tokens_eq_cons (v : Value) : ∃ t ts, v.tokens = t :: ts ∧ t ≠ .closeBracket := by
  cases v with
  | null => exact ⟨_, _, rfl, by decide⟩
  | bool b => exact ⟨_, _, rfl, by simp⟩
  | number spelling => exact ⟨_, _, rfl, by simp⟩
  | string lit => exact ⟨_, _, rfl, by simp⟩
  | array items => cases items <;> exact ⟨_, _, rfl, by decide⟩
  | object members => cases members <;> exact ⟨_, _, rfl, by decide⟩

/-- The first element of an array is read as any other value. -/
theorem run_element (v : Value) (stack : List Frame) (ts : List Token) :
    run (.reading stack .element) (v.tokens ++ ts) =
      run (.reading stack .value) (v.tokens ++ ts) := by
  obtain ⟨t, us, hv, ht⟩ := tokens_eq_cons v
  rw [hv, List.cons_append, run_cons, run_cons]
  exact congrArg (Option.bind · _) (if_neg ht)

/-- The first member of an object is read as any other. -/
theorem run_firstName (m : Literal × Value) (stack : List Frame) (ts : List Token) :
    run (.reading stack .firstName) (memberTokens m ++ ts) =
      run (.reading stack .name) (memberTokens m ++ ts) := by
  obtain ⟨name, v⟩ := m
  rw [memberTokens]
  rfl

/-! ## Whole values -/

mutual

/-- The tokens of a value end in the value's delivery. -/
theorem run_tokens (v : Value) (stack : List Frame) :
    run (.reading stack .value) v.tokens = deliver v stack := by
  match v with
  | .null => rw [tokens, run_singleton, step, begin]
  | .bool b => rw [tokens, run_singleton, step, begin]
  | .number spelling => rw [tokens, run_singleton, step, begin]
  | .string lit => rw [tokens, run_singleton, step, begin]
  | .array [] =>
    rw [tokens, run_cons, step, begin, Option.bind_some, run_singleton]
    simp [step, close]
  | .array (v :: vs) =>
    have hstart : run (.reading stack .value) (tokens (.array (v :: vs))) =
        run (.reading (.array [] :: stack) .element)
          (v.tokens ++ (moreItemTokens vs ++ [.closeBracket])) := by
      simp only [tokens, List.cons_append, List.append_assoc]
      rfl
    rw [hstart, run_element, run_append, run_tokens v, deliver, Option.bind_some, run_append,
      run_moreItemTokens vs, Option.bind_some, run_singleton]
    simp [step, close]
  | .object [] =>
    rw [tokens, run_cons, step, begin, Option.bind_some, run_singleton]
    simp [step, close]
  | .object (m :: ms) =>
    have hstart : run (.reading stack .value) (tokens (.object (m :: ms))) =
        run (.reading (.object [] :: stack) .firstName)
          (memberTokens m ++ (moreMemberTokens ms ++ [.closeBrace])) := by
      simp only [tokens, List.cons_append, List.append_assoc]
      rfl
    rw [hstart, run_firstName, run_append, run_memberTokens m, Option.bind_some, run_append,
      run_moreMemberTokens ms, Option.bind_some, run_singleton]
    simp [step, close]

theorem run_moreItemTokens (vs : List Value) (items : List Value) (stack : List Frame) :
    run (.reading (.array items :: stack) .separator) (moreItemTokens vs) =
      some (.reading (.array (vs.reverse ++ items) :: stack) .separator) := by
  match vs with
  | [] => rfl
  | v :: vs =>
    have hstart : run (.reading (.array items :: stack) .separator) (moreItemTokens (v :: vs)) =
        run (.reading (.array items :: stack) .value) (v.tokens ++ moreItemTokens vs) := by
      simp only [moreItemTokens, List.cons_append]
      rfl
    rw [hstart, run_append, run_tokens v, deliver, Option.bind_some, run_moreItemTokens vs]
    simp

theorem run_memberTokens (m : Literal × Value) (members : List (Literal × Value))
    (stack : List Frame) :
    run (.reading (.object members :: stack) .name) (memberTokens m) =
      some (.reading (.object (m :: members) :: stack) .separator) := by
  match m with
  | (name, v) =>
    have hstart : run (.reading (.object members :: stack) .name) (memberTokens (name, v)) =
        run (.reading (.member members name :: stack) .value) v.tokens := by
      simp only [memberTokens]
      rfl
    rw [hstart, run_tokens v, deliver]

theorem run_moreMemberTokens (ms members : List (Literal × Value)) (stack : List Frame) :
    run (.reading (.object members :: stack) .separator) (moreMemberTokens ms) =
      some (.reading (.object (ms.reverse ++ members) :: stack) .separator) := by
  match ms with
  | [] => rfl
  | m :: ms =>
    have hstart :
        run (.reading (.object members :: stack) .separator) (moreMemberTokens (m :: ms)) =
          run (.reading (.object members :: stack) .name)
            (memberTokens m ++ moreMemberTokens ms) := by
      simp only [moreMemberTokens, List.cons_append]
      rfl
    rw [hstart, run_append, run_memberTokens m, Option.bind_some, run_moreMemberTokens ms]
    simp

end

end Reader

/-- Reading the text of a written value gives the value. -/
theorem Value.IsWritten.read?_print {v : Value} (h : v.IsWritten) :
    read? (v.print.toList.map some) = some v := by
  rw [read?, h.lex_print, Option.bind_some, Reader.run_tokens, Reader.deliver]

end DexTrail.Json
