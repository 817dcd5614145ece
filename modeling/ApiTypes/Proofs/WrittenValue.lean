import ApiTypes.Json.Parse
import ApiTypes.Json.Render
import Mathlib.Data.List.Forall2

/-!
Written values are read back. The lexer makes the tokens of a value out of its written form, and
the parser makes the value out of its tokens, whatever the strings hold.
-/
namespace ApiTypes.Json

/-- A value without numbers, whose spelling may be anything. -/
inductive Value.NumberFree : Value → Prop where
  | null : NumberFree .null
  | bool (b : Bool) : NumberFree (.bool b)
  | string (text : Option String) : NumberFree (.string text)
  | array {items : List Value} (h : ∀ v ∈ items, NumberFree v) : NumberFree (.array items)
  | object {members : List Member} (h : ∀ m ∈ members, NumberFree m.2) :
      NumberFree (.object members)

mutual

/-- The tokens of a value. -/
def Value.tokens : Value → List Token
  | .null => [.null]
  | .bool b => [.bool b]
  | .number spelling => [.number spelling]
  | .string text => [.string text]
  | .array items => .openBracket :: itemTokens items ++ [.closeBracket]
  | .object members => .openBrace :: memberTokens members ++ [.closeBrace]

/-- The tokens of values with commas between them. -/
def itemTokens : List Value → List Token
  | [] => []
  | [v] => v.tokens
  | v :: w :: rest => v.tokens ++ .comma :: itemTokens (w :: rest)

/-- The tokens of members with commas between them. -/
def memberTokens : List (Option String × Value) → List Token
  | [] => []
  | [(key, v)] => .string key :: .colon :: v.tokens
  | (key, v) :: m :: rest => .string key :: .colon :: v.tokens ++ .comma :: memberTokens (m :: rest)

end

/-- Between tokens, the lexer makes the tokens `out` out of `text`. -/
def Reads (text : List Char) (out : List Token) : Prop :=
  ∀ tokens, text.foldlM Lexer.step ⟨.between, tokens⟩ = some ⟨.between, out.reverse ++ tokens⟩

namespace Reads
variable {s t : List Char} {out out' : List Token}

theorem nil : Reads [] [] := fun _ => rfl

theorem append (hs : Reads s out) (ht : Reads t out') : Reads (s ++ t) (out ++ out') := by
  intro tokens
  rw [List.foldlM_append, hs tokens, Option.bind_eq_bind, Option.bind_some, ht]
  simp

/-- A character that is a token of its own. -/
theorem cons {c : Char} {token : Token}
    (hc : ∀ tokens, Lexer.enter tokens c = some ⟨.between, token :: tokens⟩) (hs : Reads s out) :
    Reads (c :: s) (token :: out) := by
  have hone : Reads [c] [token] := fun tokens => by simp [Lexer.step, hc]
  exact hone.append hs

end Reads

/-- The lexer decodes the mark as the character. -/
def Mark.StandsFor (m : Mark) (c : Char) : Prop :=
  m = .char c ∨ m = .unit c.toNat ∧ c.toNat < 0x20

theorem Mark.decode_unit {n : Nat} (hn : n < 0x20) (rest : List Mark) :
    decode (.unit n :: rest) = (Char.ofNat n :: ·) <$> decode rest := by
  have hhigh : isHighSurrogate n = false := by
    simp only [isHighSurrogate, Bool.and_eq_false_iff, decide_eq_false_iff_not]
    omega
  have hlow : isLowSurrogate n = false := by
    simp only [isLowSurrogate, Bool.and_eq_false_iff, decide_eq_false_iff_not]
    omega
  rcases rest with _ | ⟨_ | _, rest⟩ <;> simp [decode, hhigh, hlow]

theorem Mark.decode_of_standsFor {marks : List Mark} {cs : List Char}
    (h : List.Forall₂ StandsFor marks cs) : decode marks = some cs := by
  induction h with
  | nil => rfl
  | cons hm _ ih =>
    rcases hm with rfl | ⟨rfl, hc⟩
    · simp [decode, ih]
    · rw [decode_unit hc, ih]
      simp

theorem hexDigit?_hexDigit {n : Nat} (h : n < 16) : Lexer.hexDigit? (hexDigit n) = some n := by
  revert n
  decide

/-- In a quoted text, the written form of a character is read as a mark that stands for it. -/
theorem step_escapeChar (c : Char) (seen : List Mark) (tokens : List Token) :
    ∃ m : Mark, m.StandsFor c ∧
      (escapeChar c).foldlM Lexer.step ⟨.quoted seen, tokens⟩ =
        some ⟨.quoted (m :: seen), tokens⟩ := by
  unfold escapeChar
  split
  case h_8 h1 h2 h3 h4 h5 h6 h7 =>
    split
    next hc =>
      refine ⟨.unit c.toNat, Or.inr ⟨rfl, hc⟩, ?_⟩
      have hhigh := hexDigit?_hexDigit (n := c.toNat / 16) (by omega)
      have hlow := hexDigit?_hexDigit (n := c.toNat % 16) (by omega)
      have hvalue : c.toNat / 16 * 16 + c.toNat % 16 = c.toNat := by omega
      have hzero : Lexer.hexDigit? '0' = some 0 := by decide
      simp [Lexer.step, hhigh, hlow, hzero, hvalue]
    next hc =>
      refine ⟨.char c, Or.inl rfl, ?_⟩
      have hquote : c ≠ '"' := h1
      have hslash : c ≠ '\\' := h2
      simp [Lexer.step, hquote, hslash, hc]
  all_goals exact ⟨.char _, Or.inl rfl, rfl⟩

theorem step_escapeChars (cs : List Char) (seen : List Mark) (tokens : List Token) :
    ∃ marks : List Mark, List.Forall₂ Mark.StandsFor marks cs ∧
      (cs.flatMap escapeChar).foldlM Lexer.step ⟨.quoted seen, tokens⟩ =
        some ⟨.quoted (marks.reverse ++ seen), tokens⟩ := by
  induction cs generalizing seen with
  | nil => exact ⟨[], .nil, rfl⟩
  | cons c cs ih =>
    obtain ⟨m, hm, hc⟩ := step_escapeChar c seen tokens
    obtain ⟨marks, hmarks, hcs⟩ := ih (m :: seen)
    refine ⟨m :: marks, .cons hm hmarks, ?_⟩
    rw [List.flatMap_cons, List.foldlM_append, hc, Option.bind_eq_bind, Option.bind_some, hcs]
    simp

/-- A quoted text is read as its string, and a lone surrogate as no text. -/
theorem reads_quote (text : Option String) : Reads (quote text) [.string text] := by
  intro tokens
  cases text with
  | none => rfl
  | some s =>
    obtain ⟨marks, hmarks, hs⟩ := step_escapeChars s.toList [] tokens
    have hquote : quote (some s) = ['"'] ++ s.toList.flatMap escapeChar ++ ['"'] := rfl
    have hopen : ['"'].foldlM Lexer.step ⟨.between, tokens⟩ = some ⟨.quoted [], tokens⟩ := rfl
    have hclose : ['"'].foldlM Lexer.step ⟨.quoted (marks.reverse ++ []), tokens⟩ =
        some ⟨.between, .string (some s) :: tokens⟩ := by
      simp [Lexer.step, Lexer.quotedToken, Mark.decode_of_standsFor hmarks]
    rw [hquote, List.foldlM_append, List.foldlM_append, hopen]
    simp only [Option.bind_eq_bind, Option.bind_some, hs, hclose]
    rfl

theorem reads_items {items : List Value} (h : ∀ v ∈ items, Reads v.write v.tokens) :
    Reads (writeItems items) (itemTokens items) := by
  induction items with
  | nil => exact .nil
  | cons v rest ih =>
    obtain ⟨hv, hrest⟩ := List.forall_mem_cons.1 h
    cases rest with
    | nil => exact hv
    | cons w rest => exact hv.append (.cons (fun _ => rfl) (ih hrest))

theorem reads_members {members : List Member} (h : ∀ m ∈ members, Reads m.2.write m.2.tokens) :
    Reads (writeMembers members) (memberTokens members) := by
  induction members with
  | nil => exact .nil
  | cons m rest ih =>
    obtain ⟨hv, hrest⟩ := List.forall_mem_cons.1 h
    have hm := (reads_quote m.1).append (.cons (c := ':') (fun _ => rfl) hv)
    cases rest with
    | nil => exact hm
    | cons n rest => exact hm.append (.cons (fun _ => rfl) (ih hrest))

/-- The written form of a value without numbers is read as the tokens of the value. -/
theorem reads_write {v : Value} (h : v.NumberFree) : Reads v.write v.tokens := by
  induction h with
  | null => exact fun _ => rfl
  | bool b => cases b <;> exact fun _ => rfl
  | string text => exact reads_quote text
  | array _ ih =>
    exact (Reads.cons (fun _ => rfl) (reads_items ih)).append (.cons (fun _ => rfl) .nil)
  | object _ ih =>
    exact (Reads.cons (fun _ => rfl) (reads_members ih)).append (.cons (fun _ => rfl) .nil)

/-- Where a value is expected, the parser makes `v` out of its tokens. -/
def Value.Parses (v : Value) : Prop :=
  ∀ frames, v.tokens.foldlM Parser.step ⟨.value, frames⟩ = some ⟨.after v, frames⟩

theorem Value.tokens_eq_cons (v : Value) : ∃ t rest, v.tokens = t :: rest ∧ t ≠ .closeBracket := by
  cases v with
  | null | bool b | number spelling | string text => exact ⟨_, [], rfl, Token.noConfusion⟩
  | array items => exact ⟨_, itemTokens items ++ [.closeBracket], rfl, Token.noConfusion⟩
  | object members => exact ⟨_, memberTokens members ++ [.closeBrace], rfl, Token.noConfusion⟩

theorem itemTokens_eq_cons (v : Value) (rest : List Value) :
    ∃ t ts, itemTokens (v :: rest) = t :: ts ∧ t ≠ .closeBracket := by
  obtain ⟨t, ts, hv, ht⟩ := v.tokens_eq_cons
  cases rest with
  | nil => exact ⟨t, ts, hv, ht⟩
  | cons w rest =>
    refine ⟨t, ts ++ .comma :: itemTokens (w :: rest), ?_, ht⟩
    rw [itemTokens, hv]
    rfl

namespace Parser
variable {frames : List Frame} {t : Token}

/-- The first item of an array is read like any further one. -/
theorem step_firstItem (ht : t ≠ .closeBracket) :
    step ⟨.firstItem, frames⟩ t = step ⟨.value, .array [] :: frames⟩ t := by
  cases t with
  | closeBracket => exact absurd rfl ht
  | _ => rfl

theorem foldlM_tokens_append {v : Value} (hv : v.Parses) (rest : List Token) :
    (v.tokens ++ rest).foldlM step ⟨.value, frames⟩ = rest.foldlM step ⟨.after v, frames⟩ := by
  rw [List.foldlM_append, hv]
  rfl

/-- The parser reads values and the end of the array that holds them. -/
theorem step_items (frames : List Frame) {v : Value} {rest : List Value}
    (h : ∀ w ∈ v :: rest, w.Parses) (seen : List Value) :
    (itemTokens (v :: rest) ++ [Token.closeBracket]).foldlM step ⟨.value, .array seen :: frames⟩ =
      some ⟨.after (.array (seen.reverse ++ v :: rest)), frames⟩ := by
  induction rest generalizing v seen with
  | nil =>
    have hv := h v (List.mem_singleton.2 rfl)
    rw [itemTokens, foldlM_tokens_append hv]
    simp [step, continueFrame]
  | cons w rest ih =>
    obtain ⟨hv, hrest⟩ := List.forall_mem_cons.1 h
    rw [itemTokens, List.append_assoc, foldlM_tokens_append hv]
    exact (ih hrest (v :: seen)).trans (by simp)

/-- The parser reads members and the end of the object that holds them. -/
theorem step_members (frames : List Frame) {m : Member} {rest : List Member}
    (h : ∀ n ∈ m :: rest, n.2.Parses) (seen : List Member) :
    (memberTokens (m :: rest) ++ [Token.closeBrace]).foldlM step ⟨.key seen, frames⟩ =
      some ⟨.after (.object (seen.reverse ++ m :: rest)), frames⟩ := by
  induction rest generalizing m seen with
  | nil =>
    have hv := h m (List.mem_singleton.2 rfl)
    exact (foldlM_tokens_append hv [.closeBrace]).trans (by simp [step, continueFrame])
  | cons n rest ih =>
    obtain ⟨hv, hrest⟩ := List.forall_mem_cons.1 h
    have hnext := ih hrest (m :: seen)
    rw [memberTokens, List.append_assoc]
    exact (foldlM_tokens_append hv _).trans (hnext.trans (by simp))

end Parser

/-- The tokens of a value without numbers are parsed as the value. -/
theorem Value.NumberFree.parses {v : Value} (h : v.NumberFree) : v.Parses := by
  induction h with
  | null | bool b | string text => exact fun _ => rfl
  | @array items _ ih =>
    intro frames
    cases items with
    | nil => rfl
    | cons v rest =>
      -- After the bracket a first item or the end is expected, not just any value.
      obtain ⟨t, ts, hts, ht⟩ := itemTokens_eq_cons v rest
      have hitems := Parser.step_items frames ih []
      rw [hts, List.cons_append, List.foldlM_cons, ← Parser.step_firstItem ht,
        ← List.foldlM_cons, ← List.cons_append, ← hts] at hitems
      exact hitems
  | @object members _ ih =>
    intro frames
    cases members with
    | nil => rfl
    | cons m rest =>
      have hmembers := Parser.step_members frames ih []
      cases rest <;> exact hmembers

/-- A value without numbers is read back from its written form. -/
theorem Value.ofText?_render {v : Value} (h : v.NumberFree) : ofText? v.render = some v := by
  have htokens : Token.ofText? v.write = some v.tokens := by
    simp [Token.ofText?, reads_write h [], Lexer.finish]
  have hvalue : ofTokens? v.tokens = some v := by
    simp [ofTokens?, h.parses [], Parser.finish]
  simp [ofText?, render, htokens, hvalue]

end ApiTypes.Json
