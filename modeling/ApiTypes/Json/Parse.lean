import ApiTypes.Json.Token
import ApiTypes.Json.Value

/-!
The value that a sequence of tokens stands for. The machine keeps the unfinished arrays and objects
on a stack, so no nesting is too deep for it.
-/
namespace ApiTypes.Json

/-- An unfinished array or object whose next value is being read; what it holds is last first. -/
inductive Frame where
  | array (seen : List Value)
  | object (seen : List Member) (key : Option String)

/-- What must come next. -/
inductive Expecting where
  /-- A value. -/
  | value
  /-- The first item of an array, or its end. -/
  | firstItem
  /-- The first key of an object, or its end. -/
  | firstKey
  /-- A further key of an object. -/
  | key (seen : List Member)
  /-- The colon after a key. -/
  | colon (seen : List Member) (key : Option String)
  /-- Whatever may follow the value that has just ended. -/
  | after (v : Value)

/-- The state of the machine; the innermost frame comes first. -/
structure Parser where
  expecting : Expecting
  frames : List Frame

namespace Parser

/-- Begins a value. -/
def beginValue (frames : List Frame) : Token → Option Parser
  | .openBracket => some ⟨.firstItem, frames⟩
  | .openBrace => some ⟨.firstKey, frames⟩
  | .null => some ⟨.after .null, frames⟩
  | .bool b => some ⟨.after (.bool b), frames⟩
  | .number spelling => some ⟨.after (.number spelling), frames⟩
  | .string text => some ⟨.after (.string text), frames⟩
  | _ => none

/-- Goes on after a value inside the innermost frame. -/
def continueFrame (v : Value) (frame : Frame) (frames : List Frame) : Token → Option Parser
  | .comma =>
    match frame with
    | .array seen => some ⟨.value, .array (v :: seen) :: frames⟩
    | .object seen key => some ⟨.key ((key, v) :: seen), frames⟩
  | .closeBracket =>
    match frame with
    | .array seen => some ⟨.after (.array (v :: seen).reverse), frames⟩
    | .object .. => none
  | .closeBrace =>
    match frame with
    | .array _ => none
    | .object seen key => some ⟨.after (.object ((key, v) :: seen).reverse), frames⟩
  | _ => none

/-- Reads one token. -/
def step (p : Parser) (t : Token) : Option Parser :=
  match p.expecting, t with
  | .value, t => beginValue p.frames t
  | .firstItem, .closeBracket => some ⟨.after (.array []), p.frames⟩
  | .firstItem, t => beginValue (.array [] :: p.frames) t
  | .firstKey, .closeBrace => some ⟨.after (.object []), p.frames⟩
  | .firstKey, .string key => some ⟨.colon [] key, p.frames⟩
  | .key seen, .string key => some ⟨.colon seen key, p.frames⟩
  | .colon seen key, .colon => some ⟨.value, .object seen key :: p.frames⟩
  | .after v, t =>
    match p.frames with
    | frame :: frames => continueFrame v frame frames t
    | [] => none
  | _, _ => none

/-- The value that has been read, once nothing is missing. -/
def finish (p : Parser) : Option Value :=
  match p.expecting, p.frames with
  | .after v, [] => some v
  | _, _ => none

end Parser

/-- The value that the tokens stand for. -/
def Value.ofTokens? (tokens : List Token) : Option Value := do
  (← tokens.foldlM Parser.step ⟨.value, []⟩).finish

/-- The value that a text stands for; `none` when it is not JSON. -/
def Value.ofText? (text : String) : Option Value := do
  ofTokens? (← Token.ofText? text.toList)

end ApiTypes.Json
