/-!
The tokens of a JSON text. A machine reads the text one character at a time, so that reading is a
fold; its mode says what the last characters began.
-/
namespace ApiTypes.Json

inductive Token where
  | openBracket
  | closeBracket
  | openBrace
  | closeBrace
  | comma
  | colon
  | null
  | bool (b : Bool)
  | number (spelling : String)
  | string (text : Option String)
deriving DecidableEq, Inhabited

/-- One mark of a quoted text: a character, or a UTF-16 unit written as an escape. -/
inductive Mark where
  | char (c : Char)
  | unit (n : Nat)
deriving DecidableEq

/-- The units that begin a surrogate pair. -/
def isHighSurrogate (n : Nat) : Bool :=
  0xd800 ≤ n && n < 0xdc00

/-- The units that end a surrogate pair. -/
def isLowSurrogate (n : Nat) : Bool :=
  0xdc00 ≤ n && n < 0xe000

/-- The characters that the marks stand for; `none` when a surrogate stands alone. -/
def Mark.decode : List Mark → Option (List Char)
  | [] => some []
  | .char c :: rest => (c :: ·) <$> decode rest
  | .unit hi :: .unit lo :: rest =>
    if isHighSurrogate hi then
      if isLowSurrogate lo then
        (Char.ofNat (0x10000 + (hi - 0xd800) * 0x400 + (lo - 0xdc00)) :: ·) <$> decode rest
      else none
    else if isLowSurrogate hi then none
    else (Char.ofNat hi :: ·) <$> decode (.unit lo :: rest)
  | .unit n :: rest =>
    if isHighSurrogate n || isLowSurrogate n then none else (Char.ofNat n :: ·) <$> decode rest

/-- How far a number has been read. -/
inductive NumberPart where
  | sign
  | zero
  | whole
  | point
  | fraction
  | exponent
  | exponentSign
  | power
deriving DecidableEq

/-- A number begins with a minus sign or a digit. -/
def NumberPart.begin? (c : Char) : Option NumberPart :=
  if c = '-' then some .sign
  else if c = '0' then some .zero
  else if c.isDigit then some .whole
  else none

/-- The part that `c` continues to; `none` when it does not continue the number. -/
def NumberPart.next? (p : NumberPart) (c : Char) : Option NumberPart :=
  match p with
  | .sign => if c = '0' then some .zero else if c.isDigit then some .whole else none
  | .zero => afterWhole
  | .whole => if c.isDigit then some .whole else afterWhole
  | .point | .fraction =>
    if c.isDigit then some .fraction
    else if p = .fraction && isExponent then some .exponent
    else none
  | .exponent =>
    if c = '+' || c = '-' then some .exponentSign else if c.isDigit then some .power else none
  | .exponentSign | .power => if c.isDigit then some .power else none
where
  isExponent : Bool := c = 'e' || c = 'E'
  afterWhole : Option NumberPart :=
    if c = '.' then some .point else if isExponent then some .exponent else none

/-- A number may end here. -/
def NumberPart.isComplete : NumberPart → Bool
  | .zero | .whole | .fraction | .power => true
  | _ => false

/-- What the last characters began. -/
inductive Mode where
  /-- Between tokens. -/
  | between
  /-- In a quoted text; the marks so far, last first. -/
  | quoted (seen : List Mark)
  /-- After a backslash. -/
  | escape (seen : List Mark)
  /-- In a hexadecimal escape that lacks `missing` more digits. -/
  | hex (seen : List Mark) (missing value : Nat)
  /-- In a number; its characters so far, last first. -/
  | number (part : NumberPart) (seen : List Char)
  /-- In a word, of which `rest` must follow. -/
  | word (rest : List Char) (token : Token)

/-- The state of the machine: its mode and the finished tokens, last first. -/
structure Lexer where
  mode : Mode
  tokens : List Token

namespace Lexer

/-- Begins a token, or passes one of the four blanks. -/
def enter (tokens : List Token) (c : Char) : Option Lexer :=
  match c with
  | ' ' | '\t' | '\n' | '\r' => some ⟨.between, tokens⟩
  | '[' => some ⟨.between, .openBracket :: tokens⟩
  | ']' => some ⟨.between, .closeBracket :: tokens⟩
  | '{' => some ⟨.between, .openBrace :: tokens⟩
  | '}' => some ⟨.between, .closeBrace :: tokens⟩
  | ',' => some ⟨.between, .comma :: tokens⟩
  | ':' => some ⟨.between, .colon :: tokens⟩
  | '"' => some ⟨.quoted [], tokens⟩
  | 't' => some ⟨.word ['r', 'u', 'e'] (.bool true), tokens⟩
  | 'f' => some ⟨.word ['a', 'l', 's', 'e'] (.bool false), tokens⟩
  | 'n' => some ⟨.word ['u', 'l', 'l'] .null, tokens⟩
  | _ => (NumberPart.begin? c).map fun part => ⟨.number part [c], tokens⟩

/-- The character that a short escape stands for. -/
def shortEscape? : Char → Option Char
  | '"' => some '"'
  | '\\' => some '\\'
  | '/' => some '/'
  | 'b' => some '\x08'
  | 'f' => some '\x0c'
  | 'n' => some '\n'
  | 'r' => some '\r'
  | 't' => some '\t'
  | _ => none

/-- The value of a hexadecimal digit of either case. -/
def hexDigit? (c : Char) : Option Nat :=
  if c.isDigit then some (c.toNat - '0'.toNat)
  else if 'a' ≤ c && c ≤ 'f' then some (c.toNat - 'a'.toNat + 10)
  else if 'A' ≤ c && c ≤ 'F' then some (c.toNat - 'A'.toNat + 10)
  else none

/-- The token of a quoted text. -/
def quotedToken (seen : List Mark) : Token :=
  .string ((Mark.decode seen.reverse).map String.ofList)

/-- The token of a number. -/
def numberToken (seen : List Char) : Token :=
  .number (String.ofList seen.reverse)

/-- Reads one character. -/
def step (l : Lexer) (c : Char) : Option Lexer :=
  match l.mode with
  | .between => enter l.tokens c
  | .quoted seen =>
    if c = '"' then some ⟨.between, quotedToken seen :: l.tokens⟩
    else if c = '\\' then some ⟨.escape seen, l.tokens⟩
    else if c.toNat < 0x20 then none
    else some ⟨.quoted (.char c :: seen), l.tokens⟩
  | .escape seen =>
    if c = 'u' then some ⟨.hex seen 4 0, l.tokens⟩
    else (shortEscape? c).map fun e => ⟨.quoted (.char e :: seen), l.tokens⟩
  | .hex seen missing value =>
    (hexDigit? c).map fun d =>
      if missing ≤ 1 then ⟨.quoted (.unit (value * 16 + d) :: seen), l.tokens⟩
      else ⟨.hex seen (missing - 1) (value * 16 + d), l.tokens⟩
  | .number part seen =>
    match part.next? c with
    | some part => some ⟨.number part (c :: seen), l.tokens⟩
    | none => if part.isComplete then enter (numberToken seen :: l.tokens) c else none
  | .word rest token =>
    match rest with
    | [] => none
    | e :: rest =>
      if c = e then
        some (if rest.isEmpty then ⟨.between, token :: l.tokens⟩ else ⟨.word rest token, l.tokens⟩)
      else none

/-- The tokens of a text that ends in this state. -/
def finish (l : Lexer) : Option (List Token) :=
  match l.mode with
  | .between => some l.tokens.reverse
  | .number part seen =>
    if part.isComplete then some (numberToken seen :: l.tokens).reverse else none
  | _ => none

end Lexer

/-- The tokens of a text; `none` when it is no sequence of JSON tokens. -/
def Token.ofText? (text : List Char) : Option (List Token) := do
  (← text.foldlM Lexer.step ⟨.between, []⟩).finish

end ApiTypes.Json
