import ApiTypes.Json.Value

/-!
The compact written form of a JSON value: no blanks, members in order, and as few escapes as JSON
allows.
-/
namespace ApiTypes.Json

/-- The lower-case hexadecimal digit of `n < 16`. -/
def hexDigit (n : Nat) : Char :=
  Char.ofNat (if n < 10 then '0'.toNat + n else 'a'.toNat + (n - 10))

/-- The written form of one character: only quotes, backslashes and controls are escaped. -/
def escapeChar (c : Char) : List Char :=
  match c with
  | '"' => ['\\', '"']
  | '\\' => ['\\', '\\']
  | '\x08' => ['\\', 'b']
  | '\x0c' => ['\\', 'f']
  | '\n' => ['\\', 'n']
  | '\r' => ['\\', 'r']
  | '\t' => ['\\', 't']
  | c =>
    if c.toNat < 0x20 then ['\\', 'u', '0', '0', hexDigit (c.toNat / 16), hexDigit (c.toNat % 16)]
    else [c]

/-- A quoted text; what is no text is written as a lone surrogate. -/
def quote : Option String → List Char
  | some s => '"' :: s.toList.flatMap escapeChar ++ ['"']
  | none => "\"\\ud800\"".toList

mutual

/-- The compact written form. -/
def Value.write : Value → List Char
  | .null => "null".toList
  | .bool b => (if b then "true" else "false").toList
  | .number spelling => spelling.toList
  | .string text => quote text
  | .array items => '[' :: writeItems items ++ [']']
  | .object members => '{' :: writeMembers members ++ ['}']

/-- Values with commas between them. -/
def writeItems : List Value → List Char
  | [] => []
  | [v] => v.write
  | v :: w :: rest => v.write ++ ',' :: writeItems (w :: rest)

/-- Members with commas between them. -/
def writeMembers : List (Option String × Value) → List Char
  | [] => []
  | [(key, v)] => quote key ++ ':' :: v.write
  | (key, v) :: m :: rest => quote key ++ ':' :: v.write ++ ',' :: writeMembers (m :: rest)

end

/-- The compact written form as a text. -/
def Value.render (v : Value) : String :=
  String.ofList v.write

end ApiTypes.Json
