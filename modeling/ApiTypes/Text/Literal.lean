import ApiTypes.Unicode.Visible

/-!
Quoted texts as source code shows them. Marks that join the character before them and characters
without a visible form are written by code point.
-/
namespace ApiTypes.Text
open Unicode

/-- A character written by its code point. -/
def codePointEscape (c : Char) : List Char :=
  ['\\', 'u', '{'] ++ Nat.toDigits 16 c.toNat ++ ['}']

/-- The form of a character between quotes; the zero character is not its business. -/
def visibleForm (c : Char) : List Char :=
  match c with
  | '\t' => ['\\', 't']
  | '\r' => ['\\', 'r']
  | '\n' => ['\\', 'n']
  | '"' => ['\\', '"']
  | '\\' => ['\\', '\\']
  | c => if isGraphemeExtender c || !isPrintable c then codePointEscape c else [c]

/-- The characters of a source literal. A zero is written long before an octal digit. -/
def literalChars : List Char → List Char
  | [] => []
  | '\x00' :: rest =>
    (if rest.head?.any (fun c => '0' ≤ c && c ≤ '7') then ['\\', 'x', '0', '0'] else ['\\', '0']) ++
      literalChars rest
  | c :: rest => visibleForm c ++ literalChars rest

/-- A text as a literal of the generated code. -/
def literal (s : String) : String :=
  "\"" ++ String.ofList (literalChars s.toList) ++ "\""

/-- A text as it is shown in a diagnostic: like a literal, but every zero is short. -/
def shown (s : String) : String :=
  "\"" ++ String.ofList (s.toList.flatMap fun c =>
    if c = '\x00' then ['\\', '0'] else visibleForm c) ++ "\""

end ApiTypes.Text
