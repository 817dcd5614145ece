import ApiTypes.Unicode.Blank
import ApiTypes.Unicode.Identifier

/-!
Identifiers of the generated code. A text is *accepted* as a name when reading it as source code
gives one identifier that is no keyword; an identifier is *made* of a text only when the text is
nothing but that identifier. The two differ: blanks and comments around a name are accepted, but
nothing can be made of such a text.
-/
namespace ApiTypes
open Unicode

namespace Ident

/-- The words that cannot be used as plain names. -/
def keywords : List String :=
  ["_", "abstract", "as", "async", "await", "become", "box", "break", "const", "continue", "crate",
    "do", "dyn", "else", "enum", "extern", "false", "final", "fn", "for", "if", "impl", "in", "let",
    "loop", "macro", "match", "mod", "move", "mut", "override", "priv", "pub", "ref", "return",
    "Self", "self", "static", "struct", "super", "trait", "true", "try", "type", "typeof", "unsafe",
    "unsized", "use", "virtual", "where", "while", "yield"]

/-- The words that cannot be used even as raw names. -/
def neverRaw : List String :=
  ["_", "super", "self", "Self", "crate"]

/-- A name begins with a letter or an underscore. -/
def isStart (c : Char) : Bool :=
  c == '_' || isXidStart c

/-- Blanks between the tokens of source code: blank characters and the two direction marks. -/
def isSourceBlank (c : Char) : Bool :=
  isBlank c || c == '\u200e' || c == '\u200f'

/-- Where a scan of blanks and comments stands. -/
inductive Gap where
  /-- Outside any comment. -/
  | outside
  /-- In a comment that ends with the line. -/
  | line
  /-- In a block comment inside `outer` others. -/
  | block (outer : Nat)

/-- Whether a comment that goes on like this after two slashes is documentation. -/
def isDocLine : List Char → Bool
  | '!' :: _ => true
  | '/' :: '/' :: _ => false
  | '/' :: _ => true
  | _ => false

/-- Whether a comment that goes on like this after a slash and a star is documentation. -/
def isDocBlock : List Char → Bool
  | '!' :: _ => true
  | '*' :: '*' :: _ => false
  | '*' :: _ => true
  | _ => false

/--
What follows the blanks and comments at the start. Documentation is no blank, so the scan stops at
it. There is nothing to follow a block comment without an end.
-/
def skipGap : Gap → List Char → Option (List Char)
  | .outside, '/' :: '/' :: rest =>
    if isDocLine rest then some ('/' :: '/' :: rest) else skipGap .line rest
  | .outside, '/' :: '*' :: '*' :: '/' :: rest => skipGap .outside rest
  | .outside, '/' :: '*' :: rest =>
    if isDocBlock rest then some ('/' :: '*' :: rest) else skipGap (.block 0) rest
  | .outside, c :: rest => if isSourceBlank c then skipGap .outside rest else some (c :: rest)
  | .outside, [] => some []
  | .line, c :: rest => if c = '\n' then skipGap .outside rest else skipGap .line rest
  | .line, [] => some []
  | .block outer, '/' :: '*' :: rest => skipGap (.block (outer + 1)) rest
  | .block outer, '*' :: '/' :: rest =>
    match outer with
    | 0 => skipGap .outside rest
    | outer + 1 => skipGap (.block outer) rest
  | .block outer, _ :: rest => skipGap (.block outer) rest
  | .block _, [] => none

theorem skipGap_line_cons (c : Char) (rest : List Char) :
    skipGap .line (c :: rest) = if c = '\n' then skipGap .outside rest else skipGap .line rest :=
  rfl

theorem skipGap_newline (rest : List Char) :
    skipGap .outside ('\n' :: rest) = skipGap .outside rest :=
  rfl

theorem skipGap_comment (rest : List Char) :
    skipGap .outside ('/' :: '/' :: rest) =
      if isDocLine rest then some ('/' :: '/' :: rest) else skipGap .line rest :=
  rfl

/-- The mark that says a name is raw, apart from the rest. -/
def cutRaw : List Char → Bool × List Char
  | 'r' :: '#' :: rest => (true, rest)
  | text => (false, text)

/-- The longest name at the start, apart from the rest. -/
def cutName? : List Char → Option (List Char × List Char)
  | c :: rest =>
    if isStart c then some (c :: rest.takeWhile isXidContinue, rest.dropWhile isXidContinue)
    else none
  | [] => none

/-- Whether a name may be used: a raw one with few exceptions, a plain one unless a keyword. -/
def isUsable (raw : Bool) (name : String) : Bool :=
  if raw then !neverRaw.contains name else !keywords.contains name

/-- A text without the byte order mark at its start. -/
def dropByteOrderMark : List Char → List Char
  | '\ufeff' :: rest => rest
  | text => text

/-- Whether a text, read as source code, is one name that may be used. -/
def accepts (s : String) : Bool :=
  match skipGap .outside (dropByteOrderMark s.toList) with
  | none => false
  | some text =>
    let (raw, text) := cutRaw text
    match cutName? text with
    | none => false
    | some (name, rest) =>
      isUsable raw (String.ofList name) && (skipGap .outside rest).any List.isEmpty

/-- Whether a text is exactly one name, keyword or not. -/
def isName : List Char → Bool
  | c :: rest => isStart c && rest.all isXidContinue
  | [] => false

end Ident

/-- An identifier: a name, perhaps marked as raw. -/
structure Ident where
  raw : Bool
  name : String
  exact : Ident.isName name.toList = true
  usable : raw = true → name ∉ Ident.neverRaw
deriving DecidableEq

namespace Ident

/-- The identifier as it is written. -/
def text (i : Ident) : String :=
  if i.raw then "r#" ++ i.name else i.name

/-- The identifier made of exactly this text. -/
def ofText? (s : String) : Option Ident :=
  let (raw, text) := cutRaw s.toList
  let name := String.ofList text
  if h : Ident.isName name.toList = true then
    if hr : raw = true → name ∉ neverRaw then some ⟨raw, name, h, hr⟩ else none
  else none

/-- Nothing is lost or added when an identifier is made. -/
theorem text_of_ofText? {s : String} {i : Ident} (h : ofText? s = some i) : i.text = s := by
  unfold ofText? at h
  split at h
  next raw text hcut =>
  simp only at h
  split at h
  · split at h
    · simp only [Option.some.injEq] at h
      subst h
      unfold cutRaw at hcut
      split at hcut <;> simp only [Prod.mk.injEq] at hcut <;> obtain ⟨rfl, rfl⟩ := hcut
      · next hs _ _ => simp [Ident.text, ← String.toList_inj, hs]
      · simp [Ident.text]
    · simp at h
  · simp at h

end Ident

end ApiTypes
