/-!
Lines of bounded width. A layout is a sequence of texts and gaps with boxes around parts of it. A
gap is blanks or the end of a line; a box whose content fits the rest of the line keeps all its gaps
as blanks.
-/
namespace ApiTypes.Layout

/-- How the gaps of a box that does not fit behave. -/
inductive Style where
  /-- Every gap ends the line. -/
  | consistent
  /-- A gap ends the line when what follows up to the next gap does not fit. -/
  | inconsistent
deriving DecidableEq

inductive Piece where
  | text (s : String)
  /-- Blanks, or `before` and the end of the line; the next line is indented by `shift` more. -/
  | gap (blanks : Nat) (shift : Int) (before : String)
  /-- The end of a line; no box around it fits. -/
  | newline (shift : Int)
  /-- Where a line would end if a body were not empty. Nothing is printed, but lengths of what ends
  before it are measured up to here. -/
  | emptyBody
  /-- Begins a box; when it does not fit, its lines are indented by `indent` more. -/
  | enter (style : Style) (indent : Int)
  | leave

/-- A box around pieces. -/
def box (style : Style) (indent : Int) (content : List Piece) : List Piece :=
  .enter style indent :: content ++ [.leave]

/-- The width of a line. -/
def lineWidth : Int := 89

/-- The room that even a deeply indented line has. -/
def leastRoom : Int := 60

/--
Whether the pieces up to the next gap outside all boxes begun here fit into `room`. Lengths are
counted in bytes.
-/
def fits : (room : Int) → (depth : Nat) → List Piece → Bool
  | room, _, [] => 0 ≤ room
  | room, depth, .text s :: rest => 0 ≤ room && fits (room - s.utf8ByteSize) depth rest
  | room, 0, .gap .. :: _ => 0 ≤ room
  | room, depth + 1, .gap blanks _ _ :: rest => 0 ≤ room && fits (room - blanks) (depth + 1) rest
  | room, depth, .newline _ :: _ => depth = 0 && 0 ≤ room
  | room, 0, .emptyBody :: _ => 0 ≤ room
  | room, depth + 1, .emptyBody :: rest => fits room (depth + 1) rest
  | room, depth, .enter .. :: rest => fits room (depth + 1) rest
  | room, depth, .leave :: rest => fits room (depth - 1) rest

/-- A box that has been begun. -/
inductive Frame where
  | flat
  /-- A box that does not fit, with the indentation outside it. -/
  | broken (style : Style) (outer : Int)

/-- A partly printed layout. -/
structure Printer where
  output : String := ""
  /-- Blanks that are due before the next text. -/
  pending : Int := 0
  /-- What is left of the line; negative once a text stands over. -/
  room : Int := lineWidth
  indent : Int := 0
  frames : List Frame := []

namespace Printer

/-- Prints a text after the blanks that are due. -/
def print (p : Printer) (s : String) : Printer :=
  { p with
    output := p.output ++ String.ofList (List.replicate p.pending.toNat ' ') ++ s
    pending := 0
    room := p.room - s.utf8ByteSize }

/-- Ends the line. -/
def endLine (p : Printer) (shift : Int) : Printer :=
  let indent := p.indent + shift
  { p with
    output := p.output.push '\n'
    pending := indent
    room := max (lineWidth - indent) leastRoom }

/-- Whether a gap of `blanks` before `rest` stays on the line. -/
def keepsGap (p : Printer) (blanks : Nat) (rest : List Piece) : Bool :=
  match p.frames with
  | .flat :: _ => true
  | .broken .consistent _ :: _ => false
  | .broken .inconsistent _ :: _ | [] => fits (p.room - blanks) 0 rest

/-- Prints one piece, with a look at the rest. -/
def step (p : Printer) (piece : Piece) (rest : List Piece) : Printer :=
  match piece with
  | .text s => p.print s
  | .gap blanks shift before =>
    if p.keepsGap blanks rest then
      { p with pending := p.pending + blanks, room := p.room - blanks }
    else if before.isEmpty then p.endLine shift
    else (p.print before).endLine shift
  | .newline shift => p.endLine shift
  | .emptyBody => p
  | .enter style indent =>
    if fits p.room 1 rest then { p with frames := .flat :: p.frames }
    else { p with frames := .broken style p.indent :: p.frames, indent := p.indent + indent }
  | .leave =>
    match p.frames with
    | .broken _ outer :: frames => { p with indent := outer, frames }
    | .flat :: frames => { p with frames }
    | [] => p

/-- Prints the pieces one after another. -/
def run (p : Printer) : List Piece → Printer
  | [] => p
  | piece :: rest => (p.step piece rest).run rest

end Printer

/-- The printed form of a layout. -/
def render (pieces : List Piece) : String :=
  (Printer.run {} pieces).output

end ApiTypes.Layout
