/-!
Sets of code points as sorted boundaries. A code point is in the set iff an odd number of
boundaries lie at or below it.
-/
namespace ApiTypes.Unicode

/-- A set of code points; membership changes at each boundary, and the boundaries ascend. -/
structure CharSet where
  bounds : List Nat

/-- Passes the boundaries at or below `n`, changing `inside` at each. -/
def CharSet.passes (n : Nat) : Bool → List Nat → Bool
  | inside, [] => inside
  | inside, b :: rest => if n < b then inside else passes n (!inside) rest

/-- Whether the code point `n` is in the set. -/
def CharSet.contains (s : CharSet) (n : Nat) : Bool :=
  passes n false s.bounds

end ApiTypes.Unicode
