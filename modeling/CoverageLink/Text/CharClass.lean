/-!
# Classes of characters given by ranges

A property of characters that a standard defines by a table is a list of closed
ranges of code points, in increasing order.  `CharClass.contains` is the only
question asked of one.

The tables themselves stand in the modules named for the property they hold.
-/

namespace CoverageLink

/-- A set of characters, as closed ranges of code points. -/
structure CharClass where
  ranges : List (Nat × Nat)

namespace CharClass

/-- Whether a code point lies in one of the ranges. -/
def containsCode (cls : CharClass) (code : Nat) : Bool :=
  cls.ranges.any fun range => range.1 ≤ code && code ≤ range.2

/-- Whether a character lies in one of the ranges. -/
def contains (cls : CharClass) (c : Char) : Bool :=
  cls.containsCode c.toNat

end CharClass
end CoverageLink
