import ResponseCheck.Pattern.Syntax
import ResponseCheck.Unicode.Category
import ResponseCheck.Unicode.Property

/-!
# Classes of characters

The sets of the classes that have a name of their own: those of ASCII, as in `[:alpha:]`, and the
one-letter classes, which are larger where Unicode is turned on.
-/

namespace ResponseCheck.Pattern

open Unicode (CharSet)

/-- The union of ranges. -/
def ranges (bounds : List (Char × Char)) : CharSet :=
  .unions (bounds.map fun (low, high) => .range low high)

/-- The characters of a named ASCII class. -/
def AsciiClass.set : AsciiClass → CharSet
  | .alnum => ranges [('0', '9'), ('A', 'Z'), ('a', 'z')]
  | .alpha => ranges [('A', 'Z'), ('a', 'z')]
  | .ascii => .ascii
  | .blank => ranges [('\t', '\t'), (' ', ' ')]
  | .cntrl => ranges [('\x00', '\x1f'), ('\x7f', '\x7f')]
  | .digit => .range '0' '9'
  | .graph => .range '!' '~'
  | .lower => .range 'a' 'z'
  | .print => .range ' ' '~'
  | .punct => ranges [('!', '/'), (':', '@'), ('[', '\x60'), ('\x7b', '~')]
  | .space => ranges [('\t', '\r'), (' ', ' ')]
  | .upper => .range 'A' 'Z'
  | .word => ranges [('0', '9'), ('A', 'Z'), ('_', '_'), ('a', 'z')]
  | .xdigit => ranges [('0', '9'), ('A', 'F'), ('a', 'f')]

/-- The decimal digits. -/
def digitChars : CharSet := Unicode.categoryRuns.select (· = "Nd")

/-- The word characters: letters, marks, decimal digits, connectors and join controls. -/
def wordChars : CharSet :=
  .unions [Unicode.alphabetic,
    Unicode.categoryRuns.select ["Mc", "Me", "Mn", "Nd", "Pc"].contains, Unicode.joinControl]

/-- The characters of a one-letter class, over Unicode or over ASCII. -/
def Shorthand.set (unicode : Bool) : Shorthand → CharSet
  | .digit => if unicode then digitChars else AsciiClass.digit.set
  | .space => if unicode then Unicode.whiteSpace else AsciiClass.space.set
  | .word => if unicode then wordChars else AsciiClass.word.set

/-- The set that a binary operator makes. -/
def SetOperator.apply : SetOperator → CharSet → CharSet → CharSet
  | .intersection, a, b => a.inter b
  | .difference, a, b => a.diff b
  | .symmetricDifference, a, b => (a.diff b).union (b.diff a)

end ResponseCheck.Pattern
