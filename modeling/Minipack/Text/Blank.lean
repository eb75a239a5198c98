/-
White space.  `isBlank` holds of the characters with the White_Space property, in ASCII and above,
and `trimBlank` removes them from both ends of a text.
-/

namespace Minipack.Text

/-- Tab to carriage return, space, next line, no-break space and the spaces of other scripts. -/
def isBlank (c : Char) : Bool :=
  (0x09 ≤ c.val && c.val ≤ 0x0d) || c.val == 0x20 || c.val == 0x85 || c.val == 0xa0 ||
    c.val == 0x1680 || (0x2000 ≤ c.val && c.val ≤ 0x200a) || c.val == 0x2028 || c.val == 0x2029 ||
    c.val == 0x202f || c.val == 0x205f || c.val == 0x3000

/-- Drops the blanks at both ends. -/
def trimBlank (text : List Char) : List Char :=
  ((text.dropWhile isBlank).reverse.dropWhile isBlank).reverse

theorem trimBlank_nil : trimBlank [] = [] := rfl

end Minipack.Text
