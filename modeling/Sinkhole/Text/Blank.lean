/-! # Blank characters

Trimming removes the characters of the Unicode white space property, which are more than those of
ASCII.
-/
namespace Sinkhole.Text

def isBlank (c : Char) : Bool :=
  let code := c.toNat
  (9 ≤ code && code ≤ 13) || code == 0x20 || code == 0x85 || code == 0xa0 || code == 0x1680 ||
    (0x2000 ≤ code && code ≤ 0x200a) || code == 0x2028 || code == 0x2029 || code == 0x202f ||
    code == 0x205f || code == 0x3000

def trimEnd (drop : Char → Bool) (text : List Char) : List Char :=
  (text.reverse.dropWhile drop).reverse

def trim (text : String) : String :=
  String.ofList (trimEnd isBlank (text.toList.dropWhile isBlank))

theorem trimEnd_append_of_drop {drop : Char → Bool} (text : List Char) {c : Char}
    (h : drop c = true) : trimEnd drop (text ++ [c]) = trimEnd drop text := by
  simp [trimEnd, h]

theorem trimEnd_append_of_keep {drop : Char → Bool} (text : List Char) {c : Char}
    (h : drop c = false) : trimEnd drop (text ++ [c]) = text ++ [c] := by
  simp [trimEnd, h]

end Sinkhole.Text
