/-!
Blank characters, trimming, and the words of a line.

A character is blank when it has Unicode's `White_Space` property. A word is a maximal run of
characters that are not blank.
-/

namespace ConsoleBatch.Text

def isBlank (c : Char) : Bool :=
  let n := c.toNat
  (9 ≤ n && n ≤ 13) || n == 32 || n == 0x85 || n == 0xA0 || n == 0x1680 ||
    (0x2000 ≤ n && n ≤ 0x200A) || n == 0x2028 || n == 0x2029 || n == 0x202F || n == 0x205F ||
    n == 0x3000

def trimStart (text : List Char) : List Char :=
  text.dropWhile isBlank

def trimEnd (text : List Char) : List Char :=
  (text.reverse.dropWhile isBlank).reverse

def trim (text : List Char) : List Char :=
  trimEnd (trimStart text)

def firstWord (text : List Char) : List Char :=
  (trimStart text).takeWhile (! isBlank ·)

def afterFirstWord (text : List Char) : List Char :=
  (trimStart text).dropWhile (! isBlank ·)

def secondWord (text : List Char) : List Char :=
  firstWord (afterFirstWord text)

def trimmed (text : String) : String :=
  String.ofList (trim text.toList)

@[simp] theorem toList_trimmed (text : String) : (trimmed text).toList = trim text.toList := by
  simp [trimmed]

end ConsoleBatch.Text
