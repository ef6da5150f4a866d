import ConsoleBatch.Text.LowerRuns
import ConsoleBatch.Text.CaseRanges

/-!
Lower case.

A text is lowered as a whole, where a capital sigma at the end of a word becomes the final
form, or character by character, where it never does. The first is for texts that are shown or
looked up, the second for comparing names.
-/

namespace ConsoleBatch.Text

/-- The lower case of one character by itself. Only U+0130 has one of two characters. -/
def lowerChar (c : Char) : List Char :=
  if c.toNat < 0x80 then [c.toLower]
  else if c = '\u0130' then ['i', '\u0307']
  else match lowerRuns.findSome? (·.lower? c.toNat) with
    | some code => [Char.ofNat code]
    | none => [c]

def lowerEach (text : List Char) : List Char :=
  text.flatMap lowerChar

def isCased (c : Char) : Bool :=
  inRanges casedRanges c

def isCaseIgnorable (c : Char) : Bool :=
  inRanges caseIgnorableRanges c

def leadsToCased (text : List Char) : Bool :=
  (text.dropWhile isCaseIgnorable).head?.any isCased

/-- Whether a word is still open after `c`: some character with case went before, with nothing
but passed-over characters since. -/
def wordOpenAfter (wordOpen : Bool) (c : Char) : Bool :=
  if isCaseIgnorable c then wordOpen else isCased c

/-- Lowers a text that stands after a word that is still open, or not. -/
def lowerAfter (wordOpen : Bool) : List Char → List Char
  | [] => []
  | c :: rest =>
    let lowered :=
      if c = 'Σ' then [if wordOpen && ! leadsToCased rest then 'ς' else 'σ'] else lowerChar c
    lowered ++ lowerAfter (wordOpenAfter wordOpen c) rest

def lower (text : List Char) : List Char :=
  lowerAfter false text

def lowered (text : String) : String :=
  String.ofList (lower text.toList)

@[simp] theorem toList_lowered (text : String) : (lowered text).toList = lower text.toList := by
  simp [lowered]

def sameIgnoringAsciiCase (left right : List Char) : Bool :=
  left.map Char.toLower == right.map Char.toLower

end ConsoleBatch.Text
