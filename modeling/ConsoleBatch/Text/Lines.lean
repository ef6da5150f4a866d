/-!
The lines of a text.

A line ends at a line feed, and a carriage return right before that line feed belongs to the
ending. A text that ends with a line feed has no empty last line.
-/

namespace ConsoleBatch.Text

def withoutReturn (line : List Char) : List Char :=
  if line.getLast? = some '\r' then line.dropLast else line

def beforeFeed (text : List Char) : List Char :=
  text.takeWhile (· != '\n')

def afterFeed? (text : List Char) : Option (List Char) :=
  (text.dropWhile (· != '\n')).tail?

theorem length_afterFeed? {text rest : List Char} (found : afterFeed? text = some rest) :
    rest.length < text.length := by
  have shorter := (List.dropWhile_suffix (l := text) (· != '\n')).length_le
  unfold afterFeed? at found
  cases split : text.dropWhile (· != '\n') with
  | nil => simp [split] at found
  | cons feed after =>
    simp only [split, List.tail?_cons, Option.some.injEq] at found
    subst found
    simp only [split, List.length_cons] at shorter
    omega

def lines (text : List Char) : List (List Char) :=
  match _found : afterFeed? text with
  | some rest => withoutReturn (beforeFeed text) :: lines rest
  | none => if text.isEmpty then [] else [text]
termination_by text.length
decreasing_by exact length_afterFeed? _found

end ConsoleBatch.Text
