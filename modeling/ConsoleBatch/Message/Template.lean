/-!
Filling in templates.

A tag is a name between `<` and the first `>` after it, and it counts only if the name is
bound. The template is cut into tags and single characters before anything is filled in, so
the values of the tags are never looked at for tags.
-/

namespace ConsoleBatch.Message

/-- Values for tags. The first value given for a name counts. -/
abbrev Bindings := List (String × String)

inductive Piece where
  | literal (c : Char)
  | tag (name : String)
  deriving DecidableEq

def tagName (rest : List Char) : String :=
  String.ofList (rest.takeWhile (· != '>'))

/-- The tag whose `<` stands before `rest`, if its name is one, and what stands after it. -/
def tagAfter? (isName : String → Bool) (rest : List Char) : Option (String × List Char) :=
  match rest.dropWhile (· != '>') with
  | [] => none
  | _ :: after => if isName (tagName rest) then some (tagName rest, after) else none

def openTag? (isName : String → Bool) (c : Char) (rest : List Char) :
    Option (String × List Char) :=
  if c = '<' then tagAfter? isName rest else none

theorem length_openTag? {isName : String → Bool} {c : Char} {rest after : List Char}
    {name : String} (found : openTag? isName c rest = some (name, after)) :
    after.length < rest.length := by
  have shorter := (List.dropWhile_suffix (l := rest) (· != '>')).length_le
  unfold openTag? tagAfter? at found
  split at found
  · split at found
    · simp at found
    · rename_i close _ split
      simp only [split, List.length_cons] at shorter
      split at found
      · simp only [Option.some.injEq, Prod.mk.injEq] at found
        rw [← found.2]
        omega
      · simp at found
  · simp at found

def cut (isName : String → Bool) : List Char → List Piece
  | [] => []
  | c :: rest =>
    match _found : openTag? isName c rest with
    | some (name, after) => .tag name :: cut isName after
    | none => .literal c :: cut isName rest
termination_by template => template.length
decreasing_by
  · have := length_openTag? _found
    simp only [List.length_cons]
    omega
  · simp

def fill (bindings : Bindings) : Piece → List Char
  | .literal c => [c]
  | .tag name => ((bindings.lookup name).getD "").toList

def substitute (template : String) (bindings : Bindings) : String :=
  let pieces := cut (fun name => (bindings.lookup name).isSome) template.toList
  String.ofList (pieces.flatMap (fill bindings))

end ConsoleBatch.Message
