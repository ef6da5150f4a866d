import ConsoleBatch.Text.Blank
import ConsoleBatch.Text.Lower

/-!
The lint checks and their names.
-/

namespace ConsoleBatch.Lint

open Text

inductive Check where
  | metaSyntax
  | unknownMeta
  | blacklist
  | existence
  deriving DecidableEq

namespace Check

def all : List Check :=
  [metaSyntax, unknownMeta, blacklist, existence]

def name : Check → String
  | metaSyntax => "META_SYNTAX"
  | unknownMeta => "UNKNOWN_META"
  | blacklist => "BLACKLIST"
  | existence => "EXISTENCE"

/-- The check with a given name. Blanks around the name and the case of its letters do not
matter, and a hyphen stands for an underscore. -/
def ofName? (text : String) : Option Check :=
  let wanted := (trim text.toList).map fun c => if c = '-' then '_' else c
  all.find? fun check => sameIgnoringAsciiCase check.name.toList wanted

def unknownMessage (text : String) : String :=
  "unknown lint check '" ++ text ++ "'"

end Check

end ConsoleBatch.Lint
