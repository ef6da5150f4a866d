import ConsoleBatch.Message.Key
import ConsoleBatch.Message.Template

/-!
The configured messages.
-/

namespace ConsoleBatch.Message

structure Catalog where
  opening : String := ""
  templates : List (String × String) := []
  deriving DecidableEq

def builtInTemplate (name : String) : String :=
  ((Key.ofName? name).map Key.builtIn).getD ""

namespace Catalog

def template (catalog : Catalog) (name : String) : String :=
  (catalog.templates.lookup name).getD (builtInTemplate name)

def render (catalog : Catalog) (name : String) (bindings : Bindings) : Option String :=
  let template := catalog.template name
  if template = "" then none
  else some (substitute (catalog.opening ++ template) bindings)

def message (catalog : Catalog) (key : Key) (bindings : Bindings) : List String :=
  (catalog.render key.name bindings).toList

end Catalog

end ConsoleBatch.Message
