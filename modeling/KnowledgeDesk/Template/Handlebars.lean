import KnowledgeDesk.Template.Engine
import KnowledgeDesk.Template.Compile
import KnowledgeDesk.Template.Render

/-!
# The library's template engine

Templates in the handlebars language, compiled and rendered by this library without escaping
anything; a template that does not parse fails with `Failed to parse template` and the parser's
message.
-/

namespace KnowledgeDesk.Template

def handlebars : Engine where
  render t data :=
    match compile t with
    | .error e => .error ("Failed to parse template " ++ e.text)
    | .ok els => (renderElements els data).mapError (·.text)

end KnowledgeDesk.Template
