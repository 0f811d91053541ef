import KnowledgeDesk.Json.Value

/-!
# Template engines

An engine renders a template against JSON data, or answers its own message when the template
does not parse or does not render.
-/

namespace KnowledgeDesk.Template

structure Engine where
  render : String → Json → Except String String

end KnowledgeDesk.Template
