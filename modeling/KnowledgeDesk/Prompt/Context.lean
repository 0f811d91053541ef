import KnowledgeDesk.Prompt.Instruction
import KnowledgeDesk.Token.Tokenizer
import KnowledgeDesk.Vector.Basic

/-!
# The information behind a question

The segments found for a question are joined, best first, with a blank line between two, into
the *information* of the prompt, and the names of their files, each once and in order of first
appearance, into its *sources*. With a token budget, the information stops before the first
segment that would take it over the budget; a first segment that is over the budget on its own
is cut to the budget instead. A budget counts tokens with its own tokenizer.
-/

namespace KnowledgeDesk

/-- Add a name to the sources unless it is there already. -/
def addSource (sources : List String) (name : String) : List String :=
  if sources.contains name then sources else sources ++ [name]

/-- Join the matches into information and sources, starting from what was gathered so far. -/
def gatherMatches (budget : Option (Nat × Token.Tokenizer)) :
    List EmbeddingMatch → String → List String → String × List String
  | [], info, sources => (info, sources)
  | m :: rest, info, sources =>
    let candidate := if info.isEmpty then m.segment.text else info ++ "\n\n" ++ m.segment.text
    let fits := match budget with
      | some (limit, tk) => tk.count candidate ≤ limit
      | none => true
    if !fits && !info.isEmpty then (info, sources)
    else
      let info := match budget with
        | some (limit, tk) => if fits then candidate else tk.truncate candidate limit
        | none => candidate
      let sources := match m.segment.meta? metaFileName with
        | some name => addSource sources name
        | none => sources
      gatherMatches budget rest info sources

/-- The prompt variables for a question and the matches found for it. -/
def PromptVariables.ofMatches (question : String) (found : List EmbeddingMatch)
    (budget : Option (Nat × Token.Tokenizer)) : PromptVariables :=
  let (info, sources) := gatherMatches budget found "" []
  { question, informations := info, fileNamesSources := ", ".intercalate sources }

end KnowledgeDesk
