import KnowledgeDesk.Template.Engine
import KnowledgeDesk.Text.Blank

/-!
# Prompt instructions

The instruction sent with a question is a template over three variables: the question, the
information found for it, and the names of the files the information came from. A template that
is blank after trimming is replaced by a default, and a template engine renders it. When nothing
was found, the *mismatch* instruction is used, else the *match* instruction.
-/

namespace KnowledgeDesk

/-- The variables of an instruction. -/
structure PromptVariables where
  question : String := ""
  informations : String := ""
  fileNamesSources : String := ""
  deriving Repr, DecidableEq

/-- The variables as template data, names in order. -/
def PromptVariables.toJson (v : PromptVariables) : Json :=
  .obj [("file_names_sources", .str v.fileNamesSources), ("informations", .str v.informations),
    ("question", .str v.question)]

/-- The default instruction when information was found. -/
def defaultMatchInstruction : String :=
  "Answer the question using only the information below.\nIf the information is not sufficient, say that you do not know.\n\nInformation:\n\x7b\x7binformations\x7d\x7d\n\nSources: \x7b\x7bfile_names_sources\x7d\x7d\n\nQuestion: \x7b\x7bquestion\x7d\x7d"

/-- The default instruction when nothing was found. -/
def defaultMismatchInstruction : String :=
  "No document related to the question was found. Answer from general knowledge and tell the user that no source supports the answer.\n\nQuestion: \x7b\x7bquestion\x7d\x7d"

/-- Why an instruction could not be made. -/
structure PromptError where
  message : String
  deriving Repr, DecidableEq

/-- The text of a prompt error. -/
def PromptError.text (e : PromptError) : String := "Prompt error: " ++ e.message

variable (engine : Template.Engine)

/-- Render a template (or `fallback` when it is blank) with the variables. -/
def renderPrompt (template fallback : String) (vars : PromptVariables) : Except PromptError String :=
  let t := if Text.isBlankText template then fallback else template
  (engine.render t vars.toJson).mapError PromptError.mk

/-- Render the instruction that fits: the mismatch one when there is no information. -/
def renderInstruction (matchInstruction mismatchInstruction : String) (vars : PromptVariables) :
    Except PromptError String :=
  if vars.informations.isEmpty then
    renderPrompt engine mismatchInstruction defaultMismatchInstruction vars
  else renderPrompt engine matchInstruction defaultMatchInstruction vars

end KnowledgeDesk
