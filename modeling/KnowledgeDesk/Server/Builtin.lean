import KnowledgeDesk.Server.State
import KnowledgeDesk.Token.Encode
import KnowledgeDesk.Document.Builtin
import KnowledgeDesk.Template.Handlebars
import KnowledgeDesk.Json.Read

/-!
# The library's own libraries

A server can run with the tokenizer, document readers, template engine and JSON reader and
printer this library implements, over whatever network its host has.
-/

namespace KnowledgeDesk.Server

def Libraries.builtin (network : Remote.Network) : Libraries :=
  ⟨Token.cl100k, Document.builtinReaders, Template.handlebars, Json.builtinCodec, network⟩

end KnowledgeDesk.Server
