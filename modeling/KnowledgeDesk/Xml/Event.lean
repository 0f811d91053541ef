/-!
# Events of an XML document

A reader of XML hands a document over as a run of events: text between markup (kept raw, with
its references unresolved), start tags, end tags and empty tags with their names and the raw
text of their attributes, CDATA sections, and the markup that carries no content here.
-/

namespace KnowledgeDesk.Xml

inductive Event where
  | text (raw : String)
  | start (name : String) (attrs : String)
  | close (name : String)
  | empty (name : String) (attrs : String)
  | cdata (raw : String)
  | other
  deriving Repr, DecidableEq

end KnowledgeDesk.Xml
