import KnowledgeDesk.Text.Blank
import KnowledgeDesk.Text.Utf8
import KnowledgeDesk.Number.Binary
import KnowledgeDesk.Number.Decimal
import KnowledgeDesk.Json.Value
import KnowledgeDesk.Json.Codec
import KnowledgeDesk.Json.Read
import KnowledgeDesk.Document.Kind
import KnowledgeDesk.Xml.Event
import KnowledgeDesk.Document.Readers
import KnowledgeDesk.Files.Key
import KnowledgeDesk.Chat.Message
import KnowledgeDesk.Chat.Pipeline
import KnowledgeDesk.Vector.Basic
import KnowledgeDesk.Vector.Memory
import KnowledgeDesk.Chat.Request
import KnowledgeDesk.Provider.Stream
import KnowledgeDesk.Number.Integer
import KnowledgeDesk.Config
import KnowledgeDesk.Template.Peg
import KnowledgeDesk.Template.Grammar
import KnowledgeDesk.Template.Syntax
import KnowledgeDesk.Template.Compile
import KnowledgeDesk.Template.Render
import KnowledgeDesk.Template.Engine
import KnowledgeDesk.Template.Handlebars
import KnowledgeDesk.Prompt.Instruction
import KnowledgeDesk.Text.Category
import KnowledgeDesk.Token.Tokenizer
import KnowledgeDesk.Token.Piece
import KnowledgeDesk.Token.Ranks
import KnowledgeDesk.Token.Encode
import KnowledgeDesk.Document.Split
import KnowledgeDesk.Prompt.Context
import KnowledgeDesk.Remote.Address
import KnowledgeDesk.Remote.Service
import KnowledgeDesk.Archive.Inflate
import KnowledgeDesk.Archive.Zip
import KnowledgeDesk.Xml.Reader
import KnowledgeDesk.Document.Office
import KnowledgeDesk.Document.Extract
import KnowledgeDesk.Text.Base64
import KnowledgeDesk.Document.Sheet
import KnowledgeDesk.Pdf.Object
import KnowledgeDesk.Pdf.Syntax
import KnowledgeDesk.Pdf.File
import KnowledgeDesk.Pdf.Content
import KnowledgeDesk.Pdf.Encoding
import KnowledgeDesk.Pdf.Metrics
import KnowledgeDesk.Pdf.Font
import KnowledgeDesk.Pdf.Text
import KnowledgeDesk.Document.Builtin
import KnowledgeDesk.Time.DateTime
import KnowledgeDesk.Store.Table
import KnowledgeDesk.Store.Records
import KnowledgeDesk.Store.Database
import KnowledgeDesk.Files.Store
import KnowledgeDesk.Text.Uuid
import KnowledgeDesk.Text.Case
import KnowledgeDesk.Server.State
import KnowledgeDesk.Server.Knowledge
import KnowledgeDesk.Server.Chat
import KnowledgeDesk.Server.Builtin
import KnowledgeDesk.Http.Message
import KnowledgeDesk.Http.Form
import KnowledgeDesk.Http.Target
import KnowledgeDesk.Http.Mime
import KnowledgeDesk.Http.Multipart
import KnowledgeDesk.Web.Route
import KnowledgeDesk.Web.Extract
import KnowledgeDesk.Web.Admin
import KnowledgeDesk.Server.Startup
import KnowledgeDesk.Web.App
import KnowledgeDesk.Proofs.Split
import KnowledgeDesk.Proofs.BotChat
import KnowledgeDesk.Proofs.SessionAccess
import KnowledgeDesk.Proofs.ProjectMemory
import KnowledgeDesk.Proofs.Cascade
import KnowledgeDesk.Proofs.ChatStream
import KnowledgeDesk.Proofs.RemovalCleanup
import KnowledgeDesk.Proofs.AdminToken
import KnowledgeDesk.Proofs.AnswerTask
import KnowledgeDesk.Proofs.VectorText
import KnowledgeDesk.Proofs.IndexUpsert
import KnowledgeDesk.Proofs.DocumentEmbedding
import KnowledgeDesk.Proofs.ProjectEmbedding
import KnowledgeDesk.Proofs.IndexReload
import KnowledgeDesk.Proofs.Window
import KnowledgeDesk.Proofs.BotRequest
import KnowledgeDesk.Proofs.Ranking
import KnowledgeDesk.Proofs.DatasetUpload
import KnowledgeDesk.Proofs.StoreCalls
import KnowledgeDesk.Proofs.Information
import KnowledgeDesk.Proofs.FloatBits
import KnowledgeDesk.Proofs.FloatRounding
import KnowledgeDesk.Proofs.FloatText
import KnowledgeDesk.Proofs.NormalText
import KnowledgeDesk.Proofs.PipelineEvents
import KnowledgeDesk.Proofs.EmbeddingBatches
import KnowledgeDesk.Proofs.SearchAnswer
import KnowledgeDesk.Proofs.FileKeys
import KnowledgeDesk.Proofs.IntegerText
import KnowledgeDesk.Proofs.FloatNumerals
import KnowledgeDesk.Proofs.BotId
