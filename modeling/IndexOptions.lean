import IndexOptions.ColumnType.Basic
import IndexOptions.ColumnType.Split
import IndexOptions.Config.Basic
import IndexOptions.Digest.Sha1
import IndexOptions.Directories.Basic
import IndexOptions.Document.Basic
import IndexOptions.Document.Reader
import IndexOptions.Document.Writer
import IndexOptions.Entries
import IndexOptions.Http.Address
import IndexOptions.Http.Answer
import IndexOptions.Http.Message
import IndexOptions.Identity
import IndexOptions.Logging.Level
import IndexOptions.Logging.Loggers
import IndexOptions.Logging.Setup
import IndexOptions.Main
import IndexOptions.Number.Decimal
import IndexOptions.Number.Double
import IndexOptions.Number.Shortest
import IndexOptions.Options.Name
import IndexOptions.Options.Rejection
import IndexOptions.Options.Values
import IndexOptions.Path.Basic
import IndexOptions.Problem.Basic
import IndexOptions.Problem.Checked
import IndexOptions.Proofs.AlikeTables
import IndexOptions.Proofs.Answers
import IndexOptions.Proofs.BaseTypes
import IndexOptions.Proofs.BracketDepth
import IndexOptions.Proofs.Calls
import IndexOptions.Proofs.CanonicalOptions
import IndexOptions.Proofs.Checks
import IndexOptions.Proofs.ColumnChecks
import IndexOptions.Proofs.ColumnTypes
import IndexOptions.Proofs.Configurations
import IndexOptions.Proofs.DataCenterLists
import IndexOptions.Proofs.DecimalTexts
import IndexOptions.Proofs.Doubles
import IndexOptions.Proofs.Encodable
import IndexOptions.Proofs.EndpointAgreement
import IndexOptions.Proofs.EntryPoints
import IndexOptions.Proofs.Events
import IndexOptions.Proofs.FailedLoads
import IndexOptions.Proofs.Failures
import IndexOptions.Proofs.Identifiers
import IndexOptions.Proofs.IndexDirectories
import IndexOptions.Proofs.IntegerTexts
import IndexOptions.Proofs.Interference
import IndexOptions.Proofs.KnownTable
import IndexOptions.Proofs.LogLines
import IndexOptions.Proofs.LogSetups
import IndexOptions.Proofs.LoggerNames
import IndexOptions.Proofs.Loggers
import IndexOptions.Proofs.LowerCase
import IndexOptions.Proofs.MappedColumns
import IndexOptions.Proofs.MemberOrder
import IndexOptions.Proofs.Numerals
import IndexOptions.Proofs.OptionChanges
import IndexOptions.Proofs.OptionLog
import IndexOptions.Proofs.Paths
import IndexOptions.Proofs.ReaderLimits
import IndexOptions.Proofs.ReaderProgress
import IndexOptions.Proofs.Reading
import IndexOptions.Proofs.Records
import IndexOptions.Proofs.RefreshSeconds
import IndexOptions.Proofs.Reordered
import IndexOptions.Proofs.ResolutionAnswers
import IndexOptions.Proofs.Rounding
import IndexOptions.Proofs.SchemaAcceptance
import IndexOptions.Proofs.SchemaDocuments
import IndexOptions.Proofs.SchemaTexts
import IndexOptions.Proofs.ServiceCaches
import IndexOptions.Proofs.Sessions
import IndexOptions.Proofs.Steps
import IndexOptions.Proofs.TableDirectories
import IndexOptions.Proofs.TableDocuments
import IndexOptions.Proofs.TopLevelArguments
import IndexOptions.Proofs.Trimming
import IndexOptions.Proofs.TypeGrammar
import IndexOptions.Proofs.ValidParts
import IndexOptions.Proofs.Values
import IndexOptions.Reading.Basic
import IndexOptions.Reading.Number
import IndexOptions.Resolve.Basic
import IndexOptions.Resolve.Checks
import IndexOptions.Resolve.Trace
import IndexOptions.Schema.Analyzer
import IndexOptions.Schema.Basic
import IndexOptions.Schema.Build
import IndexOptions.Schema.Mapper
import IndexOptions.Service.Basic
import IndexOptions.Session.Basic
import IndexOptions.Settings.Basic
import IndexOptions.Settings.Variables
import IndexOptions.Text.Basic
import IndexOptions.Text.Case
import IndexOptions.Text.CaseTable
import IndexOptions.Text.Encoding
import IndexOptions.Text.Quoted
import IndexOptions.Text.Split
import IndexOptions.Text.Utf8
import IndexOptions.Uuid.Basic
import IndexOptions.Uuid.Reader
