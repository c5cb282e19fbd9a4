import ScriptReport.Command.Arguments
import ScriptReport.Command.Ending
import ScriptReport.Command.Outline
import ScriptReport.Command.Publish
import ScriptReport.Command.Recover
import ScriptReport.Evaluation.Evaluator
import ScriptReport.Evaluation.Interpreter
import ScriptReport.Evaluation.Scripted
import ScriptReport.Fault
import ScriptReport.Files.Disk
import ScriptReport.Files.Fault
import ScriptReport.Files.Follow
import ScriptReport.Files.Path
import ScriptReport.Files.Tree
import ScriptReport.Html.EntityTable
import ScriptReport.Html.Escape
import ScriptReport.Html.Reference
import ScriptReport.Main
import ScriptReport.Proofs.Command.ExitStatus
import ScriptReport.Proofs.Command.RecoveredLines
import ScriptReport.Proofs.Evaluation.FigureList
import ScriptReport.Proofs.Evaluation.FigureName
import ScriptReport.Proofs.Evaluation.FigureRun
import ScriptReport.Proofs.Evaluation.LeftOver
import ScriptReport.Proofs.Evaluation.Positions
import ScriptReport.Proofs.Evaluation.Results
import ScriptReport.Proofs.Evaluation.Run
import ScriptReport.Proofs.Evaluation.WrittenFiles
import ScriptReport.Proofs.Files.Descent
import ScriptReport.Proofs.Files.Entries
import ScriptReport.Proofs.Files.KeptWays
import ScriptReport.Proofs.Files.LastStep
import ScriptReport.Proofs.Files.PathText
import ScriptReport.Proofs.Files.Resolution
import ScriptReport.Proofs.Files.Writing
import ScriptReport.Proofs.Html.Delimiter
import ScriptReport.Proofs.Html.EscapedText
import ScriptReport.Proofs.Html.Markup
import ScriptReport.Proofs.Html.Nesting
import ScriptReport.Proofs.Html.Tagged
import ScriptReport.Proofs.Html.Unescape
import ScriptReport.Proofs.Publish.AcceptedConfig
import ScriptReport.Proofs.Publish.Filling
import ScriptReport.Proofs.Publish.IncludedFiles
import ScriptReport.Proofs.Publish.InsertedOutput
import ScriptReport.Proofs.Publish.ReportFile
import ScriptReport.Proofs.Publish.ReportLocation
import ScriptReport.Proofs.Publish.RoundTrip
import ScriptReport.Proofs.Publish.ScriptKept
import ScriptReport.Proofs.Report.HtmlFragment
import ScriptReport.Proofs.Report.HtmlPage
import ScriptReport.Proofs.Report.Insertion
import ScriptReport.Proofs.Report.LatexEnvironments
import ScriptReport.Proofs.Report.LatexEscape
import ScriptReport.Proofs.Report.LatexPage
import ScriptReport.Proofs.Report.LatexReading
import ScriptReport.Proofs.Report.LinkCalls
import ScriptReport.Proofs.Report.NamedTokens
import ScriptReport.Proofs.Report.Numbering
import ScriptReport.Proofs.Report.SourceRecovery
import ScriptReport.Proofs.Script.Appending
import ScriptReport.Proofs.Script.BlockGaps
import ScriptReport.Proofs.Script.BlockStep
import ScriptReport.Proofs.Script.CarriedLines
import ScriptReport.Proofs.Script.CommentLine
import ScriptReport.Proofs.Script.Coverage
import ScriptReport.Proofs.Script.FileBlock
import ScriptReport.Proofs.Script.Gather
import ScriptReport.Proofs.Script.ItemForm
import ScriptReport.Proofs.Script.KindRuns
import ScriptReport.Proofs.Script.LeadingBlanks
import ScriptReport.Proofs.Script.Levels
import ScriptReport.Proofs.Script.Link
import ScriptReport.Proofs.Script.NormalForm
import ScriptReport.Proofs.Script.ProtectedSpan
import ScriptReport.Proofs.Script.Reading
import ScriptReport.Proofs.Script.RunningText
import ScriptReport.Proofs.Script.Segmentation
import ScriptReport.Proofs.Script.Spelling
import ScriptReport.Proofs.Settings.Accepted
import ScriptReport.Proofs.Settings.LineClasses
import ScriptReport.Proofs.Text.Lines
import ScriptReport.Proofs.Text.LowerCase
import ScriptReport.Proofs.Text.Occurrence
import ScriptReport.Proofs.Text.Splitting
import ScriptReport.Proofs.Text.Utf8
import ScriptReport.Proofs.Url.AddressParts
import ScriptReport.Proofs.Url.PathLink
import ScriptReport.Proofs.Viewer.Confinement
import ScriptReport.Proofs.Viewer.LinkedScript
import ScriptReport.Proofs.Viewer.Listing
import ScriptReport.Proofs.Viewer.ShownScript
import ScriptReport.Proofs.Viewer.Sidebar
import ScriptReport.Proofs.Viewer.TreeListing
import ScriptReport.Publish.Include
import ScriptReport.Publish.Input
import ScriptReport.Publish.Recover
import ScriptReport.Publish.Report
import ScriptReport.Report.BackEnd
import ScriptReport.Report.Html
import ScriptReport.Report.Latex
import ScriptReport.Report.Render
import ScriptReport.Report.Renderer
import ScriptReport.Report.Source
import ScriptReport.Script.Block
import ScriptReport.Script.Document
import ScriptReport.Script.Inline
import ScriptReport.Script.Item
import ScriptReport.Script.Line
import ScriptReport.Script.Outline
import ScriptReport.Script.Paragraph
import ScriptReport.Script.Segment
import ScriptReport.Settings.Config
import ScriptReport.Settings.ConfigFault
import ScriptReport.Settings.Datum
import ScriptReport.Settings.Load
import ScriptReport.Settings.Options
import ScriptReport.Text.Base64
import ScriptReport.Text.Blank
import ScriptReport.Text.CaseTable
import ScriptReport.Text.Chars
import ScriptReport.Text.Charset
import ScriptReport.Text.Charset.Big5Table
import ScriptReport.Text.Charset.Chinese
import ScriptReport.Text.Charset.ChineseTables
import ScriptReport.Text.Charset.CodeTable
import ScriptReport.Text.Charset.Escapes
import ScriptReport.Text.Charset.HkscsTable
import ScriptReport.Text.Charset.HostName
import ScriptReport.Text.Charset.Iso2022
import ScriptReport.Text.Charset.Japanese
import ScriptReport.Text.Charset.JapaneseTables
import ScriptReport.Text.Charset.Jis2004Tables
import ScriptReport.Text.Charset.Korean
import ScriptReport.Text.Charset.KoreanTable
import ScriptReport.Text.Charset.Label
import ScriptReport.Text.Charset.LabelTables
import ScriptReport.Text.Charset.Names
import ScriptReport.Text.Charset.OctetTables
import ScriptReport.Text.Charset.Punycode
import ScriptReport.Text.Charset.Utf16
import ScriptReport.Text.Charset.Utf7
import ScriptReport.Text.Double
import ScriptReport.Text.Integer
import ScriptReport.Text.LineBreak
import ScriptReport.Text.Lower
import ScriptReport.Text.Normal
import ScriptReport.Text.NormalTables
import ScriptReport.Text.Printable
import ScriptReport.Text.Quoted
import ScriptReport.Text.Utf8
import ScriptReport.Text.Wide
import ScriptReport.Url.Address
import ScriptReport.Url.Authority
import ScriptReport.Url.Location
import ScriptReport.Url.Percent
import ScriptReport.Viewer.Answer
import ScriptReport.Viewer.Folder
import ScriptReport.Viewer.Page
import ScriptReport.Viewer.Request
import ScriptReport.Viewer.Route
import ScriptReport.World
import ScriptReport.Yaml.Cursor
import ScriptReport.Yaml.Fault
import ScriptReport.Yaml.Graph
import ScriptReport.Yaml.Load
import ScriptReport.Yaml.Moment
import ScriptReport.Yaml.Node
import ScriptReport.Yaml.Property
import ScriptReport.Yaml.Scalar
import ScriptReport.Yaml.SetOrder
import ScriptReport.Yaml.Tag
import ScriptReport.Yaml.Token
import ScriptReport.Yaml.TokenStream
import ScriptReport.Yaml.Value
