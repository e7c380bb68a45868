import Archiver.Text.Blank
import Archiver.Text.CharTable
import Archiver.Text.Alphanumeric
import Archiver.Text.Lowercase
import Archiver.Text.Utf8
import Archiver.Decimal
import Archiver.Digest
import Archiver.Timestamp
import Archiver.Json
import Archiver.Progress.Record
import Archiver.Text.CharTexts
import Archiver.Text.Composed
import Archiver.Url.Percent
import Archiver.Url.Address
import Archiver.Url.Punycode
import Archiver.Url.Idna.Mapping
import Archiver.Url.Idna.Marks
import Archiver.Url.Idna
import Archiver.Url.Basic
import Archiver.Url.Parse
import Archiver.Url.Canonical
import Archiver.Fetch.State
import Archiver.Fetch.Reply
import Archiver.Fetch.Retry
import Archiver.Fetch.Pacing
import Archiver.Fetch.Pool
import Archiver.Url.Shape
import Archiver.Discovery.Frontier
import Archiver.Discovery.Locations
import Archiver.Archive.FileName
import Archiver.Html.Tree
import Archiver.Html.Print
import Archiver.Html.Draft
import Archiver.Html.Names
import Archiver.Html.Reference
import Archiver.Html.Token
import Archiver.Html.Doctype
import Archiver.Html.Builder
import Archiver.Html.Adoption
import Archiver.Html.Rules
import Archiver.Html.BodyRules
import Archiver.Html.TableRules
import Archiver.Html.Parse
import Archiver.Html.Place
import Archiver.Page.MainContent
import Archiver.Page.Body
import Archiver.Page.Metadata
import Archiver.Page.Markdown
import Archiver.Page.Extraction
import Archiver.Css.Token
import Archiver.Css.Selector
import Archiver.Css.Parse
import Archiver.Discovery.CategoryPage
import Archiver.Toml.Value
import Archiver.Toml.Parse
import Archiver.Config.Basic
import Archiver.Config.Read
import Archiver.Config.Check
import Archiver.Storage.Files
import Archiver.Storage.Appender
import Archiver.Archive.Document
import Archiver.Progress.Snapshot
import Archiver.Progress.Capture
import Archiver.Progress.Store
import Archiver.Progress.Faults
import Archiver.Progress.UrlList
import Archiver.Progress.Statistics
import Archiver.Fetch.Cookies
import Archiver.Fetch.Site
import Archiver.Fetch.Session
import Archiver.Discovery.Walk
import Archiver.Harvest.Plan
import Archiver.Harvest.Worker
import Archiver.Harvest.Run
import Archiver.Harvest.Schedule
import Archiver.Cli.Arguments
import Archiver.Cli.Report
import Archiver.Cli.Command
import Archiver.Main
import Archiver.Proofs.Text.Utf8
import Archiver.Proofs.Text.Lines
import Archiver.Proofs.Text.Digits
import Archiver.Proofs.Json.Strings
import Archiver.Proofs.Json.Scalars
import Archiver.Proofs.Json.Readings
import Archiver.Proofs.Json.Extension
import Archiver.Proofs.Json.Fronts
import Archiver.Proofs.Time.Calendar
import Archiver.Proofs.Time.TimestampText
import Archiver.Proofs.Progress.RecordLine
import Archiver.Proofs.Progress.Replay
import Archiver.Proofs.Progress.LogLines
import Archiver.Proofs.Progress.CrashSafety
import Archiver.Proofs.Progress.Latest
import Archiver.Proofs.Progress.LiveView
import Archiver.Proofs.Fetch.Waits
import Archiver.Proofs.Harvest.Verdicts
import Archiver.Proofs.Harvest.WorkerTurn
import Archiver.Proofs.Progress.StoreLaws
import Archiver.Proofs.Harvest.Moves
import Archiver.Proofs.Harvest.Reaches
import Archiver.Proofs.Harvest.Books
import Archiver.Proofs.Harvest.WorkerBooks
import Archiver.Proofs.Harvest.BatchBooks
import Archiver.Proofs.Harvest.Accounts
import Archiver.Proofs.Storage.FileLaws
import Archiver.Proofs.Storage.Paths
import Archiver.Proofs.Archive.Places
import Archiver.Proofs.Archive.Shelf
import Archiver.Proofs.Harvest.Shelving
import Archiver.Proofs.Harvest.KeptArticles
import Archiver.Proofs.Harvest.WorkerLife
import Archiver.Proofs.Harvest.RetryLaw
import Archiver.Proofs.Harvest.Story
import Archiver.Proofs.Harvest.StoryBooks
import Archiver.Proofs.Harvest.SessionGate
import Archiver.Proofs.Harvest.SessionLaw
import Archiver.Proofs.Harvest.Reentry
import Archiver.Proofs.Harvest.Fate
import Archiver.Proofs.Harvest.Steady
import Archiver.Proofs.Harvest.Ending
import Archiver.Proofs.Harvest.ScheduleFree
import Archiver.Proofs.Harvest.SavedWork
import Archiver.Proofs.Discovery.Gains
import Archiver.Proofs.Discovery.Order
import Archiver.Proofs.Discovery.FrontierLaw
import Archiver.Proofs.Url.Authority
import Archiver.Proofs.Url.Path
import Archiver.Proofs.Url.Variants
import Archiver.Proofs.Url.AuthorityText
import Archiver.Proofs.Url.CanonicalForm
import Archiver.Proofs.Storage.Room
import Archiver.Proofs.Discovery.Found
import Archiver.Proofs.Progress.UrlListFile
import Archiver.Proofs.Url.HostCase
import Archiver.Proofs.Config.Demands
import Archiver.Proofs.Url.ShapeFit
import Archiver.Proofs.Page.Twins
import Archiver.Proofs.Page.TwinPages
import Archiver.Proofs.Page.Around
import Archiver.Proofs.Page.TwinMarkdown
import Archiver.Proofs.Page.TwinScores
import Archiver.Proofs.Page.SilentText
import Archiver.Proofs.Time.TimeChars
import Archiver.Proofs.Archive.FrontMatter
import Archiver.Proofs.Url.Login
import Archiver.Proofs.Fetch.SecureCookies
import Archiver.Proofs.Discovery.Tries
import Archiver.Proofs.Discovery.Trails
import Archiver.Proofs.Discovery.Budget
import Archiver.Proofs.Discovery.PagesAgain
import Archiver.Proofs.Fetch.Grants
import Archiver.Proofs.Harvest.PaceLaw
import Archiver.Proofs.Harvest.HandOver
import Archiver.Proofs.Harvest.OrderLaw
import Archiver.Proofs.Fetch.LeastWaits
import Archiver.Proofs.Harvest.Stopped
import Archiver.Proofs.Harvest.StopLaw
import Archiver.Proofs.Harvest.FailedLog
import Archiver.Proofs.Progress.Table
import Archiver.Proofs.Progress.TableEnds
import Archiver.Proofs.Progress.CaptureTable
import Archiver.Proofs.Progress.CaptureCrash
import Archiver.Proofs.Discovery.Entities
import Archiver.Proofs.Discovery.ListingText
import Archiver.Proofs.Archive.ArticlePaths
import Archiver.Proofs.Archive.QuotedValues
import Archiver.Proofs.Discovery.InputOrder
import Archiver.Proofs.Page.FallbackChain
import Archiver.Proofs.Archive.FileNames
import Archiver.Proofs.Page.TidyText
import Archiver.Proofs.Url.Links
import Archiver.Proofs.Fetch.PowerRange
import Archiver.Proofs.Harvest.FreeRetries
import Archiver.Proofs.Page.ScoreOrder
import Archiver.Proofs.Page.CountShares
import Archiver.Proofs.Page.Candidates
import Archiver.Proofs.Page.LinkedPages
