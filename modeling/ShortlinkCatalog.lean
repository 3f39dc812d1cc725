import ShortlinkCatalog.Text.Basic
import ShortlinkCatalog.Text.Blank
import ShortlinkCatalog.Text.Case
import ShortlinkCatalog.Text.CodePoint
import ShortlinkCatalog.Text.Composition
import ShortlinkCatalog.Text.DecimalDigit
import ShortlinkCatalog.Text.Encodable
import ShortlinkCatalog.Text.Form
import ShortlinkCatalog.Text.Percent
import ShortlinkCatalog.Text.Quoted
import ShortlinkCatalog.Text.Utf8
import ShortlinkCatalog.Decimal.Integer
import ShortlinkCatalog.Decimal.Shortest
import ShortlinkCatalog.Json.Encoding
import ShortlinkCatalog.Json.Printer
import ShortlinkCatalog.Url.Parse
import ShortlinkCatalog.Url.Reference
import ShortlinkCatalog.Domain.Name
import ShortlinkCatalog.Domain.Punycode
import ShortlinkCatalog.Address.Reading
import ShortlinkCatalog.Address.Redirect
import ShortlinkCatalog.Pattern.Reader
import ShortlinkCatalog.Shortener.Clean
import ShortlinkCatalog.Shortener.Ranking
import ShortlinkCatalog.Shortener.Registry
import ShortlinkCatalog.Archive.Exchange
import ShortlinkCatalog.Archive.KnownCodes
import ShortlinkCatalog.Archive.Releases
import ShortlinkCatalog.Archive.Script
import ShortlinkCatalog.Catalog.Migration
import ShortlinkCatalog.Catalog.Refresh
import ShortlinkCatalog.Catalog.Revision
import ShortlinkCatalog.Catalog.Store
import ShortlinkCatalog.Settings.Load
import ShortlinkCatalog.Log.Output
import ShortlinkCatalog.Client.Pool
import ShortlinkCatalog.Service.CrossOrigin
import ShortlinkCatalog.Service.Endpoint
import ShortlinkCatalog.Service.Handle
import ShortlinkCatalog.Service.RateLimit
import ShortlinkCatalog.Service.Validation
import ShortlinkCatalog.Proofs.Text.Cut
import ShortlinkCatalog.Proofs.Text.Spelling
import ShortlinkCatalog.Proofs.Text.Quoted
import ShortlinkCatalog.Proofs.Text.Boundary
import ShortlinkCatalog.Proofs.Text.AsciiCase
import ShortlinkCatalog.Proofs.Url.Written
import ShortlinkCatalog.Proofs.Url.Parts
import ShortlinkCatalog.Proofs.Url.Grammar
import ShortlinkCatalog.Proofs.Url.Extended
import ShortlinkCatalog.Proofs.Url.AsciiCase
import ShortlinkCatalog.Proofs.Json.Octets
import ShortlinkCatalog.Proofs.Json.Spelling
import ShortlinkCatalog.Proofs.Json.Written
import ShortlinkCatalog.Proofs.Json.Blank
import ShortlinkCatalog.Proofs.Pattern.Match
import ShortlinkCatalog.Proofs.Pattern.Strict
import ShortlinkCatalog.Proofs.Pattern.LineEnd
import ShortlinkCatalog.Proofs.Shortener.Ranking
import ShortlinkCatalog.Proofs.Shortener.Canonical
import ShortlinkCatalog.Proofs.Shortener.Batch
import ShortlinkCatalog.Proofs.Shortener.Candidate
import ShortlinkCatalog.Proofs.Shortener.Link
import ShortlinkCatalog.Proofs.Shortener.FixedPoint
import ShortlinkCatalog.Proofs.Shortener.Spelling
import ShortlinkCatalog.Proofs.Shortener.Offender
import ShortlinkCatalog.Proofs.Shortener.Corruption
import ShortlinkCatalog.Proofs.Shortener.Preview
import ShortlinkCatalog.Proofs.Shortener.Statistics
import ShortlinkCatalog.Proofs.Shortener.CaseFolding
import ShortlinkCatalog.Proofs.Shortener.HostLookup
import ShortlinkCatalog.Proofs.Shortener.NameIndex
import ShortlinkCatalog.Proofs.Catalog.Transaction
import ShortlinkCatalog.Proofs.Catalog.Store
import ShortlinkCatalog.Proofs.Catalog.Run
import ShortlinkCatalog.Proofs.Catalog.History
import ShortlinkCatalog.Proofs.Archive.UrlTable
import ShortlinkCatalog.Proofs.Archive.Captures
import ShortlinkCatalog.Proofs.Archive.Releases
import ShortlinkCatalog.Proofs.Service.Handling
import ShortlinkCatalog.Proofs.Service.TwoRoutes
import ShortlinkCatalog.Proofs.Service.RefreshAnswer
import ShortlinkCatalog.Proofs.Service.ReleasesAnswer
import ShortlinkCatalog.Proofs.Service.RefreshAll
import ShortlinkCatalog.Proofs.Catalog.Reads
import ShortlinkCatalog.Proofs.Service.Reading
import ShortlinkCatalog.Proofs.Service.CatalogAnswer
import ShortlinkCatalog.Proofs.Catalog.Layouts
import ShortlinkCatalog.Proofs.Catalog.SetUp
import ShortlinkCatalog.Proofs.Archive.Parameters
import ShortlinkCatalog.Proofs.Archive.Query
import ShortlinkCatalog.Proofs.Service.Admission
import ShortlinkCatalog.Proofs.Service.ArchiveQueries
