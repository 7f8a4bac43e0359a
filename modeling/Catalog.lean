import Catalog.CommandLine.Report
import Catalog.Config.Environment
import Catalog.Config.Load
import Catalog.Document
import Catalog.Files.Tree
import Catalog.Http.Server
import Catalog.Json.Decode
import Catalog.Json.Parser
import Catalog.Links.Collection
import Catalog.Logging.Event
import Catalog.Logging.LogFile
import Catalog.Logging.Targets
import Catalog.Main
import Catalog.Movie.Startup
import Catalog.Query.Codec
import Catalog.Query.Filter
import Catalog.Query.Page
import Catalog.Query.Params
import Catalog.Text.Utf8
import Catalog.Yaml.Printer
import Catalog.Yaml.Token
import Catalog.Yaml.Value
import Catalog.Proofs.CollectionLinks
import Catalog.Proofs.PageArithmetic
import Catalog.Proofs.Paging
import Catalog.Proofs.Circle
import Catalog.Proofs.DocumentOrder
import Catalog.Proofs.FilterMeaning
import Catalog.Proofs.Digits
import Catalog.Proofs.PageAddress
import Catalog.Proofs.ListRequest
import Catalog.Proofs.Upserts
import Catalog.Proofs.TypedConditions
import Catalog.Proofs.Walk
import Catalog.Proofs.Rounding
import Catalog.Proofs.ShortestDigits
import Catalog.Proofs.NumberText
import Catalog.Proofs.JsonText
import Catalog.Proofs.CharacterBytes
import Catalog.Proofs.EncodedText
import Catalog.Proofs.ListAddress
import Catalog.Proofs.ProblemDocuments
import Catalog.Proofs.ClientAgreement
import Catalog.Proofs.CalendarDays
import Catalog.Proofs.DateText
import Catalog.Proofs.TimestampText
import Catalog.Proofs.MovieDocuments
import Catalog.Proofs.ReleaseDates
import Catalog.Proofs.ConfiguredLinks
import Catalog.Proofs.AcceptedPages
import Catalog.Proofs.IntegerRounding
import Catalog.Proofs.IntegerFields
import Catalog.Proofs.UnescapedText
import Catalog.Proofs.SegmentAddress
import Catalog.Proofs.ItemLinks
import Catalog.Proofs.StorageCalls
import Catalog.Proofs.DefaultListing
import Catalog.Proofs.HiddenFailures
import Catalog.Proofs.ErrorDocuments
import Catalog.Proofs.LogThresholds
import Catalog.Proofs.Verbosity
import Catalog.Proofs.FilterGrammar
import Catalog.Proofs.ModuleFiles
import Catalog.Proofs.Overlays
import Catalog.Proofs.EnvironmentSettings
import Catalog.Proofs.ConfigLayers
import Catalog.Proofs.OrderReversal
import Catalog.Proofs.NumericSorts
import Catalog.Proofs.ClauseOrder
import Catalog.Proofs.SortRuns
import Catalog.Proofs.SortText
import Catalog.Proofs.DefaultSort
import Catalog.Proofs.PageWords
import Catalog.Proofs.Occurrences
import Catalog.Proofs.Substitution
import Catalog.Proofs.TargetLevels
import Catalog.Proofs.EnvelopeText
import Catalog.Proofs.HomeDirectory
import Catalog.Proofs.QueryIndependence
import Catalog.Proofs.LinkRuns
import Catalog.Proofs.TypeTags
import Catalog.Proofs.LogFileLimit
import Catalog.Proofs.EncodedAgain
import Catalog.Proofs.ResolvedPaths
import Catalog.Proofs.InternetAddresses
import Catalog.Proofs.HostText
import Catalog.Proofs.AuthorityText
import Catalog.Proofs.AddressText
import Catalog.Proofs.StrippedAddress
