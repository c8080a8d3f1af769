import Dashkoda.Access.RateLimit
import Dashkoda.Audit.Redaction
import Dashkoda.Core.Client
import Dashkoda.Core.FeedAttribution
import Dashkoda.Core.FeedSync
import Dashkoda.Core.Formatting
import Dashkoda.Core.JsonValue
import Dashkoda.Core.PublicFeed
import Dashkoda.Core.PublicHttp
import Dashkoda.Core.QueryState
import Dashkoda.Core.StructuredData
import Dashkoda.Core.TextFolding
import Dashkoda.Core.Transport
import Dashkoda.Core.WorkbookCells
import Dashkoda.Core.WorkbookFeed
import Dashkoda.Dashboard.ExecutiveSignals
import Dashkoda.Dashboard.Sparkline
import Dashkoda.EventProgramme.Attention
import Dashkoda.EventProgramme.Commerce
import Dashkoda.EventProgramme.EventMatching
import Dashkoda.EventProgramme.EventNormalisation
import Dashkoda.Feeds.ArchiveHydration
import Dashkoda.Feeds.ArchivedTopicSync
import Dashkoda.Feeds.Contents
import Dashkoda.Feeds.History
import Dashkoda.LegalWork.Analytics
import Dashkoda.LegalWork.CurrentTopics
import Dashkoda.LegalWork.Models
import Dashkoda.LegalWork.OpinionCatalogueBuild
import Dashkoda.LegalWork.OpinionCatalogueFinishes
import Dashkoda.LegalWork.OpinionCatalogueProgress
import Dashkoda.LegalWork.OpinionCatalogueRuns
import Dashkoda.LegalWork.OpinionCatalogueSync
import Dashkoda.LegalWork.OpinionClaims
import Dashkoda.LegalWork.OpinionDecision
import Dashkoda.LegalWork.OpinionFeeds
import Dashkoda.LegalWork.OpinionInbox
import Dashkoda.LegalWork.OpinionMatching
import Dashkoda.LegalWork.OpinionModels
import Dashkoda.LegalWork.OpinionPdf
import Dashkoda.LegalWork.OpinionProvenance
import Dashkoda.LegalWork.OpinionRepublication
import Dashkoda.LegalWork.OpinionSources
import Dashkoda.LegalWork.OpinionStorage
import Dashkoda.LegalWork.PublicOpinionCollect
import Dashkoda.LegalWork.PublicOpinionCorpus
import Dashkoda.LegalWork.PublicOpinionSync
import Dashkoda.LegalWork.Register
import Dashkoda.LegalWork.TextNormalisation
import Dashkoda.LegalWork.TopicDecision
import Dashkoda.LegalWork.TopicMatchSync
import Dashkoda.LegalWork.TopicMatching
import Dashkoda.LegalWork.TopicScores
import Dashkoda.LegalWork.Workbook
import Dashkoda.Lib.Backlog
import Dashkoda.Lib.Calendar
import Dashkoda.Lib.CarryForward
import Dashkoda.Lib.Column
import Dashkoda.Lib.Contention
import Dashkoda.Lib.Contract
import Dashkoda.Lib.Counting
import Dashkoda.Lib.CrashProg
import Dashkoda.Lib.Csv
import Dashkoda.Lib.Currency
import Dashkoda.Lib.Days
import Dashkoda.Lib.Decimal
import Dashkoda.Lib.DecimalText
import Dashkoda.Lib.Dict
import Dashkoda.Lib.Except
import Dashkoda.Lib.Firsts
import Dashkoda.Lib.Grouping
import Dashkoda.Lib.IsoDate
import Dashkoda.Lib.IsoText
import Dashkoda.Lib.Json
import Dashkoda.Lib.JsonCanonical
import Dashkoda.Lib.JsonText
import Dashkoda.Lib.Lineage
import Dashkoda.Lib.Listings
import Dashkoda.Lib.MergeByKey
import Dashkoda.Lib.NullableSums
import Dashkoda.Lib.Ordinal
import Dashkoda.Lib.Outbound
import Dashkoda.Lib.Paging
import Dashkoda.Lib.Proc
import Dashkoda.Lib.PyInt
import Dashkoda.Lib.PyText
import Dashkoda.Lib.QueryString
import Dashkoda.Lib.Quota
import Dashkoda.Lib.Ranking
import Dashkoda.Lib.Rounding
import Dashkoda.Lib.Runs
import Dashkoda.Lib.SetOrder
import Dashkoda.Lib.SignedDecimal
import Dashkoda.Lib.Similarity
import Dashkoda.Lib.Spreadsheet
import Dashkoda.Lib.Strips
import Dashkoda.Lib.Succession
import Dashkoda.Lib.Table
import Dashkoda.Lib.Tally
import Dashkoda.Lib.Transaction
import Dashkoda.Lib.UrlSplit
import Dashkoda.Lib.Worklist
import Dashkoda.Lib.Zone
import Dashkoda.Membership.Analytics
import Dashkoda.Membership.Comparisons
import Dashkoda.Membership.Directory
import Dashkoda.Membership.DirectoryCollector
import Dashkoda.Membership.DirectoryHistory
import Dashkoda.Membership.DirectoryRegister
import Dashkoda.Membership.FeeChart
import Dashkoda.Membership.Intelligence
import Dashkoda.Membership.InternalSelectors
import Dashkoda.Membership.Manual
import Dashkoda.Membership.ManualIdentity
import Dashkoda.Membership.MemberRegister
import Dashkoda.Membership.Models
import Dashkoda.Membership.Preference
import Dashkoda.Membership.Publishing
import Dashkoda.Membership.Quality
import Dashkoda.Membership.Ranges
import Dashkoda.Membership.RegisterReading
import Dashkoda.Membership.Resubmission
import Dashkoda.Membership.RosterImport
import Dashkoda.Membership.SourceComparison
import Dashkoda.News.Analytics
import Dashkoda.News.Archive
import Dashkoda.News.Catalogue
import Dashkoda.News.Discovery
import Dashkoda.News.Models
import Dashkoda.News.Periods
import Dashkoda.Shop.Checksum
import Dashkoda.Shop.History
import Dashkoda.Shop.Importing
import Dashkoda.Shop.Models
import Dashkoda.Shop.PackageArchive
import Dashkoda.Shop.PackageBoundary
import Dashkoda.Shop.PackageCells
import Dashkoda.Shop.PackageContract
import Dashkoda.Shop.PackageTables
import Dashkoda.Shop.Periods
import Dashkoda.Shop.ProductPages
import Dashkoda.Shop.Selectors
import Dashkoda.Shop.Writers
import Dashkoda.Sources.ImportRun
import Dashkoda.Sources.PublicDownload
import Dashkoda.Sources.Publication
import Dashkoda.Sources.Registry
import Dashkoda.Sources.Retention
import Dashkoda.Visibility.ArticleViews
import Dashkoda.Visibility.CampaignStats
import Dashkoda.Visibility.CampaignSync
import Dashkoda.Visibility.Campaigns
import Dashkoda.Visibility.DailyFeed
import Dashkoda.Visibility.Ga4Collect
import Dashkoda.Visibility.Ga4CollectedDays
import Dashkoda.Visibility.Ga4Convergence
import Dashkoda.Visibility.Ga4Days
import Dashkoda.Visibility.Ga4History
import Dashkoda.Visibility.Ga4Paths
import Dashkoda.Visibility.Ga4Publishable
import Dashkoda.Visibility.Ga4Sync
import Dashkoda.Visibility.Manual
import Dashkoda.Visibility.Models
import Dashkoda.Visibility.Publishing
import Dashkoda.Visibility.Revisions
import Dashkoda.Visibility.SmailyHistory
import Dashkoda.Visibility.SmailyReadings
import Dashkoda.Visibility.SmailySegments
import Dashkoda.Visibility.SmailySync
import Dashkoda.Visibility.TopPages
import Dashkoda.Visibility.WebsiteAnalytics
import Dashkoda.Visibility.WebsiteMovement
import Dashkoda.Visibility.WebsitePeriods
