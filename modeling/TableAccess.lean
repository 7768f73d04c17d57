import TableAccess.AccessKey
import TableAccess.AppError
import TableAccess.Audit
import TableAccess.AuditReading
import TableAccess.Calendar.Date
import TableAccess.Calendar.DateText
import TableAccess.Calendar.Instant
import TableAccess.Calendar.InstantText
import TableAccess.Capability
import TableAccess.Collection.Ascending
import TableAccess.Collection.Shelf
import TableAccess.Database.Address
import TableAccess.Database.Answer
import TableAccess.Database.Command
import TableAccess.Database.Playback
import TableAccess.Database.Row
import TableAccess.Database.Server
import TableAccess.Database.Sql
import TableAccess.Database.Statement
import TableAccess.Decimal.Shortest
import TableAccess.Dialogue
import TableAccess.Gate
import TableAccess.Grant
import TableAccess.GrantAdministration
import TableAccess.Http.Endpoint
import TableAccess.Http.Guard
import TableAccess.Http.MediaType
import TableAccess.Http.Message
import TableAccess.Http.Parameter
import TableAccess.Http.Payload
import TableAccess.Http.Route
import TableAccess.Http.Router
import TableAccess.Http.View
import TableAccess.Id
import TableAccess.Journal
import TableAccess.Json.Cursor
import TableAccess.Json.Fault
import TableAccess.Json.Forms
import TableAccess.Json.Layout
import TableAccess.Json.Reader
import TableAccess.Json.Scalar
import TableAccess.Json.Value
import TableAccess.KeyAdministration
import TableAccess.Logging.Filter
import TableAccess.Logging.Level
import TableAccess.Logging.Line
import TableAccess.Logging.Pattern
import TableAccess.Logging.Pattern.Bracket
import TableAccess.Logging.Pattern.Part
import TableAccess.Main
import TableAccess.Network.DomainName
import TableAccess.Network.Host
import TableAccess.Network.IpAddress
import TableAccess.Network.Url
import TableAccess.Paging
import TableAccess.Port
import TableAccess.Principal
import TableAccess.Proofs.AcceptedKeys
import TableAccess.Proofs.Acts
import TableAccess.Proofs.AdministratorsOnly
import TableAccess.Proofs.AtOnce
import TableAccess.Proofs.Atomicity
import TableAccess.Proofs.AuditListing
import TableAccess.Proofs.AuditTrail
import TableAccess.Proofs.CalendarDays
import TableAccess.Proofs.CallsMade
import TableAccess.Proofs.Clearance
import TableAccess.Proofs.Columns
import TableAccess.Proofs.Commitment
import TableAccess.Proofs.Conservation
import TableAccess.Proofs.DatabaseCalls
import TableAccess.Proofs.DateForms
import TableAccess.Proofs.DatesSentBack
import TableAccess.Proofs.DayByDay
import TableAccess.Proofs.DefaultExpiry
import TableAccess.Proofs.Degradation
import TableAccess.Proofs.Dialogues
import TableAccess.Proofs.DomainForms
import TableAccess.Proofs.DrawnKeys
import TableAccess.Proofs.EffectiveCapabilities
import TableAccess.Proofs.FailClosed
import TableAccess.Proofs.FailedChanges
import TableAccess.Proofs.Faults
import TableAccess.Proofs.FieldReadings
import TableAccess.Proofs.FirstById
import TableAccess.Proofs.GrantAcceptance
import TableAccess.Proofs.GrantAssembly
import TableAccess.Proofs.GrantCalls
import TableAccess.Proofs.GrantCreation
import TableAccess.Proofs.GrantDrafts
import TableAccess.Proofs.GrantHistory
import TableAccess.Proofs.GrantListing
import TableAccess.Proofs.GrantStages
import TableAccess.Proofs.GrantWindow
import TableAccess.Proofs.HeldKeys
import TableAccess.Proofs.Identities
import TableAccess.Proofs.Interleaving
import TableAccess.Proofs.Isolation
import TableAccess.Proofs.IssuedKeys
import TableAccess.Proofs.Journaling
import TableAccess.Proofs.KeptChanges
import TableAccess.Proofs.KeyCandidates
import TableAccess.Proofs.KeyDisclosure
import TableAccess.Proofs.KeyEvents
import TableAccess.Proofs.KeyListings
import TableAccess.Proofs.KeyRotation
import TableAccess.Proofs.KeyStore
import TableAccess.Proofs.Linearizability
import TableAccess.Proofs.LogBlindness
import TableAccess.Proofs.MaskedKeys
import TableAccess.Proofs.Mediation
import TableAccess.Proofs.NewGrants
import TableAccess.Proofs.NumeralTexts
import TableAccess.Proofs.Numerals
import TableAccess.Proofs.Operations
import TableAccess.Proofs.Pages
import TableAccess.Proofs.PagingDepth
import TableAccess.Proofs.PassedOver
import TableAccess.Proofs.QuietWorld
import TableAccess.Proofs.Reached
import TableAccess.Proofs.ReadValues
import TableAccess.Proofs.Reading
import TableAccess.Proofs.ReceivedKeys
import TableAccess.Proofs.RecordReadings
import TableAccess.Proofs.Rejections
import TableAccess.Proofs.RequestBodies
import TableAccess.Proofs.Requests
import TableAccess.Proofs.Routes
import TableAccess.Proofs.Serving
import TableAccess.Proofs.Shelves
import TableAccess.Proofs.ShownTokens
import TableAccess.Proofs.StoredGrants
import TableAccess.Proofs.Sweeping
import TableAccess.Proofs.TextBytes
import TableAccess.Proofs.Transcripts
import TableAccess.Proofs.TwoReaders
import TableAccess.Proofs.UsableSettings
import TableAccess.Proofs.WrittenDates
import TableAccess.Proofs.WrittenValues
import TableAccess.ProviderProfile
import TableAccess.Schema.Migration
import TableAccess.Schema.Script
import TableAccess.Service
import TableAccess.Startup.EnvFile
import TableAccess.Startup.Environment
import TableAccess.Startup.Launch
import TableAccess.Startup.Settings
import TableAccess.Store
import TableAccess.Text.Alphanumeric
import TableAccess.Text.Blank
import TableAccess.Text.CodePoints
import TableAccess.Text.Numeral
import TableAccess.Text.Percent
import TableAccess.Text.Punycode
import TableAccess.Text.Quoted
import TableAccess.Text.Utf8
import TableAccess.Text.Visibility
import TableAccess.World
