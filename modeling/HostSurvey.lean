import HostSurvey.Control.Pool
import HostSurvey.Control.Timetable
import HostSurvey.Dns.Frame
import HostSurvey.Dns.International
import HostSurvey.Dns.Library
import HostSurvey.Dns.Message
import HostSurvey.Dns.Name
import HostSurvey.Dns.Query
import HostSurvey.Dns.Reader
import HostSurvey.Dns.Record
import HostSurvey.Error
import HostSurvey.Generate.Generator
import HostSurvey.Lookup.Directory
import HostSurvey.Lookup.Servers
import HostSurvey.Main
import HostSurvey.Net.Address
import HostSurvey.Net.Network
import HostSurvey.Net.Stream
import HostSurvey.Pattern.CharSet
import HostSurvey.Pattern.Parser
import HostSurvey.Pattern.Regex
import HostSurvey.Probe.Ber
import HostSurvey.Probe.Finger
import HostSurvey.Probe.Peer
import HostSurvey.Probe.Plain
import HostSurvey.Probe.Prober
import HostSurvey.Probe.Snmp
import HostSurvey.Probe.Telnet
import HostSurvey.Probe.Version
import HostSurvey.Probe.Web
import HostSurvey.Proofs.Control.Accounting
import HostSurvey.Proofs.Control.Deeds
import HostSurvey.Proofs.Control.Holdings
import HostSurvey.Proofs.Control.Items
import HostSurvey.Proofs.Scan.AtMostOnce
import HostSurvey.Proofs.Scan.Effects
import HostSurvey.Proofs.Screen.Verdict
import HostSurvey.Proofs.Survey.Acquisition
import HostSurvey.Proofs.Survey.Course
import HostSurvey.Proofs.Survey.Storage
import HostSurvey.Proofs.Survey.Terms
import HostSurvey.Proofs.Transfer.Conduct
import HostSurvey.Scan.Ports
import HostSurvey.Scan.Rounds
import HostSurvey.Scan.Scanner
import HostSurvey.Screen.Names
import HostSurvey.Screen.Networks
import HostSurvey.Screen.RuleList
import HostSurvey.Screen.Tests
import HostSurvey.Settings.CommandLine
import HostSurvey.Settings.Config
import HostSurvey.Settings.Options
import HostSurvey.Survey.Activity
import HostSurvey.Survey.Crew
import HostSurvey.Survey.Document
import HostSurvey.Survey.Host
import HostSurvey.Survey.Report
import HostSurvey.Survey.Run
import HostSurvey.Survey.Seeds
import HostSurvey.Survey.Store
import HostSurvey.Survey.Tables
import HostSurvey.Survey.World
import HostSurvey.Text.Base64
import HostSurvey.Text.CaseFold
import HostSurvey.Text.Elapsed
import HostSurvey.Text.Line
import HostSurvey.Text.Moment
import HostSurvey.Text.Numeral
import HostSurvey.Text.Property
import HostSurvey.Text.Punycode
import HostSurvey.Text.Quoted
import HostSurvey.Text.Script
import HostSurvey.Text.Utf8
import HostSurvey.Toml.Parser
import HostSurvey.Toml.Value
import HostSurvey.Transfer.Ingest
import HostSurvey.Transfer.Session
import HostSurvey.Transfer.Worker
import HostSurvey.Transfer.Zone
import HostSurvey.Proofs.Transfer.Stages
import HostSurvey.Proofs.Transfer.Lifecycle
import HostSurvey.Proofs.Scan.Marks
import HostSurvey.Proofs.Screen.Ranking
import HostSurvey.Proofs.Transfer.Attempt
import HostSurvey.Proofs.Transfer.Servers
import HostSurvey.Proofs.Probe.Tokens
import HostSurvey.Proofs.Probe.Cuts
import HostSurvey.Proofs.Probe.Elements
import HostSurvey.Proofs.Probe.Device
import HostSurvey.Proofs.Transfer.Ingestion
import HostSurvey.Proofs.Survey.Consistency
import HostSurvey.Proofs.Generate.Lookups
import HostSurvey.Proofs.Control.Moves
import HostSurvey.Proofs.Control.Shutdown
import HostSurvey.Proofs.Control.Restart
import HostSurvey.Proofs.Dns.Framing
import HostSurvey.Proofs.Control.Leftovers
import HostSurvey.Proofs.Transfer.Spellings
import HostSurvey.Proofs.Transfer.Traces
import HostSurvey.Proofs.Screen.Order
import HostSurvey.Proofs.Survey.Records
import HostSurvey.Proofs.Survey.Hosts
import HostSurvey.Proofs.Survey.Seeding
import HostSurvey.Proofs.Survey.Forwarding
import HostSurvey.Proofs.Scan.Choice
import HostSurvey.Proofs.Scan.Planning
import HostSurvey.Proofs.Probe.Escapes
import HostSurvey.Proofs.Probe.Exchange
import HostSurvey.Proofs.Text.Decoding
import HostSurvey.Proofs.Probe.Banners
import HostSurvey.Proofs.Probe.Greetings
import HostSurvey.Proofs.Dns.Endings
import HostSurvey.Proofs.Dns.Labels
import HostSurvey.Proofs.Transfer.Zones
import HostSurvey.Proofs.Transfer.TraceNames
import HostSurvey.Proofs.Settings.Merging
import HostSurvey.Proofs.Settings.Sizes
import HostSurvey.Proofs.Probe.EmptyBanners
import HostSurvey.Proofs.Probe.Extents
import HostSurvey.Proofs.Probe.Integers
import HostSurvey.Proofs.Probe.Cursor
import HostSurvey.Proofs.Generate.Draws
