import Socks5d.ParseLoop
import Socks5d.Foundations.Transitions
import Socks5d.AuthParser
import Socks5d.ConnParser
import Socks5d.ReqParser
import Socks5d.Selector
import Socks5d.Pop3Sniffer
import Socks5d.Socks5
import Socks5d.ConnHandler
import Socks5d.Foundations.Pipe
import Socks5d.Foundations.Trace
import Socks5d.Relay
import Socks5d.RelayFlow
import Socks5d.RelayFifo
import Socks5d.Session
import Socks5d.SessionAuth
import Socks5d.Messages
import Socks5d.SessionInput
import Socks5d.Handshake
import Socks5d.Fallback
import Socks5d.Foundations.Holdings
import Socks5d.Server
import Socks5d.CpCommands
import Socks5d.ControlProtocol
import Socks5d.ControlAuth
import Socks5d.Foundations.Slots
import Socks5d.UserTable
import Socks5d.ControlSteps
import Socks5d.CommandTurns
import Socks5d.Foundations.Frames
import Socks5d.ServerMessages
import Socks5d.PendingWork
import Socks5d.ClientCommands
import Socks5d.CommandDecoding
import Socks5d.Foundations.Registry
import Socks5d.ConnList
import Socks5d.Deliveries
import Socks5d.Foundations.Feed
import Socks5d.Sniffing
import Socks5d.SelectPass
import Socks5d.Foundations.Peak
import Socks5d.SelectorTable
import Socks5d.Credentials
import Socks5d.Foundations.Lines
import Socks5d.Pop3Frame
import Socks5d.Pop3Reports
import Socks5d.Replies
import Socks5d.Pop3Lines
import Socks5d.ControlPath
import Socks5d.Daemon
import Socks5d.Foundations.Gauge
import Socks5d.Metering
import Socks5d.LogNames
import Socks5d.Foundations.Chain
import Socks5d.Foundations.Mailbox
import Socks5d.Notifications
import Socks5d.Entries
import Socks5d.Requests
import Socks5d.Drains
import Socks5d.Methods
import Socks5d.Foundations.Watch
import Socks5d.ParserStores
import Socks5d.AccessRecords
import Socks5d.EndOfStream
import Socks5d.AnswerSizes
import Socks5d.ClientListing
import Socks5d.BufferQueue
import Socks5d.TableGrowth
import Socks5d.Foundations.Lanes
import Socks5d.Isolation
import Socks5d.ReplyFraming
import Socks5d.HandshakeInput
import Socks5d.Conversation
import Socks5d.Foundations.Shares
import Socks5d.ByteCount
import Socks5d.Tunnels
import Socks5d.Args
import Socks5d.Boot
import Socks5d.CallForms
import Socks5d.AccessHistory
import Socks5d.ControlIsolation
import Socks5d.PassOrder
import Socks5d.StaleEvents
import Socks5d.HalfClose
import Socks5d.ForwardPath
import Socks5d.Descriptors
import Socks5d.AdminService
import Socks5d.AdminClient
