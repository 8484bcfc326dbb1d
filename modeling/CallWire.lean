import CallWire.Argument.Basic
import CallWire.Argument.Duration
import CallWire.Argument.Identifier
import CallWire.Bytes
import CallWire.Bytes.Hex
import CallWire.Channel.Basic
import CallWire.Channel.Connection
import CallWire.Channel.Error
import CallWire.Channel.Room
import CallWire.Channel.Session
import CallWire.Cli.Display
import CallWire.Cli.Exchange
import CallWire.Cli.Failure
import CallWire.Cli.Inspect
import CallWire.Cli.Level
import CallWire.Cli.Options
import CallWire.Cli.Program
import CallWire.Cli.Summary
import CallWire.Decimal.Binary
import CallWire.Decimal.Integer
import CallWire.Decimal.Numeral
import CallWire.Decimal.Shortest
import CallWire.Decimal.Style
import CallWire.Frame.Basic
import CallWire.Frame.Reader
import CallWire.Frame.Writer
import CallWire.Io.Errno
import CallWire.Io.Error
import CallWire.Io.Sink
import CallWire.Io.Source
import CallWire.Main
import CallWire.Message.Basic
import CallWire.Message.Build
import CallWire.Message.Error
import CallWire.Message.Lemmas
import CallWire.Message.Memory
import CallWire.Message.Slot
import CallWire.Scenario.Basic
import CallWire.Scenario.Handler
import CallWire.Scenario.Step
import CallWire.Scenario.Trial
import CallWire.Socket.Endpoint
import CallWire.Socket.Error
import CallWire.Socket.Files
import CallWire.Socket.Host
import CallWire.Socket.Link
import CallWire.Socket.Listener
import CallWire.Text.Blank
import CallWire.Text.Columns
import CallWire.Text.Digits
import CallWire.Text.Emoji
import CallWire.Text.Follower
import CallWire.Text.Json
import CallWire.Text.Mark
import CallWire.Text.Quote
import CallWire.Text.Ranges
import CallWire.Text.Unprintable
import CallWire.Text.Wide
import CallWire.Wire.Cursor
import CallWire.Wire.Decoding
import CallWire.Wire.Encoding
import CallWire.Wire.Entries
import CallWire.Wire.Error
import CallWire.Wire.Kind
import CallWire.Wire.Walk
import CallWire.Wire.Writer
import CallWire.Proofs.ContainerEntries
import CallWire.Proofs.WireGrammar
import CallWire.Proofs.WireEncoding
import CallWire.Proofs.WireRoundTrip
import CallWire.Proofs.MergedEntries
import CallWire.Proofs.ValueMeaning
import CallWire.Proofs.SpelledValues
import CallWire.Proofs.WireSoundness
import CallWire.Proofs.WireAcceptance
import CallWire.Proofs.WireReencoding
import CallWire.Proofs.WireTruncation
import CallWire.Proofs.FrameDecoding
import CallWire.Proofs.MessageForms
import CallWire.Proofs.ReaderStream
import CallWire.Proofs.ReaderConservation
import CallWire.Proofs.MessageStream
import CallWire.Proofs.MessageDecoding
import CallWire.Proofs.LinkTraffic
import CallWire.Proofs.RequestService
import CallWire.Proofs.ServedConnection
import CallWire.Proofs.SessionEncounter
import CallWire.Proofs.SessionSteps
import CallWire.Proofs.AcceptLoop
import CallWire.Proofs.FrameSending
import CallWire.Proofs.InboxGains
import CallWire.Proofs.ChannelOutput
import CallWire.Proofs.SessionOutput
import CallWire.Proofs.OutgoingStream
import CallWire.Proofs.MessageLayout
import CallWire.Proofs.FrameTransfer
import CallWire.Proofs.ChannelAttempts
import CallWire.Proofs.ChannelFailure
import CallWire.Proofs.QueuedMessages
import CallWire.Proofs.ServedQueue
import CallWire.Proofs.WaitingWrites
import CallWire.Proofs.ClientExchange
import CallWire.Proofs.ExchangeProgress
import CallWire.Proofs.ContainerLayout
import CallWire.Proofs.RememberedRequests
import CallWire.Proofs.RequestArguments
import CallWire.Proofs.ShutdownDispatch
import CallWire.Proofs.ClosedChannel
import CallWire.Proofs.RegisteredStream
import CallWire.Proofs.BetweenOperations
import CallWire.Proofs.IncomingFrames
import CallWire.Proofs.ReceivedFrames
import CallWire.Proofs.FilePlaces
import CallWire.Proofs.ListenerPaths
import CallWire.Proofs.PathOwnership
import CallWire.Proofs.PathTenure
import CallWire.Proofs.ListeningPath
import CallWire.Proofs.AttendedPeer
import CallWire.Proofs.EchoService
import CallWire.Proofs.ServerSteps
import CallWire.Proofs.ServerTurnover
import CallWire.Proofs.PeerMoves
import CallWire.Proofs.Reception
import CallWire.Proofs.ReceptionSteps
import CallWire.Proofs.ReceptionProgress
import CallWire.Proofs.SessionIsolation
import CallWire.Proofs.EchoedArguments
import CallWire.Proofs.BegunCall
import CallWire.Proofs.EchoedCall
import CallWire.Proofs.ShutConnection
import CallWire.Proofs.StoppedChannel
import CallWire.Proofs.AlikeHosts
import CallWire.Proofs.UntouchedChannels
import CallWire.Proofs.UntouchedSessions
import CallWire.Proofs.HandleReach
import CallWire.Proofs.BufferedValues
import CallWire.Proofs.BufferMemory
import CallWire.Proofs.ArgumentFaults
import CallWire.Proofs.FrameWriting
import CallWire.Proofs.ListenerPlace
import CallWire.Proofs.ShutdownWaking
import CallWire.Proofs.ReaderCalls
import CallWire.Proofs.BufferBound
import CallWire.Proofs.RefusedLength
import CallWire.Proofs.HexText
import CallWire.Proofs.ReportedFields
import CallWire.Proofs.InspectedMessage
import CallWire.Proofs.NumberText
import CallWire.Proofs.ArgumentText
import CallWire.Proofs.NumberAcceptance
import CallWire.Proofs.FrameDecision
import CallWire.Proofs.WriterPrograms
import CallWire.Proofs.BrokenValues
import CallWire.Proofs.ReadingWalks
