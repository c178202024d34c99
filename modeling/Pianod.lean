import Pianod.Waitress.Requests
import Pianod.Foundation.Base64
import Pianod.Waitress.Urls
import Pianod.Foundation.Piecewise
import Pianod.Server.SongDownload
import Pianod.Server.StreamService
import Pianod.Server.ThreadQueue
import Pianod.Foundation.ChunkedCoding
import Pianod.Foundation.BigEndian
import Pianod.Foundation.FallibleRun
import Pianod.Foundation.FirstMatch
import Pianod.Foundation.Search
import Pianod.Foundation.Text
import Pianod.Foundation.Buffer
import Pianod.Foundation.PercentEncoding
import Pianod.Server.StationRatings
import Pianod.Server.Stations
import Pianod.Server.LamerCipher
import Pianod.Server.Users
import Pianod.Server.Tuner
import Pianod.Server.TunerPromise
import Pianod.Server.TunerCoherence
import Pianod.Server.DisregardedUsers
import Pianod.Server.UserFile
import Pianod.Server.UserCommands
import Pianod.Server.Credentials
import Pianod.Server.UserRestore
import Pianod.Server.UserPointers
import Pianod.Server.RatingArrays
import Pianod.Foundation.BufferedFile
import Pianod.Server.UsersPersist
import Pianod.Server.Responses
import Pianod.Server.Application
import Pianod.Server.StationCommands
import Pianod.Server.FailedStationCommands
import Pianod.Server.SongCommands
import Pianod.Server.PlaybackCommands
import Pianod.Server.Commands
import Pianod.Server.LowPrivilege
import Pianod.Server.Verdicts
import Pianod.Server.PlaybackVerdicts
import Pianod.Server.OneVerdict
import Pianod.Server.UserRecords
import Pianod.Server.Bookkeeping
import Pianod.Server.HandlerEffects
import Pianod.Server.SongsKept
import Pianod.Server.CommandEffects
import Pianod.Server.LoopSongs
import Pianod.Server.LoopSections
import Pianod.Server.PauseCoherence
import Pianod.Server.Waiting
import Pianod.Server.PolledLoop
import Pianod.Server.Enduring
import Pianod.Server.AutotuneList
import Pianod.Foundation.ReferenceCount
import Pianod.Football.Message
import Pianod.Football.MessageBlocks
import Pianod.Foundation.HttpStream
import Pianod.Foundation.LinkedList
import Pianod.Football.HttpAnswers
import Pianod.Football.HttpSession
import Pianod.Football.SharedMessages
import Pianod.Football.BlockCounts
import Pianod.Football.Connection
import Pianod.Football.WebSocketEncode
import Pianod.Foundation.WebSocketFrame
import Pianod.Football.Argv
import Pianod.Football.ArgvBuffer
import Pianod.Football.ArgvArray
import Pianod.Football.Quoting
import Pianod.Football.Input
import Pianod.Football.WebSocketDecode
import Pianod.Football.LineInput
import Pianod.Football.UrlDecode
import Pianod.Football.HttpRequest
import Pianod.Football.RequestPaths
import Pianod.Football.FileServing
import Pianod.Football.EventLoop
import Pianod.Football.HeaderFields
import Pianod.Football.Closing
import Pianod.Football.NoReturn
import Pianod.Football.LineOutput
import Pianod.Football.WebSocketOutput
import Pianod.Football.WholeFrames
import Pianod.Foundation.DecimalNumber
import Pianod.Football.FillIn
import Pianod.Football.NumberBlanks
import Pianod.Foundation.ViablePrefix
import Pianod.Football.Parser
import Pianod.Football.ParseTrees
import Pianod.Football.ParseErrors
import Pianod.Football.Grammar
import Pianod.Football.Recognition
import Pianod.Football.WholeNumbers
import Pianod.Football.FixedPatterns
import Pianod.Server.CommandTable
import Pianod.Server.CommandGrammar
import Pianod.Server.OwnerRequests
import Pianod.Server.OwnerDispatch
import Pianod.Football.SocketRegistry
import Pianod.Football.ServiceMembers
import Pianod.Football.SocketManager
import Pianod.Football.Wakeups
import Pianod.Football.Shutdown
import Pianod.Football.EventOrder
import Pianod.Server.CipherChecksum
import Pianod.Server.AacPlayer
import Pianod.Server.SongFile
import Pianod.Server.SongHeader
import Pianod.Server.SongFrames
import Pianod.Server.BufferPool
import Pianod.Server.ArtistNames
import Pianod.Server.SkipLimiter
import Pianod.Server.PandoraCalls
import Pianod.Server.RequestCipher
import Pianod.Server.StationRefresh
import Pianod.Server.UserNames
import Pianod.Football.Acceptance
import Pianod.Server.NumericSettings
import Pianod.Foundation.XmlDocument
import Pianod.Server.AttributeValues
import Pianod.Server.UserDocument
import Pianod.Server.UserRoundTrip
import Pianod.Foundation.Hexadecimal
import Pianod.Server.TlsFingerprint
import Pianod.Server.PurgedSongs
import Pianod.Server.SongIndexes
import Pianod.Foundation.MachineInt
import Pianod.Football.Sha1
import Pianod.Football.Greeting
import Pianod.Foundation.StringBlock
import Pianod.Server.CaptureFile
