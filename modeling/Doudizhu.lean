import Doudizhu.Lib.ExceptLoop
import Doudizhu.Lib.Steps
import Doudizhu.Lib.UnorderedMap
import Doudizhu.Lib.Tally
import Doudizhu.Lib.Outbox
import Doudizhu.Lib.Agenda
import Doudizhu.Game.Deck
import Doudizhu.Game.CardRules
import Doudizhu.Game.CardGrammar
import Doudizhu.Game.GameRound
import Doudizhu.Game.RoundMoves
import Doudizhu.Game.RoundInvariant
import Doudizhu.Game.Conservation
import Doudizhu.Game.RoundProgress
import Doudizhu.Gateway.RoomManager
import Doudizhu.Gateway.RoomInvariant
import Doudizhu.Gateway.RoomMoves
import Doudizhu.Gateway.RoomRuns
import Doudizhu.Gateway.Settlement
import Doudizhu.Backend.Ledger
import Doudizhu.Backend.Deployment
import Doudizhu.Gateway.PlayerNotifier
import Doudizhu.Gateway.Protocol
import Doudizhu.Gateway.Session
import Doudizhu.Gateway.RoomPlayers
import Doudizhu.Gateway.SessionMoves
import Doudizhu.Gateway.SessionRuns
import Doudizhu.Gateway.StepCases
import Doudizhu.Gateway.Displacement
import Doudizhu.Gateway.Agreement
import Doudizhu.Gateway.WireFormat
import Doudizhu.Gateway.RoomStates
import Doudizhu.Backend.Coins
import Doudizhu.Backend.Database
import Doudizhu.Backend.Digest
import Doudizhu.Backend.Balances
import Doudizhu.Backend.SettlementSums
import Doudizhu.Backend.ConcurrentSettlements
import Doudizhu.Game.LegalPlays
import Doudizhu.Game.Tricks
import Doudizhu.Game.Abandoned
import Doudizhu.Game.Readings
import Doudizhu.Gateway.Refusals
import Doudizhu.Gateway.ExpiryOrder
import Doudizhu.Gateway.Isolation
import Doudizhu.Gateway.Deadlines
import Doudizhu.Gateway.OfflineMarks
import Doudizhu.Gateway.PlayClocks
import Doudizhu.Gateway.Durations
import Doudizhu.Gateway.Framing
import Doudizhu.Gateway.SessionReading
import Doudizhu.Gateway.RoomStateCodec
import Doudizhu.Backend.Presence
import Doudizhu.Backend.OnlineFlag
import Doudizhu.Lib.Script
import Doudizhu.Web.Browser
import Doudizhu.Web.FieldLoops
import Doudizhu.Web.HandView
import Doudizhu.Web.CardScan
import Doudizhu.Web.SettlementView
import Doudizhu.Web.TurnView
import Doudizhu.Gateway.Flows
import Doudizhu.Gateway.Outboxes
import Doudizhu.Gateway.Answers
import Doudizhu.Gateway.Handshakes
import Doudizhu.Gateway.Agendas
import Doudizhu.Gateway.Progress
import Doudizhu.Gateway.Reconnects
import Doudizhu.Web.Connection
import Doudizhu.Web.Reconnection
import Doudizhu.Game.Combinations
import Doudizhu.Game.Rules
import Doudizhu.Lib.Simulation
import Doudizhu.Game.Refinement
import Doudizhu.Lib.Chronicle
import Doudizhu.Gateway.Announcements
import Doudizhu.Gateway.Broadcasts
import Doudizhu.Gateway.Tables
import Doudizhu.Lib.Freshness
import Doudizhu.Gateway.TableViews
import Doudizhu.Gateway.PacketSizes
import Doudizhu.Gateway.RateLimits
import Doudizhu.Lib.Proto3Reading
import Doudizhu.Web.Requests
import Doudizhu.Web.MessageView
import Doudizhu.Gateway.Deliveries
import Doudizhu.Web.Delivery
