import CardTable.Main
import CardTable.Proofs.Game.Conservation
import CardTable.Proofs.Game.Dealing
import CardTable.Proofs.Game.Distribution
import CardTable.Proofs.Game.Drawing
import CardTable.Proofs.Game.Queue
import CardTable.Proofs.Room.Stages
import CardTable.Proofs.Session.Register
import CardTable.Proofs.Room.Lobby
import CardTable.Proofs.Room.Numbering
import CardTable.Proofs.Room.Lifecycle
import CardTable.Proofs.Server.Links
import CardTable.Proofs.Server.Milestones
import CardTable.Proofs.Server.Affairs
import CardTable.Proofs.Server.Validation
import CardTable.Proofs.Server.Seats
import CardTable.Proofs.Server.Rooms
import CardTable.Proofs.Game.Refusals
import CardTable.Proofs.Server.Service
import CardTable.Proofs.Server.Requests
import CardTable.Proofs.Server.Runs
import CardTable.Proofs.Server.Protocol
import CardTable.Proofs.Server.References
import CardTable.Proofs.Game.InPlace
import CardTable.Proofs.Game.Legality
import CardTable.Proofs.Server.Atomicity
import CardTable.Proofs.Client.Scene
import CardTable.Proofs.Client.Roster
import CardTable.Proofs.Client.Table
import CardTable.Proofs.Server.Scenes
import CardTable.Proofs.Server.Shown
import CardTable.Proofs.Server.Visits
import CardTable.Proofs.Server.Arrivals
import CardTable.Proofs.Game.Hands
import CardTable.Proofs.Server.Tables
import CardTable.Proofs.Server.Turns
import CardTable.Proofs.Server.Departures
import CardTable.Proofs.Server.Answers
import CardTable.Proofs.Session.Clocks
import CardTable.Proofs.Session.Indexes
import CardTable.Proofs.Server.Tracking
import CardTable.Proofs.Server.Sweeps
import CardTable.Proofs.Server.Record
import CardTable.Proofs.Server.Knowledge
import CardTable.Proofs.Wire.Segments
import CardTable.Proofs.Server.Books
import CardTable.Proofs.Server.Closings
import CardTable.Proofs.Game.Hidden
import CardTable.Proofs.Room.Veil
import CardTable.Proofs.Server.Veil
import CardTable.Proofs.Server.Veiled
import CardTable.Proofs.Server.VeiledRequests
import CardTable.Proofs.Server.Secrecy
import CardTable.Proofs.Server.Deliveries
import CardTable.Proofs.Game.Pending
import CardTable.Proofs.Wire.Layouts
import CardTable.Proofs.Wire.Grammar
import CardTable.Proofs.Wire.NoticeReader
import CardTable.Proofs.Wire.Notices
import CardTable.Proofs.Game.Ranking
import CardTable.Proofs.Game.Finishers
import CardTable.Proofs.Server.Verdicts
import CardTable.Proofs.Server.Logbooks
import CardTable.Proofs.Server.Rounds
import CardTable.Proofs.Server.Effects
import CardTable.Proofs.Server.Isolation
import CardTable.Proofs.Session.Silence
import CardTable.Proofs.Session.Naps
import CardTable.Proofs.Session.Chunks
import CardTable.Proofs.Server.Silence
import CardTable.Proofs.Server.Moments
import CardTable.Proofs.Server.Stays
import CardTable.Proofs.Server.Streams
import CardTable.Proofs.Server.Returning
import CardTable.Proofs.Server.Keeping
import CardTable.Proofs.Server.Carriers
