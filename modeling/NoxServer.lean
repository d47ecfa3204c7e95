import NoxServer.Crypt.NoxCrypt
import NoxServer.Library.Coalesce
import NoxServer.Shared.ByteBuffer
import NoxServer.Shared.WorldPacket
import NoxServer.Session.WorldSession
import NoxServer.Session.SendPacket
import NoxServer.Session.MapDownload
import NoxServer.Library.Runs
import NoxServer.Objects.ObjectMgr
import NoxServer.Session.Handlers
import NoxServer.Session.Update
import NoxServer.World.World
import NoxServer.World.WorldSocket
import NoxServer.World.SessionLookup
import NoxServer.Library.HostBinding
import NoxServer.World.ClientBinding
import NoxServer.World.AccountIds
import NoxServer.Library.Custody
import NoxServer.Objects.Inventory
import NoxServer.Objects.Ownership
import NoxServer.Library.Slots
import NoxServer.Objects.Equipment
import NoxServer.Library.Decode
import NoxServer.Shared.Streams
import NoxServer.Library.Transcript
import NoxServer.RemoteAdmin.RASocket
import NoxServer.RemoteAdmin.Authentication
import NoxServer.Awesie.WorldSession
import NoxServer.Awesie.WorldSocket
import NoxServer.Awesie.Updates
import NoxServer.Awesie.Steps
import NoxServer.Awesie.PlayerIds
import NoxServer.Awesie.Routing
import NoxServer.Objects.Health
import NoxServer.Library.Progress
import NoxServer.Objects.Casts
import NoxServer.Map.NoxMap
import NoxServer.Map.Loading
import NoxServer.Library.Throws
import NoxServer.Session.Thrown
import NoxServer.Session.Login
import NoxServer.Accessor.Dangling
import NoxServer.Session.Turns
import NoxServer.Accessor.Extents
import NoxServer.Library.Roster
import NoxServer.Accessor.Introductions
import NoxServer.Crypt.Bitwise
import NoxServer.Wol.WolSocket
import NoxServer.Crypt.Loaders
import NoxServer.Session.Dispatch
import NoxServer.Awesie.View
import NoxServer.Awesie.WorldLoop
import NoxServer.Awesie.SendBuffer
import NoxServer.Awesie.Iterations
import NoxServer.Awesie.Broadcasts
import NoxServer.Awesie.Possessions
import NoxServer.Objects.Registration
import NoxServer.Objects.ExtentMemory
import NoxServer.Objects.Unit
import NoxServer.Objects.Used
import NoxServer.Session.TextBuffers
import NoxServer.Objects.Enchants
import NoxServer.Objects.Poison
import NoxServer.Accessor.UpdateView
import NoxServer.Accessor.Notices
import NoxServer.Map.Strings
import NoxServer.Map.Walls
import NoxServer.Shared.Tools
import NoxServer.Library.LinkedList
import NoxServer.Things.MList
import NoxServer.Things.FastList
import NoxServer.Things.Lookup
import NoxServer.Things.Loader
import NoxServer.Things.Tiles
import NoxServer.Things.Sounds
import NoxServer.Modifiers.ModifierBin
import NoxServer.Modifiers.Parsing
import NoxServer.Objects.Abilities
import NoxServer.Session.NameTables
import NoxServer.World.Shutdown
import NoxServer.Session.Timeout
import NoxServer.Objects.Death
import NoxServer.Objects.Pickups
import NoxServer.Objects.Restoratives
import NoxServer.Library.Displays
import NoxServer.Objects.Outfit
import NoxServer.Objects.Shown
import NoxServer.Map.ObjectData
import NoxServer.Things.EnumNames
import NoxServer.Things.Objects
import NoxServer.Things.Attributes
import NoxServer.Things.ObjectRecords
import NoxServer.Objects.Auras
import NoxServer.Objects.Actions
import NoxServer.Library.WordBytes
import NoxServer.Objects.UpdateMask
import NoxServer.Wol.Password
import NoxServer.Library.Backlog
import NoxServer.World.Heartbeat
import NoxServer.Accessor.Sounds
import NoxServer.RemoteAdmin.CliRunnable
import NoxServer.Awesie.Walls
import NoxServer.Library.Faults
import NoxServer.Awesie.Equipment
import NoxServer.Awesie.Extents
import NoxServer.Library.DoubledRing
import NoxServer.Library.Lines
import NoxServer.Network.CircularBuffer
import NoxServer.Network.TcpSocket
import NoxServer.Network.LineProtocol
import NoxServer.Wol.Pings
import NoxServer.Things.WallRecords
import NoxServer.Things.ImageRecords
import NoxServer.Things.Thingdb
import NoxServer.Map.MapFile
import NoxServer.Map.MapTurns
import NoxServer.Library.Outcomes
import NoxServer.Network.HandlerRuns
import NoxServer.Objects.Cooldowns
