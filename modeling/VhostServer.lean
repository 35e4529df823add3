import VhostServer.Wire
import VhostServer.Device
import VhostServer.GuestMemory
import VhostServer.Vring
import VhostServer.Handlers
import VhostServer.Connection
import VhostServer.Frame
import VhostServer.System
import VhostServer.Enable
import VhostServer.Lifecycle
import VhostServer.Requests
import VhostServer.Descriptors
import VhostServer.MemoryTable
import VhostServer.StopRace
import VhostServer.Translation
import VhostServer.Kicks
import VhostServer.Teardown
import VhostServer.Features
import VhostServer.Inflight
import VhostServer.Socket
import VhostServer.Replies
import VhostServer.InflightFrame
