import WallaBMC.Library.Runs
import WallaBMC.Library.LossyLog
import WallaBMC.Library.Ring
import WallaBMC.Console.Log
import WallaBMC.Console.Read
import WallaBMC.Console.Receiver
import WallaBMC.Console.Alignment
import WallaBMC.Console.Fidelity
import WallaBMC.Console.CursorSafety
import WallaBMC.Console.Refinement
import WallaBMC.Console.ReceiverMemory
import WallaBMC.Console.Chunks
import WallaBMC.Redfish.Handler
import WallaBMC.Redfish.BufferRefinement
import WallaBMC.Redfish.Ownership
import WallaBMC.Redfish.Requests
import WallaBMC.Redfish.Accumulation
import WallaBMC.Redfish.Resources
import WallaBMC.Redfish.Bodies
import WallaBMC.Redfish.HeapBound
import WallaBMC.Redfish.Noninterference
import WallaBMC.Config.Net
import WallaBMC.Library.Bytes
import WallaBMC.Config.Data
import WallaBMC.Config.Setters
import WallaBMC.Config.Init
import WallaBMC.Config.Loading
import WallaBMC.Config.Runs
import WallaBMC.Config.Reboot
import WallaBMC.Config.Flags
import WallaBMC.Config.Upgrade
import WallaBMC.Settings.Patch
import WallaBMC.Settings.Done
import WallaBMC.Settings.Stepwise
import WallaBMC.Library.Base64
import WallaBMC.Library.Text
import WallaBMC.Web.Password
import WallaBMC.Bridge.Sender
import WallaBMC.Bridge.Telnet
import WallaBMC.Bridge.Websocket
import WallaBMC.Bridge.World
import WallaBMC.Bridge.Wakeups
import WallaBMC.Bridge.Ending
import WallaBMC.Bridge.History
import WallaBMC.Bridge.Delivery
import WallaBMC.Power.Gpios
import WallaBMC.Library.Gregorian
import WallaBMC.Library.Scan
import WallaBMC.Library.Numerals
import WallaBMC.Time.Iso
import WallaBMC.Time.Timestamps
import WallaBMC.Time.Clocks
import WallaBMC.Web.Credentials
import WallaBMC.Console.Writer
import WallaBMC.Jtag.Bitbang
import WallaBMC.Settings.Payloads
import WallaBMC.Settings.Reset
import WallaBMC.Config.Services
import WallaBMC.Config.Polling
import WallaBMC.Config.Strings
import WallaBMC.Config.Failures
import WallaBMC.Bridge.Later
import WallaBMC.Bridge.Feed
import WallaBMC.Bridge.ShortSends
import WallaBMC.Bridge.OneClient
import WallaBMC.Console.Slice
import WallaBMC.Settings.Named
import WallaBMC.Config.Routes
import WallaBMC.Documents.Handlers
import WallaBMC.Documents.Encoding
import WallaBMC.Documents.Public
import WallaBMC.Documents.Size
import WallaBMC.Documents.Links
import WallaBMC.Settings.Shown
import WallaBMC.Time.Sync
import WallaBMC.System.Boot
import WallaBMC.System.Commands
import WallaBMC.System.Lifetime
import WallaBMC.System.Button
import WallaBMC.Jtag.Clocked
import WallaBMC.Web.Saving
import WallaBMC.Bridge.Input
import WallaBMC.Redfish.Atomic
