import HostProbe.Text.Blank
import HostProbe.Text.LowerCase
import HostProbe.Text.Quoted
import HostProbe.Text.Utf8
import HostProbe.Decimal.Integer
import HostProbe.Version.Lenient
import HostProbe.Yaml.Document
import HostProbe.Yaml.Merge
import HostProbe.Config.Layers
import HostProbe.Retry.Report
import HostProbe.Poll
import HostProbe.Once
import HostProbe.Os.Release
import HostProbe.Shell.Quote
import HostProbe.Shell.Words
import HostProbe.Package.Install
import HostProbe.Machine.Launcher
import HostProbe.Machine.Local
import HostProbe.Machine.Scripted
import HostProbe.Machine.StandIn
import HostProbe.Posix.Machine
import HostProbe.Ssh.Client
import HostProbe.Tool.BuiltIn
import HostProbe.Clock.Source
import HostProbe.Device.Cpu
import HostProbe.Device.Module
import HostProbe.Device.Network
import HostProbe.Device.Pci
import HostProbe.Kdump.Session
import HostProbe.Cli.Run
import HostProbe.Main
import HostProbe.Proofs.Tool.Presence
import HostProbe.Proofs.Tool.Traversal
import HostProbe.Proofs.Tool.History
import HostProbe.Proofs.Node.Expectation
import HostProbe.Proofs.Node.Link
import HostProbe.Proofs.Kdump.DumpPath
import HostProbe.Proofs.Retry
import HostProbe.Proofs.Kdump.Configure
import HostProbe.Proofs.Kdump.Session
import HostProbe.Proofs.Yaml.Key
import HostProbe.Proofs.Yaml.Layers
import HostProbe.Proofs.Node.Recall
import HostProbe.Proofs.Tool.Installation
import HostProbe.Proofs.Kdump.Version
import HostProbe.Proofs.Version.Order
import HostProbe.Proofs.Version.Precedence
import HostProbe.Proofs.Version.Written
import HostProbe.Proofs.Yaml.Document
import HostProbe.Proofs.Yaml.Displaced
import HostProbe.Proofs.Yaml.Laws
import HostProbe.Proofs.Config.Settled
import HostProbe.Proofs.Tool.Arguments
import HostProbe.Proofs.Ssh.Directory
import HostProbe.Proofs.Package.Verdict
import HostProbe.Proofs.Tool.Packages
import HostProbe.Proofs.Once
import HostProbe.Proofs.Poll
import HostProbe.Proofs.Node.Knowledge
import HostProbe.Proofs.Node.Variables
import HostProbe.Proofs.Kdump.Loaded
import HostProbe.Proofs.Kdump.Update
import HostProbe.Proofs.Kdump.Spelling
import HostProbe.Proofs.Clock
import HostProbe.Proofs.Os.Release
