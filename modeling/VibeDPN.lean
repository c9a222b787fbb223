import VibeDPN.Lib.Text
import VibeDPN.Lib.Json
import VibeDPN.Lib.Inet
import VibeDPN.Lib.Dict
import VibeDPN.Lib.Slots
import VibeDPN.Lib.Rely
import VibeDPN.Lib.Runs
import VibeDPN.Lib.TimedSet
import VibeDPN.Lib.Decode
import VibeDPN.Lib.Keyed
import VibeDPN.Config.Names
import VibeDPN.Config.Sections
import VibeDPN.Config.Model
import VibeDPN.Config.Profiles
import VibeDPN.Config.Digests
import VibeDPN.Engine.Uplinks
import VibeDPN.Engine.Rules
import VibeDPN.Engine.Numbering
import VibeDPN.Engine.Ruleset
import VibeDPN.Engine.Marks
import VibeDPN.Engine.Host
import VibeDPN.Engine.ApplyRouter
import VibeDPN.Engine.SetNames
import VibeDPN.Engine.RuleIndex
import VibeDPN.Engine.Resolver
import VibeDPN.Engine.Answers
import VibeDPN.Engine.Lifetimes
import VibeDPN.Api.Devices
import VibeDPN.Api.Smart
import VibeDPN.Compose.Containers
import VibeDPN.Compose.Services
import VibeDPN.ConfigEdit.Document
import VibeDPN.ConfigEdit.Editors
import VibeDPN.ConfigEdit.Spelling
import VibeDPN.ConfigEdit.Updates
import VibeDPN.ConfigEdit.Refinement
import VibeDPN.ConfigEdit.Devices
import VibeDPN.ConfigEdit.Exits
import VibeDPN.Atomic
import VibeDPN.Engine.Wg
import VibeDPN.Engine.WgRegistry
import VibeDPN.Engine.Adguard
import VibeDPN.Engine.Firewall
import VibeDPN.Engine.StartFiles
import VibeDPN.Engine.Backup
import VibeDPN.Engine.WgRefit
import VibeDPN.Api.State
import VibeDPN.Api.Routing
import VibeDPN.Api.Lists
import VibeDPN.Api.Exits
import VibeDPN.Engine.Apply
import VibeDPN.Api.Panel
import VibeDPN.Api.Status
import VibeDPN.Engine.RulesConverge
import VibeDPN.Engine.DockerUser
import VibeDPN.Lists.DomainLists
import VibeDPN.Engine.Learning
import VibeDPN.Engine.QueryLog
import VibeDPN.Api.SmartLoop
import VibeDPN.Api.SmartMemory
import VibeDPN.Api.Forgotten
import VibeDPN.Lib.Bytes
import VibeDPN.Sni.Hello
import VibeDPN.Sni.ClientHello
import VibeDPN.Sni.Split
import VibeDPN.Lib.Raises
import VibeDPN.Sni.Relay
import VibeDPN.Sni.NameLists
import VibeDPN.Sni.Ways
import VibeDPN.Sni.Contained
import VibeDPN.Lib.Scalars
import VibeDPN.Lib.Yaml
import VibeDPN.Lib.Quoted
import VibeDPN.Bootstrap.Build
import VibeDPN.Bootstrap.Render
import VibeDPN.Bootstrap.Validate
import VibeDPN.Bootstrap.Sections
import VibeDPN.Bootstrap.ReadBack
import VibeDPN.Bootstrap.WriteBox
import VibeDPN.Lib.Sha256
import VibeDPN.Lists.ListCache
import VibeDPN.Api.FailedExits
import VibeDPN.Engine.Consumer
import VibeDPN.Engine.BoxName
import VibeDPN.Lib.Suffixes
import VibeDPN.Api.RuleViews
import VibeDPN.Lib.Dialogue
import VibeDPN.Lib.Reports
import VibeDPN.Doctor.Checks
import VibeDPN.Doctor.Parts
import VibeDPN.Doctor.Unseen
import VibeDPN.Lib.Spaced
import VibeDPN.Images.WgConf
import VibeDPN.Images.WgEntrypoint
import VibeDPN.Images.WgInPlace
import VibeDPN.Lib.Retries
import VibeDPN.Api.PageWalk
import VibeDPN.Api.EachOnce
