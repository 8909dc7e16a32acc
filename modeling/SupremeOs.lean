import SupremeOs.Identity.LoginLockout
import SupremeOs.Identity.CredentialUpdates
import SupremeOs.Identity.AccountsKept
import SupremeOs.Identity.RefreshRotation
import SupremeOs.IntegrationLayer.EntityRegistryMirror
import SupremeOs.IntegrationLayer.NativeAdapterRuns
import SupremeOs.IntegrationLayer.DriverBindingRuns
import SupremeOs.Automations.EngineFollowsStore
import SupremeOs.KeypadFramework.MappingEngineRuns
import SupremeOs.KeypadFramework.MappingsFollowStore
import SupremeOs.KeypadFramework.PressDerivation
import SupremeOs.TvSdk.DisconnectSticks
import SupremeOs.TvSdk.ReplayProtection
import SupremeOs.Security.PanelSurvives
import SupremeOs.TunnelBroker.Streams
import SupremeOs.Audit.AppendRuns
import SupremeOs.Scenes.ScenesKept
import SupremeOs.Scenes.NewerRuns
import SupremeOs.Knx.Subscriptions
import SupremeOs.Knx.LastCommandWins
import SupremeOs.Knx.StopIsFinal
import SupremeOs.Knx.NeverStuck
import SupremeOs.Home.TopologyEvents
import SupremeOs.Home.DeltasKept
import SupremeOs.Gateway.StreamPresence
import SupremeOs.Gateway.StreamNumbers
import SupremeOs.Gateway.LoadShiftRunner
import SupremeOs.Gateway.AntiSpam
import SupremeOs.Gateway.ArtworkCache
import SupremeOs.Gateway.TunnelStreams
import SupremeOs.HubRegistry.Ownership
import SupremeOs.CloudVoice.OAuthRuns
import SupremeOs.Licensing.SoldOnce
import SupremeOs.Drivers.InstancesConsistent
import SupremeOs.Backups.VaultKeeps
import SupremeOs.License.Converges
import SupremeOs.KnxImport.AddressAccounting
import SupremeOs.Automations.Health
import SupremeOs.Protocols.TopologyExact
import SupremeOs.SdkTs.OneSocket
import SupremeOs.AvSdk.OneLink
import SupremeOs.Relay.AnsweredOnce
import SupremeOs.MatterBridge.Converges
import SupremeOs.MatterBridge.ShowsReports
import SupremeOs.Permissions.Decisions
import SupremeOs.Permissions.Schedules
import SupremeOs.Automations.ClimateProgram
import SupremeOs.Automations.Circadian
import SupremeOs.Protocols.AppleTvHapTlv8
import SupremeOs.Protocols.FramedTransports
import SupremeOs.AvSdk.LinesDelivered
import SupremeOs.Protocols.OpackTruncation
import SupremeOs.Automations.ClockTriggers
import SupremeOs.Protocols.ManualPairingCode
import SupremeOs.Protocols.QrPayload
import SupremeOs.Protocols.CasambiControlValues
import SupremeOs.Protocols.AndroidTvProtobufWire
import SupremeOs.TvSdk.CommandLives
import SupremeOs.TvSdk.TvStateCache
import SupremeOs.IntentEngine.ResolvedExactly
import SupremeOs.Gateway.AlertEpisodes
import SupremeOs.Knx.OfflineQueueDrain
import SupremeOs.Ota.Releases
import SupremeOs.Scenes.Schedule
import SupremeOs.Gateway.ConsumptionEstimator
import SupremeOs.Intelligence.ZoneOccupancy
import SupremeOs.Identity.Totp
import SupremeOs.Protocols.RtspUrlSafety
import SupremeOs.Protocols.CasambiEntityMapper
import SupremeOs.Intelligence.SafeSuggestions
