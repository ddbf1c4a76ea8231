import Lapdev.Sidecar.ConnectionRegistry
import Lapdev.Manager.Recovery
import Lapdev.Manager.Disconnects
import Lapdev.Catalog.InjectionLaws
import Lapdev.Catalog.PortPreservation
import Lapdev.Api.LabelRuns
import Lapdev.Kube.CatalogRuns
import Lapdev.Api.Listeners
import Lapdev.Catalog.YamlParser
import Lapdev.Devbox.Sessions
import Lapdev.Api.EnvironmentLifecycle
import Lapdev.Api.SyncRuns
import Lapdev.Http.Head
import Lapdev.Kube.PortOrder
import Lapdev.Kube.RowRewrites
import Lapdev.Kube.ServiceMatchers
import Lapdev.Kube.DependencyRuns
import Lapdev.Kube.ReadyReplicas
import Lapdev.Watch.Mirror
import Lapdev.Watch.Namespaces
import Lapdev.Kube.RepeatedEvents
import Lapdev.Sidecar.ProtocolDetector
import Lapdev.Tunnel.Message
import Lapdev.Catalog.BranchRoutes
import Lapdev.Api.WatchedNamespaces
import Lapdev.Api.EffectiveEnv
import Lapdev.Devbox.SessionRpcs
import Lapdev.Api.ParentDeletions
import Lapdev.Api.AdminChanges
import Lapdev.Sidecar.ServiceRoutes
import Lapdev.Catalog.ProxyPortClashes
import Lapdev.Catalog.RestoredTargets
import Lapdev.Http.HeaderReads
import Lapdev.Enterprise.Billing
import Lapdev.Enterprise.QuotaRuns
import Lapdev.Conductor.HostRuns
import Lapdev.Sidecar.Tracestate
import Lapdev.Devbox.SyntheticIps
import Lapdev.Api.CatalogListing
import Lapdev.Devbox.HostsFile
import Lapdev.Kube.PreviewUrls
import Lapdev.Kube.WorkloadListing
import Lapdev.Kube.TunnelRegistry
import Lapdev.Tunnel.RecvBuffer
import Lapdev.Api.RebaseFaults
import Lapdev.Api.PauseResume
import Lapdev.Catalog.BranchSelectors
import Lapdev.Tunnel.LosslessFilter
import Lapdev.Rpc.Multiplexing
import Lapdev.Tunnel.Handshake
import Lapdev.Tunnel.Relay
import Lapdev.Tunnel.Streams
import Lapdev.Kube.PreviewAccess
import Lapdev.Conductor.UpdateRuns
