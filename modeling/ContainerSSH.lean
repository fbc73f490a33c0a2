import ContainerSSH.SecurityModes
import ContainerSSH.SecuritySessions
import ContainerSSH.OriginalCommand
import ContainerSSH.AuthServer
import ContainerSSH.GitHubPolicy
import ContainerSSH.AuthIdentity
import ContainerSSH.ConfigClient
import ContainerSSH.AuditBuffer
import ContainerSSH.AgentAgreement
import ContainerSSH.AgentStreams
import ContainerSSH.AgentMapLock
import ContainerSSH.AgentForward
import ContainerSSH.ServerTraffic
import ContainerSSH.AuditRequests
import ContainerSSH.PoolStartup
import ContainerSSH.PoolShutdown
import ContainerSSH.S3Recovery
import ContainerSSH.ProxyLocks
import ContainerSSH.ProxyBridges
import ContainerSSH.ProxyAccounting
import ContainerSSH.ProxyStartup
import ContainerSSH.ProxyOutput
import ContainerSSH.ContainerCleanup
import ContainerSSH.DockerHandshake
import ContainerSSH.DockerOutput
import ContainerSSH.AgentIdentifiers
import ContainerSSH.AuthRelease
import ContainerSSH.MetricsExposition
import ContainerSSH.MetricsHandshake
import ContainerSSH.AgentShutdown
import ContainerSSH.S3Wakeup
import ContainerSSH.S3Failures
import ContainerSSH.S3Parts
import ContainerSSH.S3PartLimits
import ContainerSSH.AuditEquality
import ContainerSSH.AsciinemaFile
import ContainerSSH.LifecycleOutcome
import ContainerSSH.SessionChannel
import ContainerSSH.KeyboardInteractive
import ContainerSSH.AddressText
import ContainerSSH.DockerAccounting
import ContainerSSH.KubernetesStream
import ContainerSSH.KubernetesAccounting
import ContainerSSH.ProxyRequests
import ContainerSSH.AgentForwardKeys
import ContainerSSH.KubernetesResize
import ContainerSSH.HttpHandler
import ContainerSSH.HttpServer
