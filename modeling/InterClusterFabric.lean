import InterClusterFabric.ClientExchange
import InterClusterFabric.CoreBursts
import InterClusterFabric.CoreHasher
import InterClusterFabric.CoreIso8601
import InterClusterFabric.CoreUtf8
import InterClusterFabric.EngineEvidence
import InterClusterFabric.ModelListing
import InterClusterFabric.ModelPolicyLaws
import InterClusterFabric.ModelRoundTrip
import InterClusterFabric.NetBacklog
import InterClusterFabric.NetClosing
import InterClusterFabric.NetDelivery
import InterClusterFabric.NetOutbound
import InterClusterFabric.NetParser
import InterClusterFabric.NetTimers
import InterClusterFabric.RuntimeAgentConsents
import InterClusterFabric.RuntimeAgreement
import InterClusterFabric.RuntimeBindings
import InterClusterFabric.RuntimeClaims
import InterClusterFabric.RuntimeCutoff
import InterClusterFabric.RuntimeFenceComplete
import InterClusterFabric.RuntimeFenceOrder
import InterClusterFabric.RuntimeGenerations
import InterClusterFabric.RuntimeHandshake
import InterClusterFabric.RuntimeIdentity
import InterClusterFabric.RuntimeLookups
import InterClusterFabric.RuntimeOnce
import InterClusterFabric.RuntimeProposals
import InterClusterFabric.RuntimeReportFences
import InterClusterFabric.RuntimeReports
import InterClusterFabric.RuntimeTerminal
import InterClusterFabric.RuntimeWriteAhead
import InterClusterFabric.StoreAppends
import InterClusterFabric.StoreHistory
import InterClusterFabric.StoreOrder
import InterClusterFabric.WireEnumerators
