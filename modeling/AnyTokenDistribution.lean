import AnyTokenDistribution.Common.Bytes
import AnyTokenDistribution.Common.Hex
import AnyTokenDistribution.Callapi.Failover
import AnyTokenDistribution.Callapi.Retry
import AnyTokenDistribution.Callapi.Contract
import AnyTokenDistribution.Distributer.BuildTxArgs
import AnyTokenDistribution.Distributer.Check
import AnyTokenDistribution.Distributer.Sends
import AnyTokenDistribution.Distributer.Gateway
import AnyTokenDistribution.Distributer.Transfer
import AnyTokenDistribution.Distributer.SendRewards
