import Zkbot.Oms.FrozenInventory
import Zkbot.Oms.CashReservation
import Zkbot.Oms.PositionKeys
import Zkbot.Oms.Terminal
import Zkbot.Oms.Crediting
import Zkbot.Svc.OrderReplica
import Zkbot.Svc.StateReplica
import Zkbot.Svc.StateReload
import Zkbot.Svc.OrderReload
import Zkbot.Sdk.IdGen
import Zkbot.Sdk.Refdata
import Zkbot.Infra.ConfigMgmt
import Zkbot.Infra.Deregistration
import Zkbot.Pilot.Fencing
import Zkbot.Svc.Published
import Zkbot.V1.Agreement
import Zkbot.Pilot.Refusal
import Zkbot.Infra.Registered
import Zkbot.Svc.BatchAnswer
import Zkbot.Svc.PersistQueue
import Zkbot.Gateway.Positions
import Zkbot.Gateway.FillReports
import Zkbot.Gateway.IbkrSession
import Zkbot.Gateway.IbkrOrders
import Zkbot.Gateway.RateLimiter
import Zkbot.Gateway.OrderIdMap
import Zkbot.Gateway.OandaStream
import Zkbot.Rtmd.OkxSession
import Zkbot.Strategy.LiveEngine
import Zkbot.Oms.ReservedTotals
import Zkbot.Oms.BackedPositions
import Zkbot.Oms.InferredFills
import Zkbot.Gateway.SimulatorQueries
import Zkbot.Sim.Liquidity
