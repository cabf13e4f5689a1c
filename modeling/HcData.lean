import HcData.Basic
import HcData.Pg.Tickets
import HcData.Pg.Votes
import HcData.Pg.Addresses
import HcData.Pg.Transactions
import HcData.Pg.AddressesValid
import HcData.Pg.TxDedup
import HcData.Pg.TxFlags
import HcData.Explorer.Charts
import HcData.RpcUtils.CommonAncestor
import HcData.RpcUtils.SideChains
import HcData.Sqlite.ImportSideChains
import HcData.Sqlite.Sync
import HcData.Sqlite.SyncRuns
import HcData.Insight.TxnOutputs
import HcData.Pg.ChainWork
import HcData.Pg.VinSpending
import HcData.Insight.AddressTxns
import HcData.Insight.AddressInfo
import HcData.Pg.BatchInsert
import HcData.Pg.TicketIDs
import HcData.Pg.AddressBalance
import HcData.Insight.BlockSummary
import HcData.Explorer.BlockCtx
import HcData.Pg.BlockSizes
import HcData.Pg.BlockUpdates
