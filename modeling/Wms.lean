import Wms.Text
import Wms.Stock.Expiry
import Wms.Stock.Books
import Wms.Stock.Ledger
import Wms.Foundation.Transaction
import Wms.Foundation.Journal
import Wms.Stock.AdjustLot
import Wms.Events
import Wms.Outbound.Documents
import Wms.Outbound.Handoff
import Wms.Count.Document
import Wms.Database
import Wms.Outbound.Shipment
import Wms.Outbound.Submit
import Wms.Outbound.Accepted
import Wms.Reversal
import Wms.Stock.LotService
import Wms.Inbound.Operation
import Wms.Inbound.Commit
import Wms.Count.CountDoc
import Wms.System
import Wms.StockEqualsLedger
import Wms.Outbound.Quantities
import Wms.ShippedTotals
import Wms.OrderShipment
import Wms.LogisticsHandoff
import Wms.ShipmentRoundTrip
import Wms.ManualShipment
import Wms.Outbound.Success
import Wms.PartialShipments
import Wms.Logistics.ImportResults
import Wms.Logistics.ShippingResults
import Wms.LogisticsStates
import Wms.Stock.DirectShip
import Wms.Stock.ResolvedLot
import Wms.Stock.ThreeBooks
import Wms.DirectShipment
import Wms.Inbound.Progress
import Wms.Orders.Counters
import Wms.Orders.Resolve
import Wms.Inbound.ReturnSource
import Wms.Inbound.ReturnReceipt
import Wms.ReturnsWithinShipped
import Wms.Inbound.ReturnTask
import Wms.ShelfLifeDerivation
import Wms.Logistics.RecordSync
import Wms.SyncCursor
import Wms.Inbound.Task
import Wms.Projections.PmsFeed
import Wms.Projections.PmsSync
import Wms.ReceiptDates
import Wms.ReceivingRoundTrip
import Wms.OrderReconcile
import Wms.Orders.Fulfillment
import Wms.Orders.Ingest
import Wms.FulfillmentWarehouse
import Wms.OrderIngest
import Wms.Foundation.Mirror
import Wms.ReturnReceiving
import Wms.ReasonCanon
import Wms.Stock.AdjustContract
import Wms.Count.CountService
import Wms.BooksAlong
import Wms.CountSets
import Wms.Stock.Snapshots
import Wms.ReconcileReports
import Wms.SnapshotsAgree
import Wms.ThreeBooksEnforced
import Wms.Stock.Reconcile
import Wms.Count.Recount
import Wms.RecountReaches
import Wms.Foundation.Holdings
import Wms.Warehouses.ServiceAreas
import Wms.ServiceCoverage
import Wms.Finance.OrderSales
import Wms.Foundation.Derived
import Wms.FinanceSales
import Wms.Foundation.Interleaving
import Wms.Users.Accounts
import Wms.Users.Sessions
import Wms.AdminLockout
import Wms.Foundation.Ordinal
import Wms.DerivedDates
import Wms.Foundation.Binary64
import Wms.Foundation.Greedy
import Wms.ExpiryAllocation
import Wms.Outbound.WarehouseRouter
import Wms.WholeOrderRouting
import Wms.Foundation.Scan
import Wms.Barcode.Digits
import Wms.Barcode.Resolver
import Wms.BarcodeFormats
import Wms.BarcodeSafety
import Wms.OrderReferences
import Wms.ShippingRecords
import Wms.Foundation.Paging
import Wms.Stock.LedgerRoutes
import Wms.LedgerExport
import Wms.Stock.InventoryRead
import Wms.InventoryPages
import Wms.Foundation.Alike
import Wms.Stock.Rebuild
import Wms.Stock.ZerosShed
import Wms.Count.Canonical
import Wms.RebuildUnseen
import Wms.Foundation.Walk
import Wms.Users.Navigation
import Wms.Users.PermissionMatrix
import Wms.Foundation.GroupBy
import Wms.Finance.OrderSalesSource
import Wms.SalesRollups
import Wms.Stock.InventoryExplain
import Wms.ExplainedStock
import Wms.Foundation.Materialised
import Wms.Finance.PurchasePrices
import Wms.PurchasePriceLedger
import Wms.Finance.ShippingCosts
import Wms.ShippingCostLines
import Wms.Foundation.IsoDate
import Wms.Numerals
import Wms.Scan.ParseScan
import Wms.ScanAgreement
import Wms.Floats
import Wms.Payload
import Wms.Orders.PlatformAdapters
import Wms.PlatformAmounts
import Wms.Foundation.DecimalContext
import Wms.Procurement.PurchaseOrders
import Wms.Procurement.PurchaseTables
import Wms.PurchaseTotals
import Wms.Procurement.Receiving
import Wms.Procurement.PurchaseSteps
import Wms.PurchaseRuns
import Wms.PurchaseOptions
import Wms.PmsMirror
import Wms.Oms.ReadyOrders
import Wms.Oms.ReadySync
import Wms.Oms.ImportTables
import Wms.Oms.OrderImport
import Wms.OmsTrees
import Wms.Oms.ImportSteps
import Wms.OmsImports
